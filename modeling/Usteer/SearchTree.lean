import Mathlib.Data.List.Basic
import Mathlib.Data.List.Pairwise
import Mathlib.Tactic.Linarith

/-!
Search trees whose comparator need not be an order. A tree node holds a leader
and the chain of the items that compared equal to it (`Index`); the items read in
order are `toList`, and `groups` keeps them by node. Finding and inserting follow
the comparator of that call (`find`, `place`); how a tree is rebalanced after an
insertion and how an item is unlinked are parameters that only promise to keep
the order of the other items (`Balancing`). When a rank explains the comparator
on the keys at hand (`Agrees`) and the tree is ordered by it (`Ordered`), an
insertion keeps the order (`ordered_insert`) and a search finds exactly the items
of its rank (`find_none`, `find_split`). Height balancing is one such `Balancing`
(`avl`).
-/
namespace Usteer.SearchTree

/-- A binary tree of leaders with the items chained behind each. -/
inductive Index (κ ι : Type) where
  | leaf
  | node (left : Index κ ι) (leader : κ × ι) (chain : List (κ × ι)) (right : Index κ ι)
  deriving DecidableEq, Repr

variable {κ ι : Type}

namespace Index

/-- The leader and the chain of every node, in order. -/
def groups : Index κ ι → List (List (κ × ι))
  | leaf => []
  | node l x c r => l.groups ++ (x :: c) :: r.groups

/-- The items in order. -/
def toList (t : Index κ ι) : List (κ × ι) := t.groups.flatten

@[simp] theorem toList_leaf : (leaf : Index κ ι).toList = [] := rfl

@[simp] theorem toList_node (l : Index κ ι) (x : κ × ι) (c : List (κ × ι)) (r : Index κ ι) :
    (node l x c r).toList = l.toList ++ (x :: c) ++ r.toList := by
  simp [toList, groups]

/-- The leader at which a search for a key ends with an equal comparison. -/
def find (cmp : κ → κ → ℤ) (k : κ) : Index κ ι → Option (κ × ι)
  | leaf => none
  | node l x _ r => if cmp k x.1 < 0 then l.find cmp k else if 0 < cmp k x.1 then r.find cmp k else some x

/-- The new item becomes a leaf where the search ends, or the last of the chain it
    compares equal to. -/
def place (cmp : κ → κ → ℤ) (x : κ × ι) : Index κ ι → Index κ ι
  | leaf => node leaf x [] leaf
  | node l y c r =>
    if cmp x.1 y.1 < 0 then node (l.place cmp x) y c r
    else if 0 < cmp x.1 y.1 then node l y c (r.place cmp x)
    else node l y (c ++ [x]) r

/-- Placing an item adds it and keeps the others. -/
theorem perm_place (cmp : κ → κ → ℤ) (x : κ × ι) (t : Index κ ι) :
    (t.place cmp x).toList.Perm (x :: t.toList) := by
  induction t with
  | leaf => simp [place]
  | node l y c r ihl ihr =>
    simp only [place]
    split
    · simp only [toList_node, List.append_assoc]
      exact ihl.append_right _
    · split
      · simp only [toList_node]
        exact (ihr.append_left _).trans List.perm_middle
      · simp only [toList_node, List.append_assoc, List.cons_append, List.nil_append]
        refine ((List.Perm.cons y List.perm_middle).append_left _).trans ?_
        exact (List.Perm.append_left _ (List.Perm.swap x y _)).trans List.perm_middle

theorem mem_place (cmp : κ → κ → ℤ) (x : κ × ι) (t : Index κ ι) (e : κ × ι) :
    e ∈ (t.place cmp x).toList ↔ e = x ∨ e ∈ t.toList := by
  rw [(perm_place cmp x t).mem_iff, List.mem_cons]

end Index

/-! ### Trees ordered by a rank -/

open Index

/-- Nodes in increasing rank, equal ranks within a node. -/
def Ordered (rank : κ × ι → ℤ) (t : Index κ ι) : Prop :=
  t.groups.Pairwise (fun g h => ∀ a ∈ g, ∀ b ∈ h, rank a < rank b) ∧
    ∀ g ∈ t.groups, ∀ a ∈ g, ∀ b ∈ g, rank a = rank b

/-- A key of rank `p` compares with the keys of a tree as the ranks do. -/
def Agrees (cmp : κ → κ → ℤ) (rank : κ × ι → ℤ) (k : κ) (p : ℤ) (t : Index κ ι) : Prop :=
  ∀ e ∈ t.toList, (cmp k e.1 < 0 ↔ p < rank e) ∧ (0 < cmp k e.1 ↔ rank e < p)

variable {rank : κ × ι → ℤ}

theorem ordered_leaf : Ordered rank (leaf : Index κ ι) := ⟨.nil, by simp [groups]⟩

theorem ordered_node {l r : Index κ ι} {x : κ × ι} {c : List (κ × ι)} :
    Ordered rank (node l x c r) ↔ Ordered rank l ∧ Ordered rank r ∧ (∀ a ∈ l.toList, rank a < rank x) ∧
      (∀ a ∈ c, rank a = rank x) ∧ ∀ b ∈ r.toList, rank x < rank b := by
  simp only [Ordered, groups, toList, List.mem_flatten]
  rw [List.pairwise_append, List.pairwise_cons]
  constructor
  · rintro ⟨⟨pl, ⟨pxr, pr⟩, plr⟩, same⟩
    refine ⟨⟨pl, fun g m => same g (by simp [m])⟩, ⟨pr, fun g m => same g (by simp [m])⟩, ?_, ?_, ?_⟩
    · rintro a ⟨g, inL, inG⟩
      exact plr g inL (x :: c) (by simp) a inG x (by simp)
    · intro a inC
      exact same (x :: c) (by simp) a (by simp [inC]) x (by simp)
    · rintro b ⟨h, inR, inH⟩
      exact pxr h inR x (by simp) b inH
  · rintro ⟨⟨pl, sl⟩, ⟨pr, sr⟩, left, chain, right⟩
    have chain' : ∀ a ∈ x :: c, rank a = rank x := by
      intro a inA
      rcases List.mem_cons.mp inA with rfl | inC
      · rfl
      · exact chain a inC
    refine ⟨⟨pl, ⟨?_, pr⟩, ?_⟩, ?_⟩
    · intro h inR a inA b inH
      rw [chain' a inA]
      exact right b ⟨h, inR, inH⟩
    · intro g inL h inH a inG b inB
      rcases List.mem_cons.mp inH with rfl | inR
      · rw [chain' b inB]
        exact left a ⟨g, inL, inG⟩
      · exact (left a ⟨g, inL, inG⟩).trans (right b ⟨h, inR, inB⟩)
    · intro g inG
      rcases List.mem_append.mp inG with inL | inXR
      · exact sl g inL
      · rcases List.mem_cons.mp inXR with rfl | inR
        · intro a inA b inB
          rw [chain' a inA, chain' b inB]
        · exact sr g inR

theorem ordered_congr {rank' : κ × ι → ℤ} {t : Index κ ι} (same : ∀ e ∈ t.toList, rank e = rank' e)
    (ordered : Ordered rank t) : Ordered rank' t := by
  have within : ∀ g ∈ t.groups, ∀ a ∈ g, rank a = rank' a := fun g inT a inG =>
    same a (List.mem_flatten.mpr ⟨g, inT, inG⟩)
  refine ⟨ordered.1.imp_of_mem ?_, ?_⟩
  · intro g h inG inH lt a ma b mb
    rw [← within g inG a ma, ← within h inH b mb]
    exact lt a ma b mb
  · intro g inG a ma b mb
    rw [← within g inG a ma, ← within g inG b mb]
    exact ordered.2 g inG a ma b mb

/-- The items of an ordered tree stand in rank order. -/
theorem sorted_toList {t : Index κ ι} (ordered : Ordered rank t) :
    t.toList.Pairwise (fun a b => rank a ≤ rank b) := by
  induction t with
  | leaf => exact .nil
  | node l x c r ihl ihr =>
    obtain ⟨ol, or', left, chain, right⟩ := ordered_node.mp ordered
    have chain' : ∀ a ∈ x :: c, rank a = rank x := by
      intro a inA
      rcases List.mem_cons.mp inA with rfl | inC
      · rfl
      · exact chain a inC
    rw [toList_node, List.pairwise_append, List.pairwise_append]
    refine ⟨⟨ihl ol, ?_, ?_⟩, ihr or', ?_⟩
    · exact List.pairwise_iff_forall_sublist.mpr (fun {a b} sub => by
        have inA : a ∈ x :: c := sub.subset (by simp)
        have inB : b ∈ x :: c := sub.subset (by simp)
        rw [chain' a inA, chain' b inB])
    · intro a inL b inX
      rw [chain' b inX]
      exact (left a inL).le
    · intro a inLX b inR
      rcases List.mem_append.mp inLX with inL | inX
      · exact ((left a inL).trans (right b inR)).le
      · rw [chain' a inX]
        exact (right b inR).le

theorem ordered_place {cmp : κ → κ → ℤ} {x : κ × ι} {t : Index κ ι} (ordered : Ordered rank t)
    (agrees : Agrees cmp rank x.1 (rank x) t) : Ordered rank (t.place cmp x) := by
  induction t with
  | leaf => exact ordered_node.mpr ⟨ordered_leaf, ordered_leaf, by simp, by simp, by simp⟩
  | node l y c r ihl ihr =>
    obtain ⟨ol, or', left, chain, right⟩ := ordered_node.mp ordered
    obtain ⟨below, above⟩ := agrees y (by simp)
    have agreesL : Agrees cmp rank x.1 (rank x) l := fun e m => agrees e (by simp [m])
    have agreesR : Agrees cmp rank x.1 (rank x) r := fun e m => agrees e (by simp [m])
    simp only [place]
    split
    · rename_i less
      refine ordered_node.mpr ⟨ihl ol agreesL, or', ?_, chain, right⟩
      intro a m
      rcases (mem_place cmp x l a).mp m with rfl | inL
      · exact below.mp less
      · exact left a inL
    · rename_i notLess
      split
      · rename_i more
        refine ordered_node.mpr ⟨ol, ihr or' agreesR, left, chain, ?_⟩
        intro b m
        rcases (mem_place cmp x r b).mp m with rfl | inR
        · exact above.mp more
        · exact right b inR
      · rename_i notMore
        refine ordered_node.mpr ⟨ol, or', left, ?_, right⟩
        intro a m
        rcases List.mem_append.mp m with inC | isX
        · exact chain a inC
        · have low : ¬ rank x < rank y := fun lt => notLess (below.mpr lt)
          have high : ¬ rank y < rank x := fun lt => notMore (above.mpr lt)
          simp only [List.mem_singleton] at isX
          subst isX
          omega

/-- A search that ends nowhere has no item of its rank to find. -/
theorem find_none {cmp : κ → κ → ℤ} {k : κ} {p : ℤ} {t : Index κ ι} (ordered : Ordered rank t)
    (agrees : Agrees cmp rank k p t) (absent : t.find cmp k = none) : ∀ e ∈ t.toList, rank e ≠ p := by
  induction t with
  | leaf => simp
  | node l y c r ihl ihr =>
    obtain ⟨ol, or', left, chain, right⟩ := ordered_node.mp ordered
    obtain ⟨below, above⟩ := agrees y (by simp)
    simp only [find] at absent
    intro e m
    simp only [toList_node, List.mem_append, List.mem_cons] at m
    split at absent
    · rename_i less
      have lt := below.mp less
      rcases m with (inL | isY | inC) | inR
      · exact ihl ol (fun e m => agrees e (by simp [m])) absent e inL
      · subst isY; omega
      · have := chain e inC; omega
      · have := right e inR; omega
    · split at absent
      · rename_i more
        have gt := above.mp more
        rcases m with (inL | isY | inC) | inR
        · have := left e inL; omega
        · subst isY; omega
        · have := chain e inC; omega
        · exact ihr or' (fun e m => agrees e (by simp [m])) absent e inR
      · cases absent

/-- A search that finds a leader splits the items by their rank around its node. -/
theorem find_split {cmp : κ → κ → ℤ} {k : κ} {p : ℤ} {t : Index κ ι} {x : κ × ι} (ordered : Ordered rank t)
    (agrees : Agrees cmp rank k p t) (found : t.find cmp k = some x) :
    ∃ before c after, t.toList = before ++ (x :: c) ++ after ∧ (∀ e ∈ before, rank e < p) ∧
      (∀ e ∈ x :: c, rank e = p) ∧ ∀ e ∈ after, p < rank e := by
  induction t with
  | leaf => cases found
  | node l y c r ihl ihr =>
    obtain ⟨ol, or', left, chain, right⟩ := ordered_node.mp ordered
    obtain ⟨below, above⟩ := agrees y (by simp)
    simp only [find] at found
    split at found
    · rename_i less
      have lt := below.mp less
      obtain ⟨before, c', after, items, low, same, high⟩ := ihl ol (fun e m => agrees e (by simp [m])) found
      refine ⟨before, c', after ++ (y :: c) ++ r.toList, by simp [items], low, same, ?_⟩
      intro e m
      simp only [List.mem_append, List.mem_cons] at m
      rcases m with (inA | rfl | inC) | inR
      · exact high e inA
      · exact lt
      · have := chain e inC; omega
      · have := right e inR; omega
    · split at found
      · rename_i more
        have gt := above.mp more
        obtain ⟨before, c', after, items, low, same, high⟩ := ihr or' (fun e m => agrees e (by simp [m])) found
        refine ⟨l.toList ++ (y :: c) ++ before, c', after, by simp [items], ?_, same, high⟩
        intro e m
        simp only [List.mem_append, List.mem_cons] at m
        rcases m with (inL | rfl | inC) | inB
        · have := left e inL; omega
        · exact gt
        · have := chain e inC; omega
        · exact low e inB
      · rename_i notLess notMore
        have low : ¬ p < rank y := fun lt => notLess (below.mpr lt)
        have high : ¬ rank y < p := fun lt => notMore (above.mpr lt)
        have same : rank y = p := by omega
        cases found
        refine ⟨l.toList, c, r.toList, by simp, ?_, ?_, ?_⟩
        · intro e m
          have := left e m
          omega
        · intro e m
          rcases List.mem_cons.mp m with rfl | inC
          · exact same
          · rw [chain e inC, same]
        · intro e m
          have := right e m
          omega

/-! ### Height balancing -/

namespace Index

def height : Index κ ι → Nat
  | leaf => 0
  | node l _ _ r => max l.height r.height + 1

/-- A node whose subtrees differ in height by two is rotated once or twice. -/
def balanceNode (l : Index κ ι) (x : κ × ι) (c : List (κ × ι)) (r : Index κ ι) : Index κ ι :=
  if r.height + 1 < l.height then
    match l with
    | node ll y d lr =>
      if lr.height ≤ ll.height then node ll y d (node lr x c r)
      else match lr with
        | node lrl z e lrr => node (node ll y d lrl) z e (node lrr x c r)
        | leaf => node l x c r
    | leaf => node l x c r
  else if l.height + 1 < r.height then
    match r with
    | node rl y d rr =>
      if rl.height ≤ rr.height then node (node l x c rl) y d rr
      else match rl with
        | node rll z e rlr => node (node l x c rll) z e (node rlr y d rr)
        | leaf => node l x c r
    | leaf => node l x c r
  else node l x c r

theorem groups_balanceNode (l : Index κ ι) (x : κ × ι) (c : List (κ × ι)) (r : Index κ ι) :
    (balanceNode l x c r).groups = l.groups ++ (x :: c) :: r.groups := by
  unfold balanceNode
  split
  · cases l with
    | leaf => rfl
    | node ll y d lr =>
      dsimp only
      split
      · simp [groups]
      · cases lr <;> simp [groups]
  · split
    · cases r with
      | leaf => rfl
      | node rl y d rr =>
        dsimp only
        split
        · simp [groups]
        · cases rl <;> simp [groups]
    · rfl

/-- Every node balanced, from the leaves up. -/
def rebalance : Index κ ι → Index κ ι
  | leaf => leaf
  | node l x c r => balanceNode l.rebalance x c r.rebalance

theorem groups_rebalance_eq (t : Index κ ι) : t.rebalance.groups = t.groups := by
  induction t with
  | leaf => rfl
  | node l x c r ihl ihr => rw [rebalance, groups_balanceNode, ihl, ihr, groups]

/-- The first node of a tree, given by its parts, and the tree without it. -/
def splitMin (x : κ × ι) (c : List (κ × ι)) (r : Index κ ι) :
    Index κ ι → (κ × ι) × List (κ × ι) × Index κ ι
  | leaf => (x, c, r)
  | node ll y d lr =>
    let (m, e, l) := splitMin y d lr ll
    (m, e, balanceNode l x c r)

theorem groups_splitMin (l : Index κ ι) : ∀ (x : κ × ι) (c : List (κ × ι)) (r : Index κ ι),
    ((splitMin x c r l).1 :: (splitMin x c r l).2.1) :: (splitMin x c r l).2.2.groups =
      l.groups ++ (x :: c) :: r.groups := by
  induction l with
  | leaf => intro x c r; rfl
  | node ll y d lr ihl _ =>
    intro x c r
    simp only [splitMin, groups_balanceNode, groups]
    rw [← ihl y d lr]
    rfl

/-- Two subtrees joined by the first node of the right one. -/
def join (l : Index κ ι) : Index κ ι → Index κ ι
  | leaf => l
  | node rl x c rr =>
    let (m, e, r) := splitMin x c rr rl
    balanceNode l m e r

theorem groups_join (l r : Index κ ι) : (join l r).groups = l.groups ++ r.groups := by
  cases r with
  | leaf => simp [join, groups]
  | node rl x c rr =>
    simp only [join, groups_balanceNode, groups]
    rw [← groups_splitMin rl x c rr]

end Index

/-! ### Rebalancing and unlinking -/

/-- The groups without an item; a group left empty is dropped. -/
def dropItem [DecidableEq ι] (i : ι) (gs : List (List (κ × ι))) : List (List (κ × ι)) :=
  (gs.map (fun g => g.filter (fun e => e.2 ≠ i))).filter (fun g => !g.isEmpty)

theorem dropItem_cons [DecidableEq ι] (i : ι) (g : List (κ × ι)) (gs : List (List (κ × ι))) :
    dropItem i (g :: gs) = if (g.filter (fun e => e.2 ≠ i)).isEmpty then dropItem i gs
      else g.filter (fun e => e.2 ≠ i) :: dropItem i gs := by
  unfold dropItem
  rw [List.map_cons]
  by_cases empty : (g.filter (fun e => e.2 ≠ i)).isEmpty
  · rw [List.filter_cons_of_neg (by simpa using empty), if_pos empty]
  · rw [List.filter_cons_of_pos (by simpa using empty), if_neg empty]

/-- How a tree is reshaped: rotations after an insertion and the unlinking of an
    item keep the other items and their order, whatever the comparator. -/
structure Balancing (κ ι : Type) [DecidableEq ι] where
  rebalance : Index κ ι → Index κ ι
  delete : ι → Index κ ι → Index κ ι
  groups_rebalance : ∀ t, (rebalance t).groups = t.groups
  groups_delete : ∀ i t, (delete i t).groups = dropItem i t.groups

variable [DecidableEq ι]

/-- Insertion under the comparator in effect at this call. -/
def Balancing.insert (b : Balancing κ ι) (cmp : κ → κ → ℤ) (x : κ × ι) (t : Index κ ι) : Index κ ι := b.rebalance (t.place cmp x)

theorem toList_rebalance (b : Balancing κ ι) (t : Index κ ι) : (b.rebalance t).toList = t.toList := by
  simp only [toList, b.groups_rebalance]

theorem toList_delete (b : Balancing κ ι) (i : ι) (t : Index κ ι) : (b.delete i t).toList = t.toList.filter (fun e => e.2 ≠ i) := by
  have flat : ∀ gs : List (List (κ × ι)), (dropItem i gs).flatten = gs.flatten.filter (fun e => e.2 ≠ i) := by
    intro gs
    induction gs with
    | nil => rfl
    | cons g rest ih =>
      rw [dropItem_cons, List.flatten_cons, List.filter_append]
      split
      · rename_i empty
        rw [ih, List.isEmpty_iff.mp empty, List.nil_append]
      · rw [List.flatten_cons, ih]
  simp only [toList, b.groups_delete, flat]

theorem perm_insert (b : Balancing κ ι) (cmp : κ → κ → ℤ) (x : κ × ι) (t : Index κ ι) :
    (b.insert cmp x t).toList.Perm (x :: t.toList) := by
  rw [Balancing.insert, toList_rebalance]
  exact perm_place cmp x t

theorem mem_insert (b : Balancing κ ι) (cmp : κ → κ → ℤ) (x : κ × ι) (t : Index κ ι) (e : κ × ι) :
    e ∈ (b.insert cmp x t).toList ↔ e = x ∨ e ∈ t.toList := by
  rw [(perm_insert b cmp x t).mem_iff, List.mem_cons]

theorem mem_delete (b : Balancing κ ι) (i : ι) (t : Index κ ι) (e : κ × ι) :
    e ∈ (b.delete i t).toList ↔ e ∈ t.toList ∧ e.2 ≠ i := by
  rw [toList_delete, List.mem_filter, decide_eq_true_eq]

/-- An insertion under a comparator that the rank explains keeps the order. -/
theorem ordered_insert (b : Balancing κ ι) {cmp : κ → κ → ℤ} {x : κ × ι} {t : Index κ ι} (ordered : Ordered rank t)
    (agrees : Agrees cmp rank x.1 (rank x) t) : Ordered rank (b.insert cmp x t) := by
  have placed := ordered_place ordered agrees
  unfold Ordered at placed ⊢
  rwa [Balancing.insert, b.groups_rebalance]

theorem ordered_delete (b : Balancing κ ι) (i : ι) {t : Index κ ι} (ordered : Ordered rank t) : Ordered rank (b.delete i t) := by
  obtain ⟨apart, same⟩ := ordered
  unfold Ordered
  rw [b.groups_delete, dropItem]
  constructor
  · refine List.Pairwise.filter _ (List.pairwise_map.mpr (apart.imp ?_))
    intro g h lt a inG c inH
    exact lt a (List.mem_of_mem_filter inG) c (List.mem_of_mem_filter inH)
  · intro g member a inA c inC
    obtain ⟨g', inT, rfl⟩ := List.mem_map.mp (List.mem_of_mem_filter member)
    exact same g' inT a (List.mem_of_mem_filter inA) c (List.mem_of_mem_filter inC)

namespace Index

/-- The item is taken out of its chain; a node left empty gives way to the join of
    its subtrees. -/
def delete (i : ι) : Index κ ι → Index κ ι
  | leaf => leaf
  | node l x c r =>
    match (x :: c).filter (fun e => e.2 ≠ i) with
    | [] => join (l.delete i) (r.delete i)
    | y :: d => balanceNode (l.delete i) y d (r.delete i)

theorem groups_delete_eq (i : ι) (t : Index κ ι) : (t.delete i).groups = dropItem i t.groups := by
  induction t with
  | leaf => rfl
  | node l x c r ihl ihr =>
    simp only [delete]
    have split : dropItem i (node l x c r).groups =
        dropItem i l.groups ++ dropItem i ((x :: c) :: r.groups) := by
      simp [dropItem, groups]
    rw [split]
    cases kept : (x :: c).filter (fun e => e.2 ≠ i) with
    | nil =>
      simp only [groups_join, ihl, ihr]
      rw [dropItem_cons, kept]
      rfl
    | cons y d =>
      simp only [groups_balanceNode, ihl, ihr]
      rw [dropItem_cons, kept]
      rfl

end Index

/-- Height-balanced trees. -/
def avl : Balancing κ ι where
  rebalance := Index.rebalance
  delete := Index.delete
  groups_rebalance := Index.groups_rebalance_eq
  groups_delete := Index.groups_delete_eq

end Usteer.SearchTree
