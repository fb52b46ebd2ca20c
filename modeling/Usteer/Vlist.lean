import Mathlib.Data.List.Nodup
import Mathlib.Order.Defs.Unbundled
import Mathlib.Tactic.Common

/-!
Versioned lists, after libubox's `vlist`: a search tree whose nodes carry the number of the
update that they were last part of. An update counts up, adds what there is, and a flush
deletes what was not added again. The tree keeps the value that it has under a key when the
key is added once more. The nodes are listed here in the order of their keys.

`find?_add` states what an addition changes, `find?_flush` what a flush leaves. An owner that
deletes the stale nodes itself, one after the other, does the same (`delete_stale`).
-/
namespace Usteer.Vlist

variable {κ α : Type*}

/-- A node with its version. -/
structure Node (κ α : Type*) where
  key : κ
  version : Nat
  value : α

/-- A tree with its version, and its nodes in order. -/
structure Tree (κ α : Type*) where
  version : Nat
  nodes : List (Node κ α)

/-- An empty tree. -/
def empty : Tree κ α := ⟨1, []⟩

namespace Tree

/-- A new update. -/
def update (t : Tree κ α) : Tree κ α := { t with version := t.version + 1 }

/-- The nodes that are not part of the present update. -/
def stale (t : Tree κ α) : List (Node κ α) := t.nodes.filter fun node => node.version ≠ t.version

/-- They leave. -/
def flush (t : Tree κ α) : Tree κ α := { t with nodes := t.nodes.filter fun node => node.version = t.version }

/-- The node with a key. -/
def find? [DecidableEq κ] (t : Tree κ α) (key : κ) : Option (Node κ α) := t.nodes.find? fun node => node.key = key

/-- The node with the key becomes part of an update, or a new one goes to its place. -/
def place [LT κ] [DecidableLT κ] [DecidableEq κ] (version : Nat) (key : κ) (value : α) : List (Node κ α) → List (Node κ α)
  | [] => [⟨key, version, value⟩]
  | node :: rest =>
    if key = node.key then { node with version := version } :: rest
    else if key < node.key then ⟨key, version, value⟩ :: node :: rest
    else node :: place version key value rest

/-- An addition to the present update. -/
def add [LT κ] [DecidableLT κ] [DecidableEq κ] (t : Tree κ α) (key : κ) (value : α) : Tree κ α :=
  { t with nodes := place t.version key value t.nodes }

/-- A node leaves. -/
def delete [DecidableEq κ] (t : Tree κ α) (key : κ) : Tree κ α :=
  { t with nodes := t.nodes.filter fun node => node.key ≠ key }

/-- The keys increase, and no node is newer than the tree. -/
structure Ordered [LT κ] (t : Tree κ α) : Prop where
  keys : t.nodes.Pairwise fun a b => a.key < b.key
  versions : ∀ node ∈ t.nodes, node.version ≤ t.version

end Tree

theorem Tree.key_of_find [DecidableEq κ] {t : Tree κ α} {key : κ} {node : Node κ α} (found : t.find? key = some node) :
    node.key = key := by
  simpa using List.find?_some found

section Order

variable [LT κ] {t : Tree κ α} {key k : κ} {value : α} {version : Nat} {node : Node κ α} {nodes : List (Node κ α)}

theorem ordered_empty : (empty : Tree κ α).Ordered := ⟨.nil, nofun⟩

theorem Tree.Ordered.update (ordered : t.Ordered) : t.update.Ordered :=
  ⟨ordered.keys, fun node inside => Nat.le_succ_of_le (ordered.versions node inside)⟩

theorem Tree.Ordered.flush (ordered : t.Ordered) : t.flush.Ordered :=
  ⟨ordered.keys.filter _, fun node inside => ordered.versions node (List.mem_of_mem_filter inside)⟩

/-- A key has one node. -/
theorem nodup_keys [@Std.Irrefl κ (· < ·)] (ordered : t.Ordered) : (t.nodes.map Node.key).Nodup :=
  List.pairwise_map.mpr (ordered.keys.imp fun {a b} (less : a.key < b.key) (same : a.key = b.key) =>
    irrefl b.key (by rwa [same] at less))

variable [DecidableEq κ]

theorem Tree.Ordered.delete (ordered : t.Ordered) : (t.delete key).Ordered :=
  ⟨ordered.keys.filter _, fun node inside => ordered.versions node (List.mem_of_mem_filter inside)⟩

section Additions

variable [DecidableLT κ]

theorem mem_place (inside : node ∈ Tree.place version key value nodes) :
    node.key = key ∧ node.version = version ∨ node ∈ nodes := by
  induction nodes with
  | nil =>
    rw [Tree.place, List.mem_singleton] at inside
    exact .inl (by simp [inside])
  | cons first rest ih =>
    unfold Tree.place at inside
    split at inside
    · rename_i here
      rcases List.mem_cons.mp inside with rfl | later
      · exact .inl ⟨here.symm, rfl⟩
      · exact .inr (List.mem_cons_of_mem _ later)
    · split at inside
      · rcases List.mem_cons.mp inside with rfl | later
        · exact .inl ⟨rfl, rfl⟩
        · exact .inr later
      · rcases List.mem_cons.mp inside with rfl | later
        · exact .inr List.mem_cons_self
        · exact (ih later).imp_right (List.mem_cons_of_mem _)

variable [IsTrans κ (· < ·)] [@Std.Trichotomous κ (· < ·)]

theorem pairwise_place (keys : nodes.Pairwise fun a b => a.key < b.key) :
    (Tree.place version key value nodes).Pairwise fun a b => a.key < b.key := by
  induction nodes with
  | nil => simp [Tree.place]
  | cons first rest ih =>
    obtain ⟨least, keys'⟩ := List.pairwise_cons.mp keys
    unfold Tree.place
    by_cases here : key = first.key
    · rw [if_pos here]
      exact List.pairwise_cons.mpr ⟨least, keys'⟩
    · rw [if_neg here]
      by_cases before : key < first.key
      · rw [if_pos before]
        refine List.pairwise_cons.mpr ⟨fun node inside => ?_, keys⟩
        rcases List.mem_cons.mp inside with rfl | later
        · exact before
        · exact IsTrans.trans _ _ _ before (least node later)
      · rw [if_neg before]
        have after : first.key < key := by
          by_contra notAfter
          exact here (Std.Trichotomous.trichotomous _ _ before notAfter)
        refine List.pairwise_cons.mpr ⟨fun node inside => ?_, ih keys'⟩
        rcases mem_place inside with ⟨same, _⟩ | later
        · rw [same]
          exact after
        · exact least node later

/-- Additions keep the order. -/
theorem Tree.Ordered.add (ordered : t.Ordered) : (t.add key value).Ordered := by
  refine ⟨pairwise_place ordered.keys, fun node inside => ?_⟩
  rcases mem_place inside with ⟨_, same⟩ | before
  · exact Nat.le_of_eq same
  · exact ordered.versions node before

end Additions

/-- After an update all nodes are stale. -/
theorem old_update (ordered : t.Ordered) (found : t.update.find? key = some node) : node.version ≠ t.update.version :=
  Nat.ne_of_lt (Nat.lt_succ_of_le (ordered.versions node (List.mem_of_find?_eq_some found)))

variable [@Std.Irrefl κ (· < ·)]

theorem find?_eq_some_iff (ordered : t.Ordered) : t.find? key = some node ↔ node ∈ t.nodes ∧ node.key = key := by
  constructor
  · exact fun found => ⟨List.mem_of_find?_eq_some found, Tree.key_of_find found⟩
  · rintro ⟨inside, rfl⟩
    cases found : t.find? node.key with
    | none => simpa using List.find?_eq_none.mp found node inside
    | some other =>
      rw [List.inj_on_of_nodup_map (nodup_keys ordered) (List.mem_of_find?_eq_some found) inside (Tree.key_of_find found)]

theorem find?_flush (ordered : t.Ordered) :
    t.flush.find? k = (t.find? k).filter fun node => node.version = t.version := by
  refine Option.ext fun node => ?_
  rw [find?_eq_some_iff ordered.flush, Option.filter_eq_some_iff, find?_eq_some_iff ordered]
  simp only [Tree.flush, List.mem_filter]
  tauto

/-- The deletion of the stale nodes one after the other is a flush. -/
theorem delete_stale (ordered : t.Ordered) : t.stale.foldl (fun t node => t.delete node.key) t = t.flush := by
  have deleted : ∀ (nodes : List (Node κ α)) (t : Tree κ α), nodes.foldl (fun t node => t.delete node.key) t =
      { t with nodes := t.nodes.filter fun node => node.key ∉ nodes.map Node.key } := by
    intro nodes
    induction nodes with
    | nil => simp
    | cons first rest ih =>
      intro t
      rw [List.foldl_cons, ih]
      simp only [Tree.delete, List.filter_filter]
      congr 2
      funext node
      by_cases here : node.key = first.key
      · simp [here]
      · simp [here]
  rw [deleted]
  unfold Tree.flush
  congr 1
  refine List.filter_congr fun node inside => ?_
  rw [decide_eq_decide, List.mem_map]
  constructor
  · intro kept
    by_contra old
    exact kept ⟨node, List.mem_filter.mpr ⟨inside, by simpa using old⟩, rfl⟩
  · rintro current ⟨other, stale, same⟩
    obtain ⟨there, old⟩ := List.mem_filter.mp stale
    rw [List.inj_on_of_nodup_map (nodup_keys ordered) there inside same] at old
    exact of_decide_eq_true old current

/-- A key in front of all others is not among them. -/
theorem find?_before (before : ∀ node ∈ nodes, key < node.key) : nodes.find? (fun node => node.key = key) = none := by
  rw [List.find?_eq_none]
  intro node inside same
  have less := before node inside
  rw [of_decide_eq_true same] at less
  exact irrefl key less

/-- An addition finds the old value under the key, or the new one, as part of the present
    update, and under the other keys what was there. -/
theorem find?_add [DecidableLT κ] [IsTrans κ (· < ·)] (ordered : t.Ordered) : (t.add key value).find? k =
    if k = key then some ⟨key, t.version, ((t.find? key).map Node.value).getD value⟩ else t.find? k := by
  have keys := ordered.keys
  unfold Tree.find? Tree.add
  dsimp only
  generalize t.nodes = nodes at keys
  induction nodes with
  | nil =>
    by_cases same : k = key
    · simp [Tree.place, same]
    · simp [Tree.place, same, Ne.symm same]
  | cons first rest ih =>
    obtain ⟨least, keys⟩ := List.pairwise_cons.mp keys
    unfold Tree.place
    by_cases here : key = first.key
    · by_cases same : k = first.key
      · simp [here, same]
      · simp [here, same, Ne.symm same]
    · by_cases before : key < first.key
      · have absent : (first :: rest).find? (fun node => node.key = key) = none := by
          refine find?_before fun node inside => ?_
          rcases List.mem_cons.mp inside with rfl | later
          · exact before
          · exact IsTrans.trans _ _ _ before (least node later)
        by_cases same : k = key
        · rw [if_neg here, if_pos before, absent]
          simp [same]
        · rw [if_neg here, if_pos before, List.find?_cons_of_neg (by simpa using Ne.symm same), if_neg same]
      · rw [if_neg here, if_neg before]
        by_cases first' : first.key = k
        · have other : k ≠ key := fun same => here (by rw [← same, first'])
          simp [first', other]
        · rw [List.find?_cons_of_neg (by simpa using first'), ih keys]
          simp [first', Ne.symm here]

end Order

end Usteer.Vlist
