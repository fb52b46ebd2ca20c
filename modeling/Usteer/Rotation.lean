import Mathlib.Data.Finset.Card
import Mathlib.Data.List.Iterate
import Mathlib.Data.List.TakeWhile
import Mathlib.Dynamics.PeriodicPts.Defs
import Mathlib.Order.Interval.Finset.Nat

/-!
Going round a list of values, some of which may come more than once. After a value comes the
next one behind its first place that is different, and the first of the list when there is none
(`next`). Going on like this leads to a value from everywhere, and then in no more steps than the
list is long, unless another value comes back before (`Trap`, `reaches_iff`). Without repetitions
the list is one round (`round_of_nodup`).
-/
namespace Usteer.Rotation

variable {α : Type*} [DecidableEq α]

/-- What comes after a value: the first different one behind its first place, or else the
    first of all. -/
def next (l : List α) (x : α) : α :=
  (((l.dropWhile (· ≠ x)).dropWhile (· = x)).head?.or l.head?).getD x

theorem next_mem {l : List α} (x : α) (nonempty : l ≠ []) : next l x ∈ l := by
  obtain ⟨first, rest, rfl⟩ := List.exists_cons_of_ne_nil nonempty
  unfold next
  cases found : (((first :: rest).dropWhile (· ≠ x)).dropWhile (· = x)).head? with
  | none => simp
  | some y =>
    have inside : y ∈ ((first :: rest).dropWhile (· ≠ x)).dropWhile (· = x) := List.mem_of_mem_head? found
    exact (List.dropWhile_suffix _).subset ((List.dropWhile_suffix _).subset inside)

/-- By the first place of the value. -/
theorem next_split {early late : List α} {x : α} (unseen : x ∉ early) :
    next (early ++ x :: late) x = ((late.dropWhile (· = x)).head?.or (early ++ x :: late).head?).getD x := by
  have skipped : (early ++ x :: late).dropWhile (· ≠ x) = x :: late := by
    rw [List.dropWhile_append_of_pos]
    · simp
    · intro y inside
      simp only [ne_eq, decide_not, Bool.not_eq_true', decide_eq_false_iff_not]
      rintro rfl
      exact unseen inside
  unfold next
  rw [skipped]
  simp

/-- The first different value is met no later than any other different one. -/
theorem head_dropWhile {segment after : List α} {x last : α} (different : last ≠ x) :
    ∃ y, ((segment ++ last :: after).dropWhile (· = x)).head? = some y ∧ y ∈ segment ++ [last] ∧ y ≠ x := by
  induction segment with
  | nil => exact ⟨last, by simp [different], by simp, different⟩
  | cons first rest ih =>
    by_cases same : first = x
    · obtain ⟨y, found, inside, other⟩ := ih
      refine ⟨y, ?_, List.mem_cons_of_mem _ inside, other⟩
      simpa [same] using found
    · exact ⟨first, by simp [same], by simp, same⟩

/-- From the first place of a value, the next one is met no later than any different one. -/
theorem next_in_segment {before segment after : List α} {x last : α} (inside : x ∈ segment) (unseen : x ∉ before)
    (different : last ≠ x) : next (before ++ segment ++ last :: after) x ∈ segment ++ [last] := by
  obtain ⟨early, late, rfl, first⟩ := List.eq_append_cons_of_mem inside
  have shape : before ++ (early ++ x :: late) ++ last :: after = (before ++ early) ++ x :: (late ++ last :: after) := by
    simp
  have none : x ∉ before ++ early := by simp [unseen, first]
  obtain ⟨y, found, among, -⟩ := @head_dropWhile _ _ late after x last different
  rw [shape, next_split none, found]
  have wide : y ∈ late ∨ y = last := by simpa using among
  simp only [Option.some_or, Option.getD_some, List.mem_append, List.mem_cons]
  tauto

/-! ### Values that cannot be left -/

/-- A value other than the one looked for comes back after a different one, with neither the
    one looked for nor anything from before its first place in between. -/
def Trap (l : List α) (own : α) : Prop :=
  ∃ before x between after, l = before ++ x :: between ++ x :: after ∧ x ≠ own ∧ x ∉ before ∧
    (∃ y ∈ between, y ≠ x) ∧ own ∉ between ∧ ∀ y ∈ between, y ∉ before

/-- In a trap, the next value is in it. -/
theorem trapped {before between after : List α} {x y z : α} (unseen : x ∉ before) (other : z ∈ between)
    (different : z ≠ x) (apart : ∀ y ∈ between, y ∉ before) (inside : y ∈ x :: between) :
    next (before ++ x :: between ++ x :: after) y ∈ x :: between := by
  by_cases same : y = x
  · subst same
    obtain ⟨early, late, rfl⟩ := List.append_of_mem other
    have met := @next_in_segment _ _ before (y :: early) (late ++ y :: after) y z List.mem_cons_self unseen different
    have shape : before ++ y :: (early ++ z :: late) ++ y :: after = before ++ y :: early ++ z :: (late ++ y :: after) := by
      simp
    rw [shape]
    simp only [List.mem_append, List.mem_cons] at met ⊢
    tauto
  · have within : y ∈ between := (List.mem_cons.mp inside).resolve_left same
    have met := @next_in_segment _ _ before (x :: between) after y x inside (apart y within) (Ne.symm same)
    simp only [List.mem_append, List.mem_cons] at met ⊢
    tauto

theorem iterate_trapped {l before between after : List α} {x z : α}
    (shape : l = before ++ x :: between ++ x :: after) (unseen : x ∉ before) (other : z ∈ between) (different : z ≠ x)
    (apart : ∀ y ∈ between, y ∉ before) (k : Nat) : (next l)^[k] x ∈ x :: between := by
  induction k with
  | zero => exact List.mem_cons_self
  | succ k ih =>
    rw [Function.iterate_succ_apply', shape]
    rw [shape] at ih
    exact trapped unseen other different apart ih

/-- A round goes on no further than the first value that is not on it. -/
theorem iterate_in_segment {P : α → Prop} {l before segment after : List α} {g w : α}
    (shape : l = before ++ g :: segment ++ w :: after) (closed : ∀ x, P x → P (next l x)) (start : P g)
    (apart : ∀ x, P x → x ∉ before) (out : ¬ P w) (k : Nat) : (next l)^[k] g ∈ g :: segment ∧ P ((next l)^[k] g) := by
  induction k with
  | zero => exact ⟨List.mem_cons_self, start⟩
  | succ k ih =>
    obtain ⟨inside, on⟩ := ih
    rw [Function.iterate_succ_apply']
    have going := closed _ on
    refine ⟨?_, going⟩
    have different : w ≠ (next l)^[k] g := fun same => out (same ▸ on)
    have met := @next_in_segment _ _ before (g :: segment) after _ w inside (apart _ on) different
    rw [← shape] at met
    rcases List.mem_append.mp met with within | last
    · exact within
    · rw [List.mem_singleton] at last
      exact absurd (last ▸ going) out

/-- A round that leaves out a value of the list has a trap at its earliest value. -/
theorem trap_of_round {P : α → Prop} {l : List α} {own g y : α} {n : Nat} (inside : own ∈ l)
    (closed : ∀ x, P x → P (next l x)) (start : P g) (reached : (next l)^[n] g = y) (back : next l y = g)
    (avoids : ¬ P own) (least : ∀ x, P x → l.idxOf g ≤ l.idxOf x) : Trap l own := by
  have nonempty : l ≠ [] := List.ne_nil_of_mem inside
  have listed : g ∈ l := back ▸ next_mem y nonempty
  obtain ⟨before, rest, shape, unseen⟩ := List.eq_append_cons_of_mem listed
  have apart : ∀ x, P x → x ∉ before := by
    intro x on early
    have later := least x on
    rw [shape, List.idxOf_append_of_notMem unseen, List.idxOf_append_of_mem early] at later
    have short := List.idxOf_lt_length_of_mem early
    simp at later
    omega
  have on : P y := reached ▸ Function.Iterate.rec P start closed n
  have later : y ∈ g :: rest := by
    have inList : y ∈ l := by
      rw [← reached]
      cases n with
      | zero => exact listed
      | succ n =>
        rw [Function.iterate_succ_apply']
        exact next_mem _ nonempty
    rw [shape] at inList
    exact (List.mem_append.mp inList).resolve_left (apart y on)
  obtain ⟨early, late, cut, first⟩ := List.eq_append_cons_of_mem later
  -- everything up to the first place of `y` is on the round
  have onEarly : ∀ w ∈ early, P w := by
    intro w within
    by_contra out
    obtain ⟨some, others, rfl⟩ := List.append_of_mem within
    cases some with
    | nil =>
      rw [List.nil_append, List.cons_append, List.cons.injEq] at cut
      exact out (cut.1 ▸ start)
    | cons g' some =>
      rw [List.cons_append, List.cons_append, List.cons.injEq] at cut
      obtain ⟨rfl, rfl⟩ := cut
      have whole : l = before ++ g :: some ++ w :: (others ++ y :: late) := by
        rw [shape]
        simp
      have stays := (iterate_in_segment whole closed start apart out n).1
      rw [reached] at stays
      exact first (List.mem_append_left _ stays)
  have whole : l = (before ++ early) ++ y :: late := by
    rw [shape, cut, List.append_assoc]
  have unmet : y ∉ before ++ early := by simp [apart y on, first]
  have following := back
  rw [whole, next_split unmet] at following
  cases found : late.dropWhile (· = y) with
  | nil =>
    -- then the round is the whole list
    exfalso
    have only : ∀ w ∈ late, w = y := by simpa using List.dropWhile_eq_nil_iff.mp found
    have none : before = [] := by
      cases before with
      | nil => rfl
      | cons first others =>
        rw [found] at following
        simp at following
        simp [following] at unseen
    rw [whole, none, List.nil_append] at inside
    rcases List.mem_append.mp inside with atEarly | atLate
    · exact avoids (onEarly own atEarly)
    · rcases List.mem_cons.mp atLate with rfl | atLate
      · exact avoids on
      · exact avoids (only own atLate ▸ on)
  | cons z after =>
    rw [found] at following
    simp only [List.head?_cons, Option.some_or, Option.getD_some] at following
    subst following
    have split := List.takeWhile_append_dropWhile (p := (· = y)) (l := late)
    rw [found] at split
    have different : ¬ decide (z = y) = true := by
      have head := List.head?_dropWhile_not (· = y) late
      rw [found] at head
      simpa using head
    have ys : ∀ w ∈ late.takeWhile (· = y), w = y := by
      intro w within
      simpa using List.mem_takeWhile_imp within
    cases early with
    | nil =>
      rw [List.nil_append, List.cons.injEq] at cut
      exact absurd (by simpa using cut.1) different
    | cons g' early =>
      rw [List.cons_append, List.cons.injEq] at cut
      obtain ⟨rfl, rfl⟩ := cut
      have onBetween : ∀ w ∈ early ++ y :: late.takeWhile (· = y), P w := by
        intro w within
        rcases List.mem_append.mp within with atEarly | atLate
        · exact onEarly w (List.mem_cons_of_mem _ atEarly)
        · rcases List.mem_cons.mp atLate with rfl | atLate
          · exact on
          · exact ys w atLate ▸ on
      refine ⟨before, z, early ++ y :: late.takeWhile (· = y), after, ?_, ?_, unseen, ⟨y, by simp, ?_⟩, ?_, ?_⟩
      · rw [shape]
        simp [split]
      · rintro rfl
        exact avoids start
      · rintro rfl
        exact different (by simp)
      · exact fun within => avoids (onBetween own within)
      · exact fun w within => apart w (onBetween w within)

/-- Going on leads to a value of the list from everywhere, in at most as many steps as the list
    is long, exactly if there is no trap. -/
theorem reaches_iff {l : List α} {own : α} (inside : own ∈ l) :
    (∀ start, ∃ k, 1 ≤ k ∧ k ≤ l.length ∧ (next l)^[k] start = own) ↔ ¬ Trap l own := by
  have nonempty : l ≠ [] := List.ne_nil_of_mem inside
  constructor
  · rintro reaches ⟨before, x, between, after, shape, other, unseen, ⟨z, within, different⟩, avoids, apart⟩
    obtain ⟨k, -, -, reached⟩ := reaches x
    have stays := iterate_trapped shape unseen within different apart k
    rw [reached] at stays
    rcases List.mem_cons.mp stays with same | within
    · exact other same.symm
    · exact avoids within
  · intro free start
    by_contra never
    push Not at never
    -- some value is met twice on the way
    have few : (l.toFinset.erase own).card < (Finset.Icc 1 l.length).card := by
      rw [Finset.card_erase_of_mem (List.mem_toFinset.mpr inside), Nat.card_Icc]
      have most := l.toFinset_card_le
      have some : 0 < l.toFinset.card := Finset.card_pos.mpr ⟨own, List.mem_toFinset.mpr inside⟩
      omega
    have within : Set.MapsTo (fun k => (next l)^[k] start) (Finset.Icc 1 l.length) (l.toFinset.erase own) := by
      intro k range
      rw [Finset.mem_coe, Finset.mem_Icc] at range
      rw [Finset.mem_coe, Finset.mem_erase, List.mem_toFinset]
      refine ⟨never k range.1 range.2, ?_⟩
      show (next l)^[k] start ∈ l
      obtain ⟨m, rfl⟩ := Nat.exists_eq_add_of_le' range.1
      rw [Function.iterate_succ_apply']
      exact next_mem _ nonempty
    obtain ⟨i, iRange, j, jRange, apart, twice⟩ := Finset.exists_ne_map_eq_of_card_lt_of_maps_to few within
    rw [Finset.mem_Icc] at iRange jRange
    wlog order : i < j generalizing i j
    · exact this j jRange i iRange (Ne.symm apart) twice.symm (by omega)
    obtain ⟨m, rfl⟩ := Nat.exists_eq_add_of_lt order
    have period : Function.IsPeriodicPt (next l) (m + 1) ((next l)^[i] start) := by
      show (next l)^[m + 1] ((next l)^[i] start) = (next l)^[i] start
      rw [← Function.iterate_add_apply, show m + 1 + i = i + m + 1 by omega]
      exact twice.symm
    obtain ⟨x, arrived⟩ : ∃ x, (next l)^[i] start = x := ⟨_, rfl⟩
    rw [arrived] at period
    have avoids : ¬ ∃ k, (next l)^[k] x = own := by
      rintro ⟨k, met⟩
      have short : k % (m + 1) < m + 1 := Nat.mod_lt _ (Nat.succ_pos m)
      rw [← period.iterate_mod_apply, ← arrived, ← Function.iterate_add_apply] at met
      exact never _ (by omega) (by omega) met
    have closed : ∀ z, (∃ k, (next l)^[k] x = z) → ∃ k, (next l)^[k] x = next l z := by
      rintro z ⟨k, rfl⟩
      exact ⟨k + 1, Function.iterate_succ_apply' _ _ _⟩
    obtain ⟨g, ⟨k, met⟩, least⟩ := (measure l.idxOf).wf.has_min {z | ∃ k, (next l)^[k] x = z} ⟨x, 0, rfl⟩
    have back : (next l)^[m + 1] g = g := by
      rw [← met]
      exact period.apply_iterate k
    rw [Function.iterate_succ_apply'] at back
    exact free (trap_of_round inside closed ⟨k, met⟩ rfl back avoids fun z on => Nat.le_of_not_lt (least z on))

/-! ### Lists without repetitions -/

omit [DecidableEq α] in
theorem not_trap_of_nodup {l : List α} (own : α) (nodup : l.Nodup) : ¬ Trap l own := by
  rintro ⟨before, x, between, after, rfl, -⟩
  simp [List.nodup_append] at nodup

theorem next_of_nodup {early late : List α} {x y : α} (nodup : (early ++ x :: y :: late).Nodup) :
    next (early ++ x :: y :: late) x = y := by
  obtain ⟨-, right, disjoint⟩ := List.nodup_append.mp nodup
  have unseen : x ∉ early := fun inside => disjoint x inside x (by simp) rfl
  have different : y ≠ x := by
    rintro rfl
    simp at right
  rw [next_split unseen]
  simp [different]

theorem next_last {early : List α} {x first : α} {rest : List α} (nodup : (early ++ [x]).Nodup)
    (shape : early ++ [x] = first :: rest) : next (early ++ [x]) x = first := by
  have unseen : x ∉ early := by
    intro inside
    exact (List.nodup_append.mp nodup).2.2 x inside x (by simp) rfl
  rw [next_split unseen, shape]
  simp

/-- Going on along a part of the list. -/
theorem iterate_segment {l : List α} (nodup : l.Nodup) (segment : List α) : ∀ {early late : List α} {x : α},
    l = early ++ x :: (segment ++ late) → List.iterate (next l) x (segment.length + 1) = x :: segment := by
  induction segment with
  | nil =>
    intro early late x shape
    rfl
  | cons y segment ih =>
    intro early late x shape
    have following : next l x = y := by
      rw [shape] at nodup ⊢
      exact next_of_nodup nodup
    have others := @ih (early ++ [x]) late y (by rw [shape]; simp)
    rw [List.length_cons, List.iterate, following, others]

/-- Going on to the end of the list and once more leads to its first value. -/
theorem iterate_to_first {l : List α} {first : α} {rest : List α} (nodup : l.Nodup) (start : l = first :: rest)
    (late : List α) : ∀ {early : List α} {x : α}, l = early ++ x :: late → (next l)^[late.length + 1] x = first := by
  induction late with
  | nil =>
    intro early x shape
    rw [shape] at nodup start ⊢
    exact next_last nodup start
  | cons y late ih =>
    intro early x shape
    have following : next l x = y := by
      rw [shape] at nodup ⊢
      exact next_of_nodup nodup
    rw [List.length_cons, Function.iterate_succ_apply, following]
    exact @ih (early ++ [x]) y (by rw [shape]; simp)

/-- Going on along a part of the list leads to what comes after it. -/
theorem iterate_past {l : List α} (nodup : l.Nodup) {early segment late : List α} {x y : α}
    (shape : l = early ++ x :: (segment ++ y :: late)) : (next l)^[segment.length + 1] x = y := by
  have met := @iterate_segment _ _ l nodup (segment ++ [y]) early late x (by rw [shape]; simp)
  have there := List.getElem?_iterate (next l) x ((segment ++ [y]).length + 1) (segment.length + 1) (by simp)
  rw [met] at there
  simpa using there.symm

/-- From any of its values, the list is gone through once, and then the value comes again. -/
theorem round_of_nodup {early late : List α} {x : α} (nodup : (early ++ x :: late).Nodup) :
    List.iterate (next (early ++ x :: late)) x (early ++ x :: late).length = x :: late ++ early ∧
      (next (early ++ x :: late))^[(early ++ x :: late).length] x = x := by
  have firstHalf := @iterate_segment _ _ _ nodup late early [] x (by simp)
  cases early with
  | nil =>
    refine ⟨?_, ?_⟩
    · simpa using firstHalf
    · exact iterate_to_first nodup rfl late rfl
  | cons first early =>
    have turn := iterate_to_first nodup rfl late rfl
    have secondHalf := @iterate_segment _ _ _ nodup early [] (x :: late) first (by simp)
    have length : (first :: early ++ x :: late).length = (late.length + 1) + (early.length + 1) := by
      simp
      omega
    rw [length]
    refine ⟨?_, ?_⟩
    · rw [List.iterate_add, firstHalf, turn, secondHalf]
    · rw [Nat.add_comm, Function.iterate_add_apply, turn]
      exact @iterate_past _ _ _ nodup [] early late first x (by simp)

omit [DecidableEq α] in
theorem isChain_iterate (f : α → α) (x : α) (n : Nat) : (List.iterate f x n).IsChain (fun a b => f a = b) := by
  induction n generalizing x with
  | zero => exact List.isChain_nil
  | succ n ih =>
    cases n with
    | zero => exact List.isChain_singleton x
    | succ n => exact List.isChain_cons_cons.mpr ⟨rfl, ih (f x)⟩

/-- A round as a chain that ends where it began. -/
theorem exists_round {l : List α} {x : α} (nodup : l.Nodup) (inside : x ∈ l) :
    ∃ rest, (x :: rest).Perm l ∧ (x :: rest ++ [x]).IsChain (fun a b => next l a = b) := by
  obtain ⟨early, late, rfl⟩ := List.append_of_mem inside
  obtain ⟨round, back⟩ := round_of_nodup nodup
  refine ⟨late ++ early, ?_, ?_⟩
  · show ((x :: late) ++ early).Perm (early ++ x :: late)
    exact List.perm_append_comm
  · have chain := isChain_iterate (next (early ++ x :: late)) x ((early ++ x :: late).length + 1)
    rw [List.iterate_add, round, back] at chain
    exact chain

end Usteer.Rotation
