import Mathlib.Data.List.Induction
import Mathlib.Data.List.Perm.Basic
import Mathlib.Data.List.Perm.Subperm
import Mathlib.Order.Defs.Unbundled
import Mathlib.Order.Lattice
import Mathlib.Order.MinMax

/-!
Keeping the strongest members of a list as it is read, in a fixed number of places. A full
set of places is replaced one by one, at the weakest member, when the new member passes a
test against it (`Replaces`). The test need not be the strength itself: the places hold the
strongest members after every prefix exactly when test and strength rank each member alike
among those before it (`strongest_iff`).

With a single place the members need not be ranked at all: as long as the relation that
replaces the choice is a strict order, no member read so far beats it (`Unbeaten`).
-/
namespace Usteer.Selection

variable {α β : Type*} [LinearOrder β] (key test : α → β) {room : Nat} {all kept kept' others : List α} {old x : α}

/-- `kept` are as many members as there is room for, each at most once, and no other member
    is stronger than one of them. -/
def Strongest (room : Nat) (all kept : List α) : Prop :=
  kept.length = min room all.length ∧ ∃ rest, (kept ++ rest).Perm all ∧ ∀ r ∈ rest, ∀ k ∈ kept, key r ≤ key k

/-- A member that none of the others is weaker than. -/
def Weakest (kept : List α) (old : α) : Prop := old ∈ kept ∧ ∀ k ∈ kept, key old ≤ key k

/-- What one step does to the places: it fills a free one, or replaces the weakest member
    by one that passes the test. -/
structure Replaces (room : Nat) (step : List α → α → List α) : Prop where
  fill : ∀ {kept} x, kept.length < room → step kept x = kept ++ [x]
  replace : ∀ {kept} x, kept.length = room → ∃ old others, kept.Perm (old :: others) ∧ Weakest key kept old ∧
    (key old < test x → (step kept x).Perm (x :: others)) ∧ (¬ key old < test x → step kept x = kept)

/-- Test and strength rank the member alike among those before it. -/
def RankedAlike (room : Nat) (before : List α) (x : α) : Prop :=
  (before.countP (fun a => decide (key x ≤ key a)) < room → before.countP (fun a => decide (test x ≤ key a)) < room) ∧
    (room ≤ before.countP (fun a => decide (key x < key a)) → room ≤ before.countP (fun a => decide (test x ≤ key a)))

section Steps

theorem strongest_nil (room : Nat) : Strongest key room [] [] :=
  ⟨by simp, [], List.Perm.refl _, fun _ inside => (List.not_mem_nil inside).elim⟩

theorem strongest_fill (strongest : Strongest key room all kept) (free : all.length < room) :
    Strongest key room (all ++ [x]) (kept ++ [x]) := by
  obtain ⟨length, rest, perm, -⟩ := strongest
  have none : rest = [] := by
    have lengths := perm.length_eq
    rw [List.length_append] at lengths
    exact List.length_eq_zero_iff.mp (by omega)
  rw [none, List.append_nil] at perm
  refine ⟨?_, [], ?_, fun _ inside => (List.not_mem_nil inside).elim⟩
  · simp only [List.length_append, List.length_singleton]
    omega
  · rw [List.append_nil]
    exact perm.append_right [x]

theorem strongest_skip_iff (strongest : Strongest key room all kept) (full : room ≤ all.length)
    (weakest : Weakest key kept old) : Strongest key room (all ++ [x]) kept ↔ key x ≤ key old := by
  obtain ⟨length, rest, perm, stronger⟩ := strongest
  have same : (kept ++ (rest ++ [x])).Perm (all ++ [x]) := by
    rw [← List.append_assoc]
    exact perm.append_right [x]
  constructor
  · rintro ⟨-, rest', perm', stronger'⟩
    have rests : rest'.Perm (rest ++ [x]) := (List.perm_append_left_iff kept).mp (perm'.trans same.symm)
    exact stronger' x (rests.mem_iff.mpr (by simp)) old weakest.1
  · intro weak
    refine ⟨?_, rest ++ [x], same, ?_⟩
    · rw [List.length_append]
      omega
    · intro r inside k isKept
      rcases List.mem_append.mp inside with earlier | here
      · exact stronger r earlier k isKept
      · rw [List.mem_singleton.mp here]
        exact weak.trans (weakest.2 k isKept)

theorem strongest_replace_iff (strongest : Strongest key room all kept) (full : room ≤ all.length)
    (weakest : Weakest key kept old) (split : kept.Perm (old :: others)) (replaced : kept'.Perm (x :: others)) :
    Strongest key room (all ++ [x]) kept' ↔ key old ≤ key x := by
  obtain ⟨length, rest, perm, stronger⟩ := strongest
  have same : (kept' ++ (old :: rest)).Perm (all ++ [x]) := by
    have left : (kept' ++ old :: rest).Perm (x :: (old :: others ++ rest)) := by
      refine (replaced.append_right _).trans ?_
      simp only [List.cons_append]
      exact (List.perm_middle).cons x
    refine left.trans ?_
    refine (((split.symm.append_right rest).trans perm).cons x).trans ?_
    exact @List.perm_append_comm _ [x] all
  constructor
  · rintro ⟨-, rest', perm', stronger'⟩
    have rests : rest'.Perm (old :: rest) := (List.perm_append_left_iff kept').mp (perm'.trans same.symm)
    exact stronger' old (rests.mem_iff.mpr List.mem_cons_self) x (replaced.mem_iff.mpr List.mem_cons_self)
  · intro strong
    refine ⟨?_, old :: rest, same, ?_⟩
    · have lengths := split.length_eq
      have lengths' := replaced.length_eq
      rw [List.length_append]
      simp only [List.length_cons] at lengths lengths'
      omega
    · intro r inside k isKept
      have weakestNow : key old ≤ key k := by
        rcases List.mem_cons.mp (replaced.mem_iff.mp isKept) with rfl | other
        · exact strong
        · exact weakest.2 k (split.mem_iff.mpr (List.mem_cons_of_mem _ other))
      rcases List.mem_cons.mp inside with rfl | earlier
      · exact weakestNow
      · exact (stronger r earlier old weakest.1).trans weakestNow

/-- The weakest of the strongest members, by how many members are as strong as a value. -/
theorem count_le_iff (strongest : Strongest key room all kept) (full : kept.length = room)
    (weakest : Weakest key kept old) (b : β) : all.countP (fun a => decide (b ≤ key a)) < room ↔ key old < b := by
  obtain ⟨length, rest, perm, stronger⟩ := strongest
  rw [← perm.countP_eq, List.countP_append]
  constructor
  · intro few
    by_contra strong
    rw [not_lt] at strong
    have each : kept.countP (fun a => decide (b ≤ key a)) = kept.length :=
      List.countP_eq_length.mpr fun k isKept => decide_eq_true (strong.trans (weakest.2 k isKept))
    omega
  · intro weak
    have none : rest.countP (fun a => decide (b ≤ key a)) = 0 := by
      refine List.countP_eq_zero.mpr fun r inside => ?_
      have below := stronger r inside old weakest.1
      simpa using below.trans_lt weak
    have notAll : kept.countP (fun a => decide (b ≤ key a)) ≠ kept.length := by
      intro each
      have strong := List.countP_eq_length.mp each old weakest.1
      exact absurd (of_decide_eq_true strong) (not_le.mpr weak)
    have most : kept.countP (fun a => decide (b ≤ key a)) ≤ kept.length := List.countP_le_length
    omega

theorem count_lt_iff (strongest : Strongest key room all kept) (full : kept.length = room)
    (weakest : Weakest key kept old) (b : β) : room ≤ all.countP (fun a => decide (b < key a)) ↔ b < key old := by
  obtain ⟨length, rest, perm, stronger⟩ := strongest
  rw [← perm.countP_eq, List.countP_append]
  constructor
  · intro many
    by_contra weak
    rw [not_lt] at weak
    have none : rest.countP (fun a => decide (b < key a)) = 0 := by
      refine List.countP_eq_zero.mpr fun r inside => ?_
      have below := stronger r inside old weakest.1
      simpa using below.trans weak
    have notAll : kept.countP (fun a => decide (b < key a)) ≠ kept.length := by
      intro each
      have strong := List.countP_eq_length.mp each old weakest.1
      exact absurd (of_decide_eq_true strong) (not_lt.mpr weak)
    have most : kept.countP (fun a => decide (b < key a)) ≤ kept.length := List.countP_le_length
    omega
  · intro strong
    have each : kept.countP (fun a => decide (b < key a)) = kept.length :=
      List.countP_eq_length.mpr fun k isKept => decide_eq_true (strong.trans_le (weakest.2 k isKept))
    omega

/-- While there is room, every member is ranked alike. -/
theorem rankedAlike_of_free (free : all.length < room) : RankedAlike key test room all x := by
  refine ⟨fun _ => ?_, fun many => ?_⟩
  · have most : all.countP (fun a => decide (test x ≤ key a)) ≤ all.length := List.countP_le_length
    omega
  · have most : all.countP (fun a => decide (key x < key a)) ≤ all.length := List.countP_le_length
    omega

/-- One step keeps the strongest members exactly when the member is ranked alike. -/
theorem strongest_step_iff {step : List α → α → List α} (replaces : Replaces key test room step)
    (strongest : Strongest key room all kept) :
    Strongest key room (all ++ [x]) (step kept x) ↔ RankedAlike key test room all x := by
  have length := strongest.1
  by_cases free : all.length < room
  · rw [replaces.fill x (by omega)]
    exact iff_of_true (strongest_fill key strongest free) (rankedAlike_of_free key test free)
  · rw [not_lt] at free
    have full : kept.length = room := by omega
    obtain ⟨old, others, split, weakest, passes, fails⟩ := replaces.replace x full
    unfold RankedAlike
    rw [count_le_iff key strongest full weakest, count_le_iff key strongest full weakest,
      count_lt_iff key strongest full weakest, ← not_lt (a := List.countP _ _),
      count_le_iff key strongest full weakest]
    by_cases pass : key old < test x
    · rw [strongest_replace_iff key strongest free weakest split (passes pass)]
      simp [pass]
    · rw [fails pass, strongest_skip_iff key strongest free weakest]
      simp [pass]

end Steps

/-- Whatever the test, the places are full as far as there are members, and hold each at
    most once. -/
theorem foldl_subperm {step : List α → α → List α} (replaces : Replaces key test room step) (all : List α) :
    (all.foldl step []).Subperm all ∧ (all.foldl step []).length = min room all.length := by
  induction all using List.reverseRecOn with
  | nil => exact ⟨List.Subperm.refl _, by simp⟩
  | append_singleton before x ih =>
    obtain ⟨subperm, length⟩ := ih
    rw [List.foldl_append, List.length_append, List.length_singleton]
    show (step _ x).Subperm _ ∧ (step _ x).length = _
    by_cases free : before.length < room
    · rw [replaces.fill x (by omega), List.length_append, List.length_singleton]
      exact ⟨subperm.append (List.Subperm.refl [x]), by omega⟩
    · have full : (before.foldl step []).length = room := by omega
      obtain ⟨old, others, split, -, passes, fails⟩ := replaces.replace x full
      by_cases pass : key old < test x
      · have replaced := passes pass
        have lengths := replaced.length_eq.trans split.length_eq.symm
        refine ⟨?_, by omega⟩
        have rest : others.Subperm before :=
          (List.sublist_cons_self old others).subperm.trans (split.symm.subperm.trans subperm)
        have last : (x :: before).Perm (before ++ [x]) := (List.perm_append_singleton x before).symm
        exact replaced.subperm.trans (((List.subperm_cons x).mpr rest).trans last.subperm)
      · rw [fails pass]
        exact ⟨subperm.trans (List.sublist_append_left before [x]).subperm, by omega⟩

/-- When no two members are equally strong, the strongest are those that fewer others are
    stronger than than there is room for. -/
theorem mem_strongest_iff (strongest : Strongest key room all kept) (distinct : (all.map key).Nodup)
    (inside : x ∈ all) : x ∈ kept ↔ all.countP (fun a => decide (key x < key a)) < room := by
  obtain ⟨length, rest, perm, stronger⟩ := strongest
  have lengths := perm.length_eq
  rw [← perm.countP_eq, List.countP_append]
  rw [List.length_append] at lengths
  constructor
  · intro isKept
    have none : rest.countP (fun a => decide (key x < key a)) = 0 :=
      List.countP_eq_zero.mpr fun r isRest => by simpa using stronger r isRest x isKept
    have notAll : kept.countP (fun a => decide (key x < key a)) ≠ kept.length := by
      intro each
      have above := List.countP_eq_length.mp each x isKept
      simp at above
    have most : kept.countP (fun a => decide (key x < key a)) ≤ kept.length := List.countP_le_length
    omega
  · intro few
    by_contra isRest
    have isRest : x ∈ rest := (List.mem_append.mp (perm.mem_iff.mpr inside)).resolve_left isRest
    have nonempty : 0 < rest.length := List.length_pos_of_mem isRest
    have differ : ∀ k ∈ kept, key k ≠ key x := by
      have nodup := ((perm.map key).nodup_iff).mpr distinct
      rw [List.map_append, List.nodup_append] at nodup
      intro k isKept
      exact nodup.2.2 _ (List.mem_map_of_mem isKept) _ (List.mem_map_of_mem isRest)
    have each : kept.countP (fun a => decide (key x < key a)) = kept.length :=
      List.countP_eq_length.mpr fun k isKept =>
        decide_eq_true (lt_of_le_of_ne (stronger x isRest k isKept) (differ k isKept).symm)
    omega

/-- The places hold the strongest members after every prefix exactly when every member is
    ranked alike among those before it. -/
theorem strongest_iff {step : List α → α → List α} (replaces : Replaces key test room step) (all : List α) :
    (∀ read rest, all = read ++ rest → Strongest key room read (read.foldl step [])) ↔
      ∀ before x after, all = before ++ x :: after → RankedAlike key test room before x := by
  constructor
  · intro strongest before x after split
    have now := strongest before (x :: after) split
    have next := strongest (before ++ [x]) after (by simp [split])
    rw [List.foldl_append] at next
    exact (strongest_step_iff key test replaces now).mp next
  · intro alike read
    induction read using List.reverseRecOn with
    | nil => exact fun _ _ => strongest_nil key room
    | append_singleton before x ih =>
      intro rest split
      rw [List.append_assoc, List.singleton_append] at split
      rw [List.foldl_append]
      exact (strongest_step_iff key test replaces (ih _ split)).mpr (alike before x rest split)

/-! ### One place -/

section Choice

variable {γ : Type*} {beats : γ → γ → Prop} {P Q : γ → Prop} {choice : Option γ} {new cur : γ}

/-- What one place may hold of the members with a property: none of them beats it, and it
    is empty only if there are none. -/
def Unbeaten (beats : γ → γ → Prop) (P : γ → Prop) : Option γ → Prop
  | none => ∀ x, ¬ P x
  | some cur => P cur ∧ ∀ x, P x → ¬ beats x cur

theorem Unbeaten.congr (unbeaten : Unbeaten beats P choice) (same : ∀ x, P x ↔ Q x) : Unbeaten beats Q choice := by
  cases choice with
  | none => exact fun x holds => unbeaten x ((same x).mpr holds)
  | some cur => exact ⟨(same cur).mp unbeaten.1, fun x holds => unbeaten.2 x ((same x).mpr holds)⟩

/-- The place is empty exactly when there are no members. -/
theorem Unbeaten.none_iff (unbeaten : Unbeaten beats P choice) : choice = none ↔ ∀ x, ¬ P x := by
  cases choice with
  | none => exact iff_of_true rfl unbeaten
  | some cur => exact iff_of_false (Option.some_ne_none cur) fun none => none cur unbeaten.1

/-- A new member takes the place exactly when it beats the choice. -/
theorem Unbeaten.choose [IsStrictOrder γ beats] {more : Bool} (unbeaten : Unbeaten beats P choice)
    (judged : more = true ↔ ∀ cur, choice = some cur → beats new cur) :
    Unbeaten beats (fun x => P x ∨ x = new) (if more = true then some new else choice) := by
  cases more with
  | true =>
    have wins := judged.mp rfl
    refine ⟨.inr rfl, ?_⟩
    rintro x (earlier | rfl) better
    · cases choice with
      | none => exact unbeaten x earlier
      | some cur => exact unbeaten.2 x earlier (Trans.trans better (wins cur rfl))
    · exact irrefl x better
  | false =>
    cases choice with
    | none => exact absurd (judged.mpr fun _ impossible => by cases impossible) Bool.false_ne_true
    | some cur =>
      refine ⟨.inl unbeaten.1, ?_⟩
      rintro x (earlier | rfl) better
      · exact unbeaten.2 x earlier better
      · refine Bool.false_ne_true (judged.mpr fun cur' same => ?_)
        cases same
        exact better

end Choice

end Usteer.Selection
