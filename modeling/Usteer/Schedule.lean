import Mathlib.Data.List.Basic
import Mathlib.Order.Basic

/-!
Runs whose steps have labels, and what may happen only so often along them. A labelled run
can be cut wherever its labels can (`Run.split`). When something waits for a gap since the last
time, it happens at least as often as times can be picked that are a gap apart (`length_le_due`).
-/
namespace Usteer.Schedule

/-! ### Labelled runs -/

section Runs

variable {σ ε : Type*} {step : σ → List ε → σ → Prop}

/-- Steps one after the other, with their labels. -/
inductive Run (step : σ → List ε → σ → Prop) : σ → List ε → σ → Prop
  | refl (s : σ) : Run step s [] s
  | next {s t u : σ} {first rest : List ε} (head : step s first t) (tail : Run step t rest u) :
      Run step s (first ++ rest) u

namespace Run

theorem one {s t : σ} {labels : List ε} (head : step s labels t) : Run step s labels t := by
  have run := Run.next head (.refl t)
  rwa [List.append_nil] at run

theorem trans {s t u : σ} {first rest : List ε} (left : Run step s first t) (right : Run step t rest u) :
    Run step s (first ++ rest) u := by
  induction left with
  | refl => exact right
  | next head _ ih =>
    rw [List.append_assoc]
    exact .next head (ih right)

/-- If no step has more than one label, a run can be cut between any two labels. -/
theorem split (single : ∀ {s labels t}, step s labels t → labels.length ≤ 1) {s u : σ} {labels : List ε}
    (run : Run step s labels u) : ∀ before after, labels = before ++ after →
      ∃ t, Run step s before t ∧ Run step t after u := by
  induction run with
  | refl s =>
    intro before after cut
    obtain ⟨rfl, rfl⟩ := List.append_eq_nil_iff.mp cut.symm
    exact ⟨s, .refl s, .refl s⟩
  | @next s t u first rest head tail ih =>
    intro before after cut
    cases before with
    | nil => exact ⟨s, .refl s, by rw [← List.nil_append after, ← cut]; exact .next head tail⟩
    | cons label before =>
      match first, single head with
      | [], _ =>
        obtain ⟨t', left, right⟩ := ih (label :: before) after cut
        exact ⟨t', .next head left, right⟩
      | [only], _ =>
        rw [List.singleton_append, List.cons_append, List.cons.injEq] at cut
        obtain ⟨rfl, cut⟩ := cut
        obtain ⟨t', left, right⟩ := ih before after cut
        exact ⟨t', .next head left, right⟩

end Run
end Runs

/-! ### What waits for a gap -/

/-- How often something happens that waits for a gap since the last time. -/
def due (gap : Nat) : Nat → List Nat → Nat
  | _, [] => 0
  | last, t :: rest => if t < last + gap then due gap last rest else due gap t rest + 1

/-- Nothing happens more often than when the first chance is always taken. -/
theorem length_le_due {gap : Nat} {times : List Nat} : ∀ {last first : Nat} {chosen : List Nat},
    times.Pairwise (· ≤ ·) → last ≤ first → (first :: chosen).IsChain (fun a b => a + gap ≤ b) →
      chosen.Sublist times → chosen.length ≤ due gap last times := by
  induction times with
  | nil =>
    intro last first chosen _ _ _ among
    rw [List.sublist_nil.mp among]
    exact Nat.zero_le _
  | cons t rest ih =>
    intro last first chosen ordered before spaced among
    rw [List.pairwise_cons] at ordered
    cases chosen with
    | nil => exact Nat.zero_le _
    | cons next chosen =>
      rw [List.isChain_cons_cons] at spaced
      rw [due]
      rcases List.sublist_cons_iff.mp among with later | ⟨_, here, among'⟩
      · split
        · exact ih ordered.2 before (List.isChain_cons_cons.mpr spaced) later
        · -- the first chance comes no later than the one chosen
          have inside : next ∈ rest := later.subset List.mem_cons_self
          have among' : chosen.Sublist rest := (List.sublist_cons_self next chosen).trans later
          have rest' := ih ordered.2 (ordered.1 next inside) spaced.2 among'
          rw [List.length_cons]
          omega
      · cases here
        have late : ¬ t < last + gap := by omega
        rw [if_neg late, List.length_cons]
        have rest' := ih ordered.2 (Nat.le_refl t) spaced.2 among'
        omega

end Usteer.Schedule
