import Mathlib.Data.List.Nodup
import Mathlib.Logic.Function.Basic

/-!
Members listed by their owner. Each member knows its owner and each live owner keeps
the list of its members, as with records that are linked into a list of another
record. `Listed` says that the two views agree and that nothing is listed twice; it
is kept when a member joins (`Listed.join`) or leaves (`Listed.leave`) and when an
owner without members comes (`Listed.open`) or goes (`Listed.close`).
-/
namespace Usteer.Owners
open Function

variable {ι κ : Type*} {owner : ι → Option κ} {members : κ → Option (List ι)}

/-- A member is in the list of its live owner and in no other, and there once. -/
structure Listed (owner : ι → Option κ) (members : κ → Option (List ι)) : Prop where
  inside : ∀ {i k}, owner i = some k → ∃ l, members k = some l ∧ i ∈ l
  owned : ∀ {i k l}, members k = some l → i ∈ l → owner i = some k
  nodup : ∀ {k l}, members k = some l → l.Nodup

variable [DecidableEq κ]

/-- A new owner has no members. -/
theorem Listed.open {k : κ} (listed : Listed owner members) (fresh : members k = none) :
    Listed owner (update members k (some [])) where
  inside := by
    intro j k' owns
    obtain ⟨l, found, inside⟩ := listed.inside owns
    have ne : k' ≠ k := by
      rintro rfl
      rw [fresh] at found
      cases found
    exact ⟨l, by rwa [update_of_ne ne], inside⟩
  owned := by
    intro j k' l found inside
    by_cases same : k' = k
    · subst same
      rw [update_self] at found
      cases found
      cases inside
    · rw [update_of_ne same] at found
      exact listed.owned found inside
  nodup := by
    intro k' l found
    by_cases same : k' = k
    · subst same
      rw [update_self] at found
      cases found
      exact List.nodup_nil
    · rw [update_of_ne same] at found
      exact listed.nodup found

/-- An owner without members goes. -/
theorem Listed.close {k : κ} (listed : Listed owner members) (empty : members k = some []) :
    Listed owner (update members k none) where
  inside := by
    intro j k' owns
    obtain ⟨l, found, inside⟩ := listed.inside owns
    have ne : k' ≠ k := by
      rintro rfl
      rw [empty] at found
      cases found
      cases inside
    exact ⟨l, by rwa [update_of_ne ne], inside⟩
  owned := by
    intro j k' l found inside
    by_cases same : k' = k
    · subst same
      rw [update_self] at found
      cases found
    · rw [update_of_ne same] at found
      exact listed.owned found inside
  nodup := by
    intro k' l found
    by_cases same : k' = k
    · subst same
      rw [update_self] at found
      cases found
    · rw [update_of_ne same] at found
      exact listed.nodup found

variable [DecidableEq ι]

/-- A member without owner joins at the head of a list. -/
theorem Listed.join {i : ι} {k : κ} {l : List ι} (listed : Listed owner members) (free : owner i = none)
    (live : members k = some l) : Listed (update owner i (some k)) (update members k (some (i :: l))) where
  inside := by
    intro j k' owns
    by_cases new : j = i
    · subst new
      rw [update_self] at owns
      cases owns
      exact ⟨j :: l, update_self .., List.mem_cons_self⟩
    · rw [update_of_ne new] at owns
      obtain ⟨l', found, inside⟩ := listed.inside owns
      by_cases same : k' = k
      · subst same
        rw [live] at found
        cases found
        exact ⟨i :: l, update_self .., List.mem_cons_of_mem _ inside⟩
      · exact ⟨l', by rwa [update_of_ne same], inside⟩
  owned := by
    intro j k' l' found inside
    by_cases new : j = i
    · subst new
      by_cases same : k' = k
      · rw [update_self, same]
      · rw [update_of_ne same] at found
        rw [listed.owned found inside] at free
        cases free
    · rw [update_of_ne new]
      by_cases same : k' = k
      · subst same
        rw [update_self] at found
        cases found
        exact listed.owned live ((List.mem_cons.mp inside).resolve_left new)
      · rw [update_of_ne same] at found
        exact listed.owned found inside
  nodup := by
    intro k' l' found
    by_cases same : k' = k
    · subst same
      rw [update_self] at found
      cases found
      refine List.nodup_cons.mpr ⟨fun inside => ?_, listed.nodup live⟩
      rw [listed.owned live inside] at free
      cases free
    · rw [update_of_ne same] at found
      exact listed.nodup found

/-- A member leaves. -/
theorem Listed.leave {i : ι} {k : κ} {l : List ι} (listed : Listed owner members) (owns : owner i = some k)
    (live : members k = some l) : Listed (update owner i none) (update members k (some (l.erase i))) where
  inside := by
    intro j k' owns'
    by_cases gone : j = i
    · subst gone
      rw [update_self] at owns'
      cases owns'
    · rw [update_of_ne gone] at owns'
      obtain ⟨l', found, inside⟩ := listed.inside owns'
      by_cases same : k' = k
      · subst same
        rw [live] at found
        cases found
        exact ⟨l.erase i, update_self .., (List.mem_erase_of_ne gone).mpr inside⟩
      · exact ⟨l', by rwa [update_of_ne same], inside⟩
  owned := by
    intro j k' l' found inside
    by_cases same : k' = k
    · subst same
      rw [update_self] at found
      cases found
      obtain ⟨ne, inside⟩ := (listed.nodup live).mem_erase_iff.mp inside
      rw [update_of_ne ne]
      exact listed.owned live inside
    · rw [update_of_ne same] at found
      have owns' := listed.owned found inside
      have ne : j ≠ i := by
        rintro rfl
        rw [owns] at owns'
        cases owns'
        exact same rfl
      rw [update_of_ne ne]
      exact owns'
  nodup := by
    intro k' l' found
    by_cases same : k' = k
    · subst same
      rw [update_self] at found
      cases found
      exact (listed.nodup live).erase i
    · rw [update_of_ne same] at found
      exact listed.nodup found

end Usteer.Owners
