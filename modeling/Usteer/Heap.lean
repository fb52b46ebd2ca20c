import Mathlib.Data.List.Forall2
import Mathlib.Tactic.ByContra

/-!
Addressed storage and computations that may fault. A `Heap` holds values by
address; addresses from `next` on were never handed out, so an allocation never
returns a live or a freed address. A computation that follows a freed address
ends in `Except.error`; `Post F m P` says that `m` returns a value with `P` or a
fault in `F`, and its rules (`post_bind`, `post_foldlM`) take a computation apart.
-/
namespace Usteer

universe u v
variable {α : Type u}

/-- Values by address, every address from `next` on unused. -/
structure Heap (α : Type u) where
  cells : Nat → Option α
  next : Nat
  unused : ∀ k, next ≤ k → cells k = none

namespace Heap

/-- A heap without values. -/
def empty : Heap α := ⟨fun _ => none, 0, fun _ _ => rfl⟩

/-- The value at an address. -/
def get? (h : Heap α) (k : Nat) : Option α := h.cells k

/-- The value goes to the first unused address, `h.next`. -/
def alloc (h : Heap α) (v : α) : Heap α where
  cells k := if k = h.next then some v else h.cells k
  next := h.next + 1
  unused k le := by
    rw [if_neg (by omega)]
    exact h.unused k (by omega)

/-- The value at a live address is replaced; a dead address stays dead. -/
def modify (h : Heap α) (k : Nat) (f : α → α) : Heap α where
  cells j := if j = k then (h.cells k).map f else h.cells j
  next := h.next
  unused j le := by
    split
    · rename_i same
      subst same
      rw [h.unused j le]
      rfl
    · exact h.unused j le

/-- The address is given back. -/
def free (h : Heap α) (k : Nat) : Heap α where
  cells j := if j = k then none else h.cells j
  next := h.next
  unused j le := by
    split
    · rfl
    · exact h.unused j le

@[simp] theorem get?_empty (k : Nat) : (empty : Heap α).get? k = none := rfl

theorem get?_alloc (h : Heap α) (v : α) (k : Nat) :
    (h.alloc v).get? k = if k = h.next then some v else h.get? k := rfl

theorem get?_modify (h : Heap α) (k : Nat) (f : α → α) (j : Nat) :
    (h.modify k f).get? j = if j = k then (h.get? k).map f else h.get? j := rfl

theorem get?_free (h : Heap α) (k j : Nat) : (h.free k).get? j = if j = k then none else h.get? j := rfl

@[simp] theorem get?_next (h : Heap α) : h.get? h.next = none := h.unused _ (Nat.le_refl _)

@[simp] theorem next_alloc (h : Heap α) (v : α) : (h.alloc v).next = h.next + 1 := rfl
@[simp] theorem next_modify (h : Heap α) (k : Nat) (f : α → α) : (h.modify k f).next = h.next := rfl
@[simp] theorem next_free (h : Heap α) (k : Nat) : (h.free k).next = h.next := rfl

theorem lt_next {h : Heap α} {k : Nat} {v : α} (live : h.get? k = some v) : k < h.next := by
  by_contra le
  have unused : h.get? k = none := h.unused k (by omega)
  rw [unused] at live
  cases live

theorem ne_next {h : Heap α} {k : Nat} {v : α} (live : h.get? k = some v) : k ≠ h.next :=
  Nat.ne_of_lt (lt_next live)

/-- A modification shows at its own address only. -/
theorem get?_modify_some {h : Heap α} {k j : Nat} {f : α → α} {v : α} (live : (h.modify k f).get? j = some v) :
    ∃ w, h.get? j = some w ∧ v = if j = k then f w else w := by
  rw [get?_modify] at live
  split at live
  · rename_i same
    subst same
    obtain ⟨w, found, image⟩ := Option.map_eq_some_iff.mp live
    exact ⟨w, found, by simp [image]⟩
  · rename_i other
    exact ⟨v, live, by simp [other]⟩

theorem isSome_modify (h : Heap α) (k : Nat) (f : α → α) (j : Nat) :
    ((h.modify k f).get? j).isSome = (h.get? j).isSome := by
  rw [get?_modify]
  split
  · rename_i same
    subst same
    simp
  · rfl

theorem modify_id (h : Heap α) (k : Nat) : h.modify k id = h := by
  unfold modify
  congr 1
  funext j
  by_cases here : j = k
  · simp [here]
  · simp [here]

theorem modify_modify (h : Heap α) (k : Nat) (f g : α → α) : (h.modify k f).modify k g = h.modify k (g ∘ f) := by
  unfold modify
  simp only [Heap.mk.injEq, and_true]
  funext j
  by_cases here : j = k
  · simp [here, Option.map_map]
  · simp [here]

theorem modify_const {h : Heap α} {k : Nat} {v : α} (f : α → α) (live : h.get? k = some v) :
    h.modify k f = h.modify k (fun _ => f v) := by
  have cells : (h.modify k f).cells = (h.modify k (fun _ => f v)).cells := by
    funext j
    show (if j = k then (h.get? k).map f else h.cells j) = if j = k then (h.get? k).map (fun _ => f v) else h.cells j
    rw [live]
    rfl
  unfold modify at cells ⊢
  simp only [Heap.mk.injEq] at cells ⊢
  exact ⟨cells, trivial⟩

end Heap

/-! ### Computations that may fault -/

variable {ε : Type v} {β : Type u}

theorem ok_bind (a : α) (f : α → Except ε β) : (Except.ok a >>= f) = f a := rfl

theorem bind_ok {m : Except ε α} {f : α → Except ε β} {b : β} (run : (m >>= f) = .ok b) :
    ∃ a, m = .ok a ∧ f a = .ok b := by
  cases m with
  | error e => cases run
  | ok a => exact ⟨a, rfl, run⟩

/-- The computation returns a value with the property, or faults in one of the given
    ways. -/
def Post (faults : ε → Prop) (m : Except ε α) (P : α → Prop) : Prop :=
  match m with
  | .ok a => P a
  | .error e => faults e

variable {F : ε → Prop}

@[simp] theorem post_ok (a : α) (P : α → Prop) : Post F (.ok a) P ↔ P a := Iff.rfl

@[simp] theorem post_pure (a : α) (P : α → Prop) : Post F (pure a) P ↔ P a := Iff.rfl

@[simp] theorem post_error (e : ε) (P : α → Prop) : Post F (.error e) P ↔ F e := Iff.rfl

@[simp] theorem post_throw (e : ε) (P : α → Prop) : Post F (throw e) P ↔ F e := Iff.rfl

@[simp] theorem post_bind (m : Except ε α) (f : α → Except ε β) (P : β → Prop) :
    Post F (m >>= f) P ↔ Post F m (fun a => Post F (f a) P) := by
  cases m with
  | error e => exact Iff.rfl
  | ok a => exact Iff.rfl

@[simp] theorem post_map (m : Except ε α) (f : α → β) (P : β → Prop) :
    Post F (f <$> m) P ↔ Post F m (fun a => P (f a)) := by
  cases m with
  | error e => exact Iff.rfl
  | ok a => exact Iff.rfl

theorem Post.mono {m : Except ε α} {P Q : α → Prop} (post : Post F m P) (weaker : ∀ a, P a → Q a) : Post F m Q := by
  cases m with
  | error e => exact post
  | ok a => exact weaker a post

/-- More faults are allowed. -/
theorem Post.excuse {G : ε → Prop} {m : Except ε α} {P : α → Prop} (post : Post F m P) (excused : ∀ e, F e → G e) :
    Post G m P := by
  cases m with
  | error e => exact excused e post
  | ok a => exact post

theorem Post.of_ok {m : Except ε α} {P : α → Prop} (post : Post F m P) {a : α} (run : m = .ok a) : P a := by
  rw [run] at post
  exact post

theorem Post.and {G : ε → Prop} {m : Except ε α} {P Q : α → Prop} (first : Post F m P) (second : Post G m Q) :
    Post F m (fun a => P a ∧ Q a) := by
  cases m with
  | error e => exact first
  | ok a => exact ⟨first, second⟩

/-- What never faults returns. -/
theorem Post.returns {m : Except ε α} {P : α → Prop} (post : Post (fun _ => False) m P) : ∃ a, m = .ok a ∧ P a := by
  cases m with
  | error e => exact post.elim
  | ok a => exact ⟨a, rfl, post⟩

theorem ok_of_toOption {m : Except ε α} {a : α} (returns : m.toOption = some a) : m = .ok a := by
  cases m with
  | error e => cases returns
  | ok b =>
    cases returns
    rfl

/-- The fault that a computation ends in. -/
def faultOf : Except ε α → Option ε
  | .ok _ => none
  | .error e => some e

theorem error_of_faultOf {m : Except ε α} {e : ε} (faults : faultOf m = some e) : m = .error e := by
  cases m with
  | error e' =>
    cases faults
    rfl
  | ok a => cases faults

/-- Faults left aside: `Post AnyFault m P` speaks of the value returned, if there is one. -/
def AnyFault (_ : ε) : Prop := True

theorem post_of_ok {m : Except ε α} {P : α → Prop} (holds : ∀ a, m = .ok a → P a) : Post AnyFault m P := by
  cases m with
  | error e => trivial
  | ok a => exact holds a rfl

/-- The loop rule: what every step of a fold keeps, the fold keeps. -/
theorem post_foldlM {γ : Type*} {f : α → γ → Except ε α} {I : α → Prop} (items : List γ)
    (step : ∀ a, I a → ∀ x ∈ items, Post F (f a x) I) :
    ∀ a, I a → Post F (items.foldlM f a) I := by
  induction items with
  | nil => intro a holds; exact holds
  | cons x rest ih =>
    intro a holds
    rw [List.foldlM_cons, post_bind]
    have rest' := ih (fun b hb y member => step b hb y (List.mem_cons_of_mem _ member))
    exact (step a holds x List.mem_cons_self).mono rest'

/-- What every call returns, in the order of the list. -/
theorem post_mapM {γ : Type*} {f : γ → Except ε α} {Q : γ → α → Prop} (items : List γ)
    (call : ∀ x ∈ items, Post F (f x) (Q x)) : Post F (items.mapM f) (fun results => List.Forall₂ Q items results) := by
  induction items with
  | nil => exact List.Forall₂.nil
  | cons x rest ih =>
    rw [List.mapM_cons, post_bind]
    refine (call x List.mem_cons_self).mono fun y first => ?_
    rw [post_bind]
    refine (ih fun x' inside => call x' (List.mem_cons_of_mem _ inside)).mono fun ys others => ?_
    exact List.Forall₂.cons first others

theorem forall₂_left {α β : Type*} {R : α → β → Prop} {xs : List α} {ys : List β} (related : List.Forall₂ R xs ys) :
    ∀ x ∈ xs, ∃ y ∈ ys, R x y := by
  induction related with
  | nil => exact fun _ inside => (List.not_mem_nil inside).elim
  | cons first _ ih =>
    refine List.forall_mem_cons.mpr ⟨⟨_, List.mem_cons_self, first⟩, fun x inside => ?_⟩
    obtain ⟨y, listed, here⟩ := ih x inside
    exact ⟨y, List.mem_cons_of_mem _ listed, here⟩

theorem forall₂_right {α β : Type*} {R : α → β → Prop} {xs : List α} {ys : List β} (related : List.Forall₂ R xs ys) :
    ∀ y ∈ ys, ∃ x ∈ xs, R x y :=
  forall₂_left (List.Forall₂.flip (R := fun y x => R x y) related)

/-- Every result is that of a call. -/
theorem mem_mapM {γ : Type*} {f : γ → Except ε α} (items : List γ) :
    ∀ {results : List α}, items.mapM f = .ok results → ∀ y ∈ results, ∃ x ∈ items, f x = .ok y := by
  induction items with
  | nil =>
    intro results run y inside
    cases run
    cases inside
  | cons x rest ih =>
    intro results run y inside
    rw [List.mapM_cons] at run
    cases first : f x with
    | error e =>
      rw [first] at run
      cases run
    | ok z =>
      cases others : rest.mapM f with
      | error e =>
        rw [first, others] at run
        cases run
      | ok zs =>
        rw [first, others] at run
        cases run
        rcases List.mem_cons.mp inside with rfl | later
        · exact ⟨x, List.mem_cons_self, first⟩
        · obtain ⟨x', listed, call⟩ := ih others y later
          exact ⟨x', List.mem_cons_of_mem _ listed, call⟩

end Usteer
