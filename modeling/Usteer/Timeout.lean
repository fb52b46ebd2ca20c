import Usteer.SearchTree
import Usteer.Words

/-!
The timeout queue (`timeout.c`): pending items in a search tree keyed by their
deadline, a 32-bit millisecond count, under a comparator relative to the clock
reading of the last insertion, and one event-loop timer for the whole queue. The
clock is a plain number of milliseconds; the code reads it modulo `2^32`
(`ampgrTimeoutCurrentTime`). The callback rereads the clock before every pass, so
it takes the successive readings as an argument, and a bound on its passes.
-/
namespace Usteer.Timeout
open SearchTree
set_option linter.unusedSectionVars false

variable {ι : Type} [DecidableEq ι]

/-- `struct usteer_timeout_queue`; `timer` is the instant at which the event-loop
    timer fires, when it is armed. -/
structure Queue (ι : Type) where
  tree : Index UInt32 ι
  cmpPtr : UInt32
  timer : Option Nat

/-- `usteer_timeout_init` -/
def usteerTimeoutInit : Queue ι := ⟨.leaf, 0, none⟩

/-- `usteer_timeout_cmp` -/
def usteerTimeoutCmp (ref k1 k2 : UInt32) : ℤ :=
  let t1 := (k1 - ref).toInt32
  let t2 := (k2 - ref).toInt32
  if t1 < t2 then -1 else if t1 > t2 then 1 else 0

/-- `usteer_timeout_delta` -/
def usteerTimeoutDelta (key time : UInt32) : Int32 := (key - time).toInt32

/-- `ampgr_timeout_current_time` -/
def ampgrTimeoutCurrentTime (clock : Nat) : UInt32 := UInt32.ofNat clock

namespace Queue

/-- The pending items in the order of the tree. -/
def items (q : Queue ι) : List (UInt32 × ι) := q.tree.toList

/-- `usteer_timeout_isset` -/
def usteerTimeoutIsset (q : Queue ι) (t : ι) : Bool := q.items.any (fun e => e.2 = t)

/-- `avl_is_first` -/
def isFirst (q : Queue ι) (t : ι) : Bool := q.items.head?.any (fun e => e.2 = t)

/-- `usteer_timeout_recalc`; `uloop_timeout_set` arms relative to the clock. -/
def usteerTimeoutRecalc (q : Queue ι) (clock : Nat) : Queue ι :=
  match q.items with
  | [] => { q with timer := none }
  | (key, _) :: _ =>
    let delta := usteerTimeoutDelta key (ampgrTimeoutCurrentTime clock)
    let delta := if delta < 1 then 1 else delta
    { q with timer := some (clock + delta.toNatClampNeg) }

/-- `usteer_timeout_cancel` -/
def usteerTimeoutCancel (b : Balancing UInt32 ι) (q : Queue ι) (t : ι) : Queue ι :=
  if q.usteerTimeoutIsset t then { q with tree := b.delete t q.tree } else q

/-- `usteer_timeout_set` -/
def usteerTimeoutSet (b : Balancing UInt32 ι) (q : Queue ι) (t : ι) (msecs : Int32) (clock : Nat) : Queue ι :=
  let time := ampgrTimeoutCurrentTime clock
  let val := time + msecs.toUInt32
  let wasFirst := q.usteerTimeoutIsset t && q.isFirst t
  let moved := { q.usteerTimeoutCancel b t with cmpPtr := time }
  let placed := { moved with tree := b.insert (usteerTimeoutCmp time) (val, t) moved.tree }
  if wasFirst || placed.isFirst t then placed.usteerTimeoutRecalc clock else placed

/-- One pass of `usteer_timeout_cb` over the items it found at its start: each item
    is taken off the queue and its callback runs, up to the first one not yet due.
    The callback touches no other item, so what is left to visit stays as it was. -/
def pass (b : Balancing UInt32 ι) (time : UInt32) : List (UInt32 × ι) → Queue ι → List ι × Queue ι
  | [], q => ([], q)
  | (key, t) :: rest, q =>
    if usteerTimeoutDelta key time > 0 then ([], q)
    else
      let (fired, q') := pass b time rest (q.usteerTimeoutCancel b t)
      (t :: fired, q')

/-- The passes of `usteer_timeout_cb`, until one fires nothing: what each pass fired,
    the last clock reading and the queue. -/
def passes (b : Balancing UInt32 ι) (clock : Nat → Nat) :
    Nat → Nat → Queue ι → Option (List (List ι) × Nat × Queue ι)
  | 0, _, _ => none
  | fuel + 1, i, q =>
    let (fired, q') := pass b (ampgrTimeoutCurrentTime (clock i)) q.items q
    if fired.isEmpty then some ([], clock i, q')
    else (passes b clock fuel (i + 1) q').map (fun (later, last, q'') => (fired :: later, last, q''))

/-- `usteer_timeout_cb`, entered when the timer has fired and so is no longer armed. -/
def usteerTimeoutCb (b : Balancing UInt32 ι) (clock : Nat → Nat) (fuel : Nat) (q : Queue ι) :
    Option (List (List ι) × Nat × Queue ι) :=
  (passes b clock fuel 0 { q with timer := none }).map
    (fun (fired, last, q') => (fired, last, q'.usteerTimeoutRecalc last))

/-! ### What the operations do to the pending items -/

theorem isset_iff (q : Queue ι) (t : ι) : q.usteerTimeoutIsset t = true ↔ ∃ key, (key, t) ∈ q.items := by
  simp only [usteerTimeoutIsset, List.any_eq_true, decide_eq_true_eq]
  constructor
  · rintro ⟨⟨key, t'⟩, inside, rfl⟩
    exact ⟨key, inside⟩
  · rintro ⟨key, inside⟩
    exact ⟨(key, t), inside, rfl⟩

@[simp] theorem items_recalc (q : Queue ι) (clock : Nat) : (q.usteerTimeoutRecalc clock).items = q.items := by
  unfold usteerTimeoutRecalc
  split <;> rfl

theorem tree_recalc (q : Queue ι) (clock : Nat) : (q.usteerTimeoutRecalc clock).tree = q.tree := by
  unfold usteerTimeoutRecalc
  split <;> rfl

theorem items_cancel (b : Balancing UInt32 ι) (q : Queue ι) (t : ι) :
    (q.usteerTimeoutCancel b t).items = q.items.filter (fun e => e.2 ≠ t) := by
  unfold usteerTimeoutCancel
  split
  · exact toList_delete b t q.tree
  · rename_i unset
    refine (List.filter_eq_self.mpr ?_).symm
    intro e inside
    simp only [usteerTimeoutIsset, List.any_eq_true, not_exists, not_and] at unset
    simpa using unset e inside

theorem mem_cancel (b : Balancing UInt32 ι) (q : Queue ι) (t : ι) (e : UInt32 × ι) :
    e ∈ (q.usteerTimeoutCancel b t).items ↔ e ∈ q.items ∧ e.2 ≠ t := by
  rw [items_cancel, List.mem_filter, decide_eq_true_eq]

theorem mem_set (b : Balancing UInt32 ι) (q : Queue ι) (t : ι) (msecs : Int32) (clock : Nat) (e : UInt32 × ι) :
    e ∈ (q.usteerTimeoutSet b t msecs clock).items ↔
      e = (ampgrTimeoutCurrentTime clock + msecs.toUInt32, t) ∨ (e ∈ q.items ∧ e.2 ≠ t) := by
  rw [← mem_cancel b q t e]
  simp only [usteerTimeoutSet]
  split
  · rw [items_recalc]
    exact mem_insert b _ _ _ e
  · exact mem_insert b _ _ _ e

/-- Setting leaves every item queued at most once. -/
theorem once_set (b : Balancing UInt32 ι) {q : Queue ι} (t : ι) (msecs : Int32) (clock : Nat)
    (once : (q.items.map Prod.snd).Nodup) : ((q.usteerTimeoutSet b t msecs clock).items.map Prod.snd).Nodup := by
  have fresh : (((ampgrTimeoutCurrentTime clock + msecs.toUInt32, t) :: (q.usteerTimeoutCancel b t).items).map
      Prod.snd).Nodup := by
    rw [List.map_cons, List.nodup_cons, items_cancel]
    refine ⟨?_, once.sublist (List.filter_sublist.map Prod.snd)⟩
    simp
  have placed := (perm_insert b (usteerTimeoutCmp (ampgrTimeoutCurrentTime clock))
    (ampgrTimeoutCurrentTime clock + msecs.toUInt32, t) (q.usteerTimeoutCancel b t).tree).map Prod.snd
  simp only [usteerTimeoutSet]
  split
  · rw [items_recalc]
    exact placed.nodup_iff.mpr fresh
  · exact placed.nodup_iff.mpr fresh

/-! ### What the callback fires and keeps -/

/-- The items of a pass: due ones of those it found, each at most once, which leave
    the queue and leave the others in it. -/
structure Fires (time : UInt32) (todo : List (UInt32 × ι)) (q : Queue ι) (fired : List ι) (q' : Queue ι) : Prop where
  due : ∀ t ∈ fired, ∃ key, (key, t) ∈ todo ∧ ¬ usteerTimeoutDelta key time > 0
  once : fired.Nodup
  items : q'.items = q.items.filter (fun e => e.2 ∉ fired)

theorem fires_pass (b : Balancing UInt32 ι) (time : UInt32) (todo : List (UInt32 × ι)) :
    ∀ q : Queue ι, (todo.map Prod.snd).Nodup → Fires time todo q (pass b time todo q).1 (pass b time todo q).2 := by
  induction todo with
  | nil => intro q _; exact ⟨by simp [pass], List.nodup_nil, by simp [pass]⟩
  | cons e rest ih =>
    obtain ⟨key, t⟩ := e
    intro q once
    rw [List.map_cons, List.nodup_cons] at once
    rw [pass]
    split
    · exact ⟨by simp, List.nodup_nil, by simp⟩
    · rename_i isDue
      have later := ih (q.usteerTimeoutCancel b t) once.2
      refine ⟨?_, ?_, ?_⟩
      · intro t' inside
        rcases List.mem_cons.mp inside with rfl | inside
        · exact ⟨key, List.mem_cons_self, isDue⟩
        · obtain ⟨key', listed, due'⟩ := later.due t' inside
          exact ⟨key', List.mem_cons_of_mem _ listed, due'⟩
      · refine List.nodup_cons.mpr ⟨fun inside => ?_, later.once⟩
        obtain ⟨key', listed, _⟩ := later.due t inside
        exact once.1 (List.mem_map.mpr ⟨(key', t), listed, rfl⟩)
      · rw [later.items, items_cancel, List.filter_filter]
        refine List.filter_congr fun e _ => ?_
        simp only [List.mem_cons, not_or, Bool.decide_and, ne_eq]
        exact Bool.and_comm _ _

/-- The passes of the callback at one clock reading end, and together fire due items,
    each at most once, and keep the others. -/
theorem fires_passes (b : Balancing UInt32 ι) (now : Nat) (fuel : Nat) :
    ∀ (i : Nat) (q : Queue ι), (q.items.map Prod.snd).Nodup → q.items.length < fuel →
      ∃ fired q', passes b (fun _ => now) fuel i q = some (fired, now, q') ∧
        Fires (ampgrTimeoutCurrentTime now) q.items q fired.flatten q' := by
  induction fuel with
  | zero => intro i q _ short; omega
  | succ fuel ih =>
    intro i q once short
    have one := fires_pass b (ampgrTimeoutCurrentTime now) q.items q once
    rw [passes]
    dsimp only
    split
    · rename_i none
      refine ⟨[], _, rfl, ⟨by simp, List.nodup_nil, ?_⟩⟩
      rw [one.items, List.isEmpty_iff.mp none]
      simp
    · rename_i some
      obtain ⟨t, inside⟩ := List.exists_mem_of_ne_nil _ (fun nil => some (List.isEmpty_iff.mpr nil))
      obtain ⟨key, listed, _⟩ := one.due t inside
      have shorter : (pass b (ampgrTimeoutCurrentTime now) q.items q).2.items.length < q.items.length := by
        rw [one.items]
        exact List.length_filter_lt_length_iff_exists.mpr ⟨(key, t), listed, by simpa using inside⟩
      have once' : ((pass b (ampgrTimeoutCurrentTime now) q.items q).2.items.map Prod.snd).Nodup := by
        rw [one.items]
        exact once.sublist (List.filter_sublist.map Prod.snd)
      obtain ⟨later, q', run, fires⟩ := ih (i + 1) _ once' (by omega)
      refine ⟨_, q', by rw [run]; rfl, ?_⟩
      rw [List.flatten_cons]
      have apart : ∀ t' ∈ later.flatten, t' ∉ (pass b (ampgrTimeoutCurrentTime now) q.items q).1 := by
        intro t' later' early
        obtain ⟨key', listed', _⟩ := fires.due t' later'
        rw [one.items] at listed'
        simp [early] at listed'
      refine ⟨?_, ?_, ?_⟩
      · intro t' inside'
        rcases List.mem_append.mp inside' with early | late
        · exact one.due t' early
        · obtain ⟨key', listed', due'⟩ := fires.due t' late
          rw [one.items] at listed'
          exact ⟨key', (List.mem_filter.mp listed').1, due'⟩
      · refine List.nodup_append.mpr ⟨one.once, fires.once, ?_⟩
        rintro t' early t'' late rfl
        exact apart t' late early
      · rw [fires.items, one.items, List.filter_filter]
        refine List.filter_congr fun e _ => ?_
        simp only [List.mem_append, not_or, Bool.decide_and]
        exact Bool.and_comm _ _

end Queue
end Usteer.Timeout
