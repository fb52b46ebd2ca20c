import Usteer.Timeout
import Mathlib.Logic.Function.Basic
import Mathlib.Data.List.Nodup

/-!
What the timeout queue is for: every pending item has a deadline on an unbounded
clock (`Deadlines`); setting, cancelling and expiring change that map in the
obvious way. The 32-bit queue keeps track of it (`Tracks`) through every run whose
deadlines are never overdue by half the counter's range (`Reachable`), so the
callback ends and fires exactly the due items in order (`callback_exact`), and a
queue with something pending always has its timer armed in time (`never_asleep`).
-/
namespace Usteer.Timeout
open SearchTree Words Queue
set_option linter.unusedSectionVars false

variable {ι : Type} [DecidableEq ι]

/-- The true deadline of every pending item. -/
abbrev Deadlines (ι : Type) := ι → Option Nat

/-- No pending deadline lies half the counter's range or more in the past. -/
def NotOverdue (D : Deadlines ι) (now : Nat) : Prop := ∀ t d, D t = some d → now < d + 2 ^ 31

/-- The items still pending after everything due at an instant has fired. -/
def Deadlines.after (D : Deadlines ι) (now : Nat) : Deadlines ι := fun t => (D t).filter (fun d => now < d)

/-- The rank that orders the tree: the true deadline. -/
def due (D : Deadlines ι) (e : UInt32 × ι) : ℤ := ((D e.2).getD 0 : ℕ)

/-- The queue holds exactly the pending items, keyed by their deadlines modulo
    `2^32` and ordered by the true ones. -/
structure Tracks (D : Deadlines ι) (q : Queue ι) (now : Nat) : Prop where
  distinct : (q.items.map Prod.snd).Nodup
  keyed : ∀ e ∈ q.items, ∃ d, D e.2 = some d ∧ e.1 = UInt32.ofNat d
  pending : ∀ t d, D t = some d → (UInt32.ofNat d, t) ∈ q.items
  ordered : Ordered (due D) q.tree
  ahead : ∀ t d, D t = some d → d < now + 2 ^ 31

/-- The timer of a queue with pending items is armed, and for no pending item later
    than both its deadline and the next millisecond. -/
def Awake (D : Deadlines ι) (q : Queue ι) (now : Nat) : Prop :=
  ∀ t d, D t = some d → ∃ a, q.timer = some a ∧ a ≤ max d (now + 1)

/-! ### Keys and deadlines -/

theorem delta_exact {d now : Nat} (ahead : d < now + 2 ^ 31) (late : now < d + 2 ^ 31) :
    (usteerTimeoutDelta (UInt32.ofNat d) (ampgrTimeoutCurrentTime now)).toInt = (d : ℤ) - now :=
  signed_distance ahead late

/-- Relative to a reference within reach, the comparator orders two keys as their
    deadlines. -/
theorem cmp_deadlines {now d e : Nat} (aheadD : d < now + 2 ^ 31) (lateD : now < d + 2 ^ 31)
    (aheadE : e < now + 2 ^ 31) (lateE : now < e + 2 ^ 31) :
    (usteerTimeoutCmp (ampgrTimeoutCurrentTime now) (UInt32.ofNat d) (UInt32.ofNat e) < 0 ↔ (d : ℤ) < e) ∧
      (0 < usteerTimeoutCmp (ampgrTimeoutCurrentTime now) (UInt32.ofNat d) (UInt32.ofNat e) ↔ (e : ℤ) < d) := by
  have first := delta_exact aheadD lateD
  have second := delta_exact aheadE lateE
  unfold usteerTimeoutDelta at first second
  simp only [usteerTimeoutCmp, GT.gt, Int32.lt_iff_toInt_lt, first, second]
  constructor
  · split
    · omega
    · split <;> omega
  · split
    · omega
    · split <;> omega

/-- The key written by `usteer_timeout_set` is the deadline modulo `2^32`. -/
theorem key_of_set (now : Nat) {msecs : Int32} (positive : 0 < msecs.toInt) :
    ampgrTimeoutCurrentTime now + msecs.toUInt32 = UInt32.ofNat (now + msecs.toNatClampNeg) := by
  have same : msecs.toUInt32 = UInt32.ofNat msecs.toNatClampNeg := by
    apply UInt32.toNat_inj.mp
    have bound := msecs.toInt_lt
    have reading : msecs.toInt = (msecs.toUInt32.toNat : ℤ).bmod (2 ^ 32) := by
      have := toInt_toInt32 msecs.toUInt32
      rwa [Int32.toInt32_toUInt32] at this
    have size := msecs.toUInt32.toNat_lt
    rw [Int.bmod_def] at reading
    rw [UInt32.toNat_ofNat']
    have clamp : (msecs.toNatClampNeg : ℤ) = msecs.toInt := by
      rw [Int32.toNatClampNeg, Int.toNat_of_nonneg positive.le]
    omega
  rw [same, ampgrTimeoutCurrentTime, UInt32.ofNat_add]

theorem clamp_toInt {x : Int32} (nonneg : 0 ≤ x.toInt) : (x.toNatClampNeg : ℤ) = x.toInt := by
  rw [Int32.toNatClampNeg, Int.toNat_of_nonneg nonneg]

/-! ### Each operation keeps track -/

theorem tracks_later {D : Deadlines ι} {q : Queue ι} {now later : Nat} (le : now ≤ later) (tracks : Tracks D q now) :
    Tracks D q later :=
  { tracks with ahead := fun t d at_t => (tracks.ahead t d at_t).trans_le (by omega) }

theorem tracks_init (now : Nat) : Tracks (fun _ => none) (usteerTimeoutInit : Queue ι) now where
  distinct := .nil
  keyed := by intro e inside; cases inside
  pending := by intro t d absurdity; cases absurdity
  ordered := ordered_leaf
  ahead := by intro t d absurdity; cases absurdity

/-- What `usteer_timeout_recalc` and the callback's first step change is not tracked. -/
theorem tracks_congr {D : Deadlines ι} {q q' : Queue ι} {now : Nat} (same : q'.tree = q.tree)
    (tracks : Tracks D q now) : Tracks D q' now where
  distinct := by unfold items; rw [same]; exact tracks.distinct
  keyed := by unfold items; rw [same]; exact tracks.keyed
  pending := by unfold items; rw [same]; exact tracks.pending
  ordered := by rw [same]; exact tracks.ordered
  ahead := tracks.ahead

/-- What is pending once an item is not. -/
theorem update_none_some {D : Deadlines ι} {s t : ι} {d : Nat} :
    Function.update D t none s = some d ↔ s ≠ t ∧ D s = some d := by
  by_cases same : s = t
  · subst same
    simp
  · simp [same]

theorem notOverdue_cancel {D : Deadlines ι} {now : Nat} (t : ι) (inTime : NotOverdue D now) :
    NotOverdue (Function.update D t none) now :=
  fun s d at_s => inTime s d (update_none_some.mp at_s).2

theorem notOverdue_set {D : Deadlines ι} {now msecs : Nat} {t : ι} (inTime : NotOverdue D now) :
    NotOverdue (Function.update D t (some (now + msecs))) now := by
  intro s d at_s
  by_cases same : s = t
  · subst same
    rw [Function.update_self] at at_s
    cases at_s
    omega
  · rw [Function.update_of_ne same] at at_s
    exact inTime s d at_s

theorem ordered_cancel (b : Balancing UInt32 ι) {rank : UInt32 × ι → ℤ} {q : Queue ι} (t : ι)
    (ordered : Ordered rank q.tree) : Ordered rank (q.usteerTimeoutCancel b t).tree := by
  unfold usteerTimeoutCancel
  split
  · exact ordered_delete b t ordered
  · exact ordered

theorem due_update_ne {D : Deadlines ι} {t : ι} {v : Option Nat} {e : UInt32 × ι} (ne : e.2 ≠ t) :
    due (Function.update D t v) e = due D e := by
  unfold due
  rw [Function.update_of_ne ne]

theorem tracks_cancel (b : Balancing UInt32 ι) {D : Deadlines ι} {q : Queue ι} {now : Nat} (t : ι)
    (tracks : Tracks D q now) : Tracks (Function.update D t none) (q.usteerTimeoutCancel b t) now where
  distinct := by
    rw [items_cancel]
    exact tracks.distinct.sublist (List.filter_sublist.map _)
  keyed := by
    intro e inside
    obtain ⟨inQ, ne⟩ := (mem_cancel b q t e).mp inside
    rw [Function.update_of_ne ne]
    exact tracks.keyed e inQ
  pending := by
    intro s d at_s
    obtain ⟨ne, at_s⟩ := update_none_some.mp at_s
    exact (mem_cancel b q t _).mpr ⟨tracks.pending s d at_s, ne⟩
  ordered := by
    refine ordered_congr ?_ (ordered_cancel b t tracks.ordered)
    intro e inside
    exact (due_update_ne ((mem_cancel b q t e).mp inside).2).symm
  ahead := fun s d at_s => tracks.ahead s d (update_none_some.mp at_s).2

/-- Arming an item that is not pending. -/
theorem tracks_insert (b : Balancing UInt32 ι) {D : Deadlines ι} {q : Queue ι} {now : Nat} {t : ι} {msecs : Int32}
    (idle : D t = none) (tracks : Tracks D q now) (inTime : NotOverdue D now) (positive : 0 < msecs.toInt) :
    Tracks (Function.update D t (some (now + msecs.toNatClampNeg)))
      { q with tree := b.insert (usteerTimeoutCmp (ampgrTimeoutCurrentTime now))
                (UInt32.ofNat (now + msecs.toNatClampNeg), t) q.tree } now := by
  have away : ∀ e ∈ q.items, e.2 ≠ t := by
    intro e inside same
    obtain ⟨d, at_e, _⟩ := tracks.keyed e inside
    rw [same, idle] at at_e
    cases at_e
  have span := clamp_toInt positive.le
  have bound := msecs.toInt_lt
  have mem : ∀ e, e ∈ (b.insert (usteerTimeoutCmp (ampgrTimeoutCurrentTime now))
      (UInt32.ofNat (now + msecs.toNatClampNeg), t) q.tree).toList ↔
      e = (UInt32.ofNat (now + msecs.toNatClampNeg), t) ∨ e ∈ q.items := fun e => mem_insert b _ _ _ e
  refine ⟨?_, ?_, ?_, ?_, ?_⟩
  · refine (((perm_insert b _ _ q.tree).map Prod.snd).nodup_iff).mpr ?_
    refine List.nodup_cons.mpr ⟨?_, tracks.distinct⟩
    intro inside
    obtain ⟨e, inQ, same⟩ := List.mem_map.mp inside
    exact away e inQ same
  · intro e inside
    rcases (mem e).mp inside with rfl | inQ
    · exact ⟨_, by simp, rfl⟩
    · rw [Function.update_of_ne (away e inQ)]
      exact tracks.keyed e inQ
  · intro s d at_s
    refine (mem _).mpr ?_
    by_cases same : s = t
    · subst same
      rw [Function.update_self] at at_s
      cases at_s
      exact .inl rfl
    · rw [Function.update_of_ne same] at at_s
      exact .inr (tracks.pending s d at_s)
  · refine ordered_insert b (ordered_congr (fun e inside => (due_update_ne (away e inside)).symm) tracks.ordered) ?_
    intro e inside
    obtain ⟨d, at_e, key⟩ := tracks.keyed e inside
    rw [due_update_ne (away e inside), key]
    simp only [due, at_e, Function.update_self, Option.getD_some]
    exact cmp_deadlines (by omega) (by omega) (tracks.ahead e.2 d at_e) (inTime e.2 d at_e)
  · intro s d at_s
    by_cases same : s = t
    · subst same
      rw [Function.update_self] at at_s
      cases at_s
      omega
    · rw [Function.update_of_ne same] at at_s
      exact tracks.ahead s d at_s

/-- What `usteer_timeout_set` inserts into: the queue without the item, under the new
    reference, and what it is then left with before the timer is considered. -/
def placed (b : Balancing UInt32 ι) (q : Queue ι) (t : ι) (msecs : Int32) (now : Nat) : Queue ι :=
  { (q.usteerTimeoutCancel b t) with
    cmpPtr := ampgrTimeoutCurrentTime now
    tree := b.insert (usteerTimeoutCmp (ampgrTimeoutCurrentTime now))
      (ampgrTimeoutCurrentTime now + msecs.toUInt32, t) (q.usteerTimeoutCancel b t).tree }

theorem set_eq (b : Balancing UInt32 ι) (q : Queue ι) (t : ι) (msecs : Int32) (now : Nat) :
    q.usteerTimeoutSet b t msecs now =
      if (q.usteerTimeoutIsset t && q.isFirst t || (placed b q t msecs now).isFirst t) = true
      then (placed b q t msecs now).usteerTimeoutRecalc now else placed b q t msecs now := rfl

theorem tracks_placed (b : Balancing UInt32 ι) {D : Deadlines ι} {q : Queue ι} {now : Nat} {t : ι} {msecs : Int32}
    (tracks : Tracks D q now) (inTime : NotOverdue D now) (positive : 0 < msecs.toInt) :
    Tracks (Function.update D t (some (now + msecs.toNatClampNeg))) (placed b q t msecs now) now := by
  have removed := tracks_cancel b t tracks
  have inserted := tracks_insert b (by simp) removed (notOverdue_cancel t inTime) positive (t := t)
  rw [Function.update_idem] at inserted
  refine tracks_congr ?_ inserted
  rw [placed, key_of_set now positive]

theorem tracks_set (b : Balancing UInt32 ι) {D : Deadlines ι} {q : Queue ι} {now : Nat} {t : ι} {msecs : Int32}
    (tracks : Tracks D q now) (inTime : NotOverdue D now) (positive : 0 < msecs.toInt) :
    Tracks (Function.update D t (some (now + msecs.toNatClampNeg))) (q.usteerTimeoutSet b t msecs now) now := by
  have here := tracks_placed b tracks inTime positive (t := t)
  rw [set_eq]
  split
  · exact tracks_congr (tree_recalc _ _) here
  · exact here

/-! ### The timer -/

/-- The first item of the tree is due no later than any other. -/
theorem head_earliest {D : Deadlines ι} {q : Queue ι} {now : Nat} (tracks : Tracks D q now) {e : UInt32 × ι}
    {rest : List (UInt32 × ι)} (items_eq : q.items = e :: rest) :
    ∃ d, D e.2 = some d ∧ e.1 = UInt32.ofNat d ∧ ∀ t d', D t = some d' → d ≤ d' := by
  obtain ⟨d, at_e, key⟩ := tracks.keyed e (by simp [items_eq])
  refine ⟨d, at_e, key, ?_⟩
  intro t d' at_t
  have inside := tracks.pending t d' at_t
  have sorted : (e :: rest).Pairwise (fun a b => due D a ≤ due D b) := by
    rw [← items_eq]
    exact sorted_toList tracks.ordered
  rw [items_eq] at inside
  rcases List.mem_cons.mp inside with same | later
  · rw [← same] at at_e
    rw [at_t] at at_e
    cases at_e
    exact le_refl _
  · have le := (List.pairwise_cons.mp sorted).1 _ later
    simp only [due, at_e, at_t, Option.getD_some] at le
    omega

theorem awake_recalc {D : Deadlines ι} {q : Queue ι} {now : Nat} (tracks : Tracks D q now) (inTime : NotOverdue D now) :
    Awake D (q.usteerTimeoutRecalc now) now := by
  intro t d at_t
  unfold usteerTimeoutRecalc
  split
  · rename_i empty
    have inside := tracks.pending t d at_t
    rw [empty] at inside
    cases inside
  · rename_i key s rest items_eq
    obtain ⟨d', at_s, rfl, least⟩ := head_earliest tracks items_eq
    refine ⟨_, rfl, ?_⟩
    have exact' := delta_exact (tracks.ahead s d' at_s) (inTime s d' at_s)
    have le := least t d at_t
    split
    · have one : (1 : Int32).toNatClampNeg = 1 := by decide
      rw [one]
      omega
    · rename_i ge
      rw [Int32.lt_iff_toInt_lt, exact'] at ge
      have one : (1 : Int32).toInt = 1 := by decide
      have clamp := clamp_toInt (x := usteerTimeoutDelta (UInt32.ofNat d') (ampgrTimeoutCurrentTime now)) (by omega)
      omega

theorem awake_later {D : Deadlines ι} {q : Queue ι} {now later : Nat} (le : now ≤ later) (awake : Awake D q now) :
    Awake D q later := by
  intro t d at_t
  obtain ⟨a, armed, bound⟩ := awake t d at_t
  exact ⟨a, armed, by omega⟩

@[simp] theorem timer_cancel (b : Balancing UInt32 ι) (q : Queue ι) (t : ι) :
    (q.usteerTimeoutCancel b t).timer = q.timer := by
  unfold usteerTimeoutCancel
  split <;> rfl

theorem awake_cancel (b : Balancing UInt32 ι) {D : Deadlines ι} {q : Queue ι} {now : Nat} (t : ι)
    (awake : Awake D q now) : Awake (Function.update D t none) (q.usteerTimeoutCancel b t) now := by
  intro s d at_s
  rw [timer_cancel]
  exact awake s d (update_none_some.mp at_s).2

/-- When neither the old nor the new first item is the one that was set, the timer is
    left as it was: the first item is still there and still the earliest. -/
theorem awake_set (b : Balancing UInt32 ι) {D : Deadlines ι} {q : Queue ι} {now : Nat} {t : ι} {msecs : Int32}
    (tracks : Tracks D q now) (inTime : NotOverdue D now) (positive : 0 < msecs.toInt) (awake : Awake D q now) :
    Awake (Function.update D t (some (now + msecs.toNatClampNeg))) (q.usteerTimeoutSet b t msecs now) now := by
  have here := tracks_placed b tracks inTime positive (t := t)
  rw [set_eq]
  split
  · exact awake_recalc here (notOverdue_set inTime)
  · rename_i notFirst
    simp only [Bool.or_eq_true, not_or] at notFirst
    intro s d at_s
    have timer : (placed b q t msecs now).timer = q.timer := timer_cancel b q t
    rw [timer]
    cases items_eq : (placed b q t msecs now).items with
    | nil =>
      have inside := here.pending s d at_s
      rw [items_eq] at inside
      cases inside
    | cons e rest =>
      obtain ⟨d', at_e, _, least⟩ := head_earliest here items_eq
      have other : e.2 ≠ t := by
        intro same
        apply notFirst.2
        simp [isFirst, items_eq, same]
      rw [Function.update_of_ne other] at at_e
      obtain ⟨a, armed, bound⟩ := awake e.2 d' at_e
      have le := least s d at_s
      exact ⟨a, armed, by omega⟩

/-! ### The callback -/

theorem after_of_late {D : Deadlines ι} {now : Nat} (late : ∀ t d, D t = some d → now < d) : D.after now = D := by
  funext t
  unfold Deadlines.after
  cases at_t : D t with
  | none => rfl
  | some d => simp [late t d at_t]

theorem after_eq_some {D : Deadlines ι} {now : Nat} {t : ι} {d : Nat} :
    D.after now t = some d ↔ D t = some d ∧ now < d := by
  unfold Deadlines.after
  rw [Option.filter_eq_some_iff, decide_eq_true_eq]

/-- What one pass over the whole queue does at one clock reading. -/
structure PassSpec (D : Deadlines ι) (now : Nat) (q : Queue ι) (fired : List ι) (q' : Queue ι) : Prop where
  tracks : Tracks (D.after now) q' now
  timer : q'.timer = q.timer
  left : q'.items.length + fired.length = q.items.length
  fires : ∀ t, t ∈ fired ↔ ∃ d, D t = some d ∧ d ≤ now
  once : fired.Nodup
  inOrder : fired.Pairwise (fun s t => ∀ d e, D s = some d → D t = some e → d ≤ e)

theorem pass_spec (b : Balancing UInt32 ι) {now : Nat} (todo : List (UInt32 × ι)) :
    ∀ (D : Deadlines ι) (q : Queue ι), q.items = todo → Tracks D q now → NotOverdue D now →
      PassSpec D now q (pass b (ampgrTimeoutCurrentTime now) todo q).1
        (pass b (ampgrTimeoutCurrentTime now) todo q).2 := by
  induction todo with
  | nil =>
    intro D q items_eq tracks _
    have none : ∀ t d, D t = some d → False := by
      intro t d at_t
      have inside := tracks.pending t d at_t
      rw [items_eq] at inside
      cases inside
    refine ⟨?_, rfl, by simp [Queue.pass], ?_, .nil, .nil⟩
    · rw [after_of_late (fun t d at_t => (none t d at_t).elim)]
      exact tracks
    · intro t
      simp only [Queue.pass, List.not_mem_nil, false_iff]
      rintro ⟨d, at_t, _⟩
      exact none t d at_t
  | cons e rest ih =>
    intro D q items_eq tracks inTime
    obtain ⟨key, s⟩ := e
    obtain ⟨d, at_s, rfl, least⟩ := head_earliest tracks items_eq
    have delta := delta_exact (tracks.ahead s d at_s) (inTime s d at_s)
    have zero : (0 : Int32).toInt = 0 := by decide
    simp only [Queue.pass, GT.gt, Int32.lt_iff_toInt_lt, delta, zero]
    split
    · rename_i notDue
      have late : ∀ t d', D t = some d' → now < d' := by
        intro t d' at_t
        have := least t d' at_t
        omega
      refine ⟨?_, rfl, by simp, ?_, .nil, .nil⟩
      · rw [after_of_late late]
        exact tracks
      · intro t
        simp only [List.not_mem_nil, false_iff]
        rintro ⟨d', at_t, le⟩
        have := late t d' at_t
        omega
    · rename_i isDue
      have restItems : (q.usteerTimeoutCancel b s).items = rest := by
        have distinct := tracks.distinct
        rw [items_eq, List.map_cons, List.nodup_cons] at distinct
        rw [items_cancel, items_eq, List.filter_cons_of_neg (by simp)]
        refine List.filter_eq_self.mpr ?_
        intro e inside
        have ne : e.2 ≠ s := fun same => distinct.1 (List.mem_map.mpr ⟨e, inside, same⟩)
        simpa using ne
      have spec := ih _ _ restItems (tracks_cancel b s tracks) (notOverdue_cancel s inTime)
      have sameAfter : Deadlines.after (Function.update D s none) now = D.after now := by
        funext t
        ext d'
        rw [after_eq_some, after_eq_some, update_none_some]
        constructor
        · rintro ⟨⟨_, at_t⟩, late⟩
          exact ⟨at_t, late⟩
        · rintro ⟨at_t, late⟩
          refine ⟨⟨?_, at_t⟩, late⟩
          rintro rfl
          rw [at_s] at at_t
          cases at_t
          omega
      refine ⟨?_, ?_, ?_, ?_, ?_, ?_⟩
      · rw [← sameAfter]
        exact spec.tracks
      · rw [spec.timer, timer_cancel]
      · have left := spec.left
        rw [restItems] at left
        simp only [items_eq, List.length_cons]
        omega
      · intro t
        rw [List.mem_cons, spec.fires]
        by_cases same : t = s
        · subst same
          simp only [true_or, true_iff]
          exact ⟨d, at_s, by omega⟩
        · simp only [same, false_or, Function.update_of_ne same]
      · refine List.nodup_cons.mpr ⟨?_, spec.once⟩
        rw [spec.fires]
        rintro ⟨d', at_s', _⟩
        exact (update_none_some.mp at_s').1 rfl
      · refine List.pairwise_cons.mpr ⟨?_, ?_⟩
        · intro t _ d1 d2 at_s' at_t
          rw [at_s] at at_s'
          cases at_s'
          exact least t d2 at_t
        · refine spec.inOrder.imp_of_mem ?_
          intro t u inT inU ordered d1 d2 at_t at_u
          have ne : ∀ v ∈ (pass b (ampgrTimeoutCurrentTime now) rest (q.usteerTimeoutCancel b s)).1, v ≠ s := by
            intro v inside
            obtain ⟨d', at_v, _⟩ := (spec.fires v).mp inside
            exact (update_none_some.mp at_v).1
          exact ordered d1 d2 (update_none_some.mpr ⟨ne t inT, at_t⟩) (update_none_some.mpr ⟨ne u inU, at_u⟩)

theorem after_after {D : Deadlines ι} {now later : Nat} (le : now ≤ later) : (D.after now).after later = D.after later := by
  funext t
  ext d
  rw [after_eq_some, after_eq_some, after_eq_some]
  constructor
  · rintro ⟨⟨at_t, _⟩, late⟩
    exact ⟨at_t, late⟩
  · rintro ⟨at_t, late⟩
    exact ⟨⟨at_t, by omega⟩, late⟩

/-- At every clock reading from the `i`-th on, nothing still pending is overdue by
    half the counter's range. -/
def ReadsInTime (D : Deadlines ι) (clock : Nat → Nat) (i : Nat) : Prop :=
  ∀ j, i ≤ j → ∀ t d, D t = some d → (∀ k, i ≤ k → k < j → clock k < d) → clock j < d + 2 ^ 31

theorem readsInTime_next {D : Deadlines ι} {clock : Nat → Nat} {i : Nat} (reads : ReadsInTime D clock i) :
    ReadsInTime (D.after (clock i)) clock (i + 1) := by
  intro j le t d at_t before
  obtain ⟨at_t, late⟩ := after_eq_some.mp at_t
  refine reads j (by omega) t d at_t ?_
  intro k low high
  by_cases first : k = i
  · subst first
    exact late
  · exact before k (by omega) high

/-- What the passes from the `i`-th clock reading on do: everything due at the last
    reading fires, once, in order within a pass and not before its deadline. -/
structure PassesSpec (D : Deadlines ι) (clock : Nat → Nat) (i : Nat) (fired : List (List ι)) (last : Nat)
    (q' : Queue ι) : Prop where
  last_eq : last = clock (i + fired.length)
  tracks : Tracks (D.after last) q' last
  fires : ∀ t, t ∈ fired.flatten ↔ ∃ d, D t = some d ∧ d ≤ last
  once : fired.flatten.Nodup
  inOrder : ∀ pass ∈ fired, pass.Pairwise (fun s t => ∀ d e, D s = some d → D t = some e → d ≤ e)
  notEarly : ∀ j pass, fired[j]? = some pass → ∀ t ∈ pass, ∃ d, D t = some d ∧ d ≤ clock (i + j)

theorem passes_spec (b : Balancing UInt32 ι) {clock : Nat → Nat} (forward : Monotone clock) (fuel : Nat) :
    ∀ (i : Nat) (D : Deadlines ι) (q : Queue ι), q.items.length < fuel → Tracks D q (clock i) →
      ReadsInTime D clock i →
      ∃ fired last q', passes b clock fuel i q = some (fired, last, q') ∧ PassesSpec D clock i fired last q' := by
  induction fuel with
  | zero => intro i D q short; omega
  | succ fuel ih =>
    intro i D q short tracks reads
    have inTime : NotOverdue D (clock i) := fun t d at_t => reads i (le_refl _) t d at_t (by omega)
    have spec := pass_spec b q.items D q rfl tracks inTime
    rw [passes]
    cases passed : pass b (ampgrTimeoutCurrentTime (clock i)) q.items q with
    | mk fired q1 =>
      rw [passed] at spec
      dsimp only at spec ⊢
      cases fired with
      | nil =>
        refine ⟨[], clock i, q1, rfl, rfl, spec.tracks, ?_, .nil, by simp, by simp⟩
        simpa using spec.fires
      | cons s more =>
        have shorter : q1.items.length < fuel := by
          have := spec.left
          rw [List.length_cons] at this
          omega
        have next := tracks_later (forward (Nat.le_succ i)) spec.tracks
        obtain ⟨fired', last, q', run, spec'⟩ := ih (i + 1) (D.after (clock i)) q1 shorter next (readsInTime_next reads)
        have le : clock i ≤ last := by
          rw [spec'.last_eq]
          exact forward (by omega)
        refine ⟨(s :: more) :: fired', last, q', by simp [run], ?_, ?_, ?_, ?_, ?_, ?_⟩
        · rw [spec'.last_eq, List.length_cons]
          congr 1
          omega
        · rw [← after_after le]
          exact spec'.tracks
        · intro t
          rw [List.flatten_cons, List.mem_append, spec.fires, spec'.fires]
          constructor
          · rintro (⟨d, at_t, now⟩ | ⟨d, at_t, now⟩)
            · exact ⟨d, at_t, by omega⟩
            · exact ⟨d, (after_eq_some.mp at_t).1, now⟩
          · rintro ⟨d, at_t, now⟩
            by_cases first : d ≤ clock i
            · exact .inl ⟨d, at_t, first⟩
            · exact .inr ⟨d, after_eq_some.mpr ⟨at_t, by omega⟩, now⟩
        · rw [List.flatten_cons]
          refine List.nodup_append.mpr ⟨spec.once, spec'.once, ?_⟩
          intro t inFirst u inLater same
          subst same
          obtain ⟨d, at_t, now⟩ := (spec.fires t).mp inFirst
          obtain ⟨d', at_t', _⟩ := (spec'.fires t).mp inLater
          obtain ⟨at_t', late⟩ := after_eq_some.mp at_t'
          rw [at_t] at at_t'
          cases at_t'
          omega
        · intro pass inside
          rcases List.mem_cons.mp inside with rfl | later
          · exact spec.inOrder
          · refine (spec'.inOrder pass later).imp_of_mem ?_
            intro t u inT inU ordered d e at_t at_u
            have still : ∀ v ∈ pass, ∀ d, D v = some d → D.after (clock i) v = some d := by
              intro v inV d at_v
              obtain ⟨d', at_v', _⟩ := (spec'.fires v).mp (List.mem_flatten.mpr ⟨pass, later, inV⟩)
              rw [at_v', ← (after_eq_some.mp at_v').1, at_v]
            exact ordered d e (still t inT d at_t) (still u inU e at_u)
        · intro j pass at_j t inside
          cases j with
          | zero =>
            cases at_j
            exact (spec.fires t).mp inside
          | succ j =>
            obtain ⟨d, at_t, now⟩ := spec'.notEarly j pass at_j t inside
            have shift : i + (j + 1) = i + 1 + j := by omega
            exact ⟨d, (after_eq_some.mp at_t).1, by rw [shift]; exact now⟩

/-- More fuel does not change the result. -/
theorem passes_fuel (b : Balancing UInt32 ι) (clock : Nat → Nat) {fuel : Nat} :
    ∀ {more i : Nat} {q : Queue ι} {r : List (List ι) × Nat × Queue ι}, fuel ≤ more →
      passes b clock fuel i q = some r → passes b clock more i q = some r := by
  induction fuel with
  | zero => intro more i q r _ run; cases run
  | succ fuel ih =>
    intro more i q r le run
    obtain ⟨more, rfl⟩ := Nat.exists_eq_add_of_lt le
    rw [passes] at run ⊢
    dsimp only at run ⊢
    split at run
    · rename_i empty
      rw [if_pos empty]
      exact run
    · rename_i some
      rw [if_neg some]
      obtain ⟨r', run', image⟩ := Option.map_eq_some_iff.mp run
      rw [ih (by omega) run', Option.map_some, image]

/-! ### Runs -/

/-- The queues, with the true deadlines and the clock, that a run of setting,
    cancelling and expiring reaches while nothing pending is ever overdue by half
    the counter's range. -/
inductive Reachable (b : Balancing UInt32 ι) : Queue ι → Deadlines ι → Nat → Prop where
  | init (now : Nat) : Reachable b usteerTimeoutInit (fun _ => none) now
  | wait {q D now later} : Reachable b q D now → now ≤ later → NotOverdue D later → Reachable b q D later
  | set {q D now} (t : ι) (msecs : Int32) : Reachable b q D now → 0 < msecs.toInt →
      Reachable b (q.usteerTimeoutSet b t msecs now) (Function.update D t (some (now + msecs.toNatClampNeg))) now
  | cancel {q D now} (t : ι) : Reachable b q D now →
      Reachable b (q.usteerTimeoutCancel b t) (Function.update D t none) now
  | cb {q D now fuel fired last q'} (clock : Nat → Nat) : Reachable b q D now → Monotone clock → now ≤ clock 0 →
      ReadsInTime D clock 0 → q.usteerTimeoutCb b clock fuel = some (fired, last, q') →
      Reachable b q' (D.after last) last

/-- What the callback does to a queue that keeps track. -/
theorem callback_spec (b : Balancing UInt32 ι) {q : Queue ι} {D : Deadlines ι} {now : Nat} (tracks : Tracks D q now)
    {clock : Nat → Nat} (forward : Monotone clock) (start : now ≤ clock 0) (reads : ReadsInTime D clock 0) :
    ∃ fired last q', (∀ fuel, q.items.length < fuel → q.usteerTimeoutCb b clock fuel = some (fired, last, q')) ∧
      PassesSpec D clock 0 fired last q' ∧ Awake (D.after last) q' last := by
  have disarmed : Tracks D { q with timer := none } (clock 0) := tracks_congr (q := q) rfl (tracks_later start tracks)
  obtain ⟨fired, last, q1, run, spec⟩ :=
    passes_spec b forward (q.items.length + 1) 0 D { q with timer := none } (Nat.lt_succ_self _) disarmed reads
  refine ⟨fired, last, q1.usteerTimeoutRecalc last, ?_, ?_, ?_⟩
  · intro fuel enough
    rw [usteerTimeoutCb, passes_fuel b clock enough run]
    rfl
  · exact { spec with tracks := tracks_congr (tree_recalc _ _) spec.tracks }
  · refine awake_recalc spec.tracks ?_
    intro t d at_t
    have := (after_eq_some.mp at_t).2
    omega

/-- A run that returned did so with the result of every sufficient fuel. -/
theorem callback_unique (b : Balancing UInt32 ι) {q : Queue ι} {clock : Nat → Nat} {fuel : Nat}
    {r : List (List ι) × Nat × Queue ι} (run : q.usteerTimeoutCb b clock fuel = some r) {more : Nat}
    (le : fuel ≤ more) : q.usteerTimeoutCb b clock more = some r := by
  unfold usteerTimeoutCb at run ⊢
  obtain ⟨r', run', image⟩ := Option.map_eq_some_iff.mp run
  rw [passes_fuel b clock le run', Option.map_some, image]

theorem reachable_tracks {b : Balancing UInt32 ι} {q : Queue ι} {D : Deadlines ι} {now : Nat}
    (reach : Reachable b q D now) : Tracks D q now ∧ NotOverdue D now ∧ Awake D q now := by
  induction reach with
  | init now =>
    refine ⟨tracks_init now, ?_, ?_⟩
    · intro t d absurdity
      cases absurdity
    · intro t d absurdity
      cases absurdity
  | wait _ le inTime ih =>
    obtain ⟨tracks, _, awake⟩ := ih
    exact ⟨tracks_later le tracks, inTime, awake_later le awake⟩
  | @set q D now t msecs _ positive ih =>
    obtain ⟨tracks, inTime, awake⟩ := ih
    refine ⟨tracks_set b tracks inTime positive, ?_, awake_set b tracks inTime positive awake⟩
    exact notOverdue_set inTime
  | cancel t _ ih =>
    obtain ⟨tracks, inTime, awake⟩ := ih
    exact ⟨tracks_cancel b t tracks, notOverdue_cancel t inTime, awake_cancel b t awake⟩
  | @cb q D now fuel fired last q' clock _ forward start reads run ih =>
    obtain ⟨fired', last', q'', runs, spec, awake⟩ := callback_spec b ih.1 forward start reads
    have same := callback_unique b run (Nat.le_max_left fuel (q.items.length + 1))
    rw [runs _ (by omega)] at same
    cases same
    refine ⟨spec.tracks, ?_, awake⟩
    intro t d at_t
    have := (after_eq_some.mp at_t).2
    omega

/-- The callback ends; it fires every pending item whose deadline is at or before its
    last clock reading exactly once, in deadline order within a pass and never
    before its deadline, and every other item stays pending. -/
theorem callback_exact (b : Balancing UInt32 ι) {q : Queue ι} {D : Deadlines ι} {now : Nat} (reach : Reachable b q D now)
    {clock : Nat → Nat} (forward : Monotone clock) (start : now ≤ clock 0) (reads : ReadsInTime D clock 0) :
    ∃ fired last q', (∀ fuel, q.items.length < fuel → q.usteerTimeoutCb b clock fuel = some (fired, last, q')) ∧
      last = clock fired.length ∧
      (∀ t d, D t = some d → d ≤ last → fired.flatten.count t = 1) ∧
      (∀ t ∈ fired.flatten, ∃ d, D t = some d ∧ d ≤ last) ∧
      (∀ pass ∈ fired, pass.Pairwise (fun s t => ∀ d e, D s = some d → D t = some e → d ≤ e)) ∧
      (∀ j pass, fired[j]? = some pass → ∀ t ∈ pass, ∃ d, D t = some d ∧ d ≤ clock j) ∧
      (∀ e, e ∈ q'.items ↔ e ∈ q.items ∧ ∃ d, D e.2 = some d ∧ last < d) := by
  obtain ⟨tracks, _, _⟩ := reachable_tracks reach
  obtain ⟨fired, last, q', runs, spec, _⟩ := callback_spec b tracks forward start reads
  refine ⟨fired, last, q', runs, by simpa using spec.last_eq, ?_, fun t inside => (spec.fires t).mp inside,
    spec.inOrder, by simpa using spec.notEarly, ?_⟩
  · intro t d at_t due
    exact List.count_eq_one_of_mem spec.once ((spec.fires t).mpr ⟨d, at_t, due⟩)
  · intro e
    constructor
    · intro inside
      obtain ⟨d, at_e, key⟩ := spec.tracks.keyed e inside
      obtain ⟨at_e, late⟩ := after_eq_some.mp at_e
      refine ⟨?_, d, at_e, late⟩
      have here := tracks.pending e.2 d at_e
      rwa [← key] at here
    · rintro ⟨inside, d, at_e, late⟩
      obtain ⟨d', at_e', key⟩ := tracks.keyed e inside
      rw [at_e] at at_e'
      cases at_e'
      have there := spec.tracks.pending e.2 d (after_eq_some.mpr ⟨at_e, late⟩)
      rwa [← key] at there

/-- Two items set shortly before the 32-bit counter wraps, due on either side of it. -/
def acrossWrap : Queue Nat :=
  (usteerTimeoutInit.usteerTimeoutSet avl 0 3 4294967291).usteerTimeoutSet avl 1 10 4294967291

def acrossWrapDue : Deadlines Nat :=
  Function.update (Function.update (fun _ => none) 0 (some (4294967291 + (3 : Int32).toNatClampNeg))) 1
    (some (4294967291 + (10 : Int32).toNatClampNeg))

theorem acrossWrap_reachable : Reachable avl acrossWrap acrossWrapDue 4294967291 :=
  .set 1 10 (.set 0 3 (.init _) (by decide)) (by decide)

theorem acrossWrap_reads : ReadsInTime acrossWrapDue (fun _ => 4294967297) 0 := by
  intro j _ t d at_t _
  have late : 4294967291 ≤ d := by
    unfold acrossWrapDue at at_t
    by_cases one : t = 1
    · subst one
      rw [Function.update_self] at at_t
      cases at_t
      exact Nat.le_add_right _ _
    · rw [Function.update_of_ne one] at at_t
      by_cases zero : t = 0
      · subst zero
        rw [Function.update_self] at at_t
        cases at_t
        exact Nat.le_add_right _ _
      · rw [Function.update_of_ne zero] at at_t
        cases at_t
  show 4294967297 < d + 2 ^ 31
  omega

theorem callback_exact_across_wrap :
    acrossWrap.items.length < 3 ∧ ∃ fired last q',
      acrossWrap.usteerTimeoutCb avl (fun _ => 4294967297) 3 = some (fired, last, q') ∧ last = 4294967297 ∧
      fired.flatten.count 0 = 1 ∧ q'.usteerTimeoutIsset 1 = true := by
  have short : acrossWrap.items.length < 3 := by decide +kernel
  have still : Monotone (fun _ : Nat => 4294967297) := fun _ _ _ => le_refl _
  obtain ⟨fired, last, q', runs, last_eq, fires, _, _, _, left⟩ :=
    callback_exact avl acrossWrap_reachable still (by decide) acrossWrap_reads
  refine ⟨short, fired, last, q', runs 3 short, last_eq, ?_, ?_⟩
  · exact fires 0 4294967294 (by decide +kernel) (by omega)
  · refine (isset_iff q' 1).mpr ⟨5, (left (5, 1)).mpr ⟨by decide +kernel, 4294967301, by decide +kernel, by omega⟩⟩

/-- While something is pending the timer is armed, and set to fire no later than the
    earliest pending deadline or the next millisecond. -/
theorem never_asleep (b : Balancing UInt32 ι) {q : Queue ι} {D : Deadlines ι} {now : Nat} (reach : Reachable b q D now)
    (pending : q.items ≠ []) :
    ∃ a t d, q.timer = some a ∧ D t = some d ∧ (∀ t' d', D t' = some d' → d ≤ d') ∧ a ≤ max d (now + 1) := by
  obtain ⟨tracks, _, awake⟩ := reachable_tracks reach
  obtain ⟨e, rest, items_eq⟩ := List.exists_cons_of_ne_nil pending
  obtain ⟨d, at_e, _, least⟩ := head_earliest tracks items_eq
  obtain ⟨a, armed, bound⟩ := awake e.2 d at_e
  exact ⟨a, e.2, d, armed, at_e, least, bound⟩

theorem never_asleep_across_wrap :
    acrossWrap.items ≠ [] ∧ ∃ a t d, acrossWrap.timer = some a ∧ acrossWrapDue t = some d ∧
      (∀ t' d', acrossWrapDue t' = some d' → d ≤ d') ∧ a ≤ max d (4294967291 + 1) :=
  have pending : acrossWrap.items ≠ [] := by decide +kernel
  ⟨pending, never_asleep avl acrossWrap_reachable pending⟩

end Usteer.Timeout
