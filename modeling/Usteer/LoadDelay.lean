import Usteer.Entries

/-!
How long the load has to be high before a client is kicked. `usteer_local_node_kick` counts
the calls with a high load in `load_thr_count`, which starts again at zero when the load is
low or when the delay check is passed. The counter is the number of calls directly before
that waited (`counting_run`), so the check is passed after as many of them as the delay has
periods (`load_delay`).
-/
namespace Usteer
open SearchTree Timeout Function Daemon

namespace Daemon

/-- The load kick up to the delay check, and whether that is passed. -/
def loadDelay (cfg : Config) (d : Daemon) (n : NodeId) : Except Fault (Bool × Daemon) := do
  if !cfg.loadKickEnabled || cfg.loadKickThreshold = 0 || cfg.loadKickDelay = 0 then
    return (false, d)
  let node ← d.node n
  if node.load.toUInt32 < cfg.loadKickThreshold then
    return (false, d.modifyNode n (fun node => node.setLoadThrCount 0))
  let count := (← node.loadThrCount) + 1
  let d := d.modifyNode n (fun node => node.setLoadThrCount count)
  if count.toUInt32 ≤ (← divRoundUp cfg.loadKickDelay cfg.localStaUpdate) then
    return (false, d)
  return (true, d.modifyNode n (fun node => node.setLoadThrCount 0))

/-- The node with another `load_thr_count`. -/
def counted (d : Daemon) (n : NodeId) (count : Int32) : Daemon :=
  d.modifyNode n (fun node => node.setLoadThrCount count)

/-- The rest of the load kick. -/
def loadSearch (cfg : Config) (d : Daemon) (n : NodeId) : Except Fault Daemon := do
  let node ← d.node n
  if node.nAssoc.toUInt32 < cfg.loadKickMinClients then
    return d
  match ← loadVictims cfg node.staInfo none none none d with
  | (none, _, _, d) => return d
  | (some kick1, kick2, _, d) => return d.countedKick (kick2.getD kick1) .load

/-- The search, if the delay check is passed. -/
def afterDelay (cfg : Config) (n : NodeId) (r : Bool × Daemon) : Except Fault Daemon :=
  if r.1 then r.2.loadSearch cfg n else pure r.2

end Daemon

section Parts

variable {env : Platform} {cfg : Config} {d d' : Daemon} {n : NodeId} {node : UsteerNode}

theorem nodes_counted (live : d.nodes.get? n = some node) (count : Int32) :
    (d.counted n count).nodes.get? n = some (node.setLoadThrCount count) := by
  simp [counted, modifyNode, Heap.get?_modify, live]

theorem moves_counted (env : Platform) (cfg : Config) (d : Daemon) (n : NodeId) (count : Int32) :
    Moves env cfg .plain (none, d) (none, d.counted n count) :=
  .one (.editNode n (keepsNode_setLoadThrCount count) (keepsCounts_setLoadThrCount .plain n count id))

theorem loadThrCount_set (isLocal : node.isLocal = true) (count : Int32) :
    (node.setLoadThrCount count).isLocal = true ∧ (node.setLoadThrCount count).loadThrCount = .ok count := by
  unfold UsteerNode.isLocal UsteerNode.setLoadThrCount UsteerNode.loadThrCount at *
  cases kind : node.kind with
  | loc ln => exact ⟨rfl, rfl⟩
  | remote rn =>
    rw [kind] at isLocal
    cases isLocal

theorem setLoadThrCount_fields (node : UsteerNode) (count : Int32) :
    (node.setLoadThrCount count).nAssoc = node.nAssoc ∧ (node.setLoadThrCount count).staInfo = node.staInfo := by
  unfold UsteerNode.setLoadThrCount
  cases node.kind with
  | loc ln => exact ⟨rfl, rfl⟩
  | remote rn => exact ⟨rfl, rfl⟩

/-- The load kick is the delay check and, behind it, the search for a victim. -/
theorem loadKick_eq (live : d.nodes.get? n = some node) :
    d.loadKick cfg n = d.loadDelay cfg n >>= afterDelay cfg n := by
  unfold loadKick loadDelay
  split
  · rfl
  · rw [node_ok live, ok_bind, ok_bind]
    by_cases low : node.load.toUInt32 < cfg.loadKickThreshold
    · rw [if_pos low, if_pos low]
      rfl
    · rw [if_neg low, if_neg low]
      cases counter : node.loadThrCount with
      | error e => rfl
      | ok count =>
        rw [ok_bind, ok_bind]
        dsimp only
        cases divRoundUp cfg.loadKickDelay cfg.localStaUpdate with
        | error e => rfl
        | ok periods =>
          rw [ok_bind, ok_bind]
          by_cases early : (count + 1).toUInt32 ≤ periods
          · rw [if_pos early, if_pos early]
            rfl
          · rw [if_neg early, if_neg early]
            have again := nodes_counted (nodes_counted live (count + 1)) 0
            have first := setLoadThrCount_fields node (count + 1)
            have second := setLoadThrCount_fields (node.setLoadThrCount (count + 1)) 0
            show _ = loadSearch cfg ((d.counted n (count + 1)).counted n 0) n
            unfold loadSearch
            rw [node_ok again, ok_bind, second.1, second.2, first.1, first.2]
            rfl

/-- The delay is in use, and no sum of its two settings wraps. -/
structure DelaySet (cfg : Config) : Prop where
  enabled : cfg.loadKickEnabled = true
  threshold : 0 < cfg.loadKickThreshold.toNat
  delay : 0 < cfg.loadKickDelay.toNat
  update : 0 < cfg.localStaUpdate.toNat
  fits : cfg.loadKickDelay.toNat + cfg.localStaUpdate.toNat < 2 ^ 31

/-- The number of calls in the delay. -/
def delayCalls (cfg : Config) : Nat := cfg.loadKickDelay.toNat ⌈/⌉ cfg.localStaUpdate.toNat

theorem delayCalls_eq (cfg : Config) : delayCalls cfg =
    (cfg.loadKickDelay.toNat + cfg.localStaUpdate.toNat - 1) / cfg.localStaUpdate.toNat :=
  Nat.ceilDiv_eq_add_pred_div _ _

theorem delayCalls_lt (delaySet : DelaySet cfg) : delayCalls cfg + 1 < 2 ^ 31 := by
  have delay := delaySet.delay
  have update := delaySet.update
  have fits := delaySet.fits
  rw [delayCalls_eq]
  have fewer : (cfg.loadKickDelay.toNat + cfg.localStaUpdate.toNat - 1) / cfg.localStaUpdate.toNat ≤
      cfg.loadKickDelay.toNat := by
    refine Nat.div_le_of_le_mul ?_
    have product : cfg.loadKickDelay.toNat - 1 ≤ cfg.localStaUpdate.toNat * (cfg.loadKickDelay.toNat - 1) :=
      Nat.le_mul_of_pos_left _ update
    calc cfg.loadKickDelay.toNat + cfg.localStaUpdate.toNat - 1
        = cfg.localStaUpdate.toNat + (cfg.loadKickDelay.toNat - 1) := by omega
      _ ≤ cfg.localStaUpdate.toNat + cfg.localStaUpdate.toNat * (cfg.loadKickDelay.toNat - 1) := by omega
      _ = cfg.localStaUpdate.toNat * cfg.loadKickDelay.toNat := by
        rw [Nat.mul_sub_one, Nat.add_sub_cancel' (Nat.le_mul_of_pos_right _ delay)]
  omega

theorem divRoundUp_delay (delaySet : DelaySet cfg) :
    ∃ periods, divRoundUp cfg.loadKickDelay cfg.localStaUpdate = .ok periods ∧ periods.toNat = delayCalls cfg := by
  have update := delaySet.update
  have fits := delaySet.fits
  have positive : cfg.localStaUpdate ≠ 0 := by
    intro zero
    rw [zero] at update
    exact Nat.lt_irrefl 0 update
  refine ⟨_, if_neg positive, ?_⟩
  rw [delayCalls_eq, UInt32.toNat_div, UInt32.toNat_sub, UInt32.toNat_add]
  show (2 ^ 32 - 1 + _) % 2 ^ 32 / _ = _
  congr 1
  omega

/-- The three outcomes of the delay check, by the load and the calls counted so far. -/
theorem loadDelay_cases (delaySet : DelaySet cfg) (live : d.nodes.get? n = some node) (nonneg : 0 ≤ node.load.toInt) {k : Nat}
    (counter : node.loadThrCount = .ok (Int32.ofNat k)) (bound : k ≤ delayCalls cfg) {passed : Bool}
    (run : d.loadDelay cfg n = .ok (passed, d')) :
    (node.load.toInt < cfg.loadKickThreshold.toNat ∧ passed = false ∧ d' = d.counted n 0) ∨
    (cfg.loadKickThreshold.toNat ≤ node.load.toInt ∧ k < delayCalls cfg ∧ passed = false ∧
      d' = d.counted n (Int32.ofNat (k + 1))) ∨
    (cfg.loadKickThreshold.toNat ≤ node.load.toInt ∧ k = delayCalls cfg ∧ passed = true ∧
      d' = (d.counted n (Int32.ofNat (k + 1))).counted n 0) := by
  have inUse : ¬ (!cfg.loadKickEnabled || cfg.loadKickThreshold = 0 || cfg.loadKickDelay = 0) = true := by
    have threshold : cfg.loadKickThreshold ≠ 0 := fun zero => absurd delaySet.threshold (by rw [zero]; decide)
    have delay : cfg.loadKickDelay ≠ 0 := fun zero => absurd delaySet.delay (by rw [zero]; decide)
    simp [delaySet.enabled, threshold, delay]
  have small := delayCalls_lt delaySet
  obtain ⟨periods, division, isCalls⟩ := divRoundUp_delay delaySet
  have unsigned : (node.load.toUInt32.toNat : ℤ) = node.load.toInt := by
    have signed := Words.toInt_toInt32 node.load.toUInt32
    have size := node.load.toUInt32.toNat_lt
    rw [Int32.toInt32_toUInt32, Int.bmod_def] at signed
    omega
  have next : Int32.ofNat k + 1 = Int32.ofNat (k + 1) := by
    rw [Int32.ofNat_add]
    rfl
  have count : (Int32.ofNat (k + 1)).toUInt32.toNat = k + 1 := by
    rw [Int32.toUInt32_ofNat', UInt32.toNat_ofNat']
    omega
  unfold loadDelay at run
  rw [if_neg inUse, node_ok live, ok_bind] at run
  by_cases low : node.load.toUInt32 < cfg.loadKickThreshold
  · rw [if_pos low] at run
    cases run
    rw [UInt32.lt_iff_toNat_lt] at low
    exact .inl ⟨by omega, rfl, rfl⟩
  · rw [if_neg low, counter, ok_bind, division] at run
    dsimp only at run
    rw [ok_bind, next] at run
    rw [UInt32.lt_iff_toNat_lt] at low
    by_cases early : (Int32.ofNat (k + 1)).toUInt32 ≤ periods
    · rw [if_pos early] at run
      cases run
      rw [UInt32.le_iff_toNat_le] at early
      exact .inr (.inl ⟨by omega, by omega, rfl, rfl⟩)
    · rw [if_neg early] at run
      cases run
      rw [UInt32.le_iff_toNat_le] at early
      exact .inr (.inr ⟨by omega, by omega, rfl, rfl⟩)

/-- The search and the kick keep the counter. -/
theorem record_loadSearch (sound : Sound none d) (inside : n ∈ d.localNodes) :
    Post AnyFault (d.loadSearch cfg n) (fun d' => ∀ node', d'.nodes.get? n = some node' →
      ∃ node, d.nodes.get? n = some node ∧ Recorded .quiet n node node') := by
  obtain ⟨node, live, -⟩ := node_of_locals sound.registered inside
  unfold loadSearch
  rw [node_ok live, ok_bind]
  split
  · exact fun node' live' => ⟨node', live', .refl _ n node'⟩
  · rw [post_bind]
    refine ((post_loadVictims plainPlatform cfg .quiet node.staInfo node.staInfo sound (localEntries sound inside live)
      (fun _ listed => listed) (by simp [Picked]) (by simp [Picked])).excuse fun _ _ => trivial).mono ?_
    rintro ⟨kick1, kick2, candidate, d'⟩ ⟨-, -, moves⟩ 
    cases kick1 with
    | none => exact fun node' live' => (record_moves moves).2 live'
    | some kick1 => exact fun node' live' => (record_moves moves).2 live'

/-- Before the load kick the counter and the load of the node stay. -/
theorem record_kicks {d1 d2 : Daemon} (sound : Sound none d) (inside : n ∈ d.localNodes)
    (roamed : d.usteerLocalNodeRoamCheck cfg n = .ok d1) (kicked : d1.usteerLocalNodeSnrKick cfg n = .ok d2) :
    Sound none d2 ∧ n ∈ d2.localNodes ∧ ∀ node', d2.nodes.get? n = some node' →
      ∃ node, d.nodes.get? n = some node ∧ node'.loadThrCount = node.loadThrCount := by
  have other : n ≠ n + 1 := Nat.ne_of_lt (Nat.lt_succ_self n)
  have moves1 := (post_usteerLocalNodeRoamCheck plainPlatform cfg (n + 1) sound inside).of_ok roamed
  have sound1 : Sound none d1 := sound_moves (a := (none, d)) sound moves1
  have inside1 : n ∈ d1.localNodes := moves1.locals inside
  have moves2 := ((post_usteerLocalNodeSnrKick plainPlatform cfg (.policy (n + 1)) sound1 inside1).of_ok kicked).moves
  have both := moves1.then moves2
  have sound2 : Sound none d2 := sound_moves (a := (none, d)) sound both
  have inside2 : n ∈ d2.localNodes := both.locals inside
  refine ⟨sound2, inside2, fun node' live' => ?_⟩
  obtain ⟨node, live, recorded⟩ := (record_moves both).2 live'
  obtain ⟨record, found, isLocal⟩ := node_of_locals sound2.registered inside2
  cases found.symm.trans live'
  exact ⟨node, live, (recorded.counts (recorded.isLocal ▸ isLocal)).load other⟩

end Parts

/-! ### Runs -/

/-- A call of `usteer_local_node_kick`: the load of the node, and whether the delay check was
    passed. -/
structure KickCall where
  load : Int32
  passed : Bool
  deriving DecidableEq, Repr

/-- `usteer_local_node_kick`, with what the call finds. -/
def Daemon.kickCall (cfg : Config) (d : Daemon) (n : NodeId) : Except Fault (KickCall × Daemon) := do
  let d ← d.usteerLocalNodeRoamCheck cfg n
  let d ← d.usteerLocalNodeSnrKick cfg n
  let node ← d.node n
  let r ← d.loadDelay cfg n
  let d ← afterDelay cfg n r
  return (⟨node.load, r.1⟩, d)

/-- A run of calls for a node, the last call first, with any other inputs between them. -/
inductive KickRun (env : Platform) (cfg : Config) (n : NodeId) : List KickCall → Daemon → Prop
  | fresh {d name} (sound : Sound none d) (live : d.nodes.get? n = some (newLocalNode name)) : KickRun env cfg n [] d
  | other {calls d d' input} (run : KickRun env cfg n calls d) (another : input ≠ .tick n) (accepts : d.Accepts input)
      (handled : d.handle env cfg input = .ok d') : KickRun env cfg n calls d'
  | call {calls d d' call} (run : KickRun env cfg n calls d) (accepts : d.Accepts (.tick n))
      (called : d.kickCall cfg n = .ok (call, d')) : KickRun env cfg n (call :: calls) d'

section Call

variable {env : Platform} {cfg : Config} {d d' : Daemon} {n : NodeId}

/-- What a call finds does not change what it does. -/
theorem usteerLocalNodeKick_eq (sound : Sound none d) (inside : n ∈ d.localNodes) :
    d.usteerLocalNodeKick cfg n = Prod.snd <$> d.kickCall cfg n := by
  unfold usteerLocalNodeKick kickCall
  cases roamed : d.usteerLocalNodeRoamCheck cfg n with
  | error e => rfl
  | ok d1 =>
    rw [ok_bind, ok_bind]
    cases kicked : d1.usteerLocalNodeSnrKick cfg n with
    | error e => rfl
    | ok d2 =>
      obtain ⟨sound2, inside2, -⟩ := record_kicks sound inside roamed kicked
      obtain ⟨node, live, -⟩ := node_of_locals sound2.registered inside2
      rw [ok_bind, ok_bind, node_ok live, ok_bind, loadKick_eq live]
      cases d2.loadDelay cfg n with
      | error e => rfl
      | ok r =>
        rw [ok_bind, ok_bind]
        cases afterDelay cfg n r with
        | error e => rfl
        | ok d3 => rfl

/-- The parts of a call. -/
theorem kickCall_ok {call : KickCall} (called : d.kickCall cfg n = .ok (call, d')) : ∃ d1 d2 d3 node,
    d.usteerLocalNodeRoamCheck cfg n = .ok d1 ∧ d1.usteerLocalNodeSnrKick cfg n = .ok d2 ∧
    d2.nodes.get? n = some node ∧ node.load = call.load ∧ d2.loadDelay cfg n = .ok (call.passed, d3) ∧
    afterDelay cfg n (call.passed, d3) = .ok d' := by
  obtain ⟨d1, roamed, called⟩ := bind_ok called
  obtain ⟨d2, kicked, called⟩ := bind_ok called
  obtain ⟨node, read, called⟩ := bind_ok called
  obtain ⟨⟨passed, d3⟩, delayed, called⟩ := bind_ok called
  obtain ⟨d4, ends, called⟩ := bind_ok called
  cases called
  refine ⟨d1, d2, d3, node, roamed, kicked, ?_, rfl, delayed, ends⟩
  unfold Daemon.node at read
  cases found : d2.nodes.get? n with
  | none =>
    rw [found] at read
    cases read
  | some record =>
    rw [found] at read
    cases read
    rfl

end Call

/-- The load is at or above the threshold. -/
def KickCall.High (cfg : Config) (call : KickCall) : Prop := (cfg.loadKickThreshold.toNat : ℤ) ≤ call.load.toInt

instance (cfg : Config) (call : KickCall) : Decidable (call.High cfg) :=
  inferInstanceAs (Decidable ((cfg.loadKickThreshold.toNat : ℤ) ≤ call.load.toInt))

/-- The call found a high load and did not pass the delay check. -/
def KickCall.waits (cfg : Config) (call : KickCall) : Bool := decide (call.High cfg) && !call.passed

/-- Every call passes the delay check exactly when its load and those of as many calls before
    as the delay has periods were high, and none of these passed. -/
def PassesAfterDelay (cfg : Config) (calls : List KickCall) : Prop :=
  ∀ i call, calls[i]? = some call → (call.passed = true ↔
    call.High cfg ∧ i + delayCalls cfg < calls.length ∧
    ∀ j before, i < j → j ≤ i + delayCalls cfg → calls[j]? = some before → before.High cfg ∧ before.passed = false)

theorem le_length_takeWhile_iff {α : Type*} {p : α → Bool} {l : List α} {m : Nat} :
    m ≤ (l.takeWhile p).length ↔ m ≤ l.length ∧ ∀ j x, j < m → l[j]? = some x → p x = true := by
  induction l generalizing m with
  | nil => simp
  | cons a rest ih =>
    cases m with
    | zero => simp
    | succ m =>
      have shifted : (∀ j x, j < m + 1 → (a :: rest)[j]? = some x → p x = true) ↔
          p a = true ∧ ∀ j x, j < m → rest[j]? = some x → p x = true := by
        constructor
        · intro all
          exact ⟨all 0 a (Nat.zero_lt_succ m) rfl, fun j x less found => all (j + 1) x (Nat.succ_lt_succ less) found⟩
        · rintro ⟨first, others⟩ j x less found
          cases j with
          | zero =>
            cases found
            exact first
          | succ j => exact others j x (Nat.lt_of_succ_lt_succ less) found
      rw [shifted, List.takeWhile_cons, List.length_cons, Nat.succ_le_succ_iff]
      by_cases keeps : p a = true
      · rw [if_pos keeps, List.length_cons, Nat.succ_le_succ_iff, ih]
        simp [keeps]
      · rw [if_neg keeps]
        simp [keeps]

/-- What holds after a run: the counter of the node is the number of calls that have waited
    since the last one that did not. -/
structure Counting (cfg : Config) (n : NodeId) (calls : List KickCall) (d : Daemon) : Prop where
  sound : Sound none d
  old : n < d.nodes.next
  counter : ∀ node, d.nodes.get? n = some node → node.isLocal = true ∧
    node.loadThrCount = .ok (Int32.ofNat (calls.takeWhile (KickCall.waits cfg)).length)
  bound : (calls.takeWhile (KickCall.waits cfg)).length ≤ delayCalls cfg
  history : PassesAfterDelay cfg calls

section Run

variable {env : Platform} {cfg : Config} {d d' : Daemon} {n : NodeId} {calls : List KickCall}

theorem uncounted_other {input : Input} (another : input ≠ .tick n) : input.scope.uncounted n := by
  cases input with
  | tick m => exact fun same => another (by rw [same])
  | _ => exact trivial

theorem counting_fresh {name : CString} (sound : Sound none d) (live : d.nodes.get? n = some (newLocalNode name)) :
    Counting cfg n [] d where
  sound := sound
  old := Heap.lt_next live
  counter node live' := by
    cases live.symm.trans live'
    exact ⟨rfl, rfl⟩
  bound := Nat.zero_le _
  history := by simp [PassesAfterDelay]

theorem counting_other {input : Input} (counting : Counting cfg n calls d) (another : input ≠ .tick n)
    (accepts : d.Accepts input) (handled : d.handle env cfg input = .ok d') : Counting cfg n calls d' := by
  obtain ⟨old, back⟩ := record_handle counting.sound accepts handled counting.old
  refine ⟨sound_handle counting.sound accepts handled, old, fun node' live' => ?_, counting.bound, counting.history⟩
  obtain ⟨node, live, recorded⟩ := back live'
  obtain ⟨isLocal, counter⟩ := counting.counter node live
  exact ⟨recorded.isLocal.trans isLocal, ((recorded.counts isLocal).load (uncounted_other another)).trans counter⟩

/-- One more call that decides by the number of those that waited. -/
theorem passesAfterDelay_cons {call : KickCall} (history : PassesAfterDelay cfg calls)
    (decides : call.passed = true ↔ call.High cfg ∧ delayCalls cfg ≤ (calls.takeWhile (KickCall.waits cfg)).length) :
    PassesAfterDelay cfg (call :: calls) := by
  intro i other found
  cases i with
  | zero =>
    cases found
    rw [decides, le_length_takeWhile_iff, List.length_cons, Nat.zero_add, Nat.lt_succ_iff]
    refine and_congr_right fun _ => and_congr_right fun _ => ?_
    constructor
    · intro waited j before above upTo found
      obtain ⟨j, rfl⟩ := Nat.exists_eq_succ_of_ne_zero (Nat.ne_of_gt above)
      simpa [KickCall.waits] using waited j before upTo found
    · intro waited j before below found
      simpa [KickCall.waits] using waited (j + 1) before (Nat.succ_pos j) below found
  | succ i =>
    rw [history i other found, List.length_cons, Nat.add_right_comm, Nat.succ_lt_succ_iff]
    refine and_congr_right fun _ => and_congr_right fun _ => ?_
    constructor
    · intro waited j before above upTo found
      obtain ⟨j, rfl⟩ := Nat.exists_eq_succ_of_ne_zero (Nat.ne_of_gt (Nat.zero_lt_of_lt above))
      exact waited j before (by omega) (by omega) found
    · intro waited j before above upTo found
      exact waited (j + 1) before (by omega) (by omega) found

/-- What a passed delay check and a kick leave of the counter. -/
theorem counter_after {d1 : Daemon} {node : UsteerNode} {count : Int32} {passed : Bool} (sound : Sound none d1)
    (inside : n ∈ d1.localNodes) (live : d1.nodes.get? n = some node) (isLocal : node.isLocal = true)
    (counter : node.loadThrCount = .ok count)
    (ends : afterDelay cfg n (passed, d1) = .ok d') :
    ∀ node', d'.nodes.get? n = some node' → node'.isLocal = true ∧ node'.loadThrCount = .ok count := by
  intro node' live'
  cases passed with
  | false =>
    cases ends
    cases live.symm.trans live'
    exact ⟨isLocal, counter⟩
  | true =>
    obtain ⟨node1, live1, recorded⟩ := (record_loadSearch sound inside).of_ok ends node' live'
    cases live.symm.trans live1
    exact ⟨recorded.isLocal.trans isLocal, ((recorded.counts isLocal).load trivial).trans counter⟩

theorem counting_call {call : KickCall} (delaySet : DelaySet cfg) (counting : Counting cfg n calls d)
    (accepts : d.Accepts (.tick n)) (called : d.kickCall cfg n = .ok (call, d')) (nonneg : 0 ≤ call.load.toInt) :
    Counting cfg n (call :: calls) d' := by
  have handled : d.handle plainPlatform cfg (.tick n) = .ok d' := by
    show d.usteerLocalNodeKick cfg n = .ok d'
    rw [usteerLocalNodeKick_eq counting.sound accepts, called]
    rfl
  obtain ⟨d1, d2, d3, node, roamed, kicked, live, load, delayed, ends⟩ := kickCall_ok called
  obtain ⟨load', passed⟩ := call
  dsimp only at load nonneg delayed ends
  subst load
  obtain ⟨sound2, inside2, before⟩ := record_kicks counting.sound accepts roamed kicked
  obtain ⟨node0, live0, same⟩ := before node live
  have counter := same.trans (counting.counter node0 live0).2
  have isLocal : node.isLocal = true := by
    obtain ⟨record, found, isLocal⟩ := node_of_locals sound2.registered inside2
    cases found.symm.trans live
    exact isLocal
  have old := (record_handle counting.sound accepts handled counting.old).1
  have sound' := sound_handle counting.sound accepts handled
  have bound := counting.bound
  generalize waited : (calls.takeWhile (KickCall.waits cfg)).length = k at counter bound
  -- the counter after a load that the node was left with before the search
  have after (d3 : Daemon) (record : UsteerNode) (count : Nat) (moves : Moves plainPlatform cfg .plain (none, d2) (none, d3))
      (live3 : d3.nodes.get? n = some record) (isLocal3 : record.isLocal = true)
      (counter3 : record.loadThrCount = .ok (Int32.ofNat count))
      (ends : afterDelay cfg n (passed, d3) = .ok d') : ∀ node', d'.nodes.get? n = some node' →
        node'.isLocal = true ∧ node'.loadThrCount = .ok (Int32.ofNat count) := by
    have inside3 : n ∈ d3.localNodes := moves.locals inside2
    exact counter_after (sound_moves (a := (none, d2)) sound2 moves) inside3 live3 isLocal3 counter3 ends
  have zero := loadThrCount_set isLocal 0
  have more := loadThrCount_set isLocal (Int32.ofNat (k + 1))
  have again := loadThrCount_set more.1 0
  have counts := moves_counted plainPlatform cfg d2 n
  rcases loadDelay_cases delaySet live nonneg counter bound delayed with
    ⟨low, rfl, rfl⟩ | ⟨high, less, rfl, rfl⟩ | ⟨high, full, rfl, rfl⟩
  · have isLow : ¬ KickCall.High cfg ⟨node.load, false⟩ := not_le.mpr low
    have stops : ((⟨node.load, false⟩ :: calls).takeWhile (KickCall.waits cfg)).length = 0 := by
      simp [KickCall.waits, isLow]
    refine ⟨sound', old, ?_, by rw [stops]; exact Nat.zero_le _, passesAfterDelay_cons counting.history ?_⟩
    · rw [stops]
      exact after _ _ 0 (counts 0) (nodes_counted live 0) zero.1 zero.2 ends
    · simp [isLow]
  · have isHigh : KickCall.High cfg ⟨node.load, false⟩ := high
    have goes : ((⟨node.load, false⟩ :: calls).takeWhile (KickCall.waits cfg)).length = k + 1 := by
      simp [KickCall.waits, isHigh, waited]
    refine ⟨sound', old, ?_, by rw [goes]; exact less, passesAfterDelay_cons counting.history ?_⟩
    · rw [goes]
      exact after _ _ (k + 1) (counts _) (nodes_counted live _) more.1 more.2 ends
    · simp [waited, less]
  · have isHigh : KickCall.High cfg ⟨node.load, true⟩ := high
    have stops : ((⟨node.load, true⟩ :: calls).takeWhile (KickCall.waits cfg)).length = 0 := by
      simp [KickCall.waits]
    refine ⟨sound', old, ?_, by rw [stops]; exact Nat.zero_le _, passesAfterDelay_cons counting.history ?_⟩
    · rw [stops]
      exact after _ _ 0 ((counts _).then (moves_counted plainPlatform cfg _ n 0))
        (nodes_counted (nodes_counted live _) 0) again.1 again.2 ends
    · simp [isHigh, waited, full]

/-- The counter along a run. -/
theorem counting_run (delaySet : DelaySet cfg) (run : KickRun env cfg n calls d)
    (nonneg : ∀ call ∈ calls, 0 ≤ call.load.toInt) : Counting cfg n calls d := by
  induction run with
  | fresh sound live => exact counting_fresh sound live
  | other _ another accepts handled ih => exact counting_other (ih nonneg) another accepts handled
  | call _ accepts called ih =>
    exact counting_call delaySet (ih fun call listed => nonneg call (List.mem_cons_of_mem _ listed)) accepts called
      (nonneg _ List.mem_cons_self)

/-- Between two calls that pass lie at least as many others as the delay has periods. -/
theorem PassesAfterDelay.apart (history : PassesAfterDelay cfg calls) {i j : Nat} {call before : KickCall}
    (found : calls[i]? = some call) (foundBefore : calls[j]? = some before) (passed : call.passed = true)
    (passedBefore : before.passed = true) (less : i < j) : i + delayCalls cfg < j := by
  by_contra near
  have waited := ((history i call found).mp passed).2.2 j before less (by omega) foundBefore
  rw [passedBefore] at waited
  cases waited.2

end Run

/-- In every run of calls for a fresh node, with any other inputs between them, the delay check
    is passed exactly after a delay of high load, and never twice within one. -/
theorem load_delay (env : Platform) (cfg : Config) (n : NodeId) (calls : List KickCall) (d : Daemon)
    (delaySet : DelaySet cfg) (run : KickRun env cfg n calls d) (nonneg : ∀ call ∈ calls, 0 ≤ call.load.toInt) :
    PassesAfterDelay cfg calls ∧ ∀ i j call before, calls[i]? = some call → calls[j]? = some before →
      call.passed = true → before.passed = true → i < j → i + delayCalls cfg < j := by
  have history := (counting_run delaySet run nonneg).history
  exact ⟨history, fun _ _ _ _ => history.apart⟩

/-- A number of calls in a row. -/
def callsInRow (cfg : Config) (n : NodeId) (d : Daemon) : Nat → Option (List KickCall × Daemon)
  | 0 => some ([], d)
  | k + 1 => (callsInRow cfg n d k).bind fun (calls, d1) =>
    if n ∈ d1.localNodes then (d1.kickCall cfg n).toOption.map fun (call, d2) => (call :: calls, d2) else none

theorem kickRun_callsInRow {env : Platform} {cfg : Config} {n : NodeId} {d : Daemon} (run : KickRun env cfg n [] d) {k : Nat} :
    ∀ {calls d'}, callsInRow cfg n d k = some (calls, d') → KickRun env cfg n calls d' := by
  induction k with
  | zero =>
    intro calls d' row
    cases row
    exact run
  | succ k ih =>
    intro calls d' row
    obtain ⟨⟨calls1, d1⟩, before, row⟩ := Option.bind_eq_some_iff.mp row
    dsimp only at row
    split at row
    · rename_i inside
      obtain ⟨⟨call, d2⟩, called, row⟩ := Option.map_eq_some_iff.mp row
      cases row
      exact .call (ih before) inside (ok_of_toOption called)
    · cases row

/-- Clients are kicked after two seconds of high load. -/
def kicksAfterTwo : Config := { usteerInitDefaults with loadKickEnabled := true, loadKickDelay := 2000 }

/-- The third of three calls with a high load passes the check. -/
theorem load_delay_of_three_calls : ∃ calls d, KickRun plainPlatform kicksAfterTwo 0 calls d ∧ DelaySet kicksAfterTwo ∧
    calls = [⟨80, true⟩, ⟨80, false⟩, ⟨80, false⟩] ∧ PassesAfterDelay kicksAfterTwo calls := by
  have evaluates : ((plainRun kicksAfterTwo [.register hostapdDot]).any fun d =>
      decide (d.nodes.get? 0 = some (newLocalNode hostapdDot) ∧ 0 ∈ d.localNodes) &&
      (callsInRow kicksAfterTwo 0 (d.modifyNode 0 (NodeStatus.apply ⟨[], 10, 2412, 0, 0, 80, none, none, false⟩)) 3).any
        fun row => decide (row.1 = [⟨80, true⟩, ⟨80, false⟩, ⟨80, false⟩])) = true := by decide +kernel
  obtain ⟨d, run, evaluates⟩ := (Option.any_eq_true _ _).mp evaluates
  simp only [Bool.and_eq_true, decide_eq_true_eq, Option.any_eq_true] at evaluates
  obtain ⟨⟨live, inside⟩, ⟨calls, d'⟩, row, same⟩ := evaluates
  have fresh : KickRun plainPlatform kicksAfterTwo 0 [] d := .fresh (reachable_sound (reachable_plainRun run)) live
  have accepts : d.Accepts (.status 0 ⟨[], 10, 2412, 0, 0, 80, none, none, false⟩) := inside
  have loaded : KickRun plainPlatform kicksAfterTwo 0 [] _ := .other fresh (by simp) accepts rfl
  have delaySet : DelaySet kicksAfterTwo := ⟨by decide, by decide, by decide, by decide, by decide⟩
  have kicks := kickRun_callsInRow loaded row
  refine ⟨calls, d', kicks, delaySet, same, (load_delay plainPlatform kicksAfterTwo 0 calls d' delaySet kicks ?_).1⟩
  dsimp only at same
  rw [same]
  decide

end Usteer
