import Usteer.Effects
import Usteer.Runs

/-!
When the roam machine kicks. Its history is the daemon's: the visits of
`usteer_local_node_roam_check`, the warnings and the kicks. A client in one of the last
two states has been warned, and has passed the test at every visit since (`Trail`), for
any failed visit puts it back to the first state. So every kick of the machine comes
after a warning (`roam_kick_announced`).
-/
namespace Usteer
open SearchTree Timeout Function Daemon

/-- The entry, as it was at a visit, passes the test of `usteer_local_node_roam_check`. -/
def Passes (cfg : Config) (time : UInt64) (info : StaInfo) (node : UsteerNode) : Prop :=
  ∃ snr, roamLevel cfg = some snr ∧ roamEligible cfg time (snrToSignal node snr) info = .ok true

/-- The client was warned at `t0`, when its signal was not above the trigger level, and
    has passed the test at that visit and at every one since. -/
def Warned (cfg : Config) (history : List Event) (si : SiId) (t0 : UInt64) : Prop :=
  ∃ before info node since, history = before ++ .visit t0 si info node :: .disassocImminent t0 si :: since ∧
    ¬ info.signal > snrToSignal node cfg.roamTriggerSnr ∧ Passes cfg t0 info node ∧
    ∀ t info node, .visit t si info node ∈ since → Passes cfg t info node

/-- What precedes a kick of the roam machine at `t`. -/
structure Announced (cfg : Config) (history : List Event) (si : SiId) (t : UInt64) : Prop where
  warned : ∃ t0, t0.toNat + cfg.roamKickDelay.toNat * 100 ≤ t.toNat ∧ Warned cfg history si t0
  spaced : ∀ t' why, .kick t' si why ∈ history → t'.toNat + cfg.roamTriggerInterval.toNat ≤ t.toNat

/-- What the state of an entry's roam machine says about its history. -/
structure Trail (cfg : Config) (d : Daemon) (si : SiId) (info : StaInfo) : Prop where
  kicks : ∀ t why, .kick t si why ∈ d.trace → t.toNat ≤ info.roamKick.toNat
  kick : info.roamKick.toNat ≤ d.currentTime.toNat
  event : info.roamEvent.toNat ≤ d.currentTime.toNat
  notified : info.roamState = .notifyKick → Warned cfg d.trace si info.roamEvent
  ready : info.roamState = .kick →
    ∃ t0, t0.toNat + cfg.roamKickDelay.toNat * 100 ≤ info.roamEvent.toNat ∧ Warned cfg d.trace si t0

/-- The kicks so far were announced, and every live entry has its trail. -/
structure History (cfg : Config) (d : Daemon) : Prop where
  time : d.currentTime.toNat ≤ d.clock.toNat
  announced : ∀ earlier t si later, d.trace = earlier ++ .kick t si .roam :: later → Announced cfg earlier si t
  known : ∀ t si why, .kick t si why ∈ d.trace → si < d.infos.next
  trails : ∀ si info, d.infos.get? si = some info → Trail cfg d si info

section Roaming

variable {env : Platform} {cfg : Config} {d d' : Daemon} {si : SiId} {info info' : StaInfo}

/-! ### The history grows -/

theorem Warned.append {history more : List Event} {t0 : UInt64} (warned : Warned cfg history si t0)
    (pass : ∀ t info node, .visit t si info node ∈ more → Passes cfg t info node) : Warned cfg (history ++ more) si t0 := by
  obtain ⟨before, info, node, since, rfl, low, passes, later⟩ := warned
  refine ⟨before, info, node, since ++ more, by simp, low, passes, fun t info node inside => ?_⟩
  exact (List.mem_append.mp inside).elim (later t info node) (pass t info node)

/-- More events, none of them a kick of the client and every visit of it passed. -/
theorem Trail.append {more : List Event} (trail : Trail cfg d si info) (same : SameRoam info info')
    (time : d.currentTime.toNat ≤ d'.currentTime.toNat) (trace : d'.trace = d.trace ++ more)
    (calm : ∀ t why, .kick t si why ∉ more)
    (pass : ∀ t info node, .visit t si info node ∈ more → Passes cfg t info node) : Trail cfg d' si info' := by
  obtain ⟨state, event, kick, -⟩ := same
  constructor
  · intro t why inside
    rw [kick]
    rw [trace] at inside
    exact (List.mem_append.mp inside).elim (trail.kicks t why) fun new => absurd new (calm t why)
  · rw [kick]
    exact trail.kick.trans time
  · rw [event]
    exact trail.event.trans time
  · intro now
    rw [event, trace]
    rw [state] at now
    exact (trail.notified now).append pass
  · intro now
    rw [state] at now
    obtain ⟨t0, waited, warned⟩ := trail.ready now
    rw [event, trace]
    exact ⟨t0, waited, warned.append pass⟩

/-- No kick of the machine is among the new events. -/
theorem announced_append {history more : List Event}
    (announced : ∀ earlier t si later, history = earlier ++ .kick t si .roam :: later → Announced cfg earlier si t)
    (calm : ∀ t si, .kick t si .roam ∉ more) {earlier later : List Event} {t : UInt64} {si : SiId}
    (split : history ++ more = earlier ++ .kick t si .roam :: later) : Announced cfg earlier si t := by
  rcases List.append_eq_append_iff.mp split with ⟨rest, _, new⟩ | ⟨rest, old, new⟩
  · refine absurd ?_ (calm t si)
    rw [new]
    simp
  · cases rest with
    | nil =>
      refine absurd ?_ (calm t si)
      rw [← List.nil_append more, ← new]
      simp
    | cons e rest =>
      rw [List.cons_append, List.cons.injEq] at new
      obtain ⟨rfl, _⟩ := new
      exact announced earlier t si rest old

theorem trail_zeroed {n : NodeId} {s : StaId} {freq : Int32} {time : UInt64} (unknown : ∀ t why, .kick t si why ∉ d.trace) :
    Trail cfg d si (.zeroed n s freq time) where
  kicks t why inside := absurd inside (unknown t why)
  kick := Nat.zero_le _
  event := Nat.zero_le _
  notified now := by cases now
  ready now := by cases now

/-- Functions other than the policy tick keep the history. -/
theorem history_descends {scope : Scope} (history : History cfg d) (descends : Descends scope d d')
    (still : scope.tick = false) : History cfg d' := by
  obtain ⟨more, trace, fits⟩ := descends.trace
  have calm : ∀ t si why, .kick t si why ∉ more := by
    intro t si why inside
    have ticking : scope.tick = true := fits _ inside
    rw [still] at ticking
    cases ticking
  have unvisited : ∀ t si info node, .visit t si info node ∉ more := by
    intro t si info node inside
    have ticking : scope.tick = true := fits _ inside
    rw [still] at ticking
    cases ticking
  have time : d.currentTime.toNat ≤ d'.currentTime.toNat := by
    rcases descends.time with same | now
    · rw [same]
    · rw [now]
      exact history.time
  refine ⟨?_, ?_, ?_, ?_⟩
  · rw [descends.clock]
    rcases descends.time with same | now
    · rw [same]
      exact history.time
    · rw [now]
  · intro earlier t si later split
    rw [trace] at split
    exact announced_append history.announced (fun t si => calm t si .roam) split
  · intro t si why inside
    rw [trace] at inside
    refine Nat.lt_of_lt_of_le ?_ descends.next
    exact (List.mem_append.mp inside).elim (history.known t si why) fun new => absurd new (calm t si why)
  · intro si info' live'
    obtain ⟨info, stems, live | ⟨fresh, n, s, freq, created, rfl⟩⟩ := descends.infos live'
    · exact (history.trails si info live).append (stems.roam still) time trace (fun t why => calm t si why)
        fun t info node inside => absurd inside (unvisited t si info node)
    · have unknown : ∀ t why, .kick t si why ∉ d.trace := fun t why inside =>
        absurd (history.known t si why inside) (Nat.not_lt.mpr fresh)
      exact (trail_zeroed unknown).append (stems.roam still) time trace (fun t why => calm t si why)
        fun t info node inside => absurd inside (unvisited t si info node)

/-! ### One client at a time -/

/-- The client that an event is about. -/
def Event.client : Event → Option SiId
  | .visit _ si _ _ => some si
  | .clientScan _ si _ => some si
  | .disassocImminent _ si => some si
  | .kick _ si _ => some si
  | .beaconRequest _ si _ _ _ => some si
  | .update .. => none

/-- Events about one client and edits of its entry leave the trails of the others. -/
theorem history_own (more : List Event) (history : History cfg d) (live : d.infos.get? si = some info)
    (clock : d'.clock = d.clock) (time : d'.currentTime = d.currentTime) (next : d'.infos.next = d.infos.next)
    (others : ∀ j, j ≠ si → d'.infos.get? j = d.infos.get? j) (trace : d'.trace = d.trace ++ more)
    (about : ∀ e ∈ more, e.client = some si)
    (announced : ∀ earlier t j later, d'.trace = earlier ++ .kick t j .roam :: later → Announced cfg earlier j t)
    (own : ∀ info', d'.infos.get? si = some info' → Trail cfg d' si info') : History cfg d' := by
  refine ⟨?_, announced, ?_, ?_⟩
  · rw [clock, time]
    exact history.time
  · intro t j why inside
    rw [trace] at inside
    rw [next]
    rcases List.mem_append.mp inside with old | new
    · exact history.known t j why old
    · have same : some j = some si := about _ new
      cases same
      exact Heap.lt_next live
  · intro j info' live'
    by_cases same : j = si
    · rw [same] at live' ⊢
      exact own info' live'
    · rw [others j same] at live'
      have foreign : ∀ e, e.client = some j → e ∉ more := by
        intro e here inside
        have there := about e inside
        rw [here] at there
        cases there
        exact same rfl
      exact (history.trails j info' live').append ⟨rfl, rfl, rfl, rfl⟩ (by rw [time]) trace (fun t why => foreign _ rfl)
        fun t info node inside => absurd inside (foreign _ rfl)

theorem history_setState {state : RoamTriggerState} (history : History cfg d) (live : d.infos.get? si = some info)
    (early : state ≠ .notifyKick ∧ state ≠ .kick) : History cfg (d.usteerRoamSetState si state) := by
  have trace : (d.usteerRoamSetState si state).trace = d.trace ++ [] := (List.append_nil _).symm
  refine history_own [] history live rfl rfl rfl (fun j other => infos_modifyInfo_other other) trace (by simp)
    history.announced fun info' live' => ?_
  rw [usteerRoamSetState, infos_modifyInfo_self live] at live'
  cases live'
  have trail := history.trails si info live
  exact ⟨trail.kicks, trail.kick, le_rfl, fun now => absurd now early.1, fun now => absurd now early.2⟩

/-- A visit that fails the test puts the machine back to its first state. -/
theorem history_failed {node : UsteerNode} (history : History cfg d) (live : d.infos.get? si = some info) :
    History cfg ((d.log (.visit d.currentTime si info node)).usteerRoamSetState si .idle) := by
  refine history_own [.visit d.currentTime si info node] history live rfl rfl rfl
    (fun j other => infos_modifyInfo_other other) rfl (by simp [Event.client]) ?_ fun info' live' => ?_
  · exact fun earlier t j later split => announced_append history.announced (by simp) split
  · rw [usteerRoamSetState, infos_modifyInfo_self (d := d.log _) live] at live'
    cases live'
    have trail := history.trails si info live
    refine ⟨fun t why inside => ?_, trail.kick, le_rfl, fun now => (by cases now), fun now => (by cases now)⟩
    exact (List.mem_append.mp inside).elim (trail.kicks t why) fun new => (by simp at new)

theorem history_passed {node : UsteerNode} (history : History cfg d) (live : d.infos.get? si = some info)
    (passes : Passes cfg d.currentTime info node) : History cfg (d.log (.visit d.currentTime si info node)) := by
  refine history_own [.visit d.currentTime si info node] history live rfl rfl rfl (fun _ _ => rfl) rfl
    (by simp [Event.client]) ?_ fun info' live' => ?_
  · exact fun earlier t j later split => announced_append history.announced (by simp) split
  · refine (history.trails si info' live').append ⟨rfl, rfl, rfl, rfl⟩ le_rfl rfl (by simp) fun t info'' node'' inside => ?_
    rw [List.mem_singleton] at inside
    cases inside
    exact passes

/-- A kick, announced if it is the roam machine's. -/
theorem history_kick (why : KickReason) (history : History cfg d) (live : d.infos.get? si = some info)
    (announced : why = .roam → Announced cfg d.trace si d.currentTime) : History cfg (d.usteerUbusKickClient si why) := by
  refine history_own [.kick d.currentTime si why] history live rfl rfl rfl
    (fun j other => infos_modifyInfo_other other) rfl (by simp [Event.client]) ?_ fun info' live' => ?_
  · intro earlier t j later split
    change d.trace ++ [.kick d.currentTime si why] = _ at split
    rcases List.append_eq_append_iff.mp split with ⟨rest, old, new⟩ | ⟨rest, old, new⟩
    · cases rest with
      | nil =>
        cases new
        rw [old, List.append_nil]
        exact announced rfl
      | cons e rest => simp at new
    · cases rest with
      | nil =>
        cases new
        rw [List.append_nil] at old
        rw [← old]
        exact announced rfl
      | cons e rest =>
        rw [List.cons_append, List.cons.injEq] at new
        obtain ⟨rfl, _⟩ := new
        exact history.announced earlier t j rest old
  · rw [usteerUbusKickClient, infos_modifyInfo_self (d := d.log _) live] at live'
    cases live'
    have trail := history.trails si info live
    have quiet : ∀ t info node, .visit t si info node ∈ [Event.kick d.currentTime si why] → Passes cfg t info node := by simp
    refine ⟨fun t why' inside => ?_, le_rfl, trail.event, fun now => (trail.notified now).append quiet, fun now => ?_⟩
    · rcases List.mem_append.mp inside with old | new
      · exact (trail.kicks t why' old).trans trail.kick
      · simp only [List.mem_singleton, Event.kick.injEq] at new
        rw [new.1]
    · obtain ⟨t0, waited, warned⟩ := trail.ready now
      exact ⟨t0, waited, warned.append quiet⟩

theorem history_countedKick {why : KickReason} (history : History cfg d) (live : d.infos.get? si = some info)
    (other : why ≠ .roam) : History cfg (d.countedKick si why) := by
  have counted : Descends .plain d (d.modifyInfo si (fun info => { info with kickCount := info.kickCount + 1 })) :=
    .edit fun _ _ => ⟨rfl, rfl, fun _ => ⟨rfl, rfl, rfl, rfl⟩, fun _ => rfl, fun _ => rfl⟩
  exact history_kick why (history_descends history counted rfl) (infos_modifyInfo_self live) fun same => absurd same other

/-! ### A policy tick -/

theorem looked_descends {d1 : Daemon} (sound : Sound none d) (live : d.infos.get? si = some info)
    (looked : Looked cfg d si d1) : Descends .plain d d1 := by
  rcases looked with rfl | ⟨siNew, found⟩
  · exact .refl _
  · exact descends_moves ((post_findBetterCandidate (F := AnyFault) plainPlatform cfg .plain sound live).of_ok found)

/-- The time since the last change of state, once it is not below the delay. -/
theorem waited_toNat {now event : UInt64} {delay : UInt32} (past : event.toNat ≤ now.toNat)
    (waited : ¬ now - event < delay.toUInt64) : event.toNat + delay.toNat ≤ now.toNat := by
  have span : (now - event).toNat = now.toNat - event.toNat := UInt64.toNat_sub_of_le _ _ (UInt64.le_iff_toNat_le.mpr past)
  rw [UInt64.not_lt, UInt64.le_iff_toNat_le, span, UInt32.toNat_toUInt64] at waited
  omega

theorem history_clientScan (scanBand : Bool) (opClass : UInt32) (history : History cfg d)
    (live : d.infos.get? si = some info) :
    History cfg ((d.modifyInfo si (fun info => { info with scanBand := scanBand })).log
      (.clientScan d.currentTime si opClass)) := by
  refine history_own [.clientScan d.currentTime si opClass] history live rfl rfl rfl
    (fun j other => infos_modifyInfo_other other) rfl (by simp [Event.client]) ?_ fun info' live' => ?_
  · exact fun earlier t j later split => announced_append history.announced (by simp) split
  · have edited : some _ = some info' := (infos_modifyInfo_self live).symm.trans live'
    cases edited
    exact (history.trails si info live).append ⟨rfl, rfl, rfl, rfl⟩ le_rfl rfl (by simp) (by simp)

/-- The warning, right after the visit at which the signal was low. -/
theorem history_notify {node : UsteerNode} (history : History cfg d) (live : d.infos.get? si = some info)
    (passes : Passes cfg d.currentTime info node) (low : ¬ info.signal > snrToSignal node cfg.roamTriggerSnr) :
    History cfg (((d.log (.visit d.currentTime si info node)).usteerRoamSetState si .notifyKick).usteerUbusNotifyClientDisassoc si) := by
  have trace : (((d.log (.visit d.currentTime si info node)).usteerRoamSetState si .notifyKick).usteerUbusNotifyClientDisassoc si).trace =
      d.trace ++ [.visit d.currentTime si info node, .disassocImminent d.currentTime si] :=
    List.append_assoc d.trace [_] [_]
  refine history_own _ history live rfl rfl rfl (fun j other => infos_modifyInfo_other other) trace (by simp [Event.client]) ?_
    fun info' live' => ?_
  · intro earlier t j later split
    rw [trace] at split
    exact announced_append history.announced (by simp) split
  · have edited : some _ = some info' := (infos_modifyInfo_self (d := d.log _) live).symm.trans live'
    cases edited
    have trail := history.trails si info live
    refine ⟨fun t why inside => ?_, trail.kick, le_rfl, fun _ => ?_, fun now => (by cases now)⟩
    · rw [trace] at inside
      exact (List.mem_append.mp inside).elim (trail.kicks t why) fun new => (by simp at new)
    · exact ⟨d.trace, info, node, [], trace, low, passes, by simp⟩

/-- The delay after the warning has passed. -/
theorem history_ready (history : History cfg d) (live : d.infos.get? si = some info) (state : info.roamState = .notifyKick)
    (waited : info.roamEvent.toNat + cfg.roamKickDelay.toNat * 100 ≤ d.currentTime.toNat) :
    History cfg (d.usteerRoamSetState si .kick) := by
  have trace : (d.usteerRoamSetState si .kick).trace = d.trace ++ [] := (List.append_nil _).symm
  refine history_own [] history live rfl rfl rfl (fun j other => infos_modifyInfo_other other) trace (by simp)
    history.announced fun info' live' => ?_
  rw [usteerRoamSetState, infos_modifyInfo_self live] at live'
  cases live'
  have trail := history.trails si info live
  exact ⟨trail.kicks, trail.kick, le_rfl, fun now => (by cases now), fun _ => ⟨info.roamEvent, waited, trail.notified state⟩⟩

/-- The kick of a client that has been warned, at a visit that it passes. -/
theorem announced_kick {snr : Int32} {node : UsteerNode} (trail : Trail cfg d si info) (state : info.roamState = .kick)
    (passes : roamEligible cfg d.currentTime (snrToSignal node snr) info = .ok true) :
    Announced cfg d.trace si d.currentTime where
  warned := by
    obtain ⟨t0, waited, warned⟩ := trail.ready state
    exact ⟨t0, waited.trans trail.event, warned⟩
  spaced t' why inside := by
    have rested := waited_toNat trail.kick (roamEligible_true passes).2.2.2
    have last := trail.kicks t' why inside
    omega

theorem history_roamStep {node : UsteerNode} {r : Bool × Daemon} (small : cfg.roamKickDelay.toNat * 100 < 2 ^ 32)
    (sound : Sound none (d.log (.visit d.currentTime si info node))) (history : History cfg d)
    (live : d.infos.get? si = some info) (passes : Passes cfg d.currentTime info node)
    (step : RoamStep cfg (d.log (.visit d.currentTime si info node)) si info (snrToSignal node cfg.roamTriggerSnr) r) :
    History cfg r.2 := by
  have history1 := history_passed history live passes
  have live1 : (d.log (.visit d.currentTime si info node)).infos.get? si = some info := live
  have trail1 := history1.trails si info live1
  have searched : ∀ {d2}, Looked cfg (d.log (.visit d.currentTime si info node)) si d2 →
      History cfg d2 ∧ ∃ info2, d2.infos.get? si = some info2 := by
    intro d2 looked
    refine ⟨history_descends history1 (looked_descends sound live1 looked) rfl, ?_⟩
    rcases looked with rfl | ⟨siNew, found⟩
    · exact ⟨info, live1⟩
    · have moves := (post_findBetterCandidate (F := AnyFault) plainPlatform cfg .plain sound live1).of_ok found
      obtain ⟨info2, live2, _⟩ := (survives_moves moves).infos live1
      exact ⟨info2, live2⟩
  cases step with
  | stay looked state => exact (searched looked).1
  | early state looked early =>
    obtain ⟨history2, info2, live2⟩ := searched looked
    refine history_setState history2 live2 ?_
    rcases early with rfl | rfl | rfl
    · simp
    · simp
    · simp
  | trigger looked scanned =>
    obtain ⟨history2, info2, live2⟩ := searched looked
    obtain ⟨scanBand, opClass, rfl⟩ := triggerClientScan_eq scanned
    have scanned := history_clientScan scanBand opClass history2 live2
    exact history_setState scanned (infos_modifyInfo_self live2) (by simp)
  | notify state low => exact history_notify history live passes low
  | ready state waited =>
    have delay : (cfg.roamKickDelay * 100).toNat = cfg.roamKickDelay.toNat * 100 := by
      rw [UInt32.toNat_mul]
      exact Nat.mod_eq_of_lt small
    have later := waited_toNat trail1.event waited
    rw [delay] at later
    exact history_ready history1 live1 state later
  | kick state =>
    obtain ⟨snr, _, eligible⟩ := passes
    have kicked := history_kick .roam history1 live1 fun _ => announced_kick trail1 state eligible
    exact history_setState kicked (infos_modifyInfo_self (d := Daemon.log _ _) live1) (by simp)

theorem nodes_looked {d1 : Daemon} (sound : Sound none d) (live : d.infos.get? si = some info) (looked : Looked cfg d si d1)
    (m : NodeId) : ∃ list, d1.nodes.get? m = (d.nodes.get? m).map (fun node => { node with staInfo := list }) := by
  have same : ∃ list, d.nodes.get? m = (d.nodes.get? m).map (fun node => { node with staInfo := list }) := by
    cases d.nodes.get? m with
    | none => exact ⟨[], rfl⟩
    | some node => exact ⟨node.staInfo, rfl⟩
  rcases looked with rfl | ⟨siNew, found⟩
  · exact same
  · rcases (returns_findBetterCandidate sound live).of_ok found with here | ⟨br, n, other, create, _, got⟩
    · rw [show d1 = d from here]
      exact same
    · rcases (returns_usteerStaInfoGet info.sta n sound).of_ok got with ⟨_, here, _⟩ | ⟨_, _, ⟨freq, shape⟩, _⟩
      · rw [show d1 = d from here]
        exact same
      · rw [show d1 = d.newInfo info.sta n freq from shape]
        exact nodes_newInfo info.sta n freq m

/-- A step of the machine leaves the nodes alone, but for their lists of entries. -/
theorem nodes_roamStep {level : Int32} {r : Bool × Daemon} (sound : Sound none d) (live : d.infos.get? si = some info)
    (step : RoamStep cfg d si info level r) (m : NodeId) :
    ∃ list, r.2.nodes.get? m = (d.nodes.get? m).map (fun node => { node with staInfo := list }) := by
  have unmoved : Looked cfg d si d := .inl rfl
  cases step with
  | stay looked state => exact nodes_looked sound live looked m
  | early state looked early => exact nodes_looked sound live looked m
  | trigger looked scanned =>
    obtain ⟨scanBand, opClass, rfl⟩ := triggerClientScan_eq scanned
    exact nodes_looked sound live looked m
  | notify state low => exact nodes_looked sound live unmoved m
  | ready state waited => exact nodes_looked sound live unmoved m
  | kick state => exact nodes_looked sound live unmoved m

/-- Every entry of the list is live and belongs to the local node. -/
def EntriesOn (d : Daemon) (n : NodeId) (list : List SiId) : Prop :=
  ∀ si ∈ list, ∃ info, d.infos.get? si = some info ∧ info.node = n ∧ d.OnLocal info

theorem EntriesOn.survive {n : NodeId} {list : List SiId} (entries : EntriesOn d n list) (survives : Survives d d') :
    EntriesOn d' n list := by
  intro si inside
  obtain ⟨info, live, onNode, isLocal⟩ := entries si inside
  obtain ⟨info', live', _, same⟩ := survives.infos live
  exact ⟨info', live', same.trans onNode, survives.onLocal same isLocal⟩

/-- The level that the tick compares with is that of the node at every visit. -/
def LevelOf (d : Daemon) (n : NodeId) (snr level : Int32) : Prop :=
  ∃ node, d.nodes.get? n = some node ∧ snrToSignal node snr = level

theorem LevelOf.congr {n : NodeId} {snr level : Int32} (same : LevelOf d n snr level)
    (nodes : ∃ list, d'.nodes.get? n = (d.nodes.get? n).map (fun node => { node with staInfo := list })) :
    LevelOf d' n snr level := by
  obtain ⟨node, live, level⟩ := same
  obtain ⟨list, after⟩ := nodes
  exact ⟨{ node with staInfo := list }, by rw [after, live]; rfl, level⟩

theorem history_roamVisits {n : NodeId} {snr level : Int32} (small : cfg.roamKickDelay.toNat * 100 < 2 ^ 32)
    (configured : roamLevel cfg = some snr) (list : List SiId) :
    ∀ {d : Daemon}, Sound none d → EntriesOn d n list → LevelOf d n snr level → History cfg d →
      Post AnyFault (roamVisits cfg level list d) (History cfg) := by
  induction list with
  | nil => intro d _ _ _ history; exact history
  | cons si rest ih =>
    intro d sound entries same history
    obtain ⟨info, live, onNode, isLocal⟩ := entries si List.mem_cons_self
    obtain ⟨node, liveNode, level⟩ := same
    have liveNode' : d.nodes.get? info.node = some node := by rw [onNode]; exact liveNode
    have logged : Moves plainPlatform cfg (.policy n) (none, d) (none, d.log (.visit d.currentTime si info node)) :=
      .one (.log _ rfl)
    have sound1 : Sound none (d.log (.visit d.currentTime si info node)) := sound_moves (a := (none, d)) sound logged
    have rest1 : EntriesOn (d.log (.visit d.currentTime si info node)) n rest :=
      EntriesOn.survive (fun si' inside => entries si' (List.mem_cons_of_mem _ inside)) (survives_moves logged)
    rw [roamVisits, info_ok live, ok_bind, node_ok liveNode', ok_bind]
    dsimp only
    rw [post_bind]
    refine post_of_ok fun eligible judged => ?_
    cases eligible with
    | false =>
      have idle : Moves plainPlatform cfg (.policy n) (none, d.log (.visit d.currentTime si info node))
          (none, (d.log (.visit d.currentTime si info node)).usteerRoamSetState si .idle) := .one (.roam si .idle rfl)
      exact ih (sound_moves (a := (none, d.log _)) sound1 idle) (rest1.survive (survives_moves idle)) ⟨node, liveNode, level⟩
        (history_failed history live)
    | true =>
      have passes : Passes cfg d.currentTime info node := ⟨snr, configured, by rw [level]; exact judged⟩
      simp only [if_true]
      rw [post_bind]
      refine post_of_ok fun r stepped => ?_
      have moves := (post_usteerRoamTriggerSm (d := d.log _) plainPlatform cfg n sound1 live isLocal).of_ok stepped
      have step := (returns_usteerRoamTriggerSm (d := d.log _) live liveNode').of_ok stepped
      have history2 := history_roamStep small sound1 history live passes step
      have level2 := LevelOf.congr ⟨node, liveNode, level⟩ (nodes_roamStep sound1 live step n)
      obtain ⟨kicked, d2⟩ := r
      dsimp only at moves history2 level2 ⊢
      split
      · exact history2
      · exact ih (sound_moves (a := (none, d.log _)) sound1 moves) (rest1.survive (survives_moves moves)) level2 history2

theorem history_usteerLocalNodeRoamCheck {n : NodeId} (small : cfg.roamKickDelay.toNat * 100 < 2 ^ 32)
    (sound : Sound none d) (inside : n ∈ d.localNodes) (history : History cfg d) :
    Post AnyFault (d.usteerLocalNodeRoamCheck cfg n) (History cfg) := by
  obtain ⟨node, live, isLocal⟩ := node_of_locals sound.registered inside
  unfold usteerLocalNodeRoamCheck
  cases configured : roamLevel cfg with
  | none => exact history
  | some snr =>
    have timed : Moves plainPlatform cfg .plain (none, d) (none, d.usteerUpdateTime) := .one .time
    dsimp only
    rw [show d.usteerUpdateTime.node n = .ok node from node_ok live, ok_bind]
    refine history_roamVisits small configured node.staInfo (sound_moves (a := (none, d)) sound timed) ?_
      ⟨node, live, rfl⟩ (history_descends history (descends_moves timed) rfl)
    intro si listed
    obtain ⟨info, liveInfo, same⟩ := info_of_node sound.links live listed
    exact ⟨info, liveInfo, same, node, by rw [same]; exact live, isLocal⟩

/-- The other two mechanisms. -/
theorem history_kicksOne (history : History cfg d) (kicks : KicksOne env cfg .plain d d') : History cfg d' := by
  obtain ⟨d1, moves, rfl | ⟨si, info, why, live, _, other, rfl⟩⟩ := kicks
  · exact history_descends history (descends_moves moves) rfl
  · exact history_countedKick (history_descends history (descends_moves moves) rfl) live other

theorem history_usteerLocalNodeKick {n : NodeId} (small : cfg.roamKickDelay.toNat * 100 < 2 ^ 32)
    (sound : Sound none d) (inside : n ∈ d.localNodes) (history : History cfg d) :
    Post AnyFault (d.usteerLocalNodeKick cfg n) (History cfg) := by
  refine post_of_ok fun d' run => ?_
  obtain ⟨d1, d2, parts⟩ := tickParts plainPlatform cfg sound inside run
  have history1 := (history_usteerLocalNodeRoamCheck small sound inside history).of_ok parts.roamed
  have kicks2 := (post_usteerLocalNodeSnrKick plainPlatform cfg .plain parts.sound1 parts.inside1).of_ok parts.kicked
  have kicks3 := (post_loadKick plainPlatform cfg .plain id parts.sound2 parts.inside2).of_ok parts.loaded
  exact history_kicksOne (history_kicksOne history1 kicks2) kicks3

/-! ### Runs -/

theorem history_handle {input : Input} (small : cfg.roamKickDelay.toNat * 100 < 2 ^ 32) (sound : Sound none d)
    (accepts : d.Accepts input) (run : d.handle env cfg input = .ok d') (history : History cfg d) : History cfg d' := by
  by_cases still : input.scope.tick = false
  · rcases (post_handle sound accepts).of_ok run with ⟨ms, rfl, rfl⟩ | evolves
    · refine ⟨?_, history.announced, history.known, fun si info live => ?_⟩
      · have later := clock_advance accepts
        have time := history.time
        dsimp only
        omega
      · have trail := history.trails si info live
        exact ⟨trail.kicks, trail.kick, trail.event, trail.notified, trail.ready⟩
    · exact history_descends history (descends_evolves evolves) still
  · cases input with
    | tick n => exact (history_usteerLocalNodeKick small sound accepts history).of_ok run
    | _ => exact absurd rfl still

theorem history_initial (localId : UInt32) (clock : UInt64) (ssidList : Option (List CString)) :
    History cfg (.initial localId clock ssidList) where
  time := le_rfl
  announced earlier t si later split := by simp [initial] at split
  known t si why inside := by simp [initial] at inside
  trails si info live := by simp [initial] at live

theorem reachable_history (small : cfg.roamKickDelay.toNat * 100 < 2 ^ 32) (reach : Reachable env cfg d) : History cfg d := by
  induction reach with
  | start localId clock ssidList => exact history_initial localId clock ssidList
  | step input before accepts run ih => exact history_handle small (reachable_sound before) accepts run ih

end Roaming

/-- In every run, every kick of the roam machine comes at least `roam_kick_delay` after a
    warning of the same client at a signal not above the trigger level, with every visit
    of the client from the warning to the kick passed, and at least
    `roam_trigger_interval` after all earlier kicks of the client. -/
theorem roam_kick_announced (env : Platform) {cfg : Config} {d : Daemon} (small : cfg.roamKickDelay.toNat * 100 < 2 ^ 32)
    (reach : Reachable env cfg d) {earlier later : List Event} {t : UInt64} {si : SiId}
    (kicked : d.trace = earlier ++ .kick t si .roam :: later) : Announced cfg earlier si t :=
  (reachable_history small reach).announced earlier t si later kicked

/-- A configuration that kicks weak clients after one scan. -/
def roamingClients : Config := { usteerInitDefaults with roamTriggerSnr := 30, roamScanTries := 1 }

/-- A weak client associates, scans, is warned and kicked. -/
def roams : List Input :=
  [.register hostapdDot, .advance 61000, .staEvent 0 1 .probe 2412 (-90),
    .clients 0 ⟨some 2412, some [⟨some 1, none, some true, none⟩]⟩, .tick 0, .advance 10000, .tick 0, .advance 10000,
    .tick 0, .tick 0, .advance 10000, .tick 0, .tick 0]

/-- When and whom the roam check kicked. -/
def Event.roamKick : Event → Option (UInt64 × SiId)
  | .kick t si .roam => some (t, si)
  | _ => none

theorem roam_kick_announced_after_scan : ∃ d earlier, plainRun roamingClients roams = some d ∧
    d.trace = earlier ++ [.kick 91000 0 .roam] ∧ Announced roamingClients earlier 0 91000 := by
  have evaluates : ((plainRun roamingClients roams).any fun d => d.trace.getLast?.any fun last =>
      decide (last.roamKick = some (91000, 0))) = true := by decide +kernel
  obtain ⟨d, run, evaluates⟩ := (Option.any_eq_true _ _).mp evaluates
  obtain ⟨last, ends, evaluates⟩ := (Option.any_eq_true _ _).mp evaluates
  obtain rfl : last = .kick 91000 0 .roam := by
    have kick := of_decide_eq_true evaluates
    unfold Event.roamKick at kick
    split at kick
    · cases kick
      rfl
    · cases kick
  obtain ⟨earlier, trace⟩ := List.getLast?_eq_some_iff.mp ends
  exact ⟨d, earlier, run, trace, roam_kick_announced plainPlatform (by decide) (reachable_plainRun run) trace⟩

end Usteer
