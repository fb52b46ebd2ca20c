import Usteer.Entries
import Usteer.RoamMachine
import Usteer.Roaming
import Usteer.Search

/-!
A daemon as the roam machine of one client sees it. Whatever the daemon does leaves the
machine of an entry alone, except for the visits of the entry and the station events
(`ClientStep`), so its state and its scans follow from those (`clientRun_machine`); and every
run of the daemon is such a run of the client (`clientRun_runs`).
-/
namespace Usteer
open SearchTree Timeout Function Daemon Schedule

/-- When the client was told to scan. -/
def scansOf (si : SiId) (trace : List Event) : List UInt64 :=
  trace.filterMap (fun
    | .clientScan time si' _ => if si' = si then some time else none
    | _ => none)

@[simp] theorem scansOf_append (si : SiId) (trace more : List Event) :
    scansOf si (trace ++ more) = scansOf si trace ++ scansOf si more := List.filterMap_append

/-! ### A visit -/

section Visit

variable {cfg : Config} {d d1 d' : Daemon} {si : SiId} {siNew : Option SiId} {info : StaInfo} {node : UsteerNode}

/-- The signal of the client is not above the trigger level. -/
def lowSignal (cfg : Config) (info : StaInfo) (node : UsteerNode) : Bool :=
  decide (¬ info.signal > snrToSignal node cfg.roamTriggerSnr)

/-- The search leaves the entries that there are, the time and the history alone. -/
theorem searched_entry {j : SiId} {infoJ : StaInfo} (sound : Sound none d) (live : d.infos.get? si = some info)
    (searched : d.findBetterCandidate cfg si = .ok (siNew, d1)) (liveJ : d.infos.get? j = some infoJ) :
    d1.infos.get? j = some infoJ ∧ d1.currentTime = d.currentTime ∧ d1.trace = d.trace := by
  rcases (returns_findBetterCandidate sound live).of_ok searched with same | ⟨br, n, other, create, -, got⟩
  · rw [show d1 = d from same]
    exact ⟨liveJ, rfl, rfl⟩
  · rcases (returns_usteerStaInfoGet info.sta n sound).of_ok got with ⟨_, same, _⟩ | ⟨_, _, ⟨freq, shape⟩, _⟩
    · rw [show d1 = d from same]
      exact ⟨liveJ, rfl, rfl⟩
    · rw [show d1 = d.newInfo info.sta n freq from shape]
      exact ⟨infos_newInfo_of_live _ _ freq liveJ, rfl, rfl⟩

/-- The state after a visit is that of the machine, and a scan is requested when the machine
    does. -/
structure Visited (cfg : Config) (si : SiId) (d : Daemon) (m : Machine × Bool) (d' : Daemon) : Prop where
  entry : ∃ info', d'.infos.get? si = some info' ∧ info'.machine = m.1
  time : d'.currentTime = d.currentTime
  scans : scansOf si d'.trace = scansOf si d.trace ++ if m.2 then [d.currentTime] else []

theorem visited_setState (state : RoamTriggerState) (live : d1.infos.get? si = some info)
    (time : d1.currentTime = d.currentTime) (trace : d1.trace = d.trace) :
    Visited cfg si d (info.machine.set d.currentTime state, false) (d1.usteerRoamSetState si state) where
  entry := by
    refine ⟨_, infos_modifyInfo_self live, ?_⟩
    rw [← time]
    rfl
  time := time
  scans := by
    rw [show (d1.usteerRoamSetState si state).trace = d.trace from trace]
    simp

theorem visited_stay (live : d1.infos.get? si = some info) (time : d1.currentTime = d.currentTime)
    (trace : d1.trace = d.trace) : Visited cfg si d (info.machine, false) d1 where
  entry := ⟨info, live, rfl⟩
  time := time
  scans := by simp [trace]

/-- A scan is requested and counted. -/
theorem visited_clientScan {d2 : Daemon} (scanned : d1.usteerUbusTriggerClientScan si = .ok d2)
    (live : d1.infos.get? si = some info) (time : d1.currentTime = d.currentTime) (trace : d1.trace = d.trace) :
    Visited cfg si d (info.machine.set d.currentTime .scan, true) (d2.usteerRoamSetState si .scan) := by
  obtain ⟨scanBand, opClass, rfl⟩ := triggerClientScan_eq scanned
  have live2 := infos_modifyInfo_self (f := fun info => { info with scanBand := scanBand }) live
  refine ⟨⟨_, infos_modifyInfo_self (d := Daemon.log _ _) live2, ?_⟩, time, ?_⟩
  · rw [← time]
    rfl
  · show scansOf si (d1.trace ++ [.clientScan d1.currentTime si opClass]) = _
    rw [scansOf_append, trace, time]
    simp [scansOf]

/-- `usteer_roam_trigger_sm` is the machine. -/
theorem visited_usteerRoamTriggerSm {kicked : Bool} (sound : Sound none d) (live : d.infos.get? si = some info)
    (liveNode : d.nodes.get? info.node = some node) (searched : d.findBetterCandidate cfg si = .ok (siNew, d1))
    (ran : d.usteerRoamTriggerSm cfg si = .ok (kicked, d')) :
    Visited cfg si d (info.machine.visit cfg d.currentTime siNew.isSome (lowSignal cfg info node)) d' := by
  obtain ⟨live1, time1, trace1⟩ := searched_entry sound live searched live
  rw [usteerRoamTriggerSm, info_ok live, ok_bind, node_ok liveNode, ok_bind] at ran
  rw [Machine.visit, show info.machine.state = info.roamState from rfl]
  cases now : info.roamState with
  | scan =>
    simp only [now] at ran ⊢
    by_cases early : d.currentTime - info.roamEvent < cfg.roamScanInterval.toUInt64
    · rw [if_pos early] at ran
      rw [if_pos (show ¬ info.machine.Due cfg d.currentTime from not_not.mpr early)]
      cases ran
      exact visited_stay live rfl rfl
    rw [if_neg early, searched, ok_bind] at ran
    rw [if_neg (show ¬ ¬ info.machine.Due cfg d.currentTime from not_not.mpr early)]
    dsimp only at ran
    by_cases leaves : siNew.isSome = true ∨ info.roamScanDone > info.roamEvent
    · rw [if_pos (by simpa using leaves)] at ran
      rw [if_pos (show siNew.isSome = true ∨ info.machine.scanDone > info.machine.event from leaves)]
      cases ran
      exact visited_setState .scanDone live1 time1 trace1
    rw [if_neg (by simpa using leaves)] at ran
    rw [if_neg (show ¬ (siNew.isSome = true ∨ info.machine.scanDone > info.machine.event) from leaves)]
    by_cases exhausted : cfg.roamScanTries ≠ 0 ∧ info.roamTries.toUInt32 ≥ cfg.roamScanTries
    · rw [if_pos (by simpa using exhausted)] at ran
      rw [if_pos (show info.machine.Exhausted cfg from exhausted)]
      cases ran
      exact visited_setState .waitKick live1 time1 trace1
    rw [if_neg (by simpa using exhausted)] at ran
    rw [if_neg (show ¬ info.machine.Exhausted cfg from exhausted)]
    cases scanned : d1.usteerUbusTriggerClientScan si with
    | error fault =>
      rw [scanned] at ran
      cases ran
    | ok d2 =>
      rw [scanned] at ran
      cases ran
      exact visited_clientScan scanned live1 time1 trace1
  | idle =>
    simp only [now, searched, ok_bind] at ran ⊢
    cases siNew with
    | some found =>
      cases ran
      exact visited_setState .scanDone live1 time1 trace1
    | none =>
      cases ran
      exact visited_setState .scan live1 time1 trace1
  | scanDone =>
    simp only [now] at ran ⊢
    by_cases stale : d.currentTime - info.roamScanDone > (2 * cfg.roamScanInterval).toUInt64
    · rw [if_pos stale] at ran
      rw [if_pos (show info.machine.Stale cfg d.currentTime from stale)]
      cases ran
      exact visited_setState .scan live rfl rfl
    rw [if_neg stale, searched, ok_bind] at ran
    rw [if_neg (show ¬ info.machine.Stale cfg d.currentTime from stale)]
    cases siNew with
    | none =>
      cases ran
      exact visited_stay live1 time1 trace1
    | some found =>
      cases ran
      exact visited_setState .waitKick live1 time1 trace1
  | waitKick =>
    simp only [now] at ran ⊢
    by_cases high : info.signal > snrToSignal node cfg.roamTriggerSnr
    · rw [if_pos high] at ran
      rw [if_neg (by simp [lowSignal, high])]
      cases ran
      exact visited_stay live rfl rfl
    · rw [if_neg high] at ran
      rw [if_pos (by simpa [lowSignal] using high)]
      cases ran
      have notified : Visited cfg si d (_, false) (d.usteerRoamSetState si .notifyKick) :=
        visited_setState .notifyKick live rfl rfl
      refine ⟨notified.entry, rfl, ?_⟩
      show scansOf si (d.trace ++ [.disassocImminent _ si]) = _
      simp [scansOf]
  | notifyKick =>
    simp only [now] at ran ⊢
    by_cases early : d.currentTime - info.roamEvent < (cfg.roamKickDelay * 100).toUInt64
    · rw [if_pos early] at ran
      rw [if_pos (show d.currentTime - info.machine.event < _ from early)]
      cases ran
      exact visited_stay live rfl rfl
    · rw [if_neg early] at ran
      rw [if_neg (show ¬ d.currentTime - info.machine.event < _ from early)]
      cases ran
      exact visited_setState .kick live rfl rfl
  | kick =>
    simp only [now] at ran ⊢
    cases ran
    have kicked : (d.usteerUbusKickClient si .roam).infos.get? si = some _ :=
      infos_modifyInfo_self (d := d.log _) live
    refine ⟨⟨_, infos_modifyInfo_self kicked, rfl⟩, rfl, ?_⟩
    show scansOf si (d.trace ++ [.kick _ si .roam]) = _
    simp [scansOf]

end Visit

/-! ### Runs as the client sees them -/

/-- One step of the daemon, with what of it reaches the machine of the client: a visit that
    runs the machine, a visit that puts it back, a station event, or something that does not
    concern it. -/
inductive ClientStep (cfg : Config) (si : SiId) : Daemon → List Beat → Daemon → Prop
  | visit {d d1 d' info node siNew kicked} (sound : Sound none d) (live : d.infos.get? si = some info)
      (liveNode : d.nodes.get? info.node = some node) (passes : Passes cfg d.currentTime info node)
      (searched : d.findBetterCandidate cfg si = .ok (siNew, d1))
      (ran : d.usteerRoamTriggerSm cfg si = .ok (kicked, d')) :
      ClientStep cfg si d [.visit d.currentTime siNew.isSome (lowSignal cfg info node)] d'
  | reset {d info node} (live : d.infos.get? si = some info) (liveNode : d.nodes.get? info.node = some node)
      (fails : ¬ Passes cfg d.currentTime info node) :
      ClientStep cfg si d [.reset d.currentTime] (d.usteerRoamSetState si .idle)
  | heard {d d' info info'} (live : d.infos.get? si = some info) (live' : d'.infos.get? si = some info')
      (machine : info'.machine = { info.machine with scanDone := d.currentTime })
      (time : d'.currentTime = d.currentTime) (scans : scansOf si d'.trace = scansOf si d.trace) :
      ClientStep cfg si d [.heard d.currentTime] d'
  | other {d d' info info'} (live : d.infos.get? si = some info) (live' : d'.infos.get? si = some info')
      (machine : info'.machine = info.machine) (time : d.currentTime.toNat ≤ d'.currentTime.toNat)
      (scans : scansOf si d'.trace = scansOf si d.trace) : ClientStep cfg si d [] d'

/-- Such steps one after the other. -/
def ClientRun (cfg : Config) (si : SiId) : Daemon → List Beat → Daemon → Prop := Run (ClientStep cfg si)

section ClientRuns

variable {cfg : Config} {d d' : Daemon} {si : SiId} {info : StaInfo} {beats : List Beat}

theorem clientStep_single (step : ClientStep cfg si d beats d') : beats.length ≤ 1 := by
  cases step with
  | visit => exact le_rfl
  | reset => exact le_rfl
  | heard => exact le_rfl
  | other => exact Nat.zero_le _

/-- A step takes the machine along its beat, at its time. -/
theorem clientStep_machine (step : ClientStep cfg si d beats d') (live : d.infos.get? si = some info) :
    (∃ info', d'.infos.get? si = some info' ∧ info'.machine = info.machine.run cfg beats) ∧
      scansOf si d'.trace = scansOf si d.trace ++ info.machine.scanTimes cfg beats ∧
      (∀ rest, Machine.Ordered d'.currentTime rest → Machine.Ordered d.currentTime (beats ++ rest)) := by
  have now (beat : Beat) (here : beat.time = d.currentTime) (time : d'.currentTime = d.currentTime) (rest : List Beat)
      (ordered : Machine.Ordered d'.currentTime rest) : Machine.Ordered d.currentTime ([beat] ++ rest) := by
    refine Machine.ordered_cons.mpr ⟨by rw [here], ?_⟩
    rw [here, ← time]
    exact ordered
  cases step with
  | visit sound live' liveNode passes searched ran =>
    cases live.symm.trans live'
    have visited := visited_usteerRoamTriggerSm sound live liveNode searched ran
    refine ⟨visited.entry, ?_, now _ rfl visited.time⟩
    rw [visited.scans, Machine.scanTimes, Machine.scanTimes, List.append_nil]
    rfl
  | reset live' liveNode fails =>
    refine ⟨⟨_, infos_modifyInfo_self live, rfl⟩, ?_, now _ rfl rfl⟩
    show scansOf si d.trace = _
    simp [Machine.scanTimes, Machine.scans]
  | heard live0 live' machine time scans =>
    cases live.symm.trans live0
    refine ⟨⟨_, live', machine⟩, ?_, now _ rfl time⟩
    rw [scans]
    simp [Machine.scanTimes, Machine.scans]
  | other live0 live' machine time scans =>
    cases live.symm.trans live0
    refine ⟨⟨_, live', machine⟩, ?_, fun rest ordered => ordered.earlier time⟩
    rw [scans]
    simp [Machine.scanTimes]

/-- The machine of an entry and the scans requested for it follow from the beats. -/
theorem clientRun_machine (run : ClientRun cfg si d beats d') : ∀ {info}, d.infos.get? si = some info →
    (∃ info', d'.infos.get? si = some info' ∧ info'.machine = info.machine.run cfg beats) ∧
      scansOf si d'.trace = scansOf si d.trace ++ info.machine.scanTimes cfg beats ∧
      Machine.Ordered d.currentTime beats := by
  induction run with
  | refl d =>
    intro info live
    exact ⟨⟨info, live, rfl⟩, (List.append_nil _).symm, List.pairwise_singleton _ _⟩
  | next head tail ih =>
    intro info live
    obtain ⟨⟨info1, live1, machine1⟩, scans1, ordered1⟩ := clientStep_machine head live
    obtain ⟨⟨info2, live2, machine2⟩, scans2, ordered2⟩ := ih live1
    rw [machine1] at machine2 scans2
    refine ⟨⟨info2, live2, ?_⟩, ?_, ordered1 _ ordered2⟩
    · rw [machine2, Machine.run_append]
    · rw [scans2, scans1, Machine.scanTimes_append, List.append_assoc]

theorem machine_along {info' : StaInfo} (run : ClientRun cfg si d beats d') (live : d.infos.get? si = some info)
    (live' : d'.infos.get? si = some info') : info'.machine = info.machine.run cfg beats := by
  obtain ⟨⟨info'', live'', machine⟩, -⟩ := clientRun_machine run live
  cases live'.symm.trans live''
  exact machine

end ClientRuns

/-! ### Every run is a run of the client -/

section Decomposition

variable {env : Platform} {cfg : Config} {scope : Scope} {d d' : Daemon} {si : SiId} {info info' : StaInfo}

/-- Only a policy tick tells a client to scan. -/
theorem scansOf_logs {more : List Event} {localId : UInt32} (still : scope.tick = false)
    (fits : ∀ e ∈ more, Logs scope localId e) : scansOf si more = [] := by
  refine List.filterMap_eq_nil_iff.mpr fun e inside => ?_
  have logged := fits e inside
  cases e with
  | clientScan time si' opClass =>
    have ticking : scope.tick = true := logged
    rw [still] at ticking
    cases ticking
  | _ => rfl

/-- A move that is not part of a policy tick. -/
theorem clientStep_move {a b : Option StaId × Daemon} (move : Move env cfg scope a b) (still : scope.tick = false)
    (past : HeardBefore a.2) (live : a.2.infos.get? si = some info) : ∃ beats, ClientStep cfg si a.2 beats b.2 := by
  obtain ⟨info', live', -⟩ := (survives_move move).infos live
  have descends := descends_move move
  have time : a.2.currentTime.toNat ≤ b.2.currentTime.toNat := by
    rcases descends.time with same | now
    · rw [same]
    · rw [now]
      exact past.time
  have scans : scansOf si b.2.trace = scansOf si a.2.trace := by
    obtain ⟨more, trace, fits⟩ := descends.trace
    rw [trace, scansOf_append, scansOf_logs still fits, List.append_nil]
  have roam : SameRoam info info' := by
    obtain ⟨origin, stems, before | ⟨fresh, -⟩⟩ := descends.infos live'
    · cases live.symm.trans before
      exact stems.roam still
    · exact absurd (Heap.lt_next live) (Nat.not_lt.mpr fresh)
  obtain ⟨state, event, -, tries⟩ := roam
  have heard : info'.roamScanDone = info.roamScanDone ∨
      info'.roamScanDone = a.2.currentTime ∧ b.2.currentTime = a.2.currentTime := by
    rcases info_move move live' with ⟨origin, before, edited⟩ | ⟨none, -⟩
    · cases live.symm.trans before
      exact edited.heard
    · cases live.symm.trans none
  rcases heard with same | ⟨now, unchanged⟩
  · refine ⟨[], .other live live' ?_ time scans⟩
    simp only [StaInfo.machine, state, event, tries, same]
  · refine ⟨_, .heard live live' ?_ unchanged scans⟩
    simp only [StaInfo.machine, state, event, tries, now]

theorem clientRun_moves {a b : Option StaId × Daemon} (moves : Moves env cfg scope a b) (still : scope.tick = false)
    (past : HeardBefore a.2) (live : a.2.infos.get? si = some info) : ∃ beats, ClientRun cfg si a.2 beats b.2 := by
  induction moves with
  | refl => exact ⟨[], .refl _⟩
  | tail before move ih =>
    obtain ⟨beats, run⟩ := ih
    obtain ⟨info1, live1, -⟩ := (survives_moves before).infos live
    obtain ⟨more, step⟩ := clientStep_move move still (heardBefore_moves past before) live1
    exact ⟨beats ++ more, run.trans (.one step)⟩

/-- An entry that is there before and after was there all the time. -/
theorem infos_between {d1 : Daemon} {scope' : Scope} (first : Descends scope d d1) (second : Descends scope' d1 d')
    (live : d.infos.get? si = some info) (live' : d'.infos.get? si = some info') :
    ∃ info1, d1.infos.get? si = some info1 := by
  obtain ⟨info1, -, live1 | ⟨fresh, -⟩⟩ := second.infos live'
  · exact ⟨info1, live1⟩
  · have old := Heap.lt_next live
    have grown := first.next
    omega

theorem clientRun_evolves (evolves : Evolves env cfg scope d d') (still : scope.tick = false) (past : HeardBefore d)
    (live : d.infos.get? si = some info) (live' : d'.infos.get? si = some info') :
    ∃ beats, ClientRun cfg si d beats d' := by
  induction evolves generalizing info' with
  | refl => exact ⟨[], .refl _⟩
  | @tail d1 d2 before change ih =>
    have past1 := heardBefore_evolves past before
    have last : Evolves env cfg scope d1 d2 := .single change
    obtain ⟨info1, live1⟩ := infos_between (descends_evolves before) (descends_evolves last) live live'
    obtain ⟨beats, run⟩ := ih live1
    suffices more : ∃ more, ClientRun cfg si d1 more d2 by
      obtain ⟨more, next⟩ := more
      exact ⟨beats ++ more, run.trans next⟩
    cases change with
    | moves moves => exact clientRun_moves moves still past1 live1
    | shrink shrunk =>
      have same := shrunk.infos live'
      cases live1.symm.trans same
      exact ⟨[], .one (.other live1 live' rfl (by rw [shrunk.currentTime]) (by rw [shrunk.trace]))⟩
    | join joined =>
      rw [joined.rest] at live' ⊢
      cases live1.symm.trans live'
      exact ⟨[], .one (.other live1 live' rfl le_rfl rfl)⟩

/-- What concerns other clients only. -/
structure Apart (si : SiId) (d d' : Daemon) : Prop where
  entry : ∀ {info}, d.infos.get? si = some info → d'.infos.get? si = some info
  time : d'.currentTime = d.currentTime
  scans : scansOf si d'.trace = scansOf si d.trace

theorem Apart.step (apart : Apart si d d') (live : d.infos.get? si = some info) : ClientStep cfg si d [] d' :=
  .other live (apart.entry live) rfl (by rw [apart.time]) apart.scans

theorem Apart.trans {d'' : Daemon} (first : Apart si d d') (second : Apart si d' d'') : Apart si d d'' where
  entry live := second.entry (first.entry live)
  time := second.time.trans first.time
  scans := second.scans.trans first.scans

theorem Apart.log (e : Event) (unscanned : scansOf si [e] = []) : Apart si d (d.log e) where
  entry live := live
  time := rfl
  scans := by
    show scansOf si (d.trace ++ [e]) = _
    rw [scansOf_append, unscanned, List.append_nil]

theorem Apart.edit {j : SiId} (f : StaInfo → StaInfo) (other : si ≠ j) : Apart si d (d.modifyInfo j f) where
  entry live := by rw [infos_modifyInfo_other other]; exact live
  time := rfl
  scans := rfl

theorem Apart.looked {j : SiId} {infoJ : StaInfo} (sound : Sound none d) (liveJ : d.infos.get? j = some infoJ)
    (looked : Looked cfg d j d') : Apart si d d' := by
  rcases looked with rfl | ⟨siNew, searched⟩
  · exact ⟨fun live => live, rfl, rfl⟩
  · have entries {info : StaInfo} (live : d.infos.get? si = some info) := searched_entry sound liveJ searched live
    obtain ⟨-, time, trace⟩ := searched_entry sound liveJ searched liveJ
    exact ⟨fun live => (entries live).1, time, by rw [trace]⟩

/-- A visit of another client. -/
theorem apart_roamStep {j : SiId} {infoJ : StaInfo} {level : Int32} {r : Bool × Daemon} (sound : Sound none d)
    (liveJ : d.infos.get? j = some infoJ) (step : RoamStep cfg d j infoJ level r) (other : si ≠ j) :
    Apart si d r.2 := by
  cases step with
  | stay looked state => exact .looked sound liveJ looked
  | early state looked early => exact (Apart.looked sound liveJ looked).trans (.edit _ other)
  | trigger looked scanned =>
    obtain ⟨scanBand, opClass, rfl⟩ := triggerClientScan_eq scanned
    refine (Apart.looked sound liveJ looked).trans
      ((Apart.edit _ other).trans ((Apart.log _ ?_).trans (.edit _ other)))
    simp [scansOf, Ne.symm other]
  | notify state low => exact (Apart.edit _ other).trans (.log _ rfl)
  | ready state waited => exact .edit _ other
  | kick state => exact (Apart.log _ rfl).trans ((Apart.edit _ other).trans (.edit _ other))

/-- A visit of the client or of another one that runs the machine. -/
theorem clientStep_ran {j : SiId} {infoJ : StaInfo} {node : UsteerNode} {r : Bool × Daemon} (sound : Sound none d)
    (live : d.infos.get? si = some info) (liveJ : d.infos.get? j = some infoJ)
    (liveNode : d.nodes.get? infoJ.node = some node) (passes : Passes cfg d.currentTime infoJ node)
    (ran : d.usteerRoamTriggerSm cfg j = .ok r) : ∃ beats, ClientStep cfg si d beats r.2 := by
  by_cases other : si = j
  · subst other
    obtain ⟨⟨siNew, d1⟩, searched, -⟩ := (found_spec (F := fun _ => False) cfg sound liveJ).returns
    exact ⟨_, .visit sound liveJ liveNode passes searched ran⟩
  · have step := (returns_usteerRoamTriggerSm liveJ liveNode).of_ok ran
    exact ⟨[], (apart_roamStep sound liveJ step other).step live⟩

/-- A visit that puts the machine back. -/
theorem clientStep_reset {j : SiId} {infoJ : StaInfo} {node : UsteerNode} (live : d.infos.get? si = some info)
    (liveJ : d.infos.get? j = some infoJ) (liveNode : d.nodes.get? infoJ.node = some node)
    (fails : ¬ Passes cfg d.currentTime infoJ node) :
    ∃ beats, ClientStep cfg si d beats (d.usteerRoamSetState j .idle) := by
  by_cases other : si = j
  · subst other
    exact ⟨_, .reset liveJ liveNode fails⟩
  · exact ⟨[], (Apart.edit _ other).step live⟩

theorem clientRun_roamVisits {n : NodeId} {snr level : Int32} (configured : roamLevel cfg = some snr)
    (list : List SiId) :
    ∀ {d : Daemon} {info : StaInfo}, Sound none d → EntriesOn d n list → LevelOf d n snr level →
      d.infos.get? si = some info →
      Post AnyFault (roamVisits cfg level list d) (fun d' => ∃ beats, ClientRun cfg si d beats d') := by
  induction list with
  | nil => exact fun _ _ _ _ => ⟨[], .refl _⟩
  | cons j rest ih =>
    intro d info sound entries same live
    obtain ⟨infoJ, liveJ, onNode, isLocal⟩ := entries j List.mem_cons_self
    obtain ⟨node, liveNode, level⟩ := same
    have liveNode' : d.nodes.get? infoJ.node = some node := by rw [onNode]; exact liveNode
    have logged : Moves plainPlatform cfg (.policy n) (none, d) (none, d.log (.visit d.currentTime j infoJ node)) :=
      .one (.log _ rfl)
    have sound1 : Sound none (d.log (.visit d.currentTime j infoJ node)) := sound_moves (a := (none, d)) sound logged
    have rest1 : EntriesOn (d.log (.visit d.currentTime j infoJ node)) n rest :=
      EntriesOn.survive (fun si' inside => entries si' (List.mem_cons_of_mem _ inside)) (survives_moves logged)
    have noted : ClientStep cfg si d [] (d.log (.visit d.currentTime j infoJ node)) := (Apart.log _ rfl).step live
    rw [roamVisits, info_ok liveJ, ok_bind, node_ok liveNode', ok_bind]
    dsimp only
    rw [post_bind]
    refine post_of_ok fun eligible judged => ?_
    cases eligible with
    | false =>
      have idle : Moves plainPlatform cfg (.policy n) (none, d.log (.visit d.currentTime j infoJ node))
          (none, (d.log (.visit d.currentTime j infoJ node)).usteerRoamSetState j .idle) := .one (.roam j .idle rfl)
      have fails : ¬ Passes cfg d.currentTime infoJ node := by
        rintro ⟨snr', configured', eligible⟩
        cases configured.symm.trans configured'
        rw [level] at eligible
        cases judged.symm.trans eligible
      obtain ⟨beats, step⟩ :=
        clientStep_reset (d := d.log (.visit d.currentTime j infoJ node)) live liveJ liveNode' fails
      obtain ⟨⟨info2, live2, -⟩, -⟩ := clientStep_machine step live
      refine (ih (sound_moves (a := (none, d.log _)) sound1 idle) (rest1.survive (survives_moves idle))
        ⟨node, liveNode, level⟩ live2).mono ?_
      rintro d' ⟨more, run⟩
      exact ⟨_, .next noted (.next step run)⟩
    | true =>
      have passes : Passes cfg d.currentTime infoJ node := ⟨snr, configured, by rw [level]; exact judged⟩
      simp only [if_true]
      rw [post_bind]
      refine post_of_ok fun r ran => ?_
      have moves := (post_usteerRoamTriggerSm (d := d.log _) plainPlatform cfg n sound1 liveJ isLocal).of_ok ran
      have roamed := (returns_usteerRoamTriggerSm (d := d.log _) liveJ liveNode').of_ok ran
      have level2 := LevelOf.congr ⟨node, liveNode, level⟩ (nodes_roamStep sound1 liveJ roamed n)
      obtain ⟨beats, step⟩ := clientStep_ran (d := d.log _) sound1 live liveJ liveNode' passes ran
      obtain ⟨⟨info2, live2, -⟩, -⟩ := clientStep_machine step live
      obtain ⟨kicked, d2⟩ := r
      dsimp only at moves level2 step live2 ⊢
      split
      · exact ⟨_, .next noted (.one step)⟩
      · refine (ih (sound_moves (a := (none, d.log _)) sound1 moves) (rest1.survive (survives_moves moves)) level2
          live2).mono ?_
        rintro d' ⟨more, run⟩
        exact ⟨_, .next noted (.next step run)⟩

theorem clientRun_usteerLocalNodeRoamCheck {n : NodeId} (sound : Sound none d) (past : HeardBefore d)
    (inside : n ∈ d.localNodes) (live : d.infos.get? si = some info) :
    Post AnyFault (d.usteerLocalNodeRoamCheck cfg n) (fun d' => ∃ beats, ClientRun cfg si d beats d') := by
  obtain ⟨node, liveNode, isLocal⟩ := node_of_locals sound.registered inside
  unfold usteerLocalNodeRoamCheck
  cases configured : roamLevel cfg with
  | none => exact ⟨[], .refl _⟩
  | some snr =>
    have timed : Moves plainPlatform cfg .plain (none, d) (none, d.usteerUpdateTime) := .one .time
    have now : ClientStep cfg si d [] d.usteerUpdateTime := .other live live rfl past.time rfl
    dsimp only
    rw [show d.usteerUpdateTime.node n = .ok node from node_ok liveNode, ok_bind]
    refine (clientRun_roamVisits configured node.staInfo (sound_moves (a := (none, d)) sound timed) ?_
      ⟨node, liveNode, rfl⟩ live).mono ?_
    · intro j listed
      obtain ⟨infoJ, liveJ, same⟩ := info_of_node sound.links liveNode listed
      exact ⟨infoJ, liveJ, same, node, by rw [same]; exact liveNode, isLocal⟩
    · rintro d' ⟨beats, run⟩
      exact ⟨_, .next now run⟩

/-- The other two mechanisms do not touch the machine. -/
theorem clientRun_kicksOne (kicks : KicksOne env cfg .plain d d') (past : HeardBefore d)
    (live : d.infos.get? si = some info) : ∃ beats, ClientRun cfg si d beats d' := by
  obtain ⟨d1, moves, kicked⟩ := kicks
  obtain ⟨beats, run⟩ := clientRun_moves moves rfl past live
  obtain ⟨⟨info1, live1, -⟩, -⟩ := clientRun_machine run live
  rcases kicked with rfl | ⟨j, infoJ, why, liveJ, -, -, rfl⟩
  · exact ⟨beats, run⟩
  · refine ⟨_, run.trans (.one (?_ : ClientStep cfg si d1 [] (d1.countedKick j why)))⟩
    by_cases other : si = j
    · subst other
      have counted := infos_modifyInfo_self (f := fun info => { info with kickCount := info.kickCount + 1 }) live1
      refine .other live1 (infos_modifyInfo_self (d := Daemon.log _ _) counted) rfl le_rfl ?_
      show scansOf si (d1.trace ++ [.kick _ si why]) = _
      simp [scansOf]
    · exact ((Apart.edit _ other).trans ((Apart.log _ rfl).trans (.edit _ other))).step live1

theorem clientRun_usteerLocalNodeKick {n : NodeId} (sound : Sound none d) (past : HeardBefore d)
    (inside : n ∈ d.localNodes) (live : d.infos.get? si = some info) :
    Post AnyFault (d.usteerLocalNodeKick cfg n) (fun d' => ∃ beats, ClientRun cfg si d beats d') := by
  refine post_of_ok fun d' run => ?_
  obtain ⟨d1, d2, parts⟩ := tickParts plainPlatform cfg sound inside run
  have past1 : HeardBefore d1 := heardBefore_moves (a := (none, d)) past parts.moves1
  have past2 : HeardBefore d2 := heardBefore_moves (a := (none, d1)) past1 parts.moves2
  have kicks2 := (post_usteerLocalNodeSnrKick plainPlatform cfg .plain parts.sound1 parts.inside1).of_ok parts.kicked
  have kicks3 := (post_loadKick plainPlatform cfg .plain id parts.sound2 parts.inside2).of_ok parts.loaded
  obtain ⟨beats1, run1⟩ := (clientRun_usteerLocalNodeRoamCheck sound past inside live).of_ok parts.roamed
  obtain ⟨⟨info1, live1, -⟩, -⟩ := clientRun_machine run1 live
  obtain ⟨beats2, run2⟩ := clientRun_kicksOne kicks2 past1 live1
  obtain ⟨⟨info2, live2, -⟩, -⟩ := clientRun_machine run2 live1
  obtain ⟨beats3, run3⟩ := clientRun_kicksOne kicks3 past2 live2
  exact ⟨_, run1.trans (run2.trans run3)⟩

/-- What the daemon does with an input is a run of every client that has its entry before and
    after. -/
theorem clientRun_handle {input : Input} (sound : Sound none d) (past : HeardBefore d) (accepts : d.Accepts input)
    (handled : d.handle env cfg input = .ok d') (live : d.infos.get? si = some info)
    (live' : d'.infos.get? si = some info') : ∃ beats, ClientRun cfg si d beats d' := by
  by_cases still : input.scope.tick = false
  · rcases (post_handle sound accepts).of_ok handled with ⟨ms, rfl, rfl⟩ | evolves
    · exact ⟨[], .one (.other live live rfl le_rfl rfl)⟩
    · exact clientRun_evolves evolves still past live live'
  · cases input with
    | tick n => exact (clientRun_usteerLocalNodeKick sound past accepts live).of_ok handled
    | _ => exact absurd rfl still

theorem next_handle {input : Input} (sound : Sound none d) (accepts : d.Accepts input)
    (handled : d.handle env cfg input = .ok d') : d.infos.next ≤ d'.infos.next := by
  rcases (post_handle sound accepts).of_ok handled with ⟨ms, rfl, rfl⟩ | evolves
  · exact le_rfl
  · exact (descends_evolves evolves).next

/-- Addresses are not used again, so an entry that is there after an input was there before
    it, or has been created. -/
theorem old_handle {input : Input} (sound : Sound none d) (accepts : d.Accepts input)
    (handled : d.handle env cfg input = .ok d') (live' : d'.infos.get? si = some info') (old : si < d.infos.next) :
    ∃ info, d.infos.get? si = some info := by
  rcases (post_handle sound accepts).of_ok handled with ⟨ms, rfl, rfl⟩ | evolves
  · exact ⟨_, live'⟩
  · obtain ⟨info, -, live | ⟨fresh, -⟩⟩ := (descends_evolves evolves).infos live'
    · exact ⟨info, live⟩
    · exact absurd old (Nat.not_lt.mpr fresh)

/-- One accepted input after the other. -/
theorem old_runs (inputs : List Input) : ∀ {d : Daemon}, Sound none d → d.runs env cfg inputs = some d' →
    d'.infos.get? si = some info' → si < d.infos.next → ∃ info, d.infos.get? si = some info := by
  induction inputs with
  | nil =>
    intro d _ run live' _
    cases run
    exact ⟨_, live'⟩
  | cons input rest ih =>
    intro d sound run live' old
    obtain ⟨d1, accepts, handled, run⟩ := runs_cons run
    have grown := next_handle sound accepts handled
    obtain ⟨info1, live1⟩ := ih (sound_handle sound accepts handled) run live' (Nat.lt_of_lt_of_le old grown)
    exact old_handle sound accepts handled live1 old

/-- Every run of the daemon is a run of every client that has its entry before and after. -/
theorem clientRun_runs (inputs : List Input) : ∀ {d : Daemon} {info : StaInfo}, Sound none d → HeardBefore d →
    d.runs env cfg inputs = some d' → d.infos.get? si = some info → d'.infos.get? si = some info' →
      ∃ beats, ClientRun cfg si d beats d' := by
  induction inputs with
  | nil =>
    intro d info _ _ run _ _
    cases run
    exact ⟨[], .refl _⟩
  | cons input rest ih =>
    intro d info sound past run live live'
    obtain ⟨d1, accepts, handled, run⟩ := runs_cons run
    have sound1 := sound_handle sound accepts handled
    have grown := next_handle sound accepts handled
    obtain ⟨info1, live1⟩ := old_runs rest sound1 run live' (Nat.lt_of_lt_of_le (Heap.lt_next live) grown)
    obtain ⟨beats, first⟩ := clientRun_handle sound past accepts handled live live1
    obtain ⟨more, others⟩ := ih sound1 (heardBefore_handle sound accepts past handled) run live1 live'
    exact ⟨beats ++ more, first.trans others⟩

end Decomposition

/-! ### Scanning before a kick -/

/-- Along the run, so many scans are requested of the client, and then its machine goes from
    SCAN to WAIT_KICK. -/
def Enters (cfg : Config) (si : SiId) (d : Daemon) (beats : List Beat) (d' : Daemon) (count : Nat) : Prop :=
  ∃ before last after d1 d2 info1 info2 times, beats = before ++ last :: after ∧ ClientRun cfg si d before d1 ∧
    ClientRun cfg si d1 [last] d2 ∧ ClientRun cfg si d2 after d' ∧
    d1.infos.get? si = some info1 ∧ info1.roamState = .scan ∧
    d2.infos.get? si = some info2 ∧ info2.roamState = .waitKick ∧
    scansOf si d1.trace = scansOf si d.trace ++ times ∧ times.length = count

section Claims

variable {cfg : Config} {d d' : Daemon} {si : SiId} {info : StaInfo} {beats : List Beat}

theorem enters_iff (run : ClientRun cfg si d beats d') (live : d.infos.get? si = some info) (count : Nat) :
    Enters cfg si d beats d' count ↔ Machine.Completes cfg info.machine beats count := by
  constructor
  · rintro ⟨before, last, after, d1, d2, info1, info2, times, rfl, run1, run2, -, live1, scanning, live2, waits,
      scans, length⟩
    obtain ⟨⟨info1', live1', machine1⟩, scans1, -⟩ := clientRun_machine run1 live
    cases live1.symm.trans live1'
    obtain ⟨⟨info2', live2', machine2⟩, -, -⟩ := clientRun_machine run2 live1
    cases live2.symm.trans live2'
    refine ⟨before, last, after, rfl, ?_, ?_, ?_⟩
    · rw [← machine1]
      exact scanning
    · rw [Machine.run_append, ← machine1, ← machine2]
      exact waits
    · rw [← length, ← List.append_cancel_left (scans1.symm.trans scans)]
  · rintro ⟨before, last, after, rfl, scanning, waits, length⟩
    obtain ⟨d1, run1, rest⟩ := run.split clientStep_single before (last :: after) rfl
    obtain ⟨d2, run2, run3⟩ := rest.split clientStep_single [last] after rfl
    obtain ⟨⟨info1, live1, machine1⟩, scans1, -⟩ := clientRun_machine run1 live
    obtain ⟨⟨info2, live2, machine2⟩, -, -⟩ := clientRun_machine run2 live1
    refine ⟨before, last, after, d1, d2, info1, info2, _, rfl, run1, run2, run3, live1, ?_, live2, ?_, scans1, length⟩
    · rw [← machine1] at scanning
      exact scanning
    · rw [Machine.run_append, ← machine1, ← machine2] at waits
      exact waits

end Claims

/-! ### Runs of visits -/

/-- A visit of the client some time later, if it passes the test. -/
def Daemon.visitLater (cfg : Config) (si : SiId) (d : Daemon) (ms : UInt64) : Option (Beat × Daemon) := do
  let d := { d with clock := d.clock + ms }.usteerUpdateTime
  let info ← d.infos.get? si
  let node ← d.nodes.get? info.node
  let snr ← roamLevel cfg
  let eligible ← (roamEligible cfg d.currentTime (snrToSignal node snr) info).toOption
  if !eligible || !node.isLocal then
    none
  else
    let (siNew, _) ← (d.findBetterCandidate cfg si).toOption
    let (_, d') ← (d.usteerRoamTriggerSm cfg si).toOption
    return (.visit d.currentTime siNew.isSome (lowSignal cfg info node), d')

/-- A station event of the client some time later. -/
def Daemon.heardLater (cfg : Config) (si : SiId) (d : Daemon) (ms : UInt64) (input : Input) :
    Option (Beat × Daemon) := do
  let d := { d with clock := d.clock + ms }.usteerUpdateTime
  let info ← d.infos.get? si
  let d' ← (d.handle plainPlatform cfg input).toOption
  let info' ← d'.infos.get? si
  if d.Accepts input ∧ info'.machine = { info.machine with scanDone := d.currentTime } ∧
      d'.currentTime = d.currentTime ∧ scansOf si d'.trace = scansOf si d.trace then
    return (.heard d.currentTime, d')
  else none

/-- Visits and station events, each some time after the last. -/
def Daemon.visitsLater (cfg : Config) (si : SiId) :
    Daemon → List (UInt64 × Option Input) → Option (List Beat × Daemon)
  | d, [] => some ([], d)
  | d, (ms, event) :: rest =>
    if d.clock.toNat + ms.toNat < 2 ^ 64 then do
      let (beat, d) ← event.elim (d.visitLater cfg si ms) (d.heardLater cfg si ms)
      let (beats, d) ← visitsLater cfg si d rest
      return (beat :: beats, d)
    else none

section Later

variable {cfg : Config} {d d' : Daemon} {si : SiId} {ms : UInt64}

/-- Time passes and is read. -/
theorem clientRun_later {info : StaInfo} (past : HeardBefore d) (fits : d.clock.toNat + ms.toNat < 2 ^ 64)
    (live : d.infos.get? si = some info) :
    ClientRun cfg si d [] { d with clock := d.clock + ms }.usteerUpdateTime := by
  refine Run.one (ClientStep.other live live rfl ?_ rfl)
  have clock : (d.clock + ms).toNat = d.clock.toNat + ms.toNat := by
    rw [UInt64.toNat_add]
    exact Nat.mod_eq_of_lt fits
  have before := past.time
  show d.currentTime.toNat ≤ (d.clock + ms).toNat
  omega

theorem heardBefore_later (past : HeardBefore d) (fits : d.clock.toNat + ms.toNat < 2 ^ 64) :
    HeardBefore { d with clock := d.clock + ms }.usteerUpdateTime := by
  have clock : (d.clock + ms).toNat = d.clock.toNat + ms.toNat := by
    rw [UInt64.toNat_add]
    exact Nat.mod_eq_of_lt fits
  refine ⟨le_rfl, fun j info live => (past.heard j info live).trans ?_⟩
  have before := past.time
  show d.currentTime.toNat ≤ (d.clock + ms).toNat
  omega

theorem clientRun_visitLater {beat : Beat} (sound : Sound none d) (past : HeardBefore d)
    (fits : d.clock.toNat + ms.toNat < 2 ^ 64) (visited : d.visitLater cfg si ms = some (beat, d')) :
    ClientRun cfg si d [beat] d' ∧ Sound none d' ∧ HeardBefore d' := by
  have sound1 := sound_later sound ms
  have past1 := heardBefore_later past fits
  unfold visitLater at visited
  obtain ⟨info, live, visited⟩ := Option.bind_eq_some_iff.mp visited
  obtain ⟨node, liveNode, visited⟩ := Option.bind_eq_some_iff.mp visited
  obtain ⟨snr, configured, visited⟩ := Option.bind_eq_some_iff.mp visited
  obtain ⟨eligible, judged, visited⟩ := Option.bind_eq_some_iff.mp visited
  split at visited
  · cases visited
  · rename_i passes
    simp only [Bool.or_eq_true, Bool.not_eq_true', not_or, Bool.not_eq_false] at passes
    obtain ⟨⟨siNew, d1⟩, searched, visited⟩ := Option.bind_eq_some_iff.mp visited
    obtain ⟨⟨kicked, d2⟩, ran, visited⟩ := Option.bind_eq_some_iff.mp visited
    cases visited
    rw [passes.1] at judged
    have step := ClientStep.visit sound1 live liveNode ⟨snr, configured, ok_of_toOption judged⟩
      (ok_of_toOption searched) (ok_of_toOption ran)
    have moves := (post_usteerRoamTriggerSm plainPlatform cfg info.node sound1 live ⟨node, liveNode, passes.2⟩).of_ok
      (ok_of_toOption ran)
    refine ⟨(clientRun_later past fits live).trans (Run.one step), sound_moves (a := (none, _)) sound1 moves, ?_⟩
    exact heardBefore_moves (a := (none, _)) past1 moves

theorem clientRun_heardLater {beat : Beat} {input : Input} (sound : Sound none d) (past : HeardBefore d)
    (fits : d.clock.toNat + ms.toNat < 2 ^ 64) (heard : d.heardLater cfg si ms input = some (beat, d')) :
    ClientRun cfg si d [beat] d' ∧ Sound none d' ∧ HeardBefore d' := by
  have sound1 := sound_later sound ms
  have past1 := heardBefore_later past fits
  unfold heardLater at heard
  obtain ⟨info, live, heard⟩ := Option.bind_eq_some_iff.mp heard
  obtain ⟨d1, handled, heard⟩ := Option.bind_eq_some_iff.mp heard
  obtain ⟨info1, live1, heard⟩ := Option.bind_eq_some_iff.mp heard
  split at heard
  · rename_i checks
    obtain ⟨accepts, machine, time, scans⟩ := checks
    cases heard
    have handled := ok_of_toOption handled
    refine ⟨(clientRun_later past fits live).trans (Run.one (.heard live live1 machine time scans)), ?_, ?_⟩
    · exact sound_handle sound1 accepts handled
    · exact heardBefore_handle sound1 accepts past1 handled
  · cases heard

theorem clientRun_visitsLater (list : List (UInt64 × Option Input)) : ∀ {d : Daemon} {beats : List Beat},
    Sound none d → HeardBefore d → d.visitsLater cfg si list = some (beats, d') →
      ClientRun cfg si d beats d' ∧ Sound none d' ∧ HeardBefore d' := by
  induction list with
  | nil =>
    intro d beats sound past visited
    cases visited
    exact ⟨.refl _, sound, past⟩
  | cons later rest ih =>
    intro d beats sound past visited
    obtain ⟨ms, event⟩ := later
    rw [visitsLater] at visited
    split at visited
    · rename_i fits
      obtain ⟨⟨beat, d1⟩, first, visited⟩ := Option.bind_eq_some_iff.mp visited
      obtain ⟨⟨others, d2⟩, more, visited⟩ := Option.bind_eq_some_iff.mp visited
      cases visited
      have one : ClientRun cfg si d [beat] d1 ∧ Sound none d1 ∧ HeardBefore d1 := by
        cases event with
        | none => exact clientRun_visitLater sound past fits first
        | some input => exact clientRun_heardLater sound past fits first
      obtain ⟨run1, sound1, past1⟩ := one
      obtain ⟨run2, sound2, past2⟩ := ih sound1 past1 more
      exact ⟨run1.trans run2, sound2, past2⟩
    · cases visited

end Later

/-- A client that is idle, stays eligible and has nothing to roam to, is told to scan at
    intervals. If the limit fits in a byte, at most as often as the limit says before WAIT_KICK
    is entered. WAIT_KICK is entered after exactly so many scans, once there have been enough
    visits, if and only if the limit fits in a byte. -/
theorem roam_scans_counted (env : Platform) {cfg : Config} {s : System} (reach : System.Reached env s) {si : SiId}
    {info : StaInfo} {beats : List Beat} {d' : Daemon} (live : s.daemon.infos.get? si = some info)
    (idle : info.roamState = .idle) (positive : 1 ≤ cfg.roamScanTries.toNat)
    (run : ClientRun cfg si s.daemon beats d') (quiet : Machine.Quiet beats) :
    ∃ times info', scansOf si d'.trace = scansOf si s.daemon.trace ++ times ∧ d'.infos.get? si = some info' ∧
      (times.map UInt64.toNat).IsChain (fun a b => a + cfg.roamScanInterval.toNat ≤ b) ∧
      (cfg.roamScanTries.toNat ≤ 255 → Enters cfg si s.daemon beats d' cfg.roamScanTries.toNat ∨
        info'.roamState ≠ .waitKick ∧ times.length ≤ cfg.roamScanTries.toNat) ∧
      (Machine.Enough cfg beats →
        (Enters cfg si s.daemon beats d' cfg.roamScanTries.toNat ↔ cfg.roamScanTries.toNat ≤ 255)) := by
  obtain ⟨⟨info', live', machine⟩, scans, ordered⟩ := clientRun_machine run live
  have old : info.machine.scanDone.toNat ≤ s.daemon.currentTime.toNat := reach.heardBefore.heard si info live
  obtain ⟨few, exact⟩ := Machine.machine_scans positive idle old quiet ordered
  refine ⟨_, info', scans, live', Machine.scanTimes_spaced_of_idle idle quiet ordered, ?_, ?_⟩
  · intro countable
    rw [enters_iff run live]
    refine (few countable).imp_right fun more => ⟨?_, more.2⟩
    rw [← machine] at more
    exact more.1
  · intro enough
    rw [enters_iff run live]
    exact exact enough

/-- A weak client associates with the only node. -/
def weakClient : List Input :=
  [.register hostapdDot, .advance 61000, .staEvent 0 1 .probe 2412 (-90),
    .clients 0 ⟨some 2412, some [⟨some 1, none, some true, none⟩]⟩]

/-- A configuration that roams clients after so many scans. -/
def roamsAfter (tries : UInt32) : Config := { usteerInitDefaults with roamTriggerSnr := 30, roamScanTries := tries }

/-- A visit without a better candidate. -/
def Beat.isQuiet : Beat → Bool
  | .visit _ better _ => !better
  | _ => false

theorem quiet_of_all {beats : List Beat} (all : beats.all Beat.isQuiet = true) : Machine.Quiet beats := by
  intro beat inside
  have quiet := List.all_eq_true.mp all beat inside
  cases beat with
  | visit now better low =>
    cases better with
    | false => exact ⟨now, low, rfl⟩
    | true => cases quiet
  | reset now => cases quiet
  | heard now => cases quiet

/-- The weak client is visited every ten seconds, often enough for the limit. -/
def VisitedOften (tries : UInt32) : Bool :=
  (plainRun usteerInitDefaults weakClient).any fun d => (d.infos.get? 0).any fun info =>
    (d.visitsLater (roamsAfter tries) 0 (List.replicate (tries.toNat + 2) (10000, none))).any fun r =>
      decide (info.roamState = .idle ∧ r.1.length = tries.toNat + 2 ∧ r.1.all Beat.isQuiet = true ∧
        (r.1.map (fun beat => beat.time.toNat)).IsChain (fun a b => a + 10000 ≤ b))

theorem visits_weakClient (tries : UInt32) (evaluates : VisitedOften tries = true) :
    ∃ s info beats d', System.Reached plainPlatform s ∧ s.daemon.infos.get? 0 = some info ∧ info.roamState = .idle ∧
      ClientRun (roamsAfter tries) 0 s.daemon beats d' ∧ Machine.Quiet beats ∧
      Machine.Enough (roamsAfter tries) beats := by
  obtain ⟨d, run, evaluates⟩ := (Option.any_eq_true _ _).mp evaluates
  obtain ⟨info, live, evaluates⟩ := (Option.any_eq_true _ _).mp evaluates
  obtain ⟨⟨beats, d'⟩, visited, evaluates⟩ := (Option.any_eq_true _ _).mp evaluates
  obtain ⟨idle, length, quiet, spaced⟩ := of_decide_eq_true evaluates
  have reach := reached_plainRun run
  obtain ⟨visits, -, -⟩ := clientRun_visitsLater _ reach.sound reach.heardBefore visited
  refine ⟨_, info, beats, d', reach, live, idle, visits, quiet_of_all quiet, _, List.Sublist.refl _, ?_, spaced⟩
  rw [List.length_map]
  exact length

/-- With a limit of two, WAIT_KICK is entered after two scans. -/
theorem roam_scans_counted_twice : ∃ s info beats d', System.Reached plainPlatform s ∧
    s.daemon.infos.get? 0 = some info ∧ info.roamState = .idle ∧ ClientRun (roamsAfter 2) 0 s.daemon beats d' ∧
    Machine.Quiet beats ∧ Enters (roamsAfter 2) 0 s.daemon beats d' 2 := by
  obtain ⟨s, info, beats, d', reach, live, idle, run, quiet, enough⟩ :=
    visits_weakClient 2 (by decide +kernel)
  obtain ⟨-, -, -, -, -, -, counted⟩ := roam_scans_counted plainPlatform reach live idle (by decide) run quiet
  exact ⟨s, info, beats, d', reach, live, idle, run, quiet, (counted enough).mpr (by decide)⟩

/-- With a limit of 256, it is not entered after as many scans, however long it goes on. -/
theorem roam_scans_never_end : ∃ s info beats d', System.Reached plainPlatform s ∧
    s.daemon.infos.get? 0 = some info ∧ info.roamState = .idle ∧ ClientRun (roamsAfter 256) 0 s.daemon beats d' ∧
    Machine.Quiet beats ∧ Machine.Enough (roamsAfter 256) beats ∧
    ¬ Enters (roamsAfter 256) 0 s.daemon beats d' 256 := by
  obtain ⟨s, info, beats, d', reach, live, idle, run, quiet, enough⟩ :=
    visits_weakClient 256 (by decide +kernel)
  refine ⟨s, info, beats, d', reach, live, idle, run, quiet, enough, fun enters => ?_⟩
  obtain ⟨-, -, ordered⟩ := clientRun_machine run live
  have old : info.machine.scanDone.toNat ≤ s.daemon.currentTime.toNat := reach.heardBefore.heard 0 info live
  have counted := (Machine.machine_scans (by decide) idle old quiet ordered).2 enough
  have countable : (roamsAfter 256).roamScanTries.toNat ≤ 255 := counted.mp ((enters_iff run live 256).mp enters)
  exact absurd countable (by decide)

/-- Between two successive returns to SCAN because of stale results, without IDLE in between,
    the client is told to scan exactly if the first scan is not passed over: whenever it is due,
    there is no better candidate and no station event has come since. -/
theorem stale_results_rescanned {cfg : Config} {si : SiId} {d d1 d2 : Daemon} {info info2 : StaInfo}
    {first second : Beat}
    {between : List Beat} (live : d.infos.get? si = some info) (fell : Machine.FallsBack cfg info.machine first)
    (start : ClientRun cfg si d [first] d1) (run : ClientRun cfg si d1 between d2)
    (live2 : d2.infos.get? si = some info2) (again : Machine.FallsBack cfg info2.machine second)
    (successive : ∀ read next others dm infom, between = read ++ next :: others → ClientRun cfg si d1 read dm →
      dm.infos.get? si = some infom → ¬ Machine.FallsBack cfg infom.machine next)
    (awake : ∀ read others dm infom, between = read ++ others → ClientRun cfg si d1 read dm →
      dm.infos.get? si = some infom → infom.roamState ≠ .idle) :
    (∃ time times, scansOf si d2.trace = scansOf si d1.trace ++ time :: times) ↔
      ∀ read next others dm infom, between = read ++ next :: others → ClientRun cfg si d1 read dm →
        dm.infos.get? si = some infom → scansOf si dm.trace = scansOf si d1.trace →
        ¬ Machine.LeavesScan cfg infom.machine next := by
  obtain ⟨⟨info1, live1, machine1⟩, -, -⟩ := clientRun_machine start live
  obtain ⟨⟨info2', live2', machine2⟩, scans2, -⟩ := clientRun_machine run live1
  cases live2.symm.trans live2'
  have stepped : info.machine.step cfg first = info1.machine := machine1.symm
  -- the entry at a point of the run, by the beats up to it
  have cut (read others : List Beat) (split : between = read ++ others) :
      ∃ dm infom, ClientRun cfg si d1 read dm ∧ dm.infos.get? si = some infom := by
    obtain ⟨dm, before, -⟩ := run.split clientStep_single read others split
    obtain ⟨⟨infom, livem, -⟩, -⟩ := clientRun_machine before live1
    exact ⟨dm, infom, before, livem⟩
  have shows {read : List Beat} {dm : Daemon} {infom : StaInfo} (before : ClientRun cfg si d1 read dm)
      (livem : dm.infos.get? si = some infom) : infom.machine = info1.machine.run cfg read ∧
        (scansOf si dm.trace = scansOf si d1.trace ↔ info1.machine.scanTimes cfg read = []) := by
    obtain ⟨⟨infom', livem', machinem⟩, scansm, -⟩ := clientRun_machine before live1
    cases livem.symm.trans livem'
    refine ⟨machinem, ?_⟩
    rw [scansm]
    exact List.append_right_eq_self
  have scanned : (∃ time times, scansOf si d2.trace = scansOf si d1.trace ++ time :: times) ↔
      info1.machine.scanTimes cfg between ≠ [] := by
    rw [scans2, List.ne_nil_iff_exists_cons]
    simp only [List.append_cancel_left_eq]
  rw [machine2, ← stepped] at again
  rw [scanned, ← stepped, Machine.rescans_iff fell again]
  · rw [stepped]
    constructor
    · intro persists read next others dm infom split before livem none
      obtain ⟨machinem, silent⟩ := shows before livem
      rw [machinem]
      exact persists read next others split (silent.mp none)
    · intro persists read next others split none
      obtain ⟨dm, infom, before, livem⟩ := cut read (next :: others) split
      obtain ⟨machinem, silent⟩ := shows before livem
      rw [← machinem]
      exact persists read next others dm infom split before livem (silent.mpr none)
  · intro read next others split
    obtain ⟨dm, infom, before, livem⟩ := cut read (next :: others) split
    rw [stepped, ← (shows before livem).1]
    exact successive read next others dm infom split before livem
  · intro read others split
    obtain ⟨dm, infom, before, livem⟩ := cut read others split
    rw [stepped, ← (shows before livem).1]
    exact awake read others dm infom split before livem

/-- Any point of a list of beats is one of its indexes. -/
theorem at_beat {P : List Beat → Beat → Prop} {beats read others : List Beat} {next : Beat}
    (all : ∀ k : Fin beats.length, P (beats.take k) (beats.get k)) (split : beats = read ++ next :: others) :
    P read next := by
  subst split
  have here := all ⟨read.length, by simp⟩
  simpa using here

theorem before_beat {P : List Beat → Prop} {beats read others : List Beat}
    (all : ∀ k : Fin (beats.length + 1), P (beats.take k)) (split : beats = read ++ others) : P read := by
  subst split
  have here := all ⟨read.length, by simp⟩
  simpa using here

/-- A client is visited and heard of up to a fall-back, and from there up to the next one. -/
def FallsBackTwice (cfg : Config) (inputs : List Input) (before between : List (UInt64 × Option Input))
    (m m1 : Machine) (first second : Beat) (beats : List Beat) : Bool :=
  (plainRun usteerInitDefaults inputs).any fun d0 => (d0.visitsLater cfg 0 before).any fun r =>
    (r.2.infos.get? 0).any fun info => (r.2.visitsLater cfg 0 [(12000, none)]).any fun r1 =>
    (r1.2.infos.get? 0).any fun info1 => (r1.2.visitsLater cfg 0 between).any fun r2 =>
    (r2.2.infos.get? 0).any fun _ => (r2.2.visitsLater cfg 0 [(12000, none)]).any fun r3 =>
      decide (info.machine = m ∧ info1.machine = m1 ∧ r1.1 = [first] ∧ r2.1 = beats ∧ r3.1 = [second])

theorem two_fallBacks {cfg : Config} {inputs : List Input} {before between : List (UInt64 × Option Input)}
    {m m1 : Machine} {first second : Beat} {beats : List Beat}
    (evaluates : FallsBackTwice cfg inputs before between m m1 first second beats = true) :
    ∃ s read d d1 d2 d3 info info1 info2, System.Reached plainPlatform s ∧ ClientRun cfg 0 s.daemon read d ∧
      d.infos.get? 0 = some info ∧ info.machine = m ∧ ClientRun cfg 0 d [first] d1 ∧
      d1.infos.get? 0 = some info1 ∧ info1.machine = m1 ∧ ClientRun cfg 0 d1 beats d2 ∧
      d2.infos.get? 0 = some info2 ∧ info2.machine = m1.run cfg beats ∧ ClientRun cfg 0 d2 [second] d3 := by
  obtain ⟨d0, run, evaluates⟩ := (Option.any_eq_true _ _).mp evaluates
  obtain ⟨⟨read, d⟩, visited, evaluates⟩ := (Option.any_eq_true _ _).mp evaluates
  obtain ⟨info, live, evaluates⟩ := (Option.any_eq_true _ _).mp evaluates
  obtain ⟨⟨firsts, d1⟩, visited1, evaluates⟩ := (Option.any_eq_true _ _).mp evaluates
  obtain ⟨info1, live1, evaluates⟩ := (Option.any_eq_true _ _).mp evaluates
  obtain ⟨⟨beats', d2⟩, visited2, evaluates⟩ := (Option.any_eq_true _ _).mp evaluates
  obtain ⟨info2, live2, evaluates⟩ := (Option.any_eq_true _ _).mp evaluates
  obtain ⟨⟨seconds, d3⟩, visited3, evaluates⟩ := (Option.any_eq_true _ _).mp evaluates
  obtain ⟨machine, machine1, isFirst, areBetween, isSecond⟩ := of_decide_eq_true evaluates
  dsimp only at isFirst areBetween isSecond
  subst isFirst areBetween isSecond
  have reach := reached_plainRun run
  obtain ⟨run0, sound, past⟩ := clientRun_visitsLater _ reach.sound reach.heardBefore visited
  obtain ⟨run1, sound1, past1⟩ := clientRun_visitsLater _ sound past visited1
  obtain ⟨run2, sound2, past2⟩ := clientRun_visitsLater _ sound1 past1 visited2
  obtain ⟨run3, -, -⟩ := clientRun_visitsLater _ sound2 past2 visited3
  have machine2 : info2.machine = m1.run cfg beats' := by
    rw [← machine1]
    exact machine_along run2 live1 live2
  exact ⟨_, read, d, d1, d2, d3, info, info1, info2, reach, run0, live, machine, run1, live1, machine1, run2, live2,
    machine2, run3⟩

/-- After stale results the client scans again, is heard of, and waits until they are stale. -/
theorem stale_results_rescanned_once : ∃ s read d d1 d2 d3 info info2 first between second time times,
    System.Reached plainPlatform s ∧ ClientRun (roamsAfter 3) 0 s.daemon read d ∧ d.infos.get? 0 = some info ∧
    Machine.FallsBack (roamsAfter 3) info.machine first ∧ ClientRun (roamsAfter 3) 0 d [first] d1 ∧
    ClientRun (roamsAfter 3) 0 d1 between d2 ∧ d2.infos.get? 0 = some info2 ∧
    Machine.FallsBack (roamsAfter 3) info2.machine second ∧ ClientRun (roamsAfter 3) 0 d2 [second] d3 ∧
    scansOf 0 d2.trace = scansOf 0 d1.trace ++ time :: times := by
  obtain ⟨s, read, d, d1, d2, d3, info, info1, info2, reach, run, live, machine, run1, live1, machine1, run2, live2,
      machine2, run3⟩ :=
    @two_fallBacks (roamsAfter 3) weakClient
      [(1000, none), (10000, none), (1000, some (.staEvent 0 1 .probe 2412 (-90))), (9000, none)]
      [(10000, none), (1000, some (.staEvent 0 1 .probe 2412 (-90))), (9000, none)]
      ⟨.scanDone, 0, 82000, 73000⟩ ⟨.scan, 0, 94000, 73000⟩ (.visit 94000 false true) (.visit 126000 false true)
      [.visit 104000 false true, .heard 105000, .visit 114000 false true] (by decide +kernel)
  have fell : Machine.FallsBack (roamsAfter 3) info.machine (.visit 94000 false true) := by
    rw [machine]
    decide
  have again : Machine.FallsBack (roamsAfter 3) info2.machine (.visit 126000 false true) := by
    rw [machine2]
    decide
  have rescanned := stale_results_rescanned live fell run1 run2 live2 again
    (fun seen next others dm infom split before livem => by
      rw [machine_along before live1 livem, machine1]
      exact at_beat (P := fun seen next => ¬ Machine.FallsBack _ (Machine.run _ _ seen) next) (by decide) split)
    (fun seen others dm infom split before livem => by
      have state := congrArg Machine.state (machine_along before live1 livem)
      rw [machine1] at state
      have awake := before_beat (P := fun seen => (Machine.run (roamsAfter 3)
        ⟨.scan, 0, 94000, 73000⟩ seen).state ≠ .idle) (by decide) split
      rw [← state] at awake
      exact awake)
  obtain ⟨time, times, scans⟩ := rescanned.mpr fun seen next others dm infom split before livem none => by
    obtain ⟨-, scans, -⟩ := clientRun_machine before live1
    rw [none, machine1, eq_comm, List.append_right_eq_self] at scans
    rw [machine_along before live1 livem, machine1]
    exact at_beat (P := fun seen next => Machine.scanTimes _ _ seen = [] →
      ¬ Machine.LeavesScan _ (Machine.run _ _ seen) next) (by decide) split scans
  exact ⟨s, read, d, d1, d2, d3, info, info2, _, _, _, time, times, reach, run, live, fell, run1, run2, live2, again,
    run3, scans⟩

/-- The weak client reports a second node, which it hears better. -/
def weakClientReports : List Input :=
  weakClient ++ [.register (hostapdDot ++ [49]), .status 0 (plainStatus 10), .status 1 (plainStatus 11),
    .beaconReport 0 (reportOf 10 50), .beaconReport 0 (reportOf 11 100)]

/-- While a better candidate is known, SCAN is left without a scan as soon as one is due, and
    the results are as stale as before. -/
theorem scan_passed_over : ∃ cfg s read d d1 d2 d3 info info2 first between second,
    System.Reached plainPlatform s ∧ ClientRun cfg 0 s.daemon read d ∧ d.infos.get? 0 = some info ∧
    Machine.FallsBack cfg info.machine first ∧ ClientRun cfg 0 d [first] d1 ∧ ClientRun cfg 0 d1 between d2 ∧
    d2.infos.get? 0 = some info2 ∧ Machine.FallsBack cfg info2.machine second ∧ ClientRun cfg 0 d2 [second] d3 ∧
    (∀ seen others dm infom, between = seen ++ others → ClientRun cfg 0 d1 seen dm → dm.infos.get? 0 = some infom →
      infom.roamState ≠ .idle) ∧
    scansOf 0 d2.trace = scansOf 0 d1.trace := by
  obtain ⟨s, read, d, d1, d2, d3, info, info1, info2, reach, run, live, machine, run1, live1, machine1, run2, live2,
      machine2, run3⟩ :=
    @two_fallBacks { roamsAfter 3 with signalDiffThreshold := 1 } weakClientReports [(10000, none)] [(10000, none)]
      ⟨.scanDone, 0, 71000, 61000⟩ ⟨.scan, 0, 83000, 61000⟩ (.visit 83000 true true) (.visit 105000 true true)
      [.visit 93000 true true] (by decide +kernel)
  obtain ⟨-, scans, -⟩ := clientRun_machine run2 live1
  refine ⟨_, s, read, d, d1, d2, d3, info, info2, _, _, _, reach, run, live, ?_, run1, run2, live2, ?_, run3, ?_, ?_⟩
  · rw [machine]
    decide
  · rw [machine2]
    decide
  · intro seen others dm infom split before livem
    have state := congrArg Machine.state (machine_along before live1 livem)
    rw [machine1] at state
    have awake := before_beat (P := fun seen => (Machine.run { roamsAfter 3 with signalDiffThreshold := 1 }
      ⟨.scan, 0, 83000, 61000⟩ seen).state ≠ .idle) (by decide) split
    rw [← state] at awake
    exact awake
  · rw [scans, machine1]
    exact List.append_right_eq_self.mpr (by decide)

end Usteer
