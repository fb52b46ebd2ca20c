import Usteer.Effects
import Usteer.Runs

/-!
Which entries wait in the timeout queue. Every entry that is not connected should
(`Armed`), and every input keeps it so but for three oversights: a kick does not arm
the timer of the client it disconnects, the search of the hearing map creates an entry
without one, and so does a row of a client table about a client that neither is
associated nor answers the kernel. `Arms` says of an input that it meets none of them.
-/
namespace Usteer
open SearchTree Timeout Function Daemon

variable {env : Platform} {cfg : Config} {scope : Scope} {d d' : Daemon}

/-! ### What the hearing map sees -/

/-- What the comparison of nodes reads of one. -/
def look (node : UsteerNode) : UsteerNode := { node with kind := .loc ⟨false, 0⟩, staInfo := [] }

/-- The nodes look the same. -/
structure SameView (d d' : Daemon) : Prop where
  localNodes : d'.localNodes = d.localNodes
  remoteNodes : d'.remoteNodes = d.remoteNodes
  nodes : ∀ n, (d'.nodes.get? n).map look = (d.nodes.get? n).map look

namespace SameView

theorem refl (d : Daemon) : SameView d d := ⟨rfl, rfl, fun _ => rfl⟩

/-- A node is followed, or not, as before. -/
theorem node_cases (view : SameView d d') (n : NodeId) :
    (d.node n = .error .useAfterFree ∧ d'.node n = .error .useAfterFree) ∨
    ∃ node node', d.node n = .ok node ∧ d'.node n = .ok node' ∧ look node' = look node := by
  have same := view.nodes n
  cases found : d.nodes.get? n with
  | none =>
    rw [found, Option.map_none, Option.map_eq_none_iff] at same
    exact .inl ⟨by rw [Daemon.node, found], by rw [Daemon.node, same]⟩
  | some node =>
    rw [found, Option.map_some] at same
    obtain ⟨node', live', looks⟩ := Option.map_eq_some_iff.mp same
    exact .inr ⟨node, node', node_ok found, node_ok live', looks⟩

theorem ssid_look {node node' : UsteerNode} (looks : look node' = look node) : node'.ssid = node.ssid := by
  have same : (look node').ssid = (look node).ssid := by rw [looks]
  exact same

theorem remoteList (view : SameView d d') : d'.remoteList = d.remoteList := by
  rw [Daemon.remoteList, view.remoteNodes, ← Daemon.remoteList]

theorem search_node (view : SameView d d') {fits : UsteerNode → Bool} (reads : ∀ node, fits node = fits (look node))
    (list : List NodeId) : search d'.node fits list = search d.node fits list := by
  induction list with
  | nil => rfl
  | cons n rest ih =>
    rw [search, search]
    rcases view.node_cases n with ⟨dead, dead'⟩ | ⟨node, node', live, live', looks⟩
    · rw [dead, dead']
      rfl
    · rw [live, live', ok_bind, ok_bind, reads node', looks, ← reads, ih]

theorem getUsteerNodeFromBssid (view : SameView d d') (bssid : MacAddr) :
    d'.getUsteerNodeFromBssid bssid = d.getUsteerNodeFromBssid bssid := by
  unfold Daemon.getUsteerNodeFromBssid
  rw [view.localNodes, view.remoteList]
  exact view.search_node (fun _ => rfl) _

theorem nodeFromBssid (view : SameView d d') (bssid : MacAddr) :
    (d'.nodeFromBssid bssid).map look = (d.nodeFromBssid bssid).map look := by
  unfold Daemon.nodeFromBssid
  rw [view.getUsteerNodeFromBssid]
  split
  · exact view.nodes _
  · rfl

theorem isBetterCandidateHearingMap (view : SameView d d') (brCur brNew : BeaconReport) :
    isBetterCandidateHearingMap cfg d'.nodeFromBssid brCur brNew =
      isBetterCandidateHearingMap cfg d.nodeFromBssid brCur brNew := by
  have reads : ∀ nodeOf, Usteer.isBetterCandidateHearingMap cfg nodeOf brCur brNew =
      Usteer.isBetterCandidateHearingMap cfg (fun bssid => (nodeOf bssid).map look) brCur brNew := by
    intro nodeOf
    unfold Usteer.isBetterCandidateHearingMap
    dsimp only
    cases nodeOf brNew.bssid with
    | none => rfl
    | some new =>
      cases nodeOf brCur.bssid with
      | none => rfl
      | some cur => rfl
  rw [reads, reads d.nodeFromBssid]
  congr 1
  funext bssid
  exact view.nodeFromBssid bssid

theorem ownReport (view : SameView d d') (own : NodeId) (reports : List BeaconReport) :
    d'.ownReport own reports = d.ownReport own reports := by
  induction reports with
  | nil => rfl
  | cons br rest ih =>
    rw [Daemon.ownReport, Daemon.ownReport, view.getUsteerNodeFromBssid, ih]

theorem betterReport (view : SameView d d') (own : NodeId) (brCur : BeaconReport) (reports : List BeaconReport) :
    d'.betterReport cfg own brCur reports = d.betterReport cfg own brCur reports := by
  induction reports with
  | nil => rfl
  | cons br rest ih =>
    rw [Daemon.betterReport, Daemon.betterReport, view.getUsteerNodeFromBssid, ih,
      view.isBetterCandidateHearingMap, view.isBetterCandidateHearingMap]
    congr 1
    funext found
    cases found with
    | none => rfl
    | some n =>
      dsimp only
      split
      · rfl
      · rcases view.node_cases n with ⟨dead, dead'⟩ | ⟨node, node', live, live', looks⟩
        · rw [dead, dead']
          rfl
        · rcases view.node_cases own with ⟨dead, dead'⟩ | ⟨ref, ref', liveRef, liveRef', looksRef⟩
          · rw [live, live', dead, dead']
            rfl
          · rw [live, live', liveRef, liveRef', ok_bind, ok_bind, ok_bind, ok_bind, ssid_look looks, ssid_look looksRef]

theorem betterHeard (view : SameView d d') {info info' : StaInfo} (node : info'.node = info.node)
    (reports : info'.beaconReports = info.beaconReports) : d'.betterHeard cfg info' = d.betterHeard cfg info := by
  unfold Daemon.betterHeard
  rw [node, reports, view.ownReport]
  congr 1
  funext found
  cases found with
  | none => rfl
  | some brCur => exact view.betterReport _ _ _

end SameView

/-- When the hearing map names a better node for an entry's client, the client already
    has an entry there. -/
def HeardKnown (cfg : Config) (d : Daemon) (si : SiId) : Prop :=
  ∀ info br n, d.infos.get? si = some info → d.betterHeard cfg info = .ok (some (br, n)) →
    ∃ si' info', d.infos.get? si' = some info' ∧ info'.sta = info.sta ∧ info'.node = n

theorem known_of {si : SiId} (known : HeardKnown cfg d si) (view : SameView d d')
    (own : ∀ info', d'.infos.get? si = some info' → ∃ info, d.infos.get? si = some info ∧ info'.sta = info.sta ∧
      info'.node = info.node ∧ info'.beaconReports = info.beaconReports)
    (stays : ∀ j info, d.infos.get? j = some info → ∃ info', d'.infos.get? j = some info' ∧ info'.sta = info.sta ∧
      info'.node = info.node) : HeardKnown cfg d' si := by
  intro info' br n live' heard
  obtain ⟨info, live, sta, node, reports⟩ := own info' live'
  rw [view.betterHeard node reports] at heard
  obtain ⟨j, infoJ, liveJ, staJ, nodeJ⟩ := known info br n live heard
  obtain ⟨infoJ', liveJ', staJ', nodeJ'⟩ := stays j infoJ liveJ
  exact ⟨j, infoJ', liveJ', by rw [staJ', staJ, sta], by rw [nodeJ', nodeJ]⟩

/-- Nothing was reported about the client of the entry. -/
theorem known_unheard {si : SiId} (unheard : ∀ info, d.infos.get? si = some info → info.beaconReports = []) :
    HeardKnown cfg d si := by
  intro info br n live heard
  rw [Daemon.betterHeard, unheard info live] at heard
  cases heard

/-- Then the entry that is looked up is there. -/
theorem infoGet_known {info : StaInfo} {si si' : SiId} {br : BeaconReport} {n : NodeId} {create : Bool}
    (sound : Sound none d) (live : d.infos.get? si = some info) (known : HeardKnown cfg d si)
    (heard : d.betterHeard cfg info = .ok (some (br, n)))
    (got : d.usteerStaInfoGet info.sta n = .ok (si', create, d')) : d' = d := by
  rcases (returns_usteerStaInfoGet info.sta n sound).of_ok got with ⟨_, same, _⟩ | ⟨_, _, _, fresh⟩
  · exact same
  · obtain ⟨other, info', live', owners⟩ := known info br n live heard
    exact absurd owners (fresh other info' live')

theorem findBetterCandidate_known {si : SiId} {info : StaInfo} (sound : Sound none d)
    (live : d.infos.get? si = some info) (known : HeardKnown cfg d si) :
    Post AnyFault (d.findBetterCandidate cfg si) (fun r => r.2 = d) := by
  refine (returns_findBetterCandidate sound live).mono fun r result => ?_
  rcases result with same | ⟨br, n, si', create, heard, got⟩
  · exact same
  · exact infoGet_known sound live known heard got

/-! ### Armed entries -/

/-- Every entry that is not connected waits in the queue, but for those excepted. -/
def ArmedBut (except : SiId → StaInfo → Prop) (d : Daemon) : Prop :=
  ∀ si info, d.infos.get? si = some info → info.connected ≠ 1 → d.Pending si ∨ except si info

/-- Every entry that is not connected waits in the queue. -/
def Armed (d : Daemon) : Prop := ArmedBut (fun _ _ => False) d

section Rules

variable {X Y : SiId → StaInfo → Prop}

theorem Armed.pending (armed : Armed d) {si : SiId} {info : StaInfo} (live : d.infos.get? si = some info)
    (unconnected : info.connected ≠ 1) : d.Pending si :=
  (armed si info live unconnected).resolve_right not_false

theorem armedBut_congr (armed : ArmedBut X d) (infos : d'.infos = d.infos) (tq : d'.tq = d.tq) : ArmedBut X d' := by
  intro si info live unconnected
  rw [infos] at live
  unfold Pending
  rw [tq]
  exact armed si info live unconnected

theorem armed_calm (armed : Armed d) (calm : Calm d d') : Armed d' := by
  intro si info' live' unconnected
  obtain ⟨info, live, same, _⟩ := calm.infos live'
  rw [same] at unconnected
  exact .inl (calm.waits live' (armed.pending live unconnected))

/-- An edit of one entry answers for that entry only. -/
theorem armedBut_edit {si : SiId} {f : StaInfo → StaInfo} (armed : ArmedBut X d)
    (others : ∀ j info, j ≠ si → X j info → Y j info)
    (own : ∀ info, d.infos.get? si = some info → (f info).connected ≠ 1 → d.Pending si ∨ Y si (f info)) :
    ArmedBut Y (d.modifyInfo si f) := by
  intro j info' live' unconnected
  obtain ⟨info, live, result⟩ := Heap.get?_modify_some live'
  by_cases same : j = si
  · subst same
    rw [if_pos rfl] at result
    subst result
    exact own info live unconnected
  · rw [if_neg same] at result
    subst result
    exact (armed j info' live unconnected).imp id (others j info' same)

/-- The timer of an entry that is settled is in order. -/
theorem armedBut_settled {si : SiId} {info : StaInfo} {timeout : Int32} (armed : ArmedBut X d)
    (others : ∀ j info, j ≠ si → X j info → Y j info) : ArmedBut Y (d.settled env si info timeout) := by
  intro j info' live' unconnected
  obtain ⟨before, live, result⟩ := Heap.get?_modify_some live'
  by_cases same : j = si
  · subst same
    rw [if_pos rfl] at result
    subst result
    refine .inl ⟨ampgrTimeoutCurrentTime d.clock.toNat + timeout.toUInt32, ?_⟩
    rw [settled, if_neg unconnected]
    exact (Queue.mem_set ..).mpr (.inl rfl)
  · rw [if_neg same] at result
    subst result
    rcases armed j info' live unconnected with ⟨key, waits⟩ | excepted
    · refine .inl ⟨key, ?_⟩
      unfold settled
      dsimp only
      split
      · exact (Queue.mem_cancel ..).mpr ⟨waits, same⟩
      · exact (Queue.mem_set ..).mpr (.inr ⟨waits, same⟩)
    · exact .inr (others j info' same excepted)

end Rules

/-! ### A policy tick -/

/-- A client of a node passes the test of one of the three kicks of a policy tick. -/
def Kickable (cfg : Config) (d : Daemon) (node : UsteerNode) (info : StaInfo) : Prop :=
  (∃ snr, roamLevel cfg = some snr ∧ roamEligible cfg d.clock (snrToSignal node snr) info = .ok true ∧
    info.roamState = .kick) ∨
  (isActiveClient cfg info = .ok false ∧
    ((cfg.minSnr ≠ 0 ∧ info.signal < snrToSignal node cfg.minSnr) ∨ LoadKicks cfg node))

/-- Before a policy tick of a node: its connected clients that may be kicked still have
    a timer, and the hearing map sends none of them to a node without an entry. -/
def TickArms (cfg : Config) (d : Daemon) (n : NodeId) : Prop :=
  ∀ si info node, d.infos.get? si = some info → info.node = n → info.connected ≠ 0 → d.nodes.get? n = some node →
    HeardKnown cfg d si ∧ (Kickable cfg d node info → d.Pending si)

/-- What a tick leaves of an entry. -/
structure Spared (d0 : Daemon) (si : SiId) (info0 info : StaInfo) : Prop where
  sta : info.sta = info0.sta
  node : info.node = info0.node
  reports : info.beaconReports = info0.beaconReports
  signal : info.signal = info0.signal
  activeBytes : info.activeBytes = info0.activeBytes
  connected : info.connected = info0.connected ∨ (info.connected = 0 ∧ d0.Pending si)

/-- What a tick that meets `TickArms` has done so far. -/
structure Ticked (d0 d : Daemon) : Prop where
  tq : d.tq = d0.tq
  nodes : d.nodes = d0.nodes
  localNodes : d.localNodes = d0.localNodes
  remoteNodes : d.remoteNodes = d0.remoteNodes
  infos : ∀ {si info}, d.infos.get? si = some info → ∃ info0, d0.infos.get? si = some info0 ∧ Spared d0 si info0 info
  stays : ∀ {si info0}, d0.infos.get? si = some info0 → ∃ info, d.infos.get? si = some info

section Tick

variable {d0 : Daemon} {n : NodeId}

theorem Spared.refl (d0 : Daemon) (si : SiId) (info : StaInfo) : Spared d0 si info info := ⟨rfl, rfl, rfl, rfl, rfl, .inl rfl⟩

theorem Ticked.refl (d : Daemon) : Ticked d d :=
  ⟨rfl, rfl, rfl, rfl, fun live => ⟨_, live, .refl ..⟩, fun live => ⟨_, live⟩⟩

theorem Ticked.view (ticked : Ticked d0 d) : SameView d0 d :=
  ⟨ticked.localNodes, ticked.remoteNodes, fun n => by rw [ticked.nodes]⟩

theorem Ticked.pending (ticked : Ticked d0 d) {si : SiId} : d.Pending si ↔ d0.Pending si := by
  unfold Pending
  rw [ticked.tq]

theorem Ticked.armed (ticked : Ticked d0 d) (armed : Armed d0) : Armed d := by
  intro si info live unconnected
  obtain ⟨info0, live0, spared⟩ := ticked.infos live
  rw [ticked.pending]
  rcases spared.connected with same | ⟨_, waits⟩
  · rw [same] at unconnected
    exact .inl (armed.pending live0 unconnected)
  · exact .inl waits

theorem Ticked.known (ticked : Ticked d0 d) {si : SiId} (known : HeardKnown cfg d0 si) : HeardKnown cfg d si := by
  refine known_of known ticked.view (fun info live => ?_) fun j info0 live0 => ?_
  · obtain ⟨info0, live0, spared⟩ := ticked.infos live
    exact ⟨info0, live0, spared.sta, spared.node, spared.reports⟩
  · obtain ⟨info, live⟩ := ticked.stays live0
    obtain ⟨again, live0', spared⟩ := ticked.infos live
    rw [live0] at live0'
    cases live0'
    exact ⟨info, live, spared.sta, spared.node⟩

/-- An edit of one entry. -/
theorem Ticked.edit {si : SiId} {f : StaInfo → StaInfo} (ticked : Ticked d0 d)
    (own : ∀ info0 info, d0.infos.get? si = some info0 → d.infos.get? si = some info → Spared d0 si info0 info →
      Spared d0 si info0 (f info)) : Ticked d0 (d.modifyInfo si f) where
  tq := ticked.tq
  nodes := ticked.nodes
  localNodes := ticked.localNodes
  remoteNodes := ticked.remoteNodes
  infos := by
    intro j info' live'
    obtain ⟨info, live, result⟩ := Heap.get?_modify_some live'
    obtain ⟨info0, live0, spared⟩ := ticked.infos live
    by_cases same : j = si
    · subst same
      rw [if_pos rfl] at result
      subst result
      exact ⟨info0, live0, own info0 info live0 live spared⟩
    · rw [if_neg same] at result
      subst result
      exact ⟨info0, live0, spared⟩
  stays := by
    intro j info0 live0
    obtain ⟨info, live⟩ := ticked.stays live0
    have kept := Heap.isSome_modify d.infos si f j
    rw [live] at kept
    exact Option.isSome_iff_exists.mp kept

theorem Ticked.log (ticked : Ticked d0 d) (e : Event) : Ticked d0 (d.log e) :=
  ⟨ticked.tq, ticked.nodes, ticked.localNodes, ticked.remoteNodes, ticked.infos, ticked.stays⟩

theorem Ticked.roamSetState (ticked : Ticked d0 d) (si : SiId) (state : RoamTriggerState) :
    Ticked d0 (d.usteerRoamSetState si state) :=
  ticked.edit fun _ _ _ _ spared => ⟨spared.sta, spared.node, spared.reports, spared.signal, spared.activeBytes, spared.connected⟩

theorem Ticked.kick (ticked : Ticked d0 d) {si : SiId} (why : KickReason) (waits : d0.Pending si) :
    Ticked d0 (d.usteerUbusKickClient si why) :=
  (ticked.log _).edit fun _ _ _ _ spared =>
    ⟨spared.sta, spared.node, spared.reports, spared.signal, spared.activeBytes, .inr ⟨rfl, waits⟩⟩

theorem Ticked.countedKick (ticked : Ticked d0 d) {si : SiId} (why : KickReason) (waits : d0.Pending si) :
    Ticked d0 (d.countedKick si why) := by
  refine Ticked.kick (ticked.edit fun _ _ _ _ spared => ?_) why waits
  exact ⟨spared.sta, spared.node, spared.reports, spared.signal, spared.activeBytes, spared.connected⟩

theorem looked_known {si : SiId} {info : StaInfo} {d1 : Daemon} (sound : Sound none d)
    (live : d.infos.get? si = some info) (known : HeardKnown cfg d si) (looked : Looked cfg d si d1) : d1 = d := by
  rcases looked with same | ⟨siNew, found⟩
  · exact same
  · exact (findBetterCandidate_known sound live known).of_ok found

/-- A step of the roam machine on an entry that is armed if the step kicks it. -/
theorem ticked_roamStep {si : SiId} {info : StaInfo} {level : Int32} {r : Bool × Daemon}
    (step : RoamStep cfg d si info level r) (looked : ∀ d1, Looked cfg d si d1 → d1 = d) (ticked : Ticked d0 d)
    (waits : info.roamState = .kick → d0.Pending si) :
    Ticked d0 r.2 ∧ r.2.currentTime = d.currentTime ∧ ∀ j, j ≠ si → r.2.infos.get? j = d.infos.get? j := by
  cases step with
  | stay found state =>
    rw [looked _ found]
    exact ⟨ticked, rfl, fun _ _ => rfl⟩
  | early state found early =>
    rw [looked _ found]
    exact ⟨ticked.roamSetState si state, rfl, fun _ other => infos_modifyInfo_other other⟩
  | trigger found scanned =>
    rw [looked _ found] at scanned
    obtain ⟨scanBand, opClass, rfl⟩ := triggerClientScan_eq scanned
    refine ⟨.roamSetState (.log (ticked.edit fun _ _ _ _ spared => ?_) _) si _, rfl, fun j other => ?_⟩
    · exact ⟨spared.sta, spared.node, spared.reports, spared.signal, spared.activeBytes, spared.connected⟩
    · exact (infos_modifyInfo_other other).trans (infos_modifyInfo_other other)
  | notify state low =>
    exact ⟨(ticked.roamSetState si _).log _, rfl, fun _ other => infos_modifyInfo_other other⟩
  | ready state waited => exact ⟨ticked.roamSetState si _, rfl, fun _ other => infos_modifyInfo_other other⟩
  | kick state =>
    refine ⟨(ticked.kick .roam (waits state)).roamSetState si _, rfl, fun j other => ?_⟩
    exact (infos_modifyInfo_other other).trans (infos_modifyInfo_other other)

/-- The entries that the roam check has not visited yet. -/
structure Unvisited (d0 d : Daemon) (n : NodeId) (list : List SiId) : Prop where
  once : list.Nodup
  same : ∀ si ∈ list, d.infos.get? si = d0.infos.get? si
  onNode : ∀ si ∈ list, ∀ info, d0.infos.get? si = some info → info.node = n

theorem Unvisited.rest {si : SiId} {rest : List SiId} (unvisited : Unvisited d0 d n (si :: rest))
    (others : ∀ j, j ≠ si → d'.infos.get? j = d.infos.get? j) : Unvisited d0 d' n rest := by
  obtain ⟨fresh, once⟩ := List.nodup_cons.mp unvisited.once
  refine ⟨once, fun j inside => ?_, fun j inside => unvisited.onNode j (List.mem_cons_of_mem _ inside)⟩
  rw [others j fun same => fresh (same ▸ inside)]
  exact unvisited.same j (List.mem_cons_of_mem _ inside)

theorem ticked_roamVisits {node : UsteerNode} {snr : Int32} (arms : TickArms cfg d0 n) (liveNode : d0.nodes.get? n = some node)
    (level : roamLevel cfg = some snr) (list : List SiId) :
    ∀ {d : Daemon}, Sound none d → LocalEntries d list → Unvisited d0 d n list → d.currentTime = d0.clock → Ticked d0 d →
      Post AnyFault (roamVisits cfg (snrToSignal node snr) list d) (Ticked d0) := by
  induction list with
  | nil => intro d _ _ _ _ ticked; exact ticked
  | cons si rest ih =>
    intro d sound entries unvisited time ticked
    obtain ⟨info, live, isLocal⟩ := entries si List.mem_cons_self
    have live0 : d0.infos.get? si = some info := by rw [← unvisited.same si List.mem_cons_self]; exact live
    have onNode := unvisited.onNode si List.mem_cons_self info live0
    unfold roamVisits
    rw [info_ok live, ok_bind, post_bind]
    refine post_of_ok fun node' found => ?_
    dsimp only
    have logged : Moves plainPlatform cfg (.policy n) (none, d) (none, d.log (.visit d.currentTime si info node')) :=
      .one (.log _ rfl)
    have sound1 := sound_moves (a := (none, d)) sound logged
    have entries1 : LocalEntries _ rest := entries.rest.survive (survives_moves logged)
    have ticked1 := ticked.log (.visit d.currentTime si info node')
    dsimp only at sound1 entries1
    generalize hd1 : d.log (.visit d.currentTime si info node') = d1 at *
    have live1 : d1.infos.get? si = some info := by rw [← hd1]; exact live
    have isLocal1 : d1.OnLocal info := (survives_moves logged).onLocal rfl isLocal
    have time1 : d1.currentTime = d0.clock := by rw [← hd1]; exact time
    have others : ∀ j, j ≠ si → d1.infos.get? j = d.infos.get? j := by
      intro j _
      rw [← hd1]
      rfl
    rw [post_bind]
    refine post_of_ok fun eligible judged => ?_
    rw [time1] at judged
    cases eligible with
    | false =>
      have idle : Moves plainPlatform cfg (.policy n) (none, d1) (none, d1.usteerRoamSetState si .idle) := .one (.roam si .idle rfl)
      refine ih (sound_moves (a := (none, d1)) sound1 idle) (entries1.survive (survives_moves idle)) ?_ time1
        (ticked1.roamSetState si .idle)
      exact unvisited.rest fun j other => (infos_modifyInfo_other other).trans (others j other)
    | true =>
      obtain ⟨known, kicks⟩ := arms si info node live0 onNode (roamEligible_true judged).1 liveNode
      have looked : ∀ d2, Looked cfg d1 si d2 → d2 = d1 := fun d2 => looked_known sound1 live1 (ticked1.known known)
      have waits : info.roamState = .kick → d0.Pending si := fun state => kicks (.inl ⟨snr, level, judged, state⟩)
      simp only [if_true]
      rw [post_bind]
      refine post_of_ok fun r stepped => ?_
      have moves := (post_usteerRoamTriggerSm plainPlatform cfg n sound1 live1 isLocal1).of_ok stepped
      obtain ⟨node1, liveNode1, _⟩ := node_of_info sound1.links live1
      obtain ⟨ticked2, time2, others2⟩ := ticked_roamStep ((returns_usteerRoamTriggerSm live1 liveNode1).of_ok stepped)
        looked ticked1 waits
      obtain ⟨kicked, d2⟩ := r
      dsimp only at moves ticked2 time2 others2 ⊢
      split
      · exact ticked2
      · refine ih (sound_moves (a := (none, d1)) sound1 moves) (entries1.survive (survives_moves moves)) ?_
          (time2.trans time1) ticked2
        exact unvisited.rest fun j other => (others2 j other).trans (others j other)

/-- A connected client met in the course of the tick met the same tests before it. -/
theorem Ticked.waits {node : UsteerNode} {si : SiId} {info : StaInfo} (ticked : Ticked d0 d) (arms : TickArms cfg d0 n)
    (liveNode : d0.nodes.get? n = some node) (live : d.infos.get? si = some info) (onNode : info.node = n)
    (connected : info.connected ≠ 0) :
    HeardKnown cfg d si ∧ (isActiveClient cfg info = .ok false →
      ((cfg.minSnr ≠ 0 ∧ info.signal < snrToSignal node cfg.minSnr) ∨ LoadKicks cfg node) → d0.Pending si) := by
  obtain ⟨info0, live0, spared⟩ := ticked.infos live
  have same : info.connected = info0.connected := spared.connected.resolve_right fun gone => connected gone.1
  obtain ⟨known, kicks⟩ := arms si info0 node live0 (spared.node ▸ onNode) (same ▸ connected) liveNode
  refine ⟨ticked.known known, fun inactive tested => kicks (.inr ⟨?_, ?_⟩)⟩
  · rw [← isActiveClient_congr spared.activeBytes]
    exact inactive
  · rw [← spared.signal]
    exact tested

theorem ticked_usteerLocalNodeSnrKick {node : UsteerNode} (arms : TickArms cfg d0 n)
    (liveNode : d0.nodes.get? n = some node) (sound : Sound none d) (ticked : Ticked d0 d) :
    Post AnyFault (d.usteerLocalNodeSnrKick cfg n) (Ticked d0) := by
  have liveNode' : d.nodes.get? n = some node := by rw [ticked.nodes]; exact liveNode
  unfold usteerLocalNodeSnrKick
  split
  · exact ticked
  · rename_i enabled
    rw [node_ok liveNode', ok_bind, post_bind]
    refine (returns_snrVictim _ node.staInfo).mono fun r victim => ?_
    cases r with
    | none => exact ticked
    | some si =>
      obtain ⟨inside, info, live, connected, inactive, low⟩ := victim si rfl
      have onNode := onNode_of_listed sound.links liveNode' si inside info live
      obtain ⟨_, kicks⟩ := ticked.waits arms liveNode live onNode connected
      exact ticked.countedKick .snr (kicks inactive (.inl ⟨enabled, low⟩))

/-- Someone that the load kick picked: a connected and inactive client of the node. -/
def LoadVictim (cfg : Config) (d : Daemon) (n : NodeId) (kick : Option SiId) : Prop :=
  ∀ si, kick = some si → ∃ info, d.infos.get? si = some info ∧ info.node = n ∧ info.connected ≠ 0 ∧
    isActiveClient cfg info = .ok false

theorem returns_loadVictims (sound : Sound none d) (list : List SiId)
    (onNode : ∀ si ∈ list, ∀ info, d.infos.get? si = some info → info.node = n)
    (known : ∀ si info, d.infos.get? si = some info → info.node = n → info.connected ≠ 0 → HeardKnown cfg d si)
    {kick1 kick2 candidate : Option SiId} (victim1 : LoadVictim cfg d n kick1) (victim2 : LoadVictim cfg d n kick2) :
    Post AnyFault (loadVictims cfg list kick1 kick2 candidate d) (fun r =>
      LoadVictim cfg d n r.1 ∧ LoadVictim cfg d n r.2.1 ∧ r.2.2.2 = d) := by
  refine (loadVictims_rule (fun list kick1 kick2 d' => (∀ si ∈ list, ∀ info, d.infos.get? si = some info → info.node = n) ∧
    LoadVictim cfg d n kick1 ∧ LoadVictim cfg d n kick2 ∧ d' = d) ?_ list ⟨onNode, victim1, victim2, rfl⟩).mono
      fun _ picked => picked.2
  rintro si rest kick1 kick2 d1 kick1' kick2' d' ⟨onNode, victim1, victim2, rfl⟩ visit
  have listed := fun si' inside => onNode si' (List.mem_cons_of_mem _ inside)
  cases visit with
  | skip => exact ⟨listed, victim1, victim2, rfl⟩
  | pick first second live connected inactive found =>
    have node := onNode si List.mem_cons_self _ live
    have picked : ∀ kick (more : Bool), LoadVictim cfg d1 n kick →
        LoadVictim cfg d1 n (if more = true then some si else kick) := by
      intro kick more victim
      split
      · rintro si' same
        cases same
        exact ⟨_, live, node, connected, inactive⟩
      · exact victim
    have same := (findBetterCandidate_known sound live (known si _ live node connected)).of_ok found
    exact ⟨listed, picked _ first victim1, picked _ second victim2, same⟩

theorem armed_countedKick {si : SiId} (why : KickReason) (armed : Armed d) (waits : d.Pending si) :
    Armed (d.countedKick si why) := by
  have counted : Armed (d.modifyInfo si (fun info => { info with kickCount := info.kickCount + 1 })) :=
    armedBut_edit armed (fun _ _ _ excepted => excepted) fun _ _ _ => .inl waits
  have logged : Armed ((d.modifyInfo si (fun info => { info with kickCount := info.kickCount + 1 })).log
      (.kick d.currentTime si why)) := armedBut_congr counted rfl rfl
  exact armedBut_edit logged (fun _ _ _ excepted => excepted) fun _ _ _ => .inl waits

theorem sameView_setLoadThrCount (count : Int32) :
    SameView d (d.modifyNode n (fun node => node.setLoadThrCount count)) := by
  refine ⟨rfl, rfl, fun m => ?_⟩
  rw [modifyNode, Heap.get?_modify]
  split
  · rename_i same
    subst same
    rw [Option.map_map]
    congr 1
    funext node
    simp only [Function.comp_apply, UsteerNode.setLoadThrCount]
    split
    · rfl
    · rfl
  · rfl

theorem armed_loadKick {node : UsteerNode} (arms : TickArms cfg d0 n) (liveNode : d0.nodes.get? n = some node)
    (sound : Sound none d) (ticked : Ticked d0 d) (armed : Armed d) : Post AnyFault (d.loadKick cfg n) Armed := by
  have liveNode' : d.nodes.get? n = some node := by rw [ticked.nodes]; exact liveNode
  have counted (count : Int32) : Armed (d.modifyNode n (fun node => node.setLoadThrCount count)) :=
    armedBut_congr armed rfl rfl
  refine returns_loadKick liveNode' armed counted fun kicks => ?_
  have edited : Moves plainPlatform cfg (.policy n) (none, d) (none, d.modifyNode n (fun node => node.setLoadThrCount 0)) :=
    .one (.editNode n (keepsNode_setLoadThrCount 0) (keepsCounts_setLoadThrCount (.policy n) n 0 (not_not_intro rfl)))
  have view := sameView_setLoadThrCount (d := d) (n := n) 0
  have sound2 := sound_moves (a := (none, d)) sound edited
  have armed2 := counted 0
  have infos : (d.modifyNode n (fun node => node.setLoadThrCount 0)).infos = d.infos := rfl
  have tq : (d.modifyNode n (fun node => node.setLoadThrCount 0)).tq = d.tq := rfl
  dsimp only at sound2
  generalize d.modifyNode n (fun node => node.setLoadThrCount 0) = d2 at *
  have onNode : ∀ si ∈ node.staInfo, ∀ info, d2.infos.get? si = some info → info.node = n := by
    rw [infos]
    exact onNode_of_listed sound.links liveNode'
  have known : ∀ si info, d2.infos.get? si = some info → info.node = n → info.connected ≠ 0 → HeardKnown cfg d2 si := by
    intro si info live same connected
    rw [infos] at live
    refine known_of (ticked.waits arms liveNode live same connected).1 view (fun info' live' => ?_) fun j info' live' => ?_
    · exact ⟨info', by rw [← infos]; exact live', rfl, rfl, rfl⟩
    · exact ⟨info', by rw [infos]; exact live', rfl, rfl⟩
  refine (returns_loadVictims sound2 node.staInfo onNode known (by simp [LoadVictim]) (by simp [LoadVictim])).mono ?_
  rintro ⟨kick1, kick2, candidate, d3⟩ ⟨victim1, victim2, same⟩
  dsimp only at victim1 victim2 same
  subst same
  cases kick1 with
  | none => exact armed2
  | some kick1 =>
    refine armed_countedKick .load armed2 ?_
    have victim : LoadVictim cfg d3 n (some (kick2.getD kick1)) := by
      cases kick2 with
      | none => exact victim1
      | some kick2 => exact victim2
    obtain ⟨info, live, same, connected, inactive⟩ := victim _ rfl
    rw [infos] at live
    have waits := (ticked.waits arms liveNode live same connected).2 inactive (.inr kicks)
    rw [Pending, tq]
    exact ticked.pending.mpr waits

theorem armed_usteerLocalNodeKick (sound : Sound none d) (inside : n ∈ d.localNodes) (arms : TickArms cfg d n)
    (armed : Armed d) : Post AnyFault (d.usteerLocalNodeKick cfg n) Armed := by
  obtain ⟨node, liveNode, _⟩ := node_of_locals sound.registered inside
  have roamed : Post AnyFault (d.usteerLocalNodeRoamCheck cfg n) (Ticked d) := by
    unfold usteerLocalNodeRoamCheck
    cases level : roamLevel cfg with
    | none => exact .refl d
    | some snr =>
      have timed : Moves plainPlatform cfg (.policy n) (none, d) (none, d.usteerUpdateTime) := .one .time
      have sound1 : Sound none d.usteerUpdateTime := sound_moves (a := (none, d)) sound timed
      have liveNode1 : d.usteerUpdateTime.nodes.get? n = some node := liveNode
      dsimp only
      rw [node_ok liveNode1, ok_bind]
      refine ticked_roamVisits arms liveNode level node.staInfo sound1 (localEntries sound1 inside liveNode1) ?_ rfl
        ⟨rfl, rfl, rfl, rfl, fun live => ⟨_, live, .refl ..⟩, fun live => ⟨_, live⟩⟩
      exact ⟨sound.links.byNode.nodup (k := n) (by simp [table, liveNode]), fun _ _ => rfl,
        onNode_of_listed sound.links liveNode⟩
  refine post_of_ok fun d' run => ?_
  obtain ⟨d1, d2, parts⟩ := tickParts plainPlatform cfg sound inside run
  have ticked1 := roamed.of_ok parts.roamed
  have ticked2 := (ticked_usteerLocalNodeSnrKick arms liveNode parts.sound1 ticked1).of_ok parts.kicked
  exact (armed_loadKick arms liveNode parts.sound2 ticked2 (ticked2.armed armed)).of_ok parts.loaded

end Tick

/-! ### Requests of stations -/

/-- Before a request: the hearing map sends the client to no node without an entry. -/
def EventArms (cfg : Config) (d : Daemon) (n : NodeId) (addr : MacAddr) (type : EventType) : Prop :=
  type ≠ .assoc → ∀ si info, EntryOf d addr n si info → HeardKnown cfg d si

section Event

variable {n : NodeId} {addr : MacAddr} {si : SiId} {create : Bool} {X : SiId → StaInfo → Prop}

theorem Fetched.view (got : Fetched d addr n si create d') : SameView d d' := by
  refine ⟨by rw [got.rest], by rw [got.rest], fun m => ?_⟩
  obtain ⟨list, shape⟩ := got.nodes m
  rw [shape, Option.map_map]
  rfl

theorem Fetched.kinds (got : Fetched d addr n si create d') (m : NodeId) :
    (d'.nodes.get? m).map UsteerNode.kind = (d.nodes.get? m).map UsteerNode.kind := by
  obtain ⟨list, shape⟩ := got.nodes m
  rw [shape, Option.map_map]
  rfl

/-- Only an entry that was created lacks its timer. -/
theorem Fetched.armedBut (got : Fetched d addr n si create d') (armed : ArmedBut X d) :
    ArmedBut (fun j info => X j info ∨ (j = si ∧ create = true)) d' := by
  have tq : d'.tq = d.tq := by rw [got.rest]
  intro j info live unconnected
  unfold Pending
  rw [tq]
  cases create with
  | false =>
    rw [(got.found rfl).1] at live
    exact (armed j info live unconnected).imp id .inl
  | true =>
    obtain ⟨_, _, s, freq, shape⟩ := got.fresh rfl
    rw [shape] at live
    split at live
    · rename_i same
      exact .inr (.inr ⟨same, rfl⟩)
    · exact (armed j info live unconnected).imp id .inl

/-- What the hearing map says about the entry is covered when it was before. -/
theorem Fetched.known (got : Fetched d addr n si create d')
    (known : ∀ si info, EntryOf d addr n si info → HeardKnown cfg d si) : HeardKnown cfg d' si := by
  cases create with
  | false =>
    obtain ⟨infos, info, entry⟩ := got.found rfl
    refine known_of (known si info entry) got.view (fun info' live' => ?_) fun j info' live' => ?_
    · exact ⟨info', by rw [← infos]; exact live', rfl, rfl, rfl⟩
    · exact ⟨info', by rw [infos]; exact live', rfl, rfl⟩
  | true =>
    obtain ⟨_, _, s, freq, shape⟩ := got.fresh rfl
    refine known_unheard fun info live => ?_
    rw [shape, if_pos rfl] at live
    cases live
    rfl

/-- The request does not change that. -/
theorem known_requested {info : StaInfo} (heard : Int32) (type : EventType) (live : d.infos.get? si = some info)
    (known : HeardKnown cfg d si) : HeardKnown cfg (requested env cfg d si info heard type) si := by
  have live' := infos_requested env cfg heard type live
  refine known_of known ⟨rfl, rfl, fun _ => rfl⟩ (fun info' found => ?_) fun j info' found => ?_
  · rw [live'] at found
    cases found
    exact ⟨info, live, rfl, rfl, rfl⟩
  · by_cases same : j = si
    · subst same
      rw [live] at found
      cases found
      exact ⟨_, live', rfl, rfl⟩
    · refine ⟨info', ?_, rfl, rfl⟩
      rw [requested, infos_modifyInfo_other same, infos_settled_other same]
      exact found

theorem armed_usteerHandleStaEvent {node : UsteerNode} {type : EventType} (freq signal : Int32) (sound : Sound none d)
    (liveNode : d.nodes.get? n = some node) (arms : EventArms cfg d n addr type) (armed : Armed d) :
    Post AnyFault (d.usteerHandleStaEvent env cfg n addr type freq signal) (fun r => Armed r.2) := by
  refine (returns_usteerHandleStaEvent addr type freq signal sound liveNode).mono ?_
  rintro r ⟨heard, got, live, sound2, check, sent⟩
  rename_i si create d1 info d2 ret d'
  have armed1 := got.armedBut armed
  have settled1 : Armed (requested env cfg d1 si info heard type) := by
    have settled : Armed (d1.settled env si { info with signal := heard, seen := d1.currentTime }
        cfg.localStaTimeout.toInt32) :=
      armedBut_settled armed1 fun j _ other excepted => excepted.elim id fun created => other created.1
    exact armed_calm settled (.edit fun _ => ⟨rfl, rfl⟩)
  have live2 := infos_requested env cfg heard type live
  have same : d2 = requested env cfg d1 si info heard type := by
    rcases (returns_usteerCheckRequest type sound2 live2).of_ok check with same | ⟨request, br, m, other, created, found, gotInfo⟩
    · exact same
    · exact infoGet_known sound2 live2 (known_requested heard type live (got.known (arms request))) found gotInfo
  have answered : Armed (d2.modifyInfo si (setStats type (countAnswer d2.currentTime ret))) := by
    rw [same]
    exact armed_calm settled1 (.edit fun _ => ⟨rfl, rfl⟩)
  rcases sent with rfl | ⟨nodes, rfl⟩
  · exact answered
  · exact armed_calm answered (calm_usteerUpdateSend cfg _ nodes)

end Event

/-! ### Client tables -/

/-- Between the loops of `usteer_local_node_set_assoc`: an entry of the node that has
    not been confirmed. -/
def Awaits (n : NodeId) (_ : SiId) (info : StaInfo) : Prop := info.connected = 2 ∧ info.node = n

/-- The kernel answers about a client of a node. -/
def Refreshes (node : UsteerNode) (station : Option (Option Int8)) : Prop :=
  station.isSome = true ∧ ∃ count, node.kind = .loc ⟨true, count⟩

/-- Before a row of a client table: the client is associated, or the kernel answers
    about it, or it has an entry already. -/
def RowArms (d : Daemon) (n : NodeId) (client : ClientEntry) : Prop :=
  ∀ addr, client.addr = some addr → client.assoc = some true ∨
    (∃ node, d.nodes.get? n = some node ∧ Refreshes node client.station) ∨ ∃ si info, EntryOf d addr n si info

section Clients

variable {n : NodeId} {si : SiId} {info : StaInfo}

theorem armedBut_calm (armed : ArmedBut (Awaits n) d) (calm : Calm d d') : ArmedBut (Awaits n) d' := by
  intro si info' live' unconnected
  obtain ⟨info, live, connected, node⟩ := calm.infos live'
  rw [connected] at unconnected
  refine (armed si info live unconnected).imp (calm.waits live') fun awaits => ?_
  exact ⟨connected.trans awaits.1, node.trans awaits.2⟩

theorem returns_nl80211UpdateSta {node : UsteerNode} (station : Option (Option Int8)) (sound : Sound none d)
    (liveNode : d.nodes.get? n = some node) (live : d.infos.get? si = some info) :
    Post AnyFault (d.nl80211UpdateSta env cfg n si station) (fun d' =>
      (∃ heard, d' = d.settled env si { info with signal := heard, seen := d.currentTime } cfg.localStaTimeout.toInt32) ∨
      (¬ cfg.InRange ∧ d'.infos.get? si = none) ∨ (d' = d ∧ ¬ Refreshes node station)) := by
  unfold nl80211UpdateSta
  rw [node_ok liveNode, ok_bind]
  split
  · exact (returns_usteerStaInfoUpdate _ true sound live).mono fun d' result => result.imp id .inl
  · rename_i other
    refine .inr (.inr ⟨rfl, ?_⟩)
    rintro ⟨answers, count, present⟩
    obtain ⟨average, found⟩ := Option.isSome_iff_exists.mp answers
    exact other count average present found

theorem returns_usteerLocalNodeAssocUpdate (assoc : Option Bool) :
    Post AnyFault (d.usteerLocalNodeAssocUpdate si assoc) (fun d' => ∃ s f, d' =
      (if assoc = some true then d.modifyInfo si (fun info => { info with connected := 1 }) else d).modifySta s f) := by
  unfold usteerLocalNodeAssocUpdate
  dsimp only
  rw [post_bind]
  refine post_of_ok fun info _ => ?_
  rw [post_bind]
  refine post_of_ok fun node _ => ?_
  rw [post_bind]
  exact post_of_ok fun sta _ => ⟨info.sta, markBand node.freq, rfl⟩

theorem Calm.thenCleanup {bssid : Option MacAddr} (calm : Calm d d') : Calm d (d'.usteerBeaconReportCleanup cfg si bssid) :=
  calm.thenEdit fun _ => ⟨rfl, rfl⟩

theorem Calm.thenSend {freq : Int32} {mode : UInt8} (calm : Calm d d') : Calm d (d'.usteerBeaconRequestSend si freq mode) :=
  calm.trans (.of_eq rfl rfl)

theorem returns_usteerBeaconRequestCheck :
    Post AnyFault (d.usteerBeaconRequestCheck env cfg si) (fun d' => Calm d d' ∧ d'.nodes = d.nodes) := by
  unfold usteerBeaconRequestCheck
  rw [post_bind]
  refine post_of_ok fun info _ => ?_
  rw [post_bind]
  refine post_of_ok fun node _ => ?_
  dsimp only
  split
  · exact ⟨.refl d, rfl⟩
  · rw [post_bind]
    refine post_of_ok fun next _ => ?_
    constructor
    · apply Calm.thenEdit
      · split
        · apply Calm.thenCleanup
          apply Calm.thenEdit
          · apply Calm.thenSend
            exact .edit fun _ => ⟨rfl, rfl⟩
          · exact fun _ => ⟨rfl, rfl⟩
        · apply Calm.thenSend
          exact .edit fun _ => ⟨rfl, rfl⟩
      · exact fun _ => ⟨rfl, rfl⟩
    · split
      · rfl
      · rfl

theorem armed_listClient (env : Platform) {nAssoc : Int32} {client : ClientEntry} {node : UsteerNode} (inRange : cfg.InRange)
    (sound : Sound none d) (liveNode : d.nodes.get? n = some node) (arms : RowArms d n client)
    (armed : ArmedBut (Awaits n) d) :
    Post AnyFault (listClient env cfg n (nAssoc, d) client) (fun r => ArmedBut (Awaits n) r.2 ∧
      ∀ m, (r.2.nodes.get? m).map UsteerNode.kind = (d.nodes.get? m).map UsteerNode.kind) := by
  cases row : client.addr with
  | none =>
    unfold listClient
    rw [row]
    exact ⟨armed, fun _ => rfl⟩
  | some addr =>
    rw [listClient_eq env cfg row, post_bind]
    refine (post_fetched env cfg .plain (fun _ => ⟨rfl, rfl⟩) sound liveNode).mono ?_
    rintro ⟨si, create, d2⟩ ⟨got, moves⟩
    dsimp only at got moves ⊢
    have sound2 : Sound none d2 := sound_moves (a := (none, d)) sound moves
    obtain ⟨info, live, _⟩ := got.entry
    obtain ⟨node2, liveNode2, _⟩ := (survives_moves moves).node liveNode
    have kind : node2.kind = node.kind := by
      have same := got.kinds n
      rw [liveNode, liveNode2] at same
      exact Option.some.inj same
    have armed2 := got.armedBut armed
    rw [post_bind]
    refine (returns_nl80211UpdateSta client.station sound2 liveNode2 live).mono fun d3 updated => ?_
    -- after the kernel's answer only a new entry that got none lacks its timer
    have armed3 : ArmedBut (fun j info => Awaits n j info ∨ (j = si ∧ create = true ∧ ¬ Refreshes node client.station)) d3 ∧
        d3.nodes = d2.nodes := by
      rcases updated with ⟨heard, rfl⟩ | ⟨outOfRange, _⟩ | ⟨rfl, silent⟩
      · exact ⟨armedBut_settled armed2 fun j _ other excepted => .inl (excepted.resolve_right fun created => other created.1), rfl⟩
      · exact absurd inRange outOfRange
      · refine ⟨fun j info live unconnected => (armed2 j info live unconnected).imp id ?_, rfl⟩
        refine Or.imp id fun created => ⟨created.1, created.2, ?_⟩
        rw [Refreshes, ← kind]
        exact silent
    obtain ⟨armed3, nodes3⟩ := armed3
    unfold confirmClient
    rw [post_bind]
    refine (returns_usteerLocalNodeAssocUpdate client.assoc).mono ?_
    rintro d4 ⟨s', f, rfl⟩
    have armed4 : ArmedBut (Awaits n) ((if client.assoc = some true then
        d3.modifyInfo si (fun info => { info with connected := 1 }) else d3).modifySta s' f) := by
      refine armedBut_congr ?_ rfl rfl
      split
      · exact armedBut_edit armed3 (fun j _ other excepted => excepted.resolve_right fun created => other created.1)
          fun _ _ unconnected => absurd rfl unconnected
      · rename_i unassociated
        intro j info live unconnected
        refine (armed3 j info live unconnected).imp id fun excepted => excepted.resolve_right ?_
        rintro ⟨_, created, silent⟩
        rcases arms addr row with associated | ⟨node', liveNode', refreshes⟩ | ⟨j, info, entry⟩
        · exact unassociated associated
        · rw [liveNode] at liveNode'
          cases liveNode'
          exact silent refreshes
        · exact (got.fresh created).2.1 j info entry
    have nodes4 : ((if client.assoc = some true then d3.modifyInfo si (fun info => { info with connected := 1 })
        else d3).modifySta s' f).nodes = d2.nodes := by
      rw [← nodes3]
      split
      · rfl
      · rfl
    generalize (if client.assoc = some true then d3.modifyInfo si (fun info => { info with connected := 1 })
      else d3).modifySta s' f = d4 at *
    rw [post_bind]
    refine post_of_ok fun info4 _ => ?_
    rw [post_bind]
    refine returns_usteerBeaconRequestCheck.mono fun d6 checked => ⟨?_, fun m => ?_⟩
    · have sampled : Calm d4 (d4.usteerUpdateClientActiveBytes cfg si client.bytes) := .edit fun _ => ⟨rfl, rfl⟩
      exact armedBut_calm armed4 (sampled.trans checked.1)
    · have same : d6.nodes = d2.nodes := checked.2.trans nodes4
      show (d6.nodes.get? m).map UsteerNode.kind = _
      rw [same]
      exact got.kinds m

theorem armed_awaitConfirmation {list : List SiId} (armed : Armed d)
    (onNode : ∀ si ∈ list, ∀ info, d.infos.get? si = some info → info.node = n) :
    Post AnyFault (list.foldlM awaitConfirmation d) (fun d' => ArmedBut (Awaits n) d' ∧ d'.nodes = d.nodes) := by
  have start : ArmedBut (Awaits n) d ∧ d.nodes = d.nodes ∧ ∀ si info', d.infos.get? si = some info' →
      ∃ info, d.infos.get? si = some info ∧ info'.node = info.node :=
    ⟨fun si info live unconnected => .inl (armed.pending live unconnected), rfl, fun _ info live => ⟨info, live, rfl⟩⟩
  refine (post_foldlM (I := fun d' => ArmedBut (Awaits n) d' ∧ d'.nodes = d.nodes ∧ ∀ si info', d'.infos.get? si = some info' →
    ∃ info, d.infos.get? si = some info ∧ info'.node = info.node) list ?_ d start).mono fun _ result => ⟨result.1, result.2.1⟩
  rintro d' ⟨armed', nodes, before⟩ si inside
  unfold awaitConfirmation
  rw [post_bind, post_info]
  refine ⟨fun info live => ?_, fun _ => trivial⟩
  split
  · obtain ⟨info0, live0, same⟩ := before si info live
    refine ⟨armedBut_edit armed' (fun _ _ _ excepted => excepted) fun info' live' _ => ?_, nodes, fun j info' live' => ?_⟩
    · rw [live] at live'
      cases live'
      exact .inr ⟨rfl, same.trans (onNode si inside info0 live0)⟩
    · obtain ⟨info1, live1, result⟩ := Heap.get?_modify_some live'
      obtain ⟨info2, live2, same2⟩ := before j info1 live1
      refine ⟨info2, live2, ?_⟩
      rw [result]
      split
      · exact same2
      · exact same2
  · exact ⟨armed', nodes, before⟩

theorem armed_dropUnconfirmed (inRange : cfg.InRange) (list : List SiId) :
    ∀ {d : Daemon}, Sound none d → ArmedBut (fun j info => info.connected = 2 ∧ j ∈ list) d →
      Post AnyFault (list.foldlM (dropUnconfirmed env cfg) d) Armed := by
  induction list with
  | nil =>
    intro d _ armed si info live unconnected
    exact (armed si info live unconnected).imp id fun excepted => by cases excepted.2
  | cons si rest ih =>
    intro d sound armed
    rw [List.foldlM_cons, post_bind]
    refine post_of_ok fun d1 dropped => ?_
    have found : ∃ info, d.infos.get? si = some info := by
      cases found : d.infos.get? si with
      | some info => exact ⟨info, rfl⟩
      | none =>
        rw [dropUnconfirmed, Daemon.info, found] at dropped
        cases dropped
    obtain ⟨info, live⟩ := found
    have moves := (post_dropUnconfirmed env cfg .plain sound live id).of_ok dropped
    refine ih (sound_moves (a := (none, d)) sound moves) ?_
    unfold dropUnconfirmed at dropped
    rw [info_ok live, ok_bind] at dropped
    have others : ∀ j info, j ≠ si → (info : StaInfo).connected = 2 ∧ j ∈ si :: rest → info.connected = 2 ∧ j ∈ rest :=
      fun j info other excepted => ⟨excepted.1, (List.mem_cons.mp excepted.2).resolve_left other⟩
    split at dropped
    · rename_i confirmed
      cases dropped
      intro j info' live' unconnected
      refine (armed j info' live' unconnected).imp id fun excepted => others j info' ?_ excepted
      rintro rfl
      rw [live] at live'
      cases live'
      exact confirmed excepted.1
    · dsimp only at dropped
      rw [settle_eq env cfg live (.inr inRange), ok_bind, info_ok (infos_settled_self live)] at dropped
      cases dropped
      exact armedBut_settled armed others

theorem armed_usteerLocalNodeSetAssoc {clients : List ClientEntry} (inRange : cfg.InRange) (sound : Sound none d)
    (inside : n ∈ d.localNodes) (arms : ∀ client ∈ clients, RowArms d n client) (armed : Armed d) :
    Post AnyFault (d.usteerLocalNodeSetAssoc env cfg n clients) Armed := by
  obtain ⟨node, live, _⟩ := node_of_locals sound.registered inside
  unfold usteerLocalNodeSetAssoc
  rw [node_ok live, ok_bind, post_bind]
  have onNode := onNode_of_listed sound.links live
  refine ((armed_awaitConfirmation armed onNode).and (post_eachEntry env cfg .plain (fun d si info _ live _ isLocal =>
    post_awaitConfirmation (F := AnyFault) env cfg .plain live isLocal id) sound inside live)).mono ?_
  rintro d1 ⟨⟨armed1, nodes1⟩, moves1⟩
  rw [post_bind]
  -- rows find what they found before: entries survive and nodes keep their kind
  have rows : ∀ acc : Int32 × Daemon, (Moves env cfg .plain (none, d) (none, acc.2) ∧ ArmedBut (Awaits n) acc.2 ∧
        ∀ m, (acc.2.nodes.get? m).map UsteerNode.kind = (d.nodes.get? m).map UsteerNode.kind) → ∀ client ∈ clients,
      Post AnyFault (listClient env cfg n acc client) (fun acc => Moves env cfg .plain (none, d) (none, acc.2) ∧
        ArmedBut (Awaits n) acc.2 ∧ ∀ m, (acc.2.nodes.get? m).map UsteerNode.kind = (d.nodes.get? m).map UsteerNode.kind) := by
    rintro ⟨nAssoc, d2⟩ ⟨moves, armed2, kinds⟩ client listed
    dsimp only at moves armed2 kinds
    have sound2 : Sound none d2 := sound_moves (a := (none, d)) sound moves
    have survives := survives_moves moves
    have inside2 : n ∈ d2.localNodes := by rw [survives.localNodes]; exact inside
    obtain ⟨node2, live2, isLocal2⟩ := node_of_locals sound2.registered inside2
    have row : RowArms d2 n client := by
      intro addr same
      refine (arms client listed addr same).imp id (Or.imp ?_ ?_)
      · rintro ⟨node', live', answers, count, kind⟩
        have same := kinds n
        rw [live2, live'] at same
        refine ⟨node2, live2, answers, count, ?_⟩
        rw [← kind]
        exact Option.some.inj same
      · rintro ⟨si, info, liveInfo, onNode, sta, liveSta, addr⟩
        obtain ⟨info', liveInfo', sameSta, sameNode⟩ := survives.infos liveInfo
        obtain ⟨sta', liveSta', sameAddr⟩ := survives.stas liveSta
        exact ⟨si, info', liveInfo', by rw [sameNode, onNode], sta', by rw [sameSta]; exact liveSta', by rw [sameAddr, addr]⟩
    refine ((armed_listClient env inRange sound2 live2 row armed2).and
      (post_listClient env cfg .plain (reads_plain n clients) listed sound2 live2 isLocal2)).mono ?_
    rintro ⟨nAssoc', d3⟩ ⟨⟨armed3, kinds3⟩, moves3⟩
    exact ⟨moves.then moves3, armed3, fun m => (kinds3 m).trans (kinds m)⟩
  refine (post_foldlM clients rows (0, d1) ⟨moves1, armed1, fun m => by rw [nodes1]⟩).mono ?_
  rintro ⟨nAssoc, d2⟩ ⟨moves2, armed2, _⟩
  dsimp only at moves2 armed2 ⊢
  have moves3 : Moves env cfg .plain (none, d) (none, d2.modifyNode n (fun node => { node with nAssoc := nAssoc })) :=
    moves2.then (.one (.editNode n (fun node => ⟨rfl, rfl, rfl⟩) fun _ _ _ => keepsCounts_plain))
  have sound3 := sound_moves (a := (none, d)) sound moves3
  rw [post_bind, post_node]
  refine ⟨fun node3 live3 => armed_dropUnconfirmed inRange node3.staInfo sound3 ?_, fun _ => trivial⟩
  intro si info liveInfo unconnected
  refine (armed2 si info liveInfo unconnected).imp id fun awaits => ⟨awaits.1, ?_⟩
  obtain ⟨node', live', listed⟩ := node_of_info sound3.links liveInfo
  dsimp only at live'
  rw [awaits.2, live3] at live'
  cases live'
  exact listed

theorem armed_usteerLocalNodeListCb {msg : ClientsReply} (inRange : cfg.InRange) (sound : Sound none d)
    (inside : n ∈ d.localNodes) (arms : ∀ clients, msg.clients = some clients → ∀ client ∈ clients, RowArms d n client)
    (armed : Armed d) : Post AnyFault (d.usteerLocalNodeListCb env cfg n msg) Armed := by
  unfold usteerLocalNodeListCb
  split
  · rename_i freq clients _ found
    have edited : Moves env cfg .plain (none, d) (none, d.modifyNode n (fun node => { node with freq := freq })) :=
      .one (.editNode n (fun node => ⟨rfl, rfl, rfl⟩) fun _ _ _ => keepsCounts_plain)
    refine armed_usteerLocalNodeSetAssoc inRange (sound_moves (a := (none, d)) sound edited) inside ?_
      (armed_calm armed (.of_eq rfl rfl))
    intro client listed addr same
    refine (arms clients found client listed addr same).imp id (Or.imp ?_ id)
    rintro ⟨node, live, answers, count, kind⟩
    refine ⟨{ node with freq := freq }, ?_, answers, count, kind⟩
    simp [modifyNode, Heap.get?_modify, live]
  · exact armed

end Clients

/-! ### The other inputs -/

theorem armed_usteerRegisterNode (env : Platform) (name : CString) (sound : Sound none d) (armed : Armed d) :
    Post AnyFault (d.usteerRegisterNode name) Armed := by
  unfold usteerRegisterNode
  split
  · exact armed
  · rw [post_bind]
    refine (post_usteerGetNode env none name sound).mono ?_
    rintro ⟨n, d'⟩ (same | ⟨joined, _⟩)
    · dsimp only at same
      rw [same]
      exact armed
    · dsimp only at joined
      refine armed_calm armed (.of_eq ?_ ?_)
      · rw [joined.rest]
      · rw [joined.rest]

theorem calm_storeBeaconReport (cfg : Config) (si : SiId) (br : BeaconReport) : Calm d (d.storeBeaconReport cfg si br) := by
  unfold storeBeaconReport
  apply Calm.thenEdit
  · apply Calm.thenCleanup
    exact .edit fun _ => ⟨rfl, rfl⟩
  · exact fun _ => ⟨rfl, rfl⟩

theorem calm_usteerHandleEventBeaconReport (n : NodeId) (msg : BeaconReportMsg) (sound : Sound none d) :
    Post AnyFault (d.usteerHandleEventBeaconReport cfg n msg) (Calm d) := by
  unfold usteerHandleEventBeaconReport
  split
  · rw [post_bind]
    refine post_of_ok fun addrSta _ => ?_
    rw [post_bind]
    refine (post_usteerStaFind addrSta sound).mono ?_
    rintro ⟨found, d1⟩ ⟨same, _⟩
    dsimp only at same
    subst same
    cases found with
    | none => exact .refl d1
    | some s =>
      show Post AnyFault (d1.usteerStaInfoFind s n >>= _) _
      rw [post_bind]
      refine post_of_ok fun si _ => ?_
      cases si with
      | none => exact .refl d1
      | some si =>
        show Post AnyFault (notNull _ >>= _) _
        rw [post_bind]
        refine post_of_ok fun addr _ => ?_
        rw [post_bind]
        refine post_of_ok fun node _ => ?_
        cases node with
        | none => exact .refl d1
        | some node =>
          simp only [post_bind]
          refine post_of_ok fun rcpi _ => post_of_ok fun rsni _ => post_of_ok fun opClass _ => post_of_ok fun channel _ => ?_
          exact calm_storeBeaconReport cfg si _
  · exact .refl d

theorem armed_interfaceAddStation {n : NodeId} {node : UsteerNode} (msg : ApmsgSta) (sound : Sound none d)
    (liveNode : d.nodes.get? n = some node) (armed : Armed d) :
    Post AnyFault (d.interfaceAddStation env cfg n msg) Armed := by
  refine (returns_interfaceAddStation msg sound liveNode).mono ?_
  rintro d' (⟨_, rfl⟩ | ⟨_, si, create, d1, info, got, _, live, rfl⟩)
  · exact armed
  · exact armedBut_settled (got.armedBut armed) fun j _ other excepted => excepted.elim id fun created => other created.1

theorem armed_interfaceAddNode (addr : CString) (id : UInt32) (msg : ApmsgNode) (sound : Sound none d) (armed : Armed d) :
    Post AnyFault (d.interfaceAddNode env cfg addr id.toUInt64 msg) Armed := by
  unfold interfaceAddNode
  split
  · exact armed
  · rw [post_bind]
    refine (post_interfaceGetNode addr id msg.name sound).mono ?_
    rintro ⟨n, d1⟩ got
    have ready : Sound none d1 ∧ Armed d1 ∧ ∃ node, d1.nodes.get? n = some node ∧ node.isLocal = false := by
      rcases got with ⟨same, inside, _⟩ | ⟨fresh, joined, _, sound1, _⟩
      · rw [show d1 = d from same]
        exact ⟨sound, armed, node_of_remotes sound.registered (mem_remoteGroup inside)⟩
      · dsimp only at fresh joined sound1
        refine ⟨sound1, armedBut_congr armed (by rw [joined.rest]) (by rw [joined.rest]),
          newRemoteNode addr id.toUInt64 msg.name, ?_, rfl⟩
        rw [joined.nodes, Heap.get?_alloc, if_pos fresh]
    obtain ⟨sound1, armed1, node1, live1, isRemote⟩ := ready
    dsimp only
    rw [post_bind]
    refine post_of_ok fun bssid _ => ?_
    have edited : Moves env cfg .plain (none, d1) (none, d1.modifyNode n (takeOver msg bssid)) :=
      .one (.editNode n (keepsNode_takeOver msg bssid) fun _ _ _ => keepsCounts_plain)
    refine (post_foldlM (I := fun d' => Moves env cfg .plain (none, d1) (none, d') ∧ Armed d') msg.stations ?_ _
      ⟨edited, armedBut_congr armed1 rfl rfl⟩).mono fun d' result => result.2
    rintro d' ⟨moves, armed'⟩ sta _
    obtain ⟨node', live', identity⟩ := (survives_moves moves).node live1
    have key : remoteKey node' = remoteKey node1 := congrArg Prod.fst identity
    have isRemote' : node'.isLocal = false := by rw [isLocal_eq, key, ← isLocal_eq]; exact isRemote
    have sound' : Sound none d' := sound_moves (a := (none, d1)) sound1 moves
    refine ((armed_interfaceAddStation sta sound' live' armed').and
      (post_interfaceAddStation (F := AnyFault) env cfg .plain sound' live' isRemote' fun _ _ known => known)).mono ?_
    exact fun d'' result => ⟨moves.then result.2, result.1⟩

theorem armed_interfaceRecvMsg (addr : CString) (msg : Apmsg) (sound : Sound none d) (armed : Armed d) :
    Post AnyFault (d.interfaceRecvMsg env cfg addr msg) Armed := by
  unfold interfaceRecvMsg
  split
  · exact armed
  · let scope : Scope := .sentBy msg.id
    refine (post_foldlM (I := fun d' => Evolves env cfg scope d d' ∧ Armed d') msg.nodes ?_ d ⟨.refl, armed⟩).mono
      fun d' result => result.2
    rintro d' ⟨evolves, armed'⟩ node _
    have sound' := sound_evolves sound evolves
    have grows : Post _ (d'.interfaceAddNode env cfg addr msg.id.toUInt64 node)
        (fun d'' => Evolves env cfg scope d' d'') := post_interfaceAddNode addr rfl (fun _ _ _ _ _ => id) sound'
    exact ((armed_interfaceAddNode addr msg.id node sound' armed').and grows).mono
      fun d'' result => ⟨evolves.trans result.2, result.1⟩

/-! ### Every input and every run -/

/-- The input meets none of the three places that forget the timer. -/
def Arms (cfg : Config) (d : Daemon) : Input → Prop
  | .tick n => TickArms cfg d n
  | .staEvent n addr type _ _ => EventArms cfg d n addr type
  | .clients n msg => ∀ clients, msg.clients = some clients → ∀ client ∈ clients, RowArms d n client
  | _ => True

theorem armed_handle {input : Input} (inRange : cfg.InRange) (sound : Sound none d) (accepts : d.Accepts input)
    (arms : Arms cfg d input) (armed : Armed d) : Post AnyFault (d.handle env cfg input) Armed := by
  have timed : Calm d d.usteerUpdateTime := .of_eq rfl rfl
  have moves : Moves env cfg .plain (none, d) (none, d.usteerUpdateTime) := .one .time
  have sound1 : Sound none d.usteerUpdateTime := sound_moves (a := (none, d)) sound moves
  cases input with
  | advance ms => exact armed_calm armed (.of_eq rfl rfl)
  | staEvent n addr type freq signal =>
    obtain ⟨node, live, _⟩ := node_of_locals sound.registered accepts.1
    unfold handle
    rw [post_map]
    have arms1 : EventArms cfg d.usteerUpdateTime n addr type := fun request si info entry =>
      known_of (arms request si info entry) ⟨rfl, rfl, fun _ => rfl⟩ (fun info live => ⟨info, live, rfl, rfl, rfl⟩)
        fun _ info live => ⟨info, live, rfl, rfl⟩
    exact armed_usteerHandleStaEvent freq signal sound1 live arms1 (armed_calm armed timed)
  | beaconReport n msg =>
    refine (calm_usteerHandleEventBeaconReport n msg sound1).mono fun d' calm => ?_
    exact armed_calm armed (timed.trans calm)
  | clients n msg => exact armed_usteerLocalNodeListCb inRange sound accepts arms armed
  | message addr msg =>
    change Post AnyFault (if cfg.remoteDisabled then .ok d else d.interfaceRecvMsg env cfg addr msg) _
    split
    · exact armed
    · exact armed_interfaceRecvMsg addr msg sound armed
  | tick n => exact armed_usteerLocalNodeKick sound accepts arms armed
  | timeouts =>
    refine (post_stationTimeouts sound.toIntact).mono ?_
    rintro d' ⟨_, pruned, _⟩
    exact armed_calm armed pruned.shrunk.calm
  | update =>
    have updated : Post _ (d.usteerSendUpdateTimer env cfg) (fun d' => Evolves env cfg .plain d d' ∧ _) :=
      post_usteerSendUpdateTimer sound
    exact post_of_ok fun d' run => armed_calm armed (updated.of_ok run).2.1
  | vendorUpdate => exact armed_calm armed timed
  | register name => exact armed_usteerRegisterNode env name sound armed
  | status n status => exact armed_calm armed (.of_eq rfl rfl)
  | remove n =>
    refine (post_usteerFreeNode sound accepts).mono ?_
    rintro d' ⟨_, removed, _⟩
    exact armed_calm armed removed.toShrunk.calm

theorem armed_initial (localId : UInt32) (clock : UInt64) (ssidList : Option (List CString)) :
    Armed (.initial localId clock ssidList) := by
  intro si info live
  simp [initial] at live

/-- In every run whose inputs meet none of the three places, every entry that is not
    connected waits in the queue. -/
theorem unconnected_wait (env : Platform) {cfg : Config} (inRange : 0 < cfg.localStaTimeout.toInt32.toInt) {d : Daemon}
    (reach : ReachableWhen env cfg (Arms cfg) d) {si : SiId} {info : StaInfo} (live : d.infos.get? si = some info)
    (unconnected : info.connected ≠ 1) : d.tq.usteerTimeoutIsset si = true := by
  have positive : cfg.InRange := by rw [Config.InRange, Int32.lt_iff_toInt_lt]; exact inRange
  have armed : Armed d := by
    clear live unconnected
    induction reach with
    | start localId clock ssidList => exact armed_initial localId clock ssidList
    | step input before accepts met run ih =>
      exact (armed_handle positive (reachable_sound before.reachable) accepts met ih).of_ok run
  exact (Queue.isset_iff _ _).mpr (armed.pending live unconnected)

theorem unconnected_wait_after_probe : ∃ d info,
    ReachableWhen plainPlatform usteerInitDefaults (Arms usteerInitDefaults) d ∧ d.infos.get? 0 = some info ∧
      info.connected ≠ 1 ∧ d.tq.usteerTimeoutIsset 0 = true := by
  have evaluates : ((plainRun usteerInitDefaults [.register hostapdDot, .advance 1000]).any fun d =>
      decide (d.infos.next = 0 ∧ d.Accepts (.staEvent 0 1 .probe 2412 (-60))) &&
      (d.handle plainPlatform usteerInitDefaults (.staEvent 0 1 .probe 2412 (-60))).toOption.any fun d' =>
        (d'.infos.get? 0).any fun info => decide (info.connected ≠ (1 : Fin 4))) = true := by decide +kernel
  obtain ⟨d, run, evaluates⟩ := (Option.any_eq_true _ _).mp evaluates
  obtain ⟨start, evaluates⟩ := (Bool.and_eq_true _ _).mp evaluates
  obtain ⟨empty, accepts⟩ := of_decide_eq_true start
  have reach : ReachableWhen plainPlatform usteerInitDefaults (Arms usteerInitDefaults) d :=
    reachableWhen_runs (by simp [Arms]) (.start 1 0 none) run
  have arms : Arms usteerInitDefaults d (.staEvent 0 1 .probe 2412 (-60)) := by
    rintro _ si info ⟨live, _⟩
    have := Heap.lt_next live
    omega
  obtain ⟨d', handled, evaluates⟩ := (Option.any_eq_true _ _).mp evaluates
  obtain ⟨info, live, unconnected⟩ := (Option.any_eq_true _ _).mp evaluates
  have reach' := reach.step _ accepts arms (ok_of_toOption handled)
  have unconnected := of_decide_eq_true unconnected
  exact ⟨d', info, reach', live, unconnected, unconnected_wait plainPlatform (by decide) reach' live unconnected⟩

/-- A client sends another request while it is connected, which cancels its timer, and is
    then kicked for its signal. -/
def kickedClient : List Input :=
  [.register hostapdDot, .advance 1000, .staEvent 0 1 .probe 2412 (-90),
    .clients 0 ⟨some 2412, some [⟨some 1, none, some true, none⟩]⟩, .staEvent 0 1 .probe 2412 (-90), .tick 0]

theorem kicked_client_forgotten : ∃ d info, Reachable plainPlatform { usteerInitDefaults with minSnr := 30 } d ∧
    d.infos.get? 0 = some info ∧ info.connected = 0 ∧ d.tq.usteerTimeoutIsset 0 = false := by
  have evaluates : ((plainRun { usteerInitDefaults with minSnr := 30 } kickedClient).any fun d =>
      (d.infos.get? 0).any fun info =>
        decide (info.connected = (0 : Fin 4) ∧ d.tq.usteerTimeoutIsset 0 = false)) = true := by decide +kernel
  obtain ⟨d, run, evaluates⟩ := (Option.any_eq_true _ _).mp evaluates
  obtain ⟨info, live, evaluates⟩ := (Option.any_eq_true _ _).mp evaluates
  obtain ⟨kicked, forgotten⟩ := of_decide_eq_true evaluates
  exact ⟨d, info, reachable_plainRun run, live, kicked, forgotten⟩

end Usteer
