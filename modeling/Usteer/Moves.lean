import Usteer.Store

/-!
Everything that the daemon does between two deletions, in small steps. A `Move` is
one change that keeps the references in order: a new station or entry, an edit that
touches no reference, a change of `connected` with or without the timer, a step of
the roam machine. A station in the making, which has no entry yet, is carried along.
Every function that deletes nothing is a sequence of moves (`Moves`), so what a move
preserves, such as `Sound` (`sound_moves`), each of them preserves.
-/
namespace Usteer
open SearchTree Timeout Function

/-- The sender's id and the name of a remote node. -/
def remoteKey (node : UsteerNode) : Option (UInt32 × CString) :=
  match node.kind with
  | .remote rn => some (rn.id, rn.name)
  | .loc _ => none

theorem isLocal_eq (node : UsteerNode) : node.isLocal = (remoteKey node).isNone := by
  unfold UsteerNode.isLocal remoteKey
  cases node.kind with
  | loc ln => rfl
  | remote rn => rfl

/-- What an edit of an entry leaves alone. -/
structure KeepsEntry (si : SiId) (info info' : StaInfo) : Prop where
  sta : info'.sta = info.sta
  node : info'.node = info.node
  reports : ∀ br ∈ info'.beaconReports, br ∈ info.beaconReports ∨ br.address = si

/-- The roam machine's own fields. -/
def SameRoam (info info' : StaInfo) : Prop :=
  info'.roamState = info.roamState ∧ info'.roamEvent = info.roamEvent ∧ info'.roamKick = info.roamKick ∧
    info'.roamTries = info.roamTries

/-- What an edit of a node leaves alone. -/
structure KeepsNode (node node' : UsteerNode) : Prop where
  key : remoteKey node' = remoteKey node
  name : node'.name = node.name
  staInfo : node'.staInfo = node.staInfo

namespace Daemon

/-- An entry is edited and its timer follows `connected`, as `usteer_sta_info_update_timeout`
    does with a positive timeout. -/
def settled (env : Platform) (d : Daemon) (si : SiId) (info : StaInfo) (timeout : Int32) : Daemon :=
  { d.modifyInfo si (fun _ => info) with
    tq := if info.connected = 1 then d.tq.usteerTimeoutCancel env.timeouts si
      else d.tq.usteerTimeoutSet env.timeouts si timeout d.clock.toNat }

/-- An entry of a local node. -/
def OnLocal (d : Daemon) (info : StaInfo) : Prop :=
  ∃ node, d.nodes.get? info.node = some node ∧ node.isLocal = true

end Daemon

open Daemon

/-- What a function may do beyond keeping the references in order: decide on roaming and
    kicks, count the requests of one kind that a station sends to a node, and create the
    remote nodes of a daemon. It may be known not to count how long the load of some nodes is
    high, to read no client table of some nodes, to learn no signal of some stations on some
    nodes, and to delete entries only with their nodes. -/
structure Scope where
  tick : Bool
  request : Option (MacAddr × NodeId × EventType)
  sender : Option UInt32
  uncounted : NodeId → Prop
  unread : NodeId → Prop
  unheard : MacAddr → NodeId → Option (UInt32 × CString) → Prop
  unexpired : Prop

/-- None of the first three, and nothing is known. -/
def Scope.plain : Scope := ⟨false, none, none, fun _ => False, fun _ => False, fun _ _ _ => False, False⟩
/-- None of the first three, and all that can be known. -/
def Scope.quiet : Scope := ⟨false, none, none, fun _ => True, fun _ => True, fun _ _ _ => True, True⟩
/-- The scope of a policy tick of a node. -/
def Scope.policy (n : NodeId) : Scope := ⟨true, none, none, fun m => m ≠ n, fun _ => True, fun _ _ _ => True, True⟩
/-- A request is counted. -/
def Scope.asked (request : MacAddr × NodeId × EventType) : Scope := { Scope.plain with request := some request }
/-- Remote nodes of a sender are created. -/
def Scope.sentBy (id : UInt32) : Scope := { Scope.plain with sender := some id }

/-- The events that functions of that scope add to the history: messages carry the
    daemon's own id, and all others but beacon requests come from a policy tick. -/
def Logs (scope : Scope) (localId : UInt32) : Event → Prop
  | .beaconRequest .. => True
  | .update _ msg => msg.id = localId
  | _ => scope.tick = true

/-- A station with the address has this entry on the node. -/
def EntryOf (d : Daemon) (addr : MacAddr) (n : NodeId) (si : SiId) (info : StaInfo) : Prop :=
  d.infos.get? si = some info ∧ info.node = n ∧ ∃ sta, d.stas.get? info.sta = some sta ∧ sta.addr = addr

/-- The statistics of the entry that are in scope may change. -/
def Counts (scope : Scope) (d : Daemon) (si : SiId) (info info' : StaInfo) : Prop :=
  ∀ type, info'.stats type = info.stats type ∨
    ∃ addr n, scope.request = some (addr, n, type) ∧ EntryOf d addr n si info

/-- The entry keeps the time at which it was last heard of, unless a request in scope is. -/
def Hears (scope : Scope) (d : Daemon) (si : SiId) (info info' : StaInfo) : Prop :=
  info'.roamScanDone = info.roamScanDone ∨
    info'.roamScanDone = d.currentTime ∧ ∃ addr n type, scope.request = some (addr, n, type) ∧ EntryOf d addr n si info

/-- No signal of the entry's station is learned. -/
def Unheard (scope : Scope) (d : Daemon) (info : StaInfo) : Prop :=
  ∃ sta node, d.stas.get? info.sta = some sta ∧ d.nodes.get? info.node = some node ∧
    scope.unheard sta.addr info.node (remoteKey node)

/-- The entry loses beacon reports, or one of right now is put on top, the only one of its
    BSSID. -/
def Files (d : Daemon) (info info' : StaInfo) : Prop :=
  info'.beaconReports.Sublist info.beaconReports ∨ ∃ br, info'.beaconReports = br :: info.beaconReports ∧
    br.usteerTime = d.currentTime ∧ d.currentTime = d.clock ∧ ∀ old ∈ info.beaconReports, old.bssid ≠ br.bssid

/-- What is known about the counters of a local node. -/
structure KeepsCounts (scope : Scope) (n : NodeId) (node node' : UsteerNode) : Prop where
  load : scope.uncounted n → node'.loadThrCount = node.loadThrCount
  assoc : scope.unread n → node'.nAssoc = node.nAssoc

theorem heard_plain {d : Daemon} {info : StaInfo} : ¬ Unheard .plain d info := by
  rintro ⟨_, _, _, _, impossible⟩
  exact impossible

theorem keepsCounts_plain {n : NodeId} {node node' : UsteerNode} : KeepsCounts .plain n node node' :=
  ⟨False.elim, False.elim⟩

/-- One small step. -/
inductive Move (env : Platform) (cfg : Config) (scope : Scope) : Option StaId × Daemon → Option StaId × Daemon → Prop
  | time {v d} : Move env cfg scope (v, d) (v, d.usteerUpdateTime)
  | log {v d} (e : Event) (fits : Logs scope d.localId e) : Move env cfg scope (v, d) (v, d.log e)
  | sequence {v d} (seq : UInt32) : Move env cfg scope (v, d) (v, { d with msgSeq := seq })
  | newSta {d addr} (fresh : ∀ s sta, d.stas.get? s = some sta → sta.addr ≠ addr) :
      Move env cfg scope (none, d) (some d.stas.next, d.newSta addr)
  | newInfo {v d s n sta node} (freq : Int32) (liveSta : d.stas.get? s = some sta)
      (liveNode : d.nodes.get? n = some node) (own : ∀ s', v = some s' → s' = s)
      (fresh : ∀ si info, d.infos.get? si = some info → ¬ (info.sta = s ∧ info.node = n)) :
      Move env cfg scope (v, d) (none, d.newInfo s n freq)
  | editSta {v d} (s : StaId) {f : Sta → Sta} (keeps : ∀ sta, (f sta).addr = sta.addr ∧ (f sta).nodes = sta.nodes) :
      Move env cfg scope (v, d) (v, d.modifySta s f)
  | editNode {v d} (n : NodeId) {f : UsteerNode → UsteerNode} (keeps : ∀ node, KeepsNode node (f node))
      (counts : ∀ node, d.nodes.get? n = some node → node.isLocal = true → KeepsCounts scope n node (f node)) :
      Move env cfg scope (v, d) (v, d.modifyNode n f)
  | editInfo {v d} (si : SiId) {f : StaInfo → StaInfo}
      (keeps : ∀ info, d.infos.get? si = some info → KeepsEntry si info (f info) ∧ SameRoam info (f info) ∧
        (f info).connected = info.connected ∧ (f info).seen = info.seen ∧ Hears scope d si info (f info) ∧
        Counts scope d si info (f info) ∧ (f info).signal = info.signal ∧ Files d info (f info)) :
      Move env cfg scope (v, d) (v, d.modifyInfo si f)
  | mark {v d si info} (c : Fin 4) (live : d.infos.get? si = some info) (isLocal : d.OnLocal info)
      (change : c = 1 ∨ (c = 2 ∧ info.connected ≠ 0)) (read : ¬ scope.unread info.node) :
      Move env cfg scope (v, d) (v, d.modifyInfo si (fun info => { info with connected := c }))
  | settle {v d si info info'} (timeout : Int32) (live : d.infos.get? si = some info) (keeps : KeepsEntry si info info')
      (roam : SameRoam info info') (heard : info'.roamScanDone = info.roamScanDone) (stats : info'.stats = info.stats)
      (positive : info'.connected = 1 ∨ 0 < timeout)
      (timely : d.OnLocal info → timeout = cfg.localStaTimeout.toInt32 ∧
        (info'.seen = d.currentTime ∨ info'.seen = info.seen))
      (joined : d.OnLocal info → scope.unread info.node → info'.connected = info.connected)
      (signal : Unheard scope d info → info'.signal = info.signal)
      (reports : info'.beaconReports = info.beaconReports) :
      Move env cfg scope (v, d) (v, d.settled env si info' timeout)
  | roam {v d} (si : SiId) (state : RoamTriggerState) (ticking : scope.tick = true) :
      Move env cfg scope (v, d) (v, d.usteerRoamSetState si state)
  | kick {v d si info} (why : KickReason) (live : d.infos.get? si = some info) (isLocal : d.OnLocal info)
      (ticking : scope.tick = true) : Move env cfg scope (v, d) (v, d.usteerUbusKickClient si why)

/-- A sequence of moves. -/
def Moves (env : Platform) (cfg : Config) (scope : Scope) : Option StaId × Daemon → Option StaId × Daemon → Prop :=
  Relation.ReflTransGen (Move env cfg scope)

/-! ### The references stay in order -/

section Sound

variable {env : Platform} {cfg : Config} {scope : Scope} {v v' : Option StaId} {d d' : Daemon}

theorem sound_of_table (sound : Sound v d) (same : d'.table = d.table)
    (reports : ∀ {si info br}, d'.infos.get? si = some info → br ∈ info.beaconReports → br.address = si)
    (pending : ∀ {si}, d'.Pending si → ∃ info, d.infos.get? si = some info)
    (once : (d'.tq.items.map Prod.snd).Nodup) : Sound v d' where
  once := once
  links := by rw [same]; exact sound.links
  registered := by rw [same]; exact sound.registered
  reports := reports
  pending := by
    intro si waits
    obtain ⟨info, live⟩ := pending waits
    have entry := entry_of_info live
    rw [← same] at entry
    obtain ⟨info', live', _⟩ := info_of_entry entry
    exact ⟨info', live'⟩

/-- An edit of one entry that keeps its owners and adds no foreign report. -/
theorem sound_modifyInfo {si : SiId} {f : StaInfo → StaInfo} (sound : Sound v d)
    (keeps : ∀ info, d.infos.get? si = some info → KeepsEntry si info (f info)) : Sound v (d.modifyInfo si f) := by
  refine sound_of_table sound (table_modifyInfo fun info live => ⟨(keeps info live).sta, (keeps info live).node⟩) ?_
    sound.pending sound.once
  intro j info' br live' inside
  obtain ⟨info, live, shape⟩ := Heap.get?_modify_some live'
  subst shape
  split at inside
  · rename_i same
    subst same
    rcases (keeps info live).reports br inside with old | new
    · exact sound.reports live old
    · exact new
  · exact sound.reports live inside

theorem pending_settled {si j : SiId} {info : StaInfo} {timeout : Int32}
    (waits : (d.settled env si info timeout).Pending j) : d.Pending j ∨ j = si := by
  obtain ⟨key, inside⟩ := waits
  simp only [settled] at inside
  split at inside
  · rw [Queue.mem_cancel] at inside
    exact .inl ⟨key, inside.1⟩
  · rw [Queue.mem_set] at inside
    rcases inside with new | old
    · cases new
      exact .inr rfl
    · exact .inl ⟨key, old.1⟩

theorem registered_addEntry {t : Table} {si : SiId} {s : StaId} {n : NodeId} (registered : Registered t) :
    Registered (t.addEntry si s n) := by
  have kinds : ∀ m, ((t.addEntry si s n).node m).map Prod.fst = (t.node m).map Prod.fst := by
    intro m
    simp only [Table.addEntry, update_apply]
    split
    · rename_i same
      subst same
      simp [Function.comp_def]
    · rfl
  exact ⟨registered.locals_nodup, registered.remotes_nodup,
    fun m => by rw [kinds]; exact registered.inLocals m, fun m => by rw [kinds]; exact registered.inRemotes m⟩

theorem sound_newSta {addr : MacAddr} (sound : Sound none d)
    (fresh : ∀ s sta, d.stas.get? s = some sta → sta.addr ≠ addr) : Sound (some d.stas.next) (d.newSta addr) where
  links := by
    rw [table_newSta]
    refine linked_addSta sound.links (by simp [table]) ?_
    intro s l found
    obtain ⟨sta, live, shape⟩ := Option.map_eq_some_iff.mp found
    cases shape
    exact fresh s sta live rfl
  registered := by
    rw [table_newSta]
    exact ⟨sound.registered.locals_nodup, sound.registered.remotes_nodup, sound.registered.inLocals,
      sound.registered.inRemotes⟩
  reports := sound.reports
  pending := sound.pending
  once := sound.once

theorem sound_newInfo {s : StaId} {n : NodeId} {sta : Sta} {node : UsteerNode} (freq : Int32) (sound : Sound v d)
    (liveSta : d.stas.get? s = some sta) (liveNode : d.nodes.get? n = some node) (own : ∀ s', v = some s' → s' = s)
    (fresh : ∀ si info, d.infos.get? si = some info → ¬ (info.sta = s ∧ info.node = n)) :
    Sound none (d.newInfo s n freq) where
  links := by
    rw [table_newInfo]
    refine linked_addEntry (a := sta.addr) (l := sta.nodes) (b := node.isLocal) (m := node.staInfo) sound.links own
      (by simp [table]) (by simp [table, liveSta]) (by simp [table, liveNode]) ?_
    intro si' entry
    obtain ⟨info, live, owners⟩ := info_of_entry entry
    exact fresh si' info live owners
  registered := by
    rw [table_newInfo]
    exact registered_addEntry sound.registered
  reports := by
    intro si info br live inside
    simp only [newInfo, modifySta, modifyNode, Heap.get?_alloc] at live
    split at live
    · cases live
      cases inside
    · exact sound.reports live inside
  pending := by
    intro si waits
    obtain ⟨info, live⟩ := sound.pending waits
    refine ⟨info, ?_⟩
    simp only [newInfo, modifySta, modifyNode, Heap.get?_alloc]
    rw [if_neg (Heap.ne_next live)]
    exact live
  once := sound.once

theorem once_settled {si : SiId} {info : StaInfo} {timeout : Int32} (once : (d.tq.items.map Prod.snd).Nodup) :
    ((d.settled env si info timeout).tq.items.map Prod.snd).Nodup := by
  unfold settled
  dsimp only
  split
  · rw [Queue.items_cancel]
    exact once.sublist (List.filter_sublist.map Prod.snd)
  · exact Queue.once_set env.timeouts si timeout d.clock.toNat once

theorem sound_move (sound : Sound v d) (move : Move env cfg scope (v, d) (v', d')) : Sound v' d' := by
  cases move with
  | time => exact sound_of_table sound rfl sound.reports sound.pending sound.once
  | log e => exact sound_of_table sound rfl sound.reports sound.pending sound.once
  | sequence seq => exact sound_of_table sound rfl sound.reports sound.pending sound.once
  | newSta fresh => exact sound_newSta sound fresh
  | newInfo freq liveSta liveNode own fresh => exact sound_newInfo freq sound liveSta liveNode own fresh
  | editSta s keeps => exact sound_of_table sound (table_modifySta keeps) sound.reports sound.pending sound.once
  | editNode n keeps counts =>
    refine sound_of_table sound (table_modifyNode fun node => ⟨?_, (keeps node).staInfo⟩) sound.reports sound.pending
      sound.once
    rw [isLocal_eq, isLocal_eq, (keeps node).key]
  | editInfo si keeps => exact sound_modifyInfo sound (fun info live => (keeps info live).1)
  | mark c live isLocal change read =>
    exact sound_modifyInfo sound (fun info live => ⟨rfl, rfl, fun br inside => .inl inside⟩)
  | @settle _ _ si info info' timeout live keeps roam heard stats positive timely joined signal reports =>
    have edited : Sound v (d.modifyInfo si (fun _ => info')) := by
      refine sound_modifyInfo sound (fun info'' live'' => ?_)
      rw [live] at live''
      cases live''
      exact keeps
    refine sound_of_table edited rfl edited.reports ?_ (once_settled sound.once)
    intro j waits
    rcases pending_settled waits with old | new
    · exact edited.pending old
    · rw [new]
      exact ⟨info', by simp [modifyInfo, Heap.get?_modify, live]⟩
  | roam si state ticking =>
    exact sound_modifyInfo sound (fun info live => ⟨rfl, rfl, fun br inside => .inl inside⟩)
  | kick why live isLocal ticking =>
    exact sound_modifyInfo (d := d.log _) (sound_of_table sound rfl sound.reports sound.pending sound.once)
      (fun info live => ⟨rfl, rfl, fun br inside => .inl inside⟩)

theorem sound_moves {a b : Option StaId × Daemon} (sound : Sound a.1 a.2) (moves : Moves env cfg scope a b) :
    Sound b.1 b.2 := by
  induction moves with
  | refl => exact sound
  | tail _ move ih => exact sound_move ih move

end Sound

/-! ### Nothing disappears -/

/-- What identifies a node. -/
def nodeIdentity (node : UsteerNode) : Option (UInt32 × CString) × CString := (remoteKey node, node.name)

/-- Records live on under their address and owners, and the indexes of nodes stay. -/
structure Survives (d d' : Daemon) : Prop where
  infos : ∀ {si info}, d.infos.get? si = some info →
    ∃ info', d'.infos.get? si = some info' ∧ info'.sta = info.sta ∧ info'.node = info.node
  stas : ∀ {s sta}, d.stas.get? s = some sta → ∃ sta', d'.stas.get? s = some sta' ∧ sta'.addr = sta.addr
  nodes : ∀ n, (d'.nodes.get? n).map nodeIdentity = (d.nodes.get? n).map nodeIdentity
  localNodes : d'.localNodes = d.localNodes
  remoteNodes : d'.remoteNodes = d.remoteNodes
  clock : d'.clock = d.clock
  localId : d'.localId = d.localId
  ssidList : d'.ssidList = d.ssidList

namespace Survives

variable {d d' d'' : Daemon}

theorem refl (d : Daemon) : Survives d d where
  infos live := ⟨_, live, rfl, rfl⟩
  stas live := ⟨_, live, rfl⟩
  nodes _ := rfl
  localNodes := rfl
  remoteNodes := rfl
  clock := rfl
  localId := rfl
  ssidList := rfl

theorem log (d : Daemon) (e : Event) : Survives d (d.log e) :=
  { refl d with infos := fun live => ⟨_, live, rfl, rfl⟩, stas := fun live => ⟨_, live, rfl⟩ }

theorem trans (first : Survives d d') (second : Survives d' d'') : Survives d d'' where
  infos live := by
    obtain ⟨info', live', sta, node⟩ := first.infos live
    obtain ⟨info'', live'', sta', node'⟩ := second.infos live'
    exact ⟨info'', live'', sta'.trans sta, node'.trans node⟩
  stas live := by
    obtain ⟨sta', live', addr⟩ := first.stas live
    obtain ⟨sta'', live'', addr'⟩ := second.stas live'
    exact ⟨sta'', live'', addr'.trans addr⟩
  nodes n := (second.nodes n).trans (first.nodes n)
  localNodes := second.localNodes.trans first.localNodes
  remoteNodes := second.remoteNodes.trans first.remoteNodes
  clock := second.clock.trans first.clock
  localId := second.localId.trans first.localId
  ssidList := second.ssidList.trans first.ssidList

theorem node (survives : Survives d d') {n : NodeId} {node : UsteerNode} (live : d.nodes.get? n = some node) :
    ∃ node', d'.nodes.get? n = some node' ∧ nodeIdentity node' = nodeIdentity node := by
  have same := survives.nodes n
  rw [live] at same
  obtain ⟨node', live', identity⟩ := Option.map_eq_some_iff.mp same
  exact ⟨node', live', identity⟩

theorem nodeBack (survives : Survives d d') {n : NodeId} {node' : UsteerNode} (live' : d'.nodes.get? n = some node') :
    ∃ node, d.nodes.get? n = some node ∧ nodeIdentity node' = nodeIdentity node := by
  have same := survives.nodes n
  rw [live'] at same
  obtain ⟨node, live, identity⟩ := Option.map_eq_some_iff.mp same.symm
  exact ⟨node, live, identity.symm⟩

theorem onLocal (survives : Survives d d') {info info' : StaInfo} (same : info'.node = info.node)
    (isLocal : d.OnLocal info) : d'.OnLocal info' := by
  obtain ⟨node, live, kind⟩ := isLocal
  obtain ⟨node', live', identity⟩ := survives.node live
  refine ⟨node', by rw [same]; exact live', ?_⟩
  have key : remoteKey node' = remoteKey node := congrArg Prod.fst identity
  rw [isLocal_eq] at kind ⊢
  rw [key]
  exact kind

theorem entryOf (survives : Survives d d') {addr : MacAddr} {n : NodeId} {si : SiId} {info : StaInfo}
    (entry : EntryOf d addr n si info) : ∃ info', EntryOf d' addr n si info' := by
  obtain ⟨live, onNode, sta, liveSta, same⟩ := entry
  obtain ⟨info', live', sta', node'⟩ := survives.infos live
  obtain ⟨staAfter, liveSta', addr'⟩ := survives.stas liveSta
  exact ⟨info', live', node'.trans onNode, staAfter, by rw [sta']; exact liveSta', addr'.trans same⟩

end Survives

section Survival

variable {env : Platform} {cfg : Config} {scope : Scope} {d : Daemon}

theorem survives_modifyInfo {si : SiId} {f : StaInfo → StaInfo}
    (keeps : ∀ info, d.infos.get? si = some info → (f info).sta = info.sta ∧ (f info).node = info.node) :
    Survives d (d.modifyInfo si f) := by
  refine { Survives.refl d with infos := ?_, stas := fun live => ⟨_, live, rfl⟩ }
  intro j info live
  by_cases same : j = si
  · subst same
    exact ⟨f info, by simp [modifyInfo, Heap.get?_modify, live], keeps info live⟩
  · exact ⟨info, by simp [modifyInfo, Heap.get?_modify, live, same], rfl, rfl⟩

theorem survives_move {a b : Option StaId × Daemon} (move : Move env cfg scope a b) : Survives a.2 b.2 := by
  cases move with
  | @time v d =>
    exact { Survives.refl d with infos := fun live => ⟨_, live, rfl, rfl⟩, stas := fun live => ⟨_, live, rfl⟩ }
  | @log v d e => exact Survives.log d e
  | @sequence v d seq =>
    exact { Survives.refl d with infos := fun live => ⟨_, live, rfl, rfl⟩, stas := fun live => ⟨_, live, rfl⟩ }
  | @newSta d addr fresh =>
    refine { Survives.refl d with infos := fun live => ⟨_, live, rfl, rfl⟩, stas := ?_ }
    intro s sta live
    exact ⟨sta, by simp [newSta, Heap.get?_alloc, Heap.ne_next live, live], rfl⟩
  | @newInfo v d s n sta node freq liveSta liveNode own fresh =>
    refine { Survives.refl d with infos := ?_, stas := ?_, nodes := ?_ }
    · intro si info live
      exact ⟨info, by simp [newInfo, modifySta, modifyNode, Heap.get?_alloc, Heap.ne_next live, live], rfl, rfl⟩
    · intro s' sta' live
      simp only [newInfo, modifySta, modifyNode, Heap.get?_modify]
      split
      · rename_i same
        subst same
        rw [live]
        exact ⟨_, rfl, rfl⟩
      · exact ⟨sta', live, rfl⟩
    · intro m
      simp only [newInfo, modifySta, modifyNode, Heap.get?_modify]
      split
      · rename_i same
        subst same
        rw [liveNode]
        rfl
      · rfl
  | @editSta v d s f keeps =>
    refine { Survives.refl d with infos := fun live => ⟨_, live, rfl, rfl⟩, stas := ?_ }
    intro s' sta live
    simp only [modifySta, Heap.get?_modify]
    split
    · rename_i same
      subst same
      rw [live]
      exact ⟨f sta, rfl, (keeps sta).1⟩
    · exact ⟨sta, live, rfl⟩
  | @editNode v d n f keeps counts =>
    refine { Survives.refl d with infos := fun live => ⟨_, live, rfl, rfl⟩, stas := fun live => ⟨_, live, rfl⟩, nodes := ?_ }
    intro m
    simp only [modifyNode, Heap.get?_modify]
    split
    · rename_i same
      subst same
      cases d.nodes.get? m with
      | none => rfl
      | some node => simp [nodeIdentity, (keeps node).key, (keeps node).name]
    · rfl
  | editInfo si keeps => exact survives_modifyInfo fun info live => ⟨(keeps info live).1.sta, (keeps info live).1.node⟩
  | mark c live isLocal change read => exact survives_modifyInfo fun _ _ => ⟨rfl, rfl⟩
  | @settle v d si info info' timeout live keeps =>
    have edited : Survives d (d.modifyInfo si (fun _ => info')) := by
      refine survives_modifyInfo fun info'' live'' => ?_
      rw [live] at live''
      cases live''
      exact ⟨keeps.sta, keeps.node⟩
    exact { edited with infos := edited.infos, stas := edited.stas }
  | roam si state ticking => exact survives_modifyInfo fun _ _ => ⟨rfl, rfl⟩
  | @kick v d si info why live isLocal ticking =>
    exact (Survives.log d (.kick d.currentTime si why)).trans (survives_modifyInfo fun _ _ => ⟨rfl, rfl⟩)

theorem survives_moves {a b : Option StaId × Daemon} (moves : Moves env cfg scope a b) : Survives a.2 b.2 := by
  induction moves with
  | refl => exact Survives.refl _
  | tail _ move ih => exact ih.trans (survives_move move)

theorem Moves.locals {a b : Option StaId × Daemon} (moves : Moves env cfg scope a b) {n : NodeId}
    (inside : n ∈ a.2.localNodes) : n ∈ b.2.localNodes := by
  rw [(survives_moves moves).localNodes]
  exact inside

end Survival

end Usteer
