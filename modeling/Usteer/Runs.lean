import Usteer.Lifecycle

/-!
Runs of the daemon: its inputs in any order (`Input`, `handle`), from the start
(`Reachable`). No input that the daemon accepts makes it follow a freed reference,
and in every state it reaches the station table is consistent (`well_linked`).
-/
namespace Usteer
open SearchTree Timeout Function Daemon

/-- What happens to a daemon. -/
inductive Input where
  /-- Time passes. -/
  | advance (ms : UInt64)
  /-- `usteer_handle_event` with a request of a station. -/
  | staEvent (n : NodeId) (addr : MacAddr) (type : EventType) (freq signal : Int32)
  /-- `usteer_handle_event` with a beacon report. -/
  | beaconReport (n : NodeId) (msg : BeaconReportMsg)
  /-- A reply to `get_clients`. -/
  | clients (n : NodeId) (msg : ClientsReply)
  /-- A message of another daemon. -/
  | message (addr : CString) (msg : Apmsg)
  /-- The policy tick of `usteer_local_node_update`. -/
  | tick (n : NodeId)
  /-- The timer of the timeout queue fires. -/
  | timeouts
  /-- `usteer_send_update_timer` -/
  | update
  /-- `usteer_vendor_update_timer`, of which only the clock reading matters. -/
  | vendorUpdate
  /-- A hostapd object appears. -/
  | register (name : CString)
  /-- Another subsystem writes into a node. -/
  | status (n : NodeId) (status : NodeStatus)
  /-- A hostapd object disappears. -/
  | remove (n : NodeId)

namespace Daemon

/-- The daemon after an input. -/
def handle (env : Platform) (cfg : Config) (d : Daemon) : Input → Except Fault Daemon
  | .advance ms => .ok { d with clock := d.clock + ms }
  | .staEvent n addr type freq signal =>
    Prod.snd <$> d.usteerUpdateTime.usteerHandleStaEvent env cfg n addr type freq signal
  | .beaconReport n msg => d.usteerUpdateTime.usteerHandleEventBeaconReport cfg n msg
  | .clients n msg => d.usteerLocalNodeListCb env cfg n msg
  | .message addr msg => if cfg.remoteDisabled then .ok d else d.interfaceRecvMsg env cfg addr msg
  | .tick n => d.usteerLocalNodeKick cfg n
  | .timeouts => d.stationTimeouts env cfg
  | .update => d.usteerSendUpdateTimer env cfg
  | .vendorUpdate => .ok d.usteerUpdateTime
  | .register name => d.usteerRegisterNode name
  | .status n status => .ok (d.modifyNode n status.apply)
  | .remove n => d.usteerFreeNode env cfg n

/-- The inputs that may occur: the clock does not wrap, hostapd and the other
    subsystems speak about nodes that are registered. -/
def Accepts (d : Daemon) : Input → Prop
  | .advance ms => d.clock.toNat + ms.toNat < 2 ^ 64
  | .staEvent n _ type _ _ => n ∈ d.localNodes ∧ type ≠ .beacon
  | .beaconReport n _ => n ∈ d.localNodes
  | .clients n _ => n ∈ d.localNodes
  | .tick n => n ∈ d.localNodes
  | .status n _ => n ∈ d.localNodes
  | .remove n => n ∈ d.localNodes
  | .message .. => True
  | .timeouts => True
  | .update => True
  | .vendorUpdate => True
  | .register _ => True

end Daemon

/-- The kernel has a signal of the client. -/
def Daemon.ClientsReply.HeardBy (msg : ClientsReply) (addr : MacAddr) : Prop :=
  ∃ clients, msg.clients = some clients ∧ ∃ client ∈ clients, client.addr = some addr ∧
    ∃ average, client.station = some (some average)

/-- What an input may do. -/
def Input.scope : Input → Scope
  | .tick n => .policy n
  | .staEvent n addr type _ signal =>
    ⟨false, some (addr, n, type), none, fun _ => True, fun _ => True, fun a m _ => signal ≠ noSignal → ¬ (a = addr ∧ m = n), True⟩
  | .message _ msg => ⟨false, none, some msg.id, fun _ => True, fun _ => True, fun _ _ key => key = none, True⟩
  | .clients n msg => ⟨false, none, none, fun _ => True, fun m => m ≠ n, fun a m _ => ¬ (msg.HeardBy a ∧ m = n), True⟩
  | .timeouts => { Scope.quiet with unexpired := False }
  | _ => .quiet

/-- The states that a daemon reaches. -/
inductive Reachable (env : Platform) (cfg : Config) : Daemon → Prop where
  | start (localId : UInt32) (clock : UInt64) (ssidList : Option (List CString)) :
      Reachable env cfg (.initial localId clock ssidList)
  | step {d d'} (input : Input) (reach : Reachable env cfg d) (accepts : d.Accepts input)
      (run : d.handle env cfg input = .ok d') : Reachable env cfg d'

/-- The states that a daemon reaches by inputs that all meet a condition on the state
    before them. -/
inductive ReachableWhen (env : Platform) (cfg : Config) (meets : Daemon → Input → Prop) : Daemon → Prop where
  | start (localId : UInt32) (clock : UInt64) (ssidList : Option (List CString)) :
      ReachableWhen env cfg meets (.initial localId clock ssidList)
  | step {d d'} (input : Input) (reach : ReachableWhen env cfg meets d) (accepts : d.Accepts input)
      (met : meets d input) (run : d.handle env cfg input = .ok d') : ReachableWhen env cfg meets d'

theorem ReachableWhen.reachable {env : Platform} {cfg : Config} {meets : Daemon → Input → Prop} {d : Daemon}
    (reach : ReachableWhen env cfg meets d) : Reachable env cfg d := by
  induction reach with
  | start localId clock ssidList => exact .start localId clock ssidList
  | step input _ accepts _ run ih => exact .step input ih accepts run

theorem clock_advance {d : Daemon} {ms : UInt64} (accepts : d.Accepts (.advance ms)) :
    (d.clock + ms).toNat = d.clock.toNat + ms.toNat := by
  rw [UInt64.toNat_add]
  exact Nat.mod_eq_of_lt accepts

instance (d : Daemon) (input : Input) : Decidable (d.Accepts input) := by
  cases input <;> unfold Accepts <;> infer_instance

/-- The daemon after a list of inputs, when it accepts each of them and faults on none. -/
def Daemon.runs (env : Platform) (cfg : Config) : List Input → Daemon → Option Daemon
  | [], d => some d
  | input :: rest, d =>
    if d.Accepts input then
      match d.handle env cfg input with
      | .ok d' => runs env cfg rest d'
      | .error _ => none
    else none

theorem runs_cons {env : Platform} {cfg : Config} {d d' : Daemon} {input : Input} {rest : List Input}
    (run : d.runs env cfg (input :: rest) = some d') :
    ∃ d1, d.Accepts input ∧ d.handle env cfg input = .ok d1 ∧ d1.runs env cfg rest = some d' := by
  rw [runs] at run
  split at run
  · rename_i accepts
    split at run
    · rename_i d1 handled
      exact ⟨d1, accepts, handled, run⟩
    · cases run
  · cases run

theorem reachableWhen_runs {env : Platform} {cfg : Config} {meets : Daemon → Input → Prop} {inputs : List Input} :
    ∀ {d d' : Daemon}, (∀ input ∈ inputs, ∀ d, meets d input) → ReachableWhen env cfg meets d →
      d.runs env cfg inputs = some d' → ReachableWhen env cfg meets d' := by
  induction inputs with
  | nil =>
    intro d d' _ reach run
    cases run
    exact reach
  | cons input rest ih =>
    intro d d' met reach run
    obtain ⟨d1, accepts, handled, run⟩ := runs_cons run
    refine ih (fun input' inside => met input' (List.mem_cons_of_mem _ inside)) ?_ run
    exact .step input reach accepts (met input List.mem_cons_self d) handled

/-- Trees rebalanced as AVL trees, and beacon requests never held back. -/
def plainPlatform : Platform := ⟨avl, avl, fun _ _ _ => false⟩

/-- What a new daemon becomes. -/
def Daemon.plainRun (cfg : Config) (inputs : List Input) : Option Daemon :=
  (Daemon.initial 1 0 none).runs plainPlatform cfg inputs

theorem reachable_plainRun {cfg : Config} {inputs : List Input} {d : Daemon} (run : plainRun cfg inputs = some d) :
    Reachable plainPlatform cfg d :=
  (reachableWhen_runs (fun _ _ _ => trivial) (@ReachableWhen.start _ _ (fun _ _ => True) 1 0 none) run).reachable

/-- A client is heard by a node and then associates with it. -/
def associates : List Input :=
  [.register hostapdDot, .advance 1000, .staEvent 0 1 .probe 2412 (-60),
    .clients 0 ⟨some 2412, some [⟨some 1, none, some true, none⟩]⟩]

/-! ### Every input is a sequence of changes -/

section Handle

variable {env : Platform} {cfg : Config} {scope : Scope} {d : Daemon}

theorem Evolves.of_moves {d' : Daemon} (moves : Moves env cfg scope (none, d) (none, d')) : Evolves env cfg scope d d' :=
  .single (.moves moves)

theorem keepsNode_takeOver (msg : ApmsgNode) (bssid : MacAddr) (node : UsteerNode) : KeepsNode node (takeOver msg bssid node) := by
  refine ⟨?_, rfl, rfl⟩
  unfold takeOver remoteKey
  cases node.kind with
  | loc ln => rfl
  | remote rn => rfl

theorem keepsNode_status (status : NodeStatus) (node : UsteerNode) : KeepsNode node (status.apply node) := by
  refine ⟨?_, rfl, rfl⟩
  unfold NodeStatus.apply remoteKey
  cases node.kind with
  | loc ln => rfl
  | remote rn => rfl

/-- An edit of a remote node. -/
theorem remoteEdit {n : NodeId} {node : UsteerNode} {f : UsteerNode → UsteerNode} (live : d.nodes.get? n = some node)
    (isRemote : node.isLocal = false) (node' : UsteerNode) (live' : d.nodes.get? n = some node')
    (isLocal : node'.isLocal = true) : KeepsCounts scope n node' (f node') := by
  rw [live] at live'
  cases live'
  rw [isRemote] at isLocal
  cases isLocal

theorem keepsCounts_status (n : NodeId) (status : NodeStatus) (node : UsteerNode) :
    KeepsCounts scope n node (status.apply node) := by
  refine ⟨fun _ => ?_, fun _ => rfl⟩
  unfold NodeStatus.apply UsteerNode.loadThrCount
  cases node.kind with
  | loc ln => rfl
  | remote rn => rfl

theorem keepsNode_bumpCheck (node : UsteerNode) : KeepsNode node (bumpCheck node) := by
  unfold bumpCheck
  cases kind : node.kind with
  | loc ln => exact ⟨rfl, rfl, rfl⟩
  | remote rn => exact ⟨by simp [remoteKey, kind], rfl, rfl⟩

/-- A node of a message is a new one, or one that the tree holds under the sender's id and
    that has the name. -/
def FoundAs (d : Daemon) (id : UInt32) (name : CString) (n : NodeId) (key : UInt32 × CString) : Prop :=
  n = d.nodes.next ∧ key = (id, name) ∨ n ∈ d.remoteGroup id.toUInt64 ∧
    ∃ node, d.nodes.get? n = some node ∧ remoteName node = some name ∧ remoteKey node = some key

theorem post_interfaceAddNode (addr : CString) {id : UInt32} {msg : ApmsgNode} (sender : scope.sender = some id)
    (supplied : ∀ n key, FoundAs d id msg.name n key → ∀ sta ∈ msg.stations, ¬ scope.unheard sta.addr n (some key))
    (sound : Sound none d) :
    Post (fun e => e = .nullPointer ∧ msg.bssid = none) (d.interfaceAddNode env cfg addr id.toUInt64 msg)
      (fun d' => Evolves env cfg scope d d') := by
  unfold interfaceAddNode
  split
  · exact .refl
  · rw [post_bind]
    refine (post_interfaceGetNode addr id msg.name sound).mono ?_
    rintro ⟨n, d1⟩ got
    have evolves1 : Evolves env cfg scope d d1 := by
      rcases got with ⟨same, _⟩ | ⟨_, joined, indexes, sound1, _⟩
      · rw [show d1 = d from same]
        exact .refl
      · rw [← sender] at indexes
        exact .single (.join joined sound1 indexes)
    have sound1 := sound_evolves sound evolves1
    have inside1 : n ∈ d1.remoteList := by
      rcases got with ⟨same, inside, _⟩ | ⟨fresh, joined, _⟩
      · rw [show d1 = d from same]
        exact mem_remoteGroup inside
      · exact (joined.remotes n).mpr (.inr ⟨fresh, rfl⟩)
    obtain ⟨node1, live1, isRemote⟩ := node_of_remotes sound1.registered inside1
    have foundAs : ∀ key, remoteKey node1 = some key → FoundAs d id msg.name n key := by
      intro key isKey
      rcases got with ⟨same, inside, node, live, named⟩ | ⟨new, joined, -⟩
      · rw [show d1 = d from same] at live1
        cases live.symm.trans live1
        exact .inr ⟨inside, _, live, named, isKey⟩
      · dsimp only at new
        rw [joined.nodes, Heap.get?_alloc, if_pos new] at live1
        cases live1
        cases isKey
        exact .inl ⟨new, by rw [UInt32.toUInt32_toUInt64]⟩
    dsimp only
    rw [post_bind, post_notNull]
    refine ⟨fun bssid _ => ?_, fun unread => ⟨rfl, unread⟩⟩
    have moves2 : Moves env cfg scope (none, d1) (none, d1.modifyNode n (takeOver msg bssid)) :=
      .one (.editNode n (keepsNode_takeOver msg bssid) (remoteEdit live1 isRemote))
    refine (post_foldlM (I := fun d' => Moves env cfg scope (none, d1) (none, d')) msg.stations ?_ _ moves2).mono
      fun d' moves => evolves1.tail (.moves moves)
    intro d' moves sta listed
    obtain ⟨node', live', identity⟩ := (survives_moves moves).node live1
    have key : remoteKey node' = remoteKey node1 := congrArg Prod.fst identity
    have isRemote' : node'.isLocal = false := by rw [isLocal_eq, key, ← isLocal_eq]; exact isRemote
    exact (post_interfaceAddStation env cfg scope (sound_moves (a := (none, d1)) sound1 moves) live' isRemote'
      (fun k isKey => supplied n k (foundAs k (key.symm.trans isKey)) sta listed)).mono fun d'' more => moves.then more

theorem post_interfaceRecvMsg (addr : CString) {msg : Apmsg} (sender : scope.sender = some msg.id)
    (supplied : ∀ a n key, ¬ scope.unheard a n (some key)) (sound : Sound none d) :
    Post (fun e => e = .nullPointer ∧ ∃ node ∈ msg.nodes, node.bssid = none) (d.interfaceRecvMsg env cfg addr msg)
      (fun d' => Evolves env cfg scope d d') := by
  unfold interfaceRecvMsg
  split
  · exact .refl
  · refine post_foldlM (I := fun d' => Evolves env cfg scope d d') msg.nodes ?_ d .refl
    intro d' evolves node inside
    refine ((post_interfaceAddNode addr sender (fun n key _ sta _ => supplied sta.addr n key)
      (sound_evolves sound evolves)).excuse ?_).mono
      fun d'' more => evolves.trans more
    exact fun e unread => ⟨unread.1, node, inside, unread.2⟩

theorem post_ageNode (env : Platform) (cfg : Config) (scope : Scope) {F : Fault → Prop} {n : NodeId} (timeout : Int32)
    (sound : Sound none d) (inside : n ∈ d.remoteList) :
    Post F (ageNode env cfg timeout d n) (fun d' =>
      (Evolves env cfg scope d d' ∧ Calm d d' ∧ d'.trace = d.trace) ∧
      ∀ m ∈ d.remoteList, m ≠ n → m ∈ d'.remoteList) := by
  obtain ⟨node, live, isRemote⟩ := node_of_remotes sound.registered inside
  have bumped : Moves env cfg scope (none, d) (none, d.modifyNode n bumpCheck) :=
    .one (.editNode n keepsNode_bumpCheck (remoteEdit live isRemote))
  unfold ageNode
  rw [node_ok live, ok_bind, post_bind]
  have check : Post F (remoteCheck node) (fun _ => True) := by
    unfold remoteCheck
    unfold UsteerNode.isLocal at isRemote
    split
    · trivial
    · rename_i kind
      rw [kind] at isRemote
      cases isRemote
  refine check.mono fun check _ => ?_
  dsimp only
  split
  · refine (post_remoteNodeFree (sound_moves (a := (none, d)) sound bumped) inside).mono ?_
    rintro d' ⟨sound', removed, tree⟩
    have counted : Calm d (d.modifyNode n bumpCheck) := .of_eq rfl rfl
    refine ⟨⟨(Evolves.of_moves bumped).tail (.shrink removed.toShrunk sound' (.inr ⟨n, tree⟩) fun _ => removed.gone),
      counted.trans removed.toShrunk.calm, removed.trace⟩, ?_⟩
    exact fun m listed other => (removed.remotes m).mpr ⟨listed, other⟩
  · exact ⟨⟨.of_moves bumped, .of_eq rfl rfl, rfl⟩, fun m listed _ => listed⟩

theorem post_ageAll {F : Fault → Prop} (timeout : Int32) (list : List NodeId) :
    ∀ {d : Daemon}, Sound none d → list.Nodup → (∀ n ∈ list, n ∈ d.remoteList) →
      Post F (list.foldlM (ageNode env cfg timeout) d) (fun d' =>
        Evolves env cfg scope d d' ∧ Calm d d' ∧ d'.trace = d.trace) := by
  induction list with
  | nil => intro d _ _ _; exact ⟨.refl, .refl d, rfl⟩
  | cons n rest ih =>
    intro d sound once listed
    obtain ⟨fresh, once'⟩ := List.nodup_cons.mp once
    rw [List.foldlM_cons, post_bind]
    refine (post_ageNode env cfg scope timeout sound (listed n List.mem_cons_self)).mono ?_
    rintro d1 ⟨⟨evolves, calm, trace⟩, stays⟩
    refine (ih (sound_evolves sound evolves) once' ?_).mono fun d2 more =>
      ⟨evolves.trans more.1, calm.trans more.2.1, more.2.2.trans trace⟩
    intro m inside
    refine stays m (listed m (List.mem_cons_of_mem _ inside)) ?_
    rintro rfl
    exact fresh inside

theorem post_usteerCheckTimeout (sound : Sound none d) :
    Post (fun e => e = .divisionByZero ∧ cfg.remoteUpdateInterval = 0) (d.usteerCheckTimeout env cfg) (fun d' =>
      Evolves env cfg scope d d' ∧ Calm d d' ∧ d'.trace = d.trace) := by
  unfold usteerCheckTimeout
  split
  · rename_i zero
    exact ⟨rfl, zero⟩
  · exact post_ageAll _ d.remoteList sound sound.registered.remotes_nodup fun n inside => inside

theorem calm_usteerUpdateSend (cfg : Config) (d : Daemon) (nodes : List ApmsgNode) : Calm d (d.usteerUpdateSend cfg nodes) := by
  unfold usteerUpdateSend
  dsimp only
  split
  · exact .of_eq rfl rfl
  · exact .of_eq rfl rfl

theorem post_usteerSendUpdateTimer (sound : Sound none d) :
    Post (fun e => e = .divisionByZero ∧ cfg.remoteUpdateInterval = 0) (d.usteerSendUpdateTimer env cfg) (fun d' =>
      Evolves env cfg scope d d' ∧ Calm d d' ∧
      ∃ nodes, d.usteerUpdateTime.localNodes.mapM (fun n => d.usteerUpdateTime.usteerSendNode cfg n none) = .ok nodes ∧
        d'.trace = (d.usteerUpdateTime.usteerUpdateSend cfg nodes).trace) := by
  have timed : Moves env cfg scope (none, d) (none, d.usteerUpdateTime) := .one .time
  have sound1 : Sound none d.usteerUpdateTime := sound_moves (a := (none, d)) sound timed
  unfold usteerSendUpdateTimer
  dsimp only
  rw [post_bind]
  refine ((post_mapM (Q := fun _ _ => True) d.usteerUpdateTime.localNodes fun n inside => ?_).and
    (post_of_ok fun _ built => built)).mono fun nodes listed => ?_
  · obtain ⟨node, live, _⟩ := node_of_locals sound1.registered inside
    exact post_usteerSendNode cfg sound1 live (by simp)
  · have moves := timed.then (moves_usteerUpdateSend env cfg scope nodes)
    have calm : Calm d d.usteerUpdateTime := .of_eq rfl rfl
    exact (post_usteerCheckTimeout (sound_moves (a := (none, d)) sound moves)).mono fun d' more =>
      ⟨(Evolves.of_moves moves).trans more.1, (calm.trans (calm_usteerUpdateSend cfg _ nodes)).trans more.2.1,
        nodes, listed.2, more.2.2⟩

theorem post_usteerRegisterNode {F : Fault → Prop} (name : CString) (sound : Sound none d) :
    Post F (d.usteerRegisterNode name) (fun d' => Evolves env cfg scope d d') := by
  unfold usteerRegisterNode
  split
  · exact .refl
  · rw [post_bind]
    refine (post_usteerGetNode env scope.sender name sound).mono ?_
    rintro ⟨n, d'⟩ got
    rcases got with same | ⟨joined, indexes, sound'⟩
    · rw [show d' = d from same]
      exact .refl
    · exact .single (.join joined sound' indexes)

/-- No attribute is missing that a beacon report needs, and every BSSID of a message is an
    address. -/
def Input.WellFormed : Input → Prop
  | .beaconReport _ msg => msg.Complete
  | .message _ msg => ∀ node ∈ msg.nodes, node.bssid ≠ none
  | _ => True

/-- The faults that an input can lead to. -/
def Input.Trips (cfg : Config) (input : Input) (e : Fault) : Prop :=
  Dangles cfg e ∨ Divides cfg e ∨ (e = .nullPointer ∧ ¬ input.WellFormed) ∨
    (e = .divisionByZero ∧ input = .update ∧ cfg.remoteUpdateInterval = 0)

/-- Every accepted input but the passing of time is a sequence of changes, and the faults
    it leads to are accounted for. -/
theorem post_handle (sound : Sound none d) {input : Input}
    (accepts : d.Accepts input) :
    Post (input.Trips cfg) (d.handle env cfg input) (fun d' =>
      (∃ ms, input = .advance ms ∧ d' = { d with clock := d.clock + ms }) ∨ Evolves env cfg input.scope d d') := by
  have timed : Moves env cfg .quiet (none, d) (none, d.usteerUpdateTime) := .one .time
  have sound1 : Sound none d.usteerUpdateTime := sound_moves (a := (none, d)) sound timed
  cases input with
  | advance ms => exact .inl ⟨ms, rfl, rfl⟩
  | staEvent n addr type freq signal =>
    obtain ⟨node, live, _⟩ := node_of_locals sound.registered accepts.1
    unfold handle
    rw [post_map]
    have started : Moves env cfg (Input.staEvent n addr type freq signal).scope (none, d) (none, d.usteerUpdateTime) :=
      .one .time
    have supplied : signal = noSignal ∨ ∀ key, ¬ (Input.staEvent n addr type freq signal).scope.unheard addr n key := by
      by_cases silent : signal = noSignal
      · exact .inl silent
      · exact .inr fun _ unheard => unheard silent ⟨rfl, rfl⟩
    exact ((post_usteerHandleStaEvent env cfg _ freq rfl supplied sound1 live).excuse fun _ => .inl).mono
      fun r moves => .inr (.of_moves (started.then moves))
  | beaconReport n msg =>
    exact ((post_usteerHandleEventBeaconReport env cfg .quiet n msg rfl sound1).excuse fun _ => .inr ∘ .inr ∘ .inl).mono
      fun d' moves => .inr (.of_moves (timed.then moves))
  | clients n msg =>
    have reads : ∀ clients, msg.clients = some clients → (Input.clients n msg).scope.Reads n clients := by
      intro clients table
      refine ⟨fun unread => unread rfl, fun client listed a average named answers _ unheard => unheard ⟨?_, rfl⟩⟩
      exact ⟨clients, table, client, listed, named, average, answers⟩
    exact ((post_usteerLocalNodeListCb env cfg _ reads sound accepts).excuse fun _ => .inl).mono
      fun d' moves => .inr (.of_moves moves)
  | message addr msg =>
    change Post _ (if cfg.remoteDisabled then .ok d else d.interfaceRecvMsg env cfg addr msg) _
    split
    · exact .inr .refl
    · refine ((post_interfaceRecvMsg addr rfl (fun _ _ _ impossible => by cases impossible) sound).excuse ?_).mono fun d' evolves => .inr evolves
      rintro e ⟨rfl, node, inside, unread⟩
      exact .inr (.inr (.inl ⟨rfl, fun formed => formed node inside unread⟩))
  | tick n =>
    exact ((post_usteerLocalNodeKick env cfg sound accepts).excuse fun _ => .inr ∘ .inl).mono
      fun d' moves => .inr (.of_moves moves)
  | timeouts =>
    refine (post_stationTimeouts sound.toIntact).mono ?_
    rintro d' ⟨intact, pruned, _⟩
    exact .inr (.single (.shrink pruned.shrunk ⟨intact, pruned.registered sound.registered⟩ (.inl pruned.remoteNodes)
      False.elim))
  | update =>
    refine ((post_usteerSendUpdateTimer sound).excuse ?_).mono fun d' evolves => .inr evolves.1
    exact fun e zero => .inr (.inr (.inr ⟨zero.1, rfl, zero.2⟩))
  | vendorUpdate => exact .inr (.of_moves timed)
  | register name => exact (post_usteerRegisterNode name sound).mono fun d' evolves => .inr evolves
  | status n status => exact .inr (.of_moves (.one (.editNode n (keepsNode_status status)
      fun node _ _ => keepsCounts_status n status node)))
  | remove n =>
    refine (post_usteerFreeNode sound accepts).mono ?_
    rintro d' ⟨sound', removed, tree⟩
    exact .inr (.single (.shrink removed.toShrunk sound' (.inl tree) fun _ => removed.gone))

theorem sound_initial (localId : UInt32) (clock : UInt64) (ssidList : Option (List CString)) :
    Sound none (.initial localId clock ssidList) where
  links := by
    constructor
    · intro s; simp [initial, table]
    · exact List.nodup_nil
    · intro s s' a l l' found; simp [initial, table] at found
    · refine ⟨?_, ?_, ?_⟩
      · intro i k owns; simp [initial, table] at owns
      · intro i k l found; simp [initial, table] at found
      · intro k l found; simp [initial, table] at found
    · refine ⟨?_, ?_, ?_⟩
      · intro i k owns; simp [initial, table] at owns
      · intro i k l found; simp [initial, table] at found
      · intro k l found; simp [initial, table] at found
    · intro si si' s n entry; simp [initial, table] at entry
    · intro s a found; simp [initial, table] at found
  reports := by intro si info br live; simp [initial] at live
  pending := by
    rintro si ⟨key, inside⟩
    cases inside
  once := List.nodup_nil
  registered := by
    refine ⟨List.nodup_nil, List.nodup_nil, ?_, ?_⟩
    · intro n; simp [initial, table]
    · intro n; simp [initial, table, remoteList]

theorem sound_advance (sound : Sound none d) (clock : UInt64) : Sound none { d with clock := clock } :=
  ⟨⟨sound.links, sound.reports, sound.pending, sound.once⟩, sound.registered⟩

theorem sound_later (sound : Sound none d) (ms : UInt64) :
    Sound none { d with clock := d.clock + ms }.usteerUpdateTime := by
  have later : Moves plainPlatform usteerInitDefaults .plain (none, { d with clock := d.clock + ms })
      (none, { d with clock := d.clock + ms }.usteerUpdateTime) := .one .time
  exact sound_moves (a := (none, { d with clock := d.clock + ms })) (sound_advance sound (d.clock + ms)) later

theorem sound_handle {d' : Daemon} {input : Input} (sound : Sound none d) (accepts : d.Accepts input)
    (handled : d.handle env cfg input = .ok d') : Sound none d' := by
  rcases (post_handle sound accepts).of_ok handled with ⟨ms, -, rfl⟩ | evolves
  · exact sound_advance sound _
  · exact sound_evolves sound evolves

theorem reachable_sound (reach : Reachable env cfg d) : Sound none d := by
  induction reach with
  | start localId clock ssidList => exact sound_initial localId clock ssidList
  | step input _ accepts run ih => exact sound_handle ih accepts run

end Handle

/-! ### The station table is consistent -/

/-- The collections that refer to each other agree: one station per address, one entry
    per station and node, every entry in the lists of its own live station and node,
    once and in no other list, no station without entries, live nodes indexed, and
    every beacon report listed by the entry it names. -/
structure WellLinked (d : Daemon) : Prop where
  oneStaPerAddr : ∀ {s s' sta sta'}, d.stas.get? s = some sta → d.stas.get? s' = some sta' → sta.addr = sta'.addr → s = s'
  staIndexed : ∀ s, (d.stas.get? s).isSome ↔ s ∈ d.stations
  oneInfoPerPair : ∀ {si si' info info'}, d.infos.get? si = some info → d.infos.get? si' = some info' →
    info.sta = info'.sta → info.node = info'.node → si = si'
  inOwnSta : ∀ {si info}, d.infos.get? si = some info →
    ∃ sta, d.stas.get? info.sta = some sta ∧ sta.nodes.count si = 1
  inOwnNode : ∀ {si info}, d.infos.get? si = some info →
    ∃ node, d.nodes.get? info.node = some node ∧ node.staInfo.count si = 1
  inNoOtherSta : ∀ {s sta si}, d.stas.get? s = some sta → si ∈ sta.nodes →
    ∃ info, d.infos.get? si = some info ∧ info.sta = s
  inNoOtherNode : ∀ {n node si}, d.nodes.get? n = some node → si ∈ node.staInfo →
    ∃ info, d.infos.get? si = some info ∧ info.node = n
  nodeIndexed : ∀ {n}, (d.nodes.get? n).isSome → n ∈ d.localNodes ∨ n ∈ d.remoteList
  staOccupied : ∀ {s sta}, d.stas.get? s = some sta → sta.nodes ≠ []
  ownReports : ∀ {si info br}, d.infos.get? si = some info → br ∈ info.beaconReports → br.address = si

theorem wellLinked_of_sound {d : Daemon} (sound : Sound none d) : WellLinked d where
  oneStaPerAddr := by
    intro s s' sta sta' live live' same
    have shape : d.table.sta s = some (sta.addr, sta.nodes) := by simp [table, live]
    have shape' : d.table.sta s' = some (sta.addr, sta'.nodes) := by simp [table, live', same]
    exact sound.links.addr_unique shape shape'
  staIndexed := by
    intro s
    have indexed := sound.links.indexed s
    simp only [table, Option.map_eq_some_iff] at indexed
    rw [indexed]
    constructor
    · intro live
      obtain ⟨sta, found⟩ := Option.isSome_iff_exists.mp live
      exact ⟨_, sta, found, rfl⟩
    · rintro ⟨_, sta, found, _⟩
      exact Option.isSome_iff_exists.mpr ⟨sta, found⟩
  oneInfoPerPair := by
    intro si si' info info' live live' sta node
    refine sound.links.pair_unique (entry_of_info live) ?_
    rw [entry_of_info live', sta, node]
  inOwnSta := by
    intro si info live
    obtain ⟨sta, liveSta, inside⟩ := sta_of_info sound.links live
    have once : sta.nodes.Nodup := sound.links.bySta.nodup (k := info.sta) (by simp [table, liveSta])
    exact ⟨sta, liveSta, List.count_eq_one_of_mem once inside⟩
  inOwnNode := by
    intro si info live
    obtain ⟨node, liveNode, inside⟩ := node_of_info sound.links live
    have once : node.staInfo.Nodup := sound.links.byNode.nodup (k := info.node) (by simp [table, liveNode])
    exact ⟨node, liveNode, List.count_eq_one_of_mem once inside⟩
  inNoOtherSta live inside := info_of_sta sound.links live inside
  inNoOtherNode live inside := info_of_node sound.links live inside
  nodeIndexed := by
    intro n live
    obtain ⟨node, found⟩ := Option.isSome_iff_exists.mp live
    have kind : (d.table.node n).map Prod.fst = some node.isLocal := by simp [table, found]
    cases isLocal : node.isLocal with
    | true =>
      rw [isLocal] at kind
      exact .inl ((sound.registered.inLocals n).mpr kind)
    | false =>
      rw [isLocal] at kind
      exact .inr ((sound.registered.inRemotes n).mpr kind)
  staOccupied := by
    intro s sta live empty
    have vacant := sound.links.occupied (s := s) (a := sta.addr) (by simp [table, live, empty])
    cases vacant
  ownReports live inside := sound.reports live inside

/-- A station has one entry per node. -/
theorem EntryOf.unique {d : Daemon} {addr : MacAddr} {n : NodeId} {si si' : SiId} {info info' : StaInfo} (sound : Sound none d)
    (entry : EntryOf d addr n si info) (entry' : EntryOf d addr n si' info') : si = si' := by
  obtain ⟨live, onNode, sta, liveSta, same⟩ := entry
  obtain ⟨live', onNode', sta', liveSta', same'⟩ := entry'
  have linked := wellLinked_of_sound sound
  exact linked.oneInfoPerPair live live' (linked.oneStaPerAddr liveSta liveSta' (same.trans same'.symm))
    (onNode.trans onNode'.symm)

/-- The entry belonged to the same station and node before. -/
theorem EntryOf.back {d d' : Daemon} {addr : MacAddr} {n : NodeId} {si : SiId} {info info' : StaInfo}
    (survives : Survives d d') (sound : Sound none d) (live : d.infos.get? si = some info)
    (entry : EntryOf d' addr n si info') : EntryOf d addr n si info := by
  obtain ⟨live', onNode, sta', liveSta', same⟩ := entry
  obtain ⟨info'', live'', sta'', node''⟩ := survives.infos live
  rw [live'] at live''
  cases live''
  obtain ⟨sta, liveSta, _⟩ := sta_of_info sound.links live
  obtain ⟨sta1, liveSta1, addr1⟩ := survives.stas liveSta
  rw [sta''] at liveSta'
  rw [liveSta'] at liveSta1
  cases liveSta1
  exact ⟨live, node''.symm.trans onNode, sta, liveSta, addr1.symm.trans same⟩

theorem EntryOf.same {d : Daemon} {addr addr' : MacAddr} {n n' : NodeId} {si : SiId} {info info' : StaInfo}
    (entry : EntryOf d addr n si info) (entry' : EntryOf d addr' n' si info') : addr' = addr ∧ n' = n := by
  obtain ⟨live, onNode, sta, liveSta, same⟩ := entry
  obtain ⟨live', onNode', sta', liveSta', same'⟩ := entry'
  rw [live] at live'
  cases live'
  rw [liveSta] at liveSta'
  cases liveSta'
  exact ⟨same'.symm.trans same, onNode'.symm.trans onNode⟩

/-- In every reachable state the station table is consistent, and no input leads the
    daemon to a record that was freed. -/
theorem well_linked (env : Platform) {cfg : Config} {d : Daemon} (inRange : 0 < cfg.localStaTimeout.toInt32.toInt)
    (reach : Reachable env cfg d) :
    WellLinked d ∧ ∀ input, d.Accepts input → d.handle env cfg input ≠ .error .useAfterFree := by
  have positive : cfg.InRange := by rw [Config.InRange, Int32.lt_iff_toInt_lt]; exact inRange
  have sound := reachable_sound reach
  refine ⟨wellLinked_of_sound sound, fun input accepts fault => ?_⟩
  have safe : Post (input.Trips cfg) (d.handle env cfg input) _ := post_handle sound accepts
  rw [fault] at safe
  rcases safe with ⟨_, outOfRange⟩ | ⟨other, _⟩ | ⟨other, _⟩ | ⟨other, _⟩
  · exact outOfRange positive
  · cases other
  · cases other
  · cases other

theorem well_linked_after_association : ∃ d, plainRun usteerInitDefaults associates = some d ∧ d.stations = [0] ∧ WellLinked d := by
  have evaluates : (plainRun usteerInitDefaults associates).map (fun d => d.stations) = some [0] := by decide +kernel
  obtain ⟨d, run, stations⟩ := Option.map_eq_some_iff.mp evaluates
  exact ⟨d, run, stations, (well_linked plainPlatform (by decide) (reachable_plainRun run)).1⟩

end Usteer
