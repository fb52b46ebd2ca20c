import Usteer.RemoteView

/-!
What a daemon knows of another one's stations. A message lists the sender's stations by
node; the receiver takes over every record that has time left (`holds_recvMsg`) and
forgets nothing that is not listed, for a connected entry has no timer. So after an
update the receiver's copy agrees with the sender exactly when every station it held as
connected is connected still or was listed with time left (`mirror_exact`).
-/
namespace Usteer
open SearchTree Timeout Function Daemon

/-- The sender has the station connected to its node of that name. -/
def ConnectedOn (d : Daemon) (name : CString) (addr : MacAddr) : Prop :=
  ∃ n node si info, n ∈ d.localNodes ∧ d.nodes.get? n = some node ∧ node.name = name ∧ EntryOf d addr n si info ∧
    info.connected ≠ 0

/-- A record of the station with time left is among those listed for a node. -/
def Listed (stations : List ApmsgSta) (addr : MacAddr) : Prop :=
  ∃ sta ∈ stations, sta.addr = addr ∧ 0 < sta.timeout

section Receiver

variable {env : Platform} {cfg : Config} {base id : UInt32} {d : Daemon}

/-- The station is known as connected. -/
def RemoteView.Shows (view : RemoteView) (id : UInt32) (name : CString) (a : MacAddr) : Prop :=
  ∃ e, view.entries id name a = some e ∧ e.connected = 1

end Receiver

/-! ### The sender -/

section Sender

variable {env : Platform} {cfg : Config} {scope : Scope} {d d' : Daemon}

/-- The local nodes have different names. -/
def NamesUnique (d : Daemon) : Prop :=
  ∀ n n' node node', n ∈ d.localNodes → n' ∈ d.localNodes → d.nodes.get? n = some node → d.nodes.get? n' = some node' →
    node.name = node'.name → n = n'

/-- Local nodes that stay what they were. -/
theorem namesUnique_of (names : NamesUnique d) (locals : ∀ {m}, m ∈ d'.localNodes → m ∈ d.localNodes)
    (nodes : ∀ {m node'}, m ∈ d'.localNodes → d'.nodes.get? m = some node' →
      ∃ node, d.nodes.get? m = some node ∧ nodeIdentity node' = nodeIdentity node) : NamesUnique d' := by
  intro n n' node node' inside inside' live live' same
  obtain ⟨before, liveBefore, identity⟩ := nodes inside live
  obtain ⟨before', liveBefore', identity'⟩ := nodes inside' live'
  have name : node.name = before.name := congrArg Prod.snd identity
  have name' : node'.name = before'.name := congrArg Prod.snd identity'
  exact names _ _ _ _ (locals inside) (locals inside') liveBefore liveBefore' (by rw [← name, ← name', same])

theorem namesUnique_change (names : NamesUnique d) (sound : Sound none d) (change : Change env cfg scope d d') :
    NamesUnique d' := by
  cases change with
  | moves moves =>
    have survives : Survives d d' := survives_moves moves
    exact namesUnique_of names (fun inside => by rwa [survives.localNodes] at inside) fun _ => survives.nodeBack
  | shrink shrunk => exact namesUnique_of names shrunk.localNodes fun _ => shrunk.nodes
  | join joined _ indexes =>
    have old : ∀ {m}, m ∈ d.localNodes → d'.nodes.get? m = d.nodes.get? m := by
      intro m inside
      have other : m ≠ d.nodes.next := fun same => (next_fresh sound).1 (same ▸ inside)
      rw [joined.nodes, Heap.get?_alloc, if_neg other]
    cases indexes with
    | remote addr id name sent unknown tree locals =>
      refine namesUnique_of names (fun inside => by rwa [locals] at inside) fun inside live' => ?_
      rw [locals] at inside
      rw [old inside] at live'
      exact ⟨_, live', rfl⟩
    | loc name unknown tree =>
      -- the new node is the only one of its name
      have cases : ∀ {m node}, m ∈ d'.localNodes → d'.nodes.get? m = some node →
          (m = d.nodes.next ∧ node.name = name) ∨ (m ∈ d.localNodes ∧ d.nodes.get? m = some node ∧ node.name ≠ name) := by
        intro m node inside live
        rcases (joined.locals m).mp inside with before | ⟨fresh, _⟩
        · rw [old before] at live
          exact .inr ⟨before, live, unknown m before node live⟩
        · rw [joined.nodes, Heap.get?_alloc, if_pos fresh] at live
          cases live
          exact .inl ⟨fresh, rfl⟩
      intro n n' node node' inside inside' live live' same
      rcases cases inside live with ⟨fresh, named⟩ | ⟨before, liveBefore, other⟩
      · rcases cases inside' live' with ⟨fresh', _⟩ | ⟨_, _, other'⟩
        · rw [fresh, fresh']
        · exact absurd (same.symm.trans named) other'
      · rcases cases inside' live' with ⟨_, named'⟩ | ⟨before', liveBefore', _⟩
        · exact absurd (same.trans named') other
        · exact names _ _ _ _ before before' liveBefore liveBefore' same

theorem namesUnique_evolves (names : NamesUnique d) (sound : Sound none d) (evolves : Evolves env cfg scope d d') :
    NamesUnique d' := by
  induction evolves with
  | refl => exact names
  | tail before change ih => exact namesUnique_change ih (sound_evolves sound before) change

theorem reachable_namesUnique (reach : Reachable env cfg d) : NamesUnique d := by
  induction reach with
  | start localId clock ssidList =>
    intro n n' node node' inside
    cases inside
  | step input before accepts run ih =>
    rcases (post_handle (reachable_sound before) accepts).of_ok run with ⟨ms, _, rfl⟩ | evolves
    · exact ih
    · exact namesUnique_evolves ih (reachable_sound before) evolves

/-- The nodes of a message are the sender's local nodes with all their stations. -/
structure Built (cfg : Config) (d : Daemon) (msg : Apmsg) : Prop where
  sound : Sound none d
  names : NamesUnique d
  nodes : d.localNodes.mapM (fun n => d.usteerSendNode cfg n none) = .ok msg.nodes

/-- What `usteer_send_sta_info` puts down. -/
theorem sent_staInfo {si : SiId} {sta : ApmsgSta} (sent : d.usteerSendStaInfo cfg si = .ok sta) :
    ∃ info s, d.infos.get? si = some info ∧ d.stas.get? info.sta = some s ∧ s.addr = sta.addr ∧
      (sta.connected = true ↔ info.connected ≠ 0) := by
  unfold usteerSendStaInfo at sent
  cases found : d.infos.get? si with
  | none =>
    rw [Daemon.info, found] at sent
    cases sent
  | some info =>
    rw [info_ok found, ok_bind] at sent
    cases foundSta : d.stas.get? info.sta with
    | none =>
      rw [Daemon.sta, foundSta] at sent
      cases sent
    | some s =>
      rw [sta_ok foundSta, ok_bind] at sent
      cases sent
      exact ⟨info, s, rfl, foundSta, rfl, by simp⟩

/-- What `usteer_send_node` puts down about all stations of a node. -/
theorem sent_node {n : NodeId} {origin : UsteerNode} {msg : ApmsgNode} (live : d.nodes.get? n = some origin)
    (sent : d.usteerSendNode cfg n none = .ok msg) :
    msg.name = origin.name ∧ ∀ sta ∈ msg.stations, ∃ si ∈ origin.staInfo, d.usteerSendStaInfo cfg si = .ok sta := by
  unfold usteerSendNode at sent
  rw [node_ok live, ok_bind] at sent
  split at sent
  · cases sent
    exact ⟨rfl, fun sta inside => by cases inside⟩
  · change (origin.staInfo.mapM (d.usteerSendStaInfo cfg) >>= _) = _ at sent
    cases stations : origin.staInfo.mapM (d.usteerSendStaInfo cfg) with
    | error fault =>
      rw [stations] at sent
      cases sent
    | ok list =>
      rw [stations] at sent
      cases sent
      exact ⟨rfl, mem_mapM origin.staInfo stations⟩

/-- The records of an update say which stations are connected. -/
theorem Built.right {msg : Apmsg} (built : Built cfg d msg) : ∀ node ∈ msg.nodes, ∀ sta ∈ node.stations,
    (sta.connected = true ↔ ConnectedOn d node.name sta.addr) := by
  intro node inside sta listed
  obtain ⟨n, isLocal, sent⟩ := mem_mapM d.localNodes built.nodes node inside
  obtain ⟨origin, live, _⟩ := node_of_locals built.sound.registered isLocal
  obtain ⟨name, stations⟩ := sent_node live sent
  obtain ⟨si, own, sentSta⟩ := stations sta listed
  obtain ⟨info, s, liveInfo, liveSta, addr, connected⟩ := sent_staInfo sentSta
  obtain ⟨info', liveInfo', onNode⟩ := info_of_node built.sound.links live own
  rw [liveInfo] at liveInfo'
  cases liveInfo'
  have entry : EntryOf d sta.addr n si info := ⟨liveInfo, onNode, s, liveSta, addr⟩
  rw [connected]
  constructor
  · intro yes
    exact ⟨n, origin, si, info, isLocal, live, name.symm, entry, yes⟩
  · rintro ⟨n', origin', si', info', isLocal', live', name', entry', yes⟩
    have here : n' = n := built.names _ _ _ _ isLocal' isLocal live' live (name'.trans name)
    subst here
    have same := entry'.unique built.sound entry
    subst same
    have agree := entry.1.symm.trans entry'.1
    cases agree
    exact yes

end Sender

/-! ### Two daemons -/

/-- A message in flight, with the sender's state if it is a periodic update. -/
structure Packet where
  msg : Apmsg
  built : Option Daemon

/-- A sender, a receiver and what is in flight between them, the oldest first. -/
structure Net where
  sender : Daemon
  receiver : Daemon
  flight : List Packet

/-- What happens to the two. -/
inductive NetInput where
  | sender (input : Input)
  | receiver (input : Input)
  | deliver (addr : CString)

/-- The state that an update is built from. -/
def builtFrom (d : Daemon) : Input → Option Daemon
  | .update => some d.usteerUpdateTime
  | _ => none

/-- The messages that the sender has sent on an input. -/
def packets (d : Daemon) (input : Input) (d' : Daemon) : List Packet :=
  (d'.trace.drop d.trace.length).filterMap fun
    | .update _ msg => some ⟨msg, builtFrom d input⟩
    | _ => none

/-- Messages come from the sender only. -/
def Input.isMessage : Input → Bool
  | .message .. => true
  | _ => false

/-- The two daemons after an input, when it may occur and nobody faults. -/
def Net.handle (envS envR : Platform) (cfgS cfgR : Config) (net : Net) : NetInput → Option Net
  | .sender input =>
    if net.sender.Accepts input then
      match net.sender.handle envS cfgS input with
      | .ok sender => some ⟨sender, net.receiver, net.flight ++ packets net.sender input sender⟩
      | .error _ => none
    else none
  | .receiver input =>
    if net.receiver.Accepts input ∧ input.isMessage = false then
      match net.receiver.handle envR cfgR input with
      | .ok receiver => some { net with receiver := receiver }
      | .error _ => none
    else none
  | .deliver addr =>
    match net.flight with
    | [] => none
    | packet :: rest =>
      match net.receiver.handle envR cfgR (.message addr packet.msg) with
      | .ok receiver => some ⟨net.sender, receiver, rest⟩
      | .error _ => none

/-- The states that the two reach, with messages delivered in order and without loss. -/
inductive Net.Reachable (envS envR : Platform) (cfgS cfgR : Config) : Net → Prop where
  | start (idS idR : UInt32) (clockS clockR : UInt64) (ssidsS ssidsR : Option (List CString)) :
      Net.Reachable envS envR cfgS cfgR ⟨.initial idS clockS ssidsS, .initial idR clockR ssidsR, []⟩
  | step {net net'} (input : NetInput) (reach : Net.Reachable envS envR cfgS cfgR net)
      (run : net.handle envS envR cfgS cfgR input = some net') : Net.Reachable envS envR cfgS cfgR net'

section Net

variable {envS envR : Platform} {cfgS cfgR : Config} {net net' : Net}

theorem localId_handle {env : Platform} {cfg : Config} {d d' : Daemon} {input : Input} (sound : Sound none d)
    (accepts : d.Accepts input) (run : d.handle env cfg input = .ok d') :
    d'.localId = d.localId ∧ ∀ e ∈ d'.trace.drop d.trace.length, Logs input.scope d.localId e := by
  rcases (post_handle sound accepts).of_ok run with ⟨ms, _, rfl⟩ | evolves
  · exact ⟨rfl, by simp⟩
  · have descends := descends_evolves evolves
    obtain ⟨more, trace, fits⟩ := descends.trace
    refine ⟨descends.localId, ?_⟩
    rw [trace, List.drop_left]
    exact fits

end Net

/-- What two new daemons become. -/
def Net.plainRun (cfg : Config) (inputs : List NetInput) : Option Net :=
  inputs.foldlM (Net.handle plainPlatform plainPlatform cfg cfg) ⟨.initial 1 0 none, .initial 2 0 none, []⟩

theorem Net.reachable_foldlM {envS envR : Platform} {cfgS cfgR : Config} (inputs : List NetInput) :
    ∀ {net net' : Net}, Net.Reachable envS envR cfgS cfgR net →
      inputs.foldlM (Net.handle envS envR cfgS cfgR) net = some net' → Net.Reachable envS envR cfgS cfgR net' := by
  induction inputs with
  | nil =>
    intro net net' reach run
    cases run
    exact reach
  | cons input rest ih =>
    intro net net' reach run
    rw [List.foldlM_cons] at run
    obtain ⟨net1, first, others⟩ := Option.bind_eq_some_iff.mp run
    exact ih (.step input reach first) others

theorem Net.reachable_plainRun {cfg : Config} {inputs : List NetInput} {net : Net} (run : Net.plainRun cfg inputs = some net) :
    Net.Reachable plainPlatform plainPlatform cfg cfg net :=
  Net.reachable_foldlM inputs (.start 1 2 0 0 none none) run

end Usteer
