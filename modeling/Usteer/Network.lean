import Usteer.Ageing
import Usteer.Delivery
import Usteer.Gossip
import Usteer.Messages
import Usteer.Mirror
import Usteer.Signals

/-!
Any number of daemons on one network, which may lose, repeat, delay and reorder their
messages. Whatever a daemon holds about a node or a station of another one was so at that
other one, in a state that it was in before: nothing is made up, mixed from two messages or
learned about the daemon itself (`knowledge_was_true`).
-/
namespace Usteer
open SearchTree Timeout Function Daemon

/-- What is told about a node, the SSID as it is kept. -/
structure NodeData where
  ssid : CString
  bssid : MacAddr
  freq : Int32
  noise : Int32
  nAssoc : Int32
  maxAssoc : Int32
  load : Int32
  rrmNr : Option Blob
  scriptData : Option Blob
  deriving DecidableEq

/-- The data of a node. -/
def UsteerNode.data (node : UsteerNode) : NodeData :=
  ⟨node.ssid.take 32, node.bssid, node.freq, node.noise, node.nAssoc, node.maxAssoc, node.load, node.rrmNr, node.scriptData⟩

/-- The data of a node of a message, when its address text is an address. -/
def ApmsgNode.data (msg : ApmsgNode) : Option NodeData :=
  msg.bssid.map fun bssid =>
    ⟨msg.ssid.take 32, bssid, msg.freq, msg.noise, msg.nAssoc, msg.maxAssoc, msg.load, msg.rrmNr, msg.scriptData⟩

/-- An entry as it is allocated: nobody has told anything about the station yet. -/
def StaInfo.Blank (info : StaInfo) : Prop := info.connected = 0 ∧ info.signal = 0 ∧ info.seen = 0

/-- What one daemon may know about another one, by its id and the name of its node: the
    data of the node, or the signal of a station on it and whether it is connected. -/
inductive Fact where
  | node (id : UInt32) (name : CString) (data : NodeData)
  | station (id : UInt32) (name : CString) (addr : MacAddr) (signal : Int32) (connected : Bool)

namespace Fact

/-- The daemon that the fact is about. -/
def id : Fact → UInt32
  | .node id _ _ => id
  | .station id _ _ _ _ => id

/-- The daemon holds it, on one of its remote nodes. -/
def HeldBy (d : Daemon) : Fact → Prop
  | .node id name data => ∃ n node, d.nodes.get? n = some node ∧ remoteKey node = some (id, name) ∧ node.data = data
  | .station id name addr signal connected => ∃ n node si info, d.nodes.get? n = some node ∧
      remoteKey node = some (id, name) ∧ EntryOf d addr n si info ∧ ¬ info.Blank ∧ info.signal = signal ∧
      decide (info.connected ≠ 0) = connected

/-- Nodes announced under the id say so. -/
def SaidBy (id : UInt32) (nodes : List ApmsgNode) : Fact → Prop
  | .node id' name data => id' = id ∧ ∃ msg ∈ nodes, msg.name = name ∧ msg.data = some data
  | .station id' name addr signal connected => id' = id ∧ ∃ msg ∈ nodes, msg.name = name ∧
      ∃ sta ∈ msg.stations, sta.addr = addr ∧ sta.signal = signal ∧ sta.connected = connected

end Fact

section Knowledge

variable {env : Platform} {cfg : Config} {d d' d'' : Daemon} {n : NodeId} {fact : Fact} {id : UInt32}

/-! ### Steps that learn nothing -/

/-- Remote nodes and what is told about stations on them were there before. -/
structure Ignorant (d d' : Daemon) : Prop where
  nodes : ∀ {n node' key}, d'.nodes.get? n = some node' → remoteKey node' = some key →
    ∃ node, d.nodes.get? n = some node ∧ remoteKey node = some key ∧ node.data = node'.data
  entries : ∀ {n node' key addr si info}, d'.nodes.get? n = some node' → remoteKey node' = some key →
    EntryOf d' addr n si info → ¬ info.Blank → EntryOf d addr n si info

theorem Ignorant.held (ignorant : Ignorant d d') (held : fact.HeldBy d') : fact.HeldBy d := by
  cases fact with
  | node id name data =>
    obtain ⟨n, node', live', isKey, rfl⟩ := held
    obtain ⟨node, live, isKey', same⟩ := ignorant.nodes live' isKey
    exact ⟨n, node, live, isKey', same⟩
  | station id name addr signal connected =>
    obtain ⟨n, node', si, info, live', isKey, entry, told, rest⟩ := held
    obtain ⟨node, live, isKey', -⟩ := ignorant.nodes live' isKey
    exact ⟨n, node, si, info, live, isKey', ignorant.entries live' isKey entry told, told, rest⟩

namespace Ignorant

theorem of_eq (nodes : d'.nodes = d.nodes) (infos : d'.infos = d.infos) (stas : d'.stas = d.stas) : Ignorant d d' where
  nodes live isKey := by
    rw [nodes] at live
    exact ⟨_, live, isKey, rfl⟩
  entries _ _ entry _ := by
    unfold EntryOf at entry ⊢
    rw [infos, stas] at entry
    exact entry

end Ignorant

theorem data_of_bare {node node' : UsteerNode} (same : bare node' = bare node) :
    node'.data = node.data ∧ remoteKey node' = remoteKey node :=
  ⟨(congrArg UsteerNode.data same :), (congrArg remoteKey same :)⟩

theorem ignorant_shrunk (shrunk : Shrunk d d') : Ignorant d d' where
  nodes live' isKey := by
    obtain ⟨node, live, same⟩ := shrunk.records live'
    obtain ⟨data, key⟩ := data_of_bare same
    exact ⟨node, live, key ▸ isKey, data.symm⟩
  entries _ _ entry _ := by
    obtain ⟨live, onNode, sta', liveSta', named⟩ := entry
    obtain ⟨sta, liveSta, addr⟩ := shrunk.stas liveSta'
    exact ⟨shrunk.infos live, onNode, sta, liveSta, addr.symm.trans named⟩

/-- A new node without a remote key is not about another daemon. -/
theorem ignorant_joined {node : UsteerNode} (joined : Joined node d d') (own : remoteKey node = none) : Ignorant d d' where
  nodes live' isKey := by
    rw [joined.nodes, Heap.get?_alloc] at live'
    split at live'
    · cases live'
      rw [own] at isKey
      cases isKey
    · exact ⟨_, live', isKey, rfl⟩
  entries _ _ entry _ := by
    unfold EntryOf at entry ⊢
    rw [joined.rest] at entry
    exact entry

theorem blank_zeroed (n : NodeId) (s : StaId) (freq : Int32) (time : UInt64) : (StaInfo.zeroed n s freq time).Blank :=
  ⟨rfl, rfl, rfl⟩

/-- Work for a local node. -/
theorem ignorant_isolated {node : UsteerNode} (isolated : Isolated n d d') (undisturbed : Undisturbed d d') (sound : Sound none d)
    (live : d.nodes.get? n = some node) (isLocal : node.isLocal = true) : Ignorant d d' := by
  have remote : ∀ {m node' key}, d'.nodes.get? m = some node' → remoteKey node' = some key → m ≠ n := by
    rintro m node' key live' isKey rfl
    have same := undisturbed.nodes m
    rw [live', live] at same
    have own : remoteOf node = none := by
      unfold remoteOf
      unfold UsteerNode.isLocal at isLocal
      cases kind : node.kind with
      | loc ln => rfl
      | remote rn =>
        rw [kind] at isLocal
        cases isLocal
    change remoteOf node' = remoteOf node at same
    rw [own] at same
    unfold remoteOf at same
    unfold remoteKey at isKey
    cases kind : node'.kind with
    | loc ln =>
      rw [kind] at isKey
      cases isKey
    | remote rn =>
      rw [kind] at same
      cases same
  constructor
  · intro m node' key live' isKey
    have same := isolated.nodes m (remote live' isKey)
    rw [live'] at same
    obtain ⟨before, found, equal⟩ := Option.map_eq_some_iff.mp same.symm
    obtain ⟨data, key'⟩ := data_of_bare equal
    exact ⟨before, found, key'.trans isKey, data⟩
  · intro m node' key addr si info live' isKey entry told
    obtain ⟨liveInfo, onNode, sta', liveSta', named⟩ := entry
    rcases isolated.back liveInfo (onNode ▸ remote live' isKey) with old | ⟨s, freq, time, zeroed⟩
    · obtain ⟨sta, liveSta, -⟩ := sta_of_info sound.links old
      obtain ⟨sta1, liveSta1, addr1⟩ := isolated.stas (Heap.lt_next liveSta) liveSta'
      exact ⟨old, onNode, sta1, liveSta1, addr1.symm.trans named⟩
    · rw [zeroed] at told
      exact absurd (blank_zeroed _ s freq time) told

theorem bumped_key (node : UsteerNode) : remoteKey (bumpCheck node) = remoteKey node ∧ (bumpCheck node).data = node.data := by
  refine ⟨(keepsNode_bumpCheck node).key, ?_⟩
  unfold bumpCheck
  cases node.kind with
  | loc ln => rfl
  | remote rn => rfl

theorem ignorant_aged {timeout : Int32} {list : List NodeId} (aged : Aged timeout list d d') : Ignorant d d' := by
  constructor
  · intro m node' key live' isKey
    by_cases listed : m ∈ list
    · by_cases outdated : Outdated timeout d m
      · rw [aged.gone m listed outdated] at live'
        cases live'
      · have same := aged.counted m listed outdated
        rw [live', Option.map_map] at same
        obtain ⟨node, live, equal⟩ := Option.map_eq_some_iff.mp same.symm
        change bumpCheck (bare node) = bare node' at equal
        rw [← bare_bumpCheck] at equal
        obtain ⟨data, key'⟩ := data_of_bare equal
        exact ⟨node, live, (bumped_key node).1.symm.trans (key'.trans isKey), (bumped_key node).2.symm.trans data⟩
    · have same := aged.others m listed
      rw [live'] at same
      obtain ⟨node, live, equal⟩ := Option.map_eq_some_iff.mp same.symm
      obtain ⟨data, key'⟩ := data_of_bare equal
      exact ⟨node, live, key'.trans isKey, data⟩
  · intro m node' key addr si info _ _ entry _
    obtain ⟨liveInfo, onNode, sta', liveSta', named⟩ := entry
    obtain ⟨sta, liveSta, same⟩ := aged.stas _ _ liveSta'
    refine ⟨((aged.infos si info).mp liveInfo).1, onNode, sta, liveSta, ?_⟩
    rw [same] at named
    exact named

/-- Nothing but messages teaches anything. -/
theorem ignorant_handle {input : Input} (sound : Sound none d) (accepts : d.Accepts input) (own : input.isMessage = false)
    (run : d.handle env cfg input = .ok d') : Ignorant d d' := by
  have about : ∀ {n}, input.about = some n → n ∈ d.localNodes → ¬ input.OfPeers → Ignorant d d' := by
    intro n concerns inside others
    obtain ⟨node, live, isLocal⟩ := node_of_locals sound.registered inside
    exact ignorant_isolated (isolated_of_about sound concerns run)
      ((undisturbed_handle sound accepts others).of_ok run) sound live isLocal
  cases input with
  | advance ms =>
    cases run
    exact .of_eq rfl rfl rfl
  | staEvent n addr type freq signal => exact about rfl accepts.1 id
  | beaconReport n msg => exact about rfl accepts id
  | clients n msg => exact about rfl accepts id
  | message addr msg => cases own
  | tick n => exact about rfl accepts id
  | timeouts =>
    have pruned := (post_stationTimeouts (F := AnyFault) sound.toIntact).of_ok run
    exact ignorant_shrunk pruned.2.1.shrunk
  | update =>
    by_cases zero : cfg.remoteUpdateInterval = 0
    · exfalso
      change d.usteerSendUpdateTimer env cfg = .ok d' at run
      obtain ⟨nodes, -, run⟩ := bind_ok run
      rw [usteerCheckTimeout, if_pos zero] at run
      cases run
    · exact ignorant_aged ((aged_update env zero sound).of_ok run).2
  | vendorUpdate =>
    cases run
    exact .of_eq rfl rfl rfl
  | register name =>
    change d.usteerRegisterNode name = .ok d' at run
    unfold usteerRegisterNode at run
    split at run
    · cases run
      exact .of_eq rfl rfl rfl
    · obtain ⟨⟨m, d1⟩, got, run⟩ := bind_ok run
      cases run
      rcases (post_usteerGetNode (F := AnyFault) env none name sound).of_ok got with same | ⟨joined, -⟩
      · rw [show d' = d from same]
        exact .of_eq rfl rfl rfl
      · exact ignorant_joined joined rfl
  | status n status => exact about rfl accepts id
  | remove n => exact ignorant_shrunk ((post_usteerFreeNode (F := AnyFault) sound accepts).of_ok run).2.1.toShrunk

/-! ### Messages -/

/-- What is known of a station, as a fact. -/
theorem held_station {name : CString} {addr : MacAddr} {signal : Int32} {connected : Bool} :
    (Fact.station id name addr signal connected).HeldBy d ↔ ∃ n node e, d.nodes.get? n = some node ∧
      remoteKey node = some (id, name) ∧ Shown d addr n e ∧ ¬ (e.connected = 0 ∧ e.signal = 0 ∧ e.seen = 0) ∧
      e.signal = signal ∧ decide (e.connected ≠ 0) = connected := by
  constructor
  · rintro ⟨n, node, si, info, live, isKey, entry, told, rest⟩
    exact ⟨n, node, d.entryState si info, live, isKey, ⟨si, info, entry, rfl⟩, told, rest⟩
  · rintro ⟨n, node, _, live, isKey, ⟨si, info, entry, rfl⟩, told, rest⟩
    exact ⟨n, node, si, info, live, isKey, entry, told, rest⟩

/-- A patch comes from a record of the station. -/
theorem stationPatch_some {setting : Setting} {stations : List ApmsgSta} {a : MacAddr} {e : EntryState}
    (patch : stationPatch setting stations a = some e) : ∃ sta ∈ stations, sta.addr = a ∧ e = setting.entry sta := by
  unfold stationPatch at patch
  obtain ⟨sta, last, rfl⟩ := Option.map_eq_some_iff.mp patch
  have inside := List.mem_of_getLast? last
  rw [List.mem_filter, decide_eq_true_eq] at inside
  exact ⟨sta, inside.1, inside.2.1, rfl⟩

theorem data_takeOver (msg : ApmsgNode) (bssid : MacAddr) (node : UsteerNode) (read : msg.bssid = some bssid) :
    msg.data = some (takeOver msg bssid node).data := by
  unfold ApmsgNode.data UsteerNode.data takeOver
  simp [read, List.take_take]

/-- The node that a record of a message is about: it has the sender's id and the name, and
    all else is as it was. -/
theorem found_node {text name : CString} (keyed : Keyed d) (sound : Sound none d) :
    Post AnyFault (d.interfaceGetNode env text id.toUInt64 name) (fun r => Sound none r.2 ∧ r.2.setting = d.setting ∧
      (r.2.infos = d.infos ∧ r.2.stas = d.stas ∧ r.2.tq = d.tq) ∧ (∃ node, r.2.nodes.get? r.1 = some node ∧ remoteKey node = some (id, name)) ∧
      (∀ m node, r.2.nodes.get? m = some node → d.nodes.get? m = some node ∨ m = r.1) ∧
      ∀ si info, d.infos.get? si = some info → info.node = r.1 → ∃ node, d.nodes.get? r.1 = some node ∧
        remoteKey node = some (id, name)) := by
  refine (post_interfaceGetNode text id name sound).mono ?_
  rintro ⟨n, d1⟩ (⟨rfl, inside, node, live, named⟩ | ⟨fresh, joined, -, sound1, -⟩)
  · obtain ⟨node1, id1, name1, live1, isKey, same⟩ := keyed (entry_of_remoteGroup inside)
    cases live.symm.trans live1
    have key : remoteKey node = some (id, name) := by
      rw [remoteName_eq, isKey] at named
      cases named
      rw [isKey, UInt32.toUInt64_inj.mp same]
    exact ⟨sound, rfl, ⟨rfl, rfl, rfl⟩, ⟨node, live, key⟩, fun m node live => .inl live, fun _ _ _ _ => ⟨node, live, key⟩⟩
  · dsimp only at fresh joined sound1 ⊢
    subst fresh
    have same : d1.setting = d.setting ∧ d1.infos = d.infos ∧ d1.stas = d.stas ∧ d1.tq = d.tq := by
      rw [joined.rest]
      exact ⟨rfl, rfl, rfl, rfl⟩
    refine ⟨sound1, same.1, same.2, ⟨newRemoteNode text id.toUInt64 name, ?_, ?_⟩, ?_, ?_⟩
    · rw [joined.nodes, Heap.get?_alloc, if_pos rfl]
    · show some (id.toUInt64.toUInt32, name) = some (id, name)
      rw [UInt32.toUInt32_toUInt64]
    · intro m node live
      rw [joined.nodes, Heap.get?_alloc] at live
      split at live
      · rename_i here
        exact .inr here
      · exact .inl live
    · intro si info live onNode
      obtain ⟨node, found, -⟩ := node_of_info sound.links live
      rw [onNode, Heap.get?_next] at found
      cases found

/-- What a record of a message does: the node has the data of the record, what is new about
    stations comes from its list, and the rest is as it was. -/
structure TookOver (id : UInt32) (msg : ApmsgNode) (n : NodeId) (d d' : Daemon) : Prop where
  told : ∀ {node'}, d'.nodes.get? n = some node' → remoteKey node' = some (id, msg.name) ∧ msg.data = some node'.data
  others : ∀ {m node'}, m ≠ n → d'.nodes.get? m = some node' →
    ∃ node, d.nodes.get? m = some node ∧ remoteKey node = remoteKey node' ∧ node.data = node'.data
  shown : ∀ {a m e}, Shown d' a m e →
    (m = n ∧ ∃ sta ∈ msg.stations, sta.addr = a ∧ e = d.setting.entry sta) ∨ Shown d a m e
  owner : ∀ {a e}, Shown d a n e → ∃ node, d.nodes.get? n = some node ∧ remoteKey node = some (id, msg.name)

theorem notNull_ok {α : Type} {o : Option α} {a : α} (run : notNull o = .ok a) : o = some a := by
  cases o with
  | none => cases run
  | some b =>
    cases run
    rfl

theorem tookOver_node {text : CString} {msg : ApmsgNode} (keyed : Keyed d) (sound : Sound none d)
    (run : d.interfaceAddNode env cfg text id.toUInt64 msg = .ok d') : d' = d ∨ ∃ n, TookOver id msg n d d' := by
  unfold interfaceAddNode at run
  split at run
  · cases run
    exact .inl rfl
  · obtain ⟨⟨n, d1⟩, got, run⟩ := bind_ok run
    obtain ⟨sound1, setting1, ⟨infos1, stas1, tq1⟩, ⟨node1, live1, isKey1⟩, others1, owner1⟩ := (found_node keyed sound).of_ok got
    dsimp only at sound1 setting1 infos1 stas1 tq1 live1 others1 owner1 run
    obtain ⟨bssid, readBssid, run⟩ := bind_ok run
    have keeps := keepsNode_takeOver msg bssid
    have live2 : (d1.modifyNode n (takeOver msg bssid)).nodes.get? n = some (takeOver msg bssid node1) := by
      rw [modifyNode, Heap.get?_modify, if_pos rfl, live1]
      rfl
    have isRemote : (bare (takeOver msg bssid node1)).isLocal = false := by
      rw [isLocal_eq, show remoteKey (bare (takeOver msg bssid node1)) = remoteKey node1 from (keeps node1).key, isKey1]
      rfl
    have sound2 : Sound none (d1.modifyNode n (takeOver msg bssid)) := by
      have moves : Moves env cfg .plain (none, d1) (none, d1.modifyNode n (takeOver msg bssid)) :=
        .one (.editNode n keeps fun _ _ _ => keepsCounts_plain)
      exact sound_moves (a := (none, d1)) sound1 moves
    have stations : Post AnyFault (msg.stations.foldlM (fun d sta => d.interfaceAddStation env cfg n sta)
        (d1.modifyNode n (takeOver msg bssid))) _ := shown_stations msg.stations sound2 (by rw [live2]; rfl) isRemote
    obtain ⟨-, -, bares, shown⟩ := stations.of_ok run
    have records : ∀ {m node'}, d'.nodes.get? m = some node' → ∃ node2,
        (d1.modifyNode n (takeOver msg bssid)).nodes.get? m = some node2 ∧ remoteKey node2 = remoteKey node' ∧
          node2.data = node'.data := by
      intro m node' live'
      have same := bares m
      rw [live'] at same
      obtain ⟨node2, found, equal⟩ := Option.map_eq_some_iff.mp same.symm
      obtain ⟨data, key⟩ := data_of_bare equal
      exact ⟨node2, found, key, data⟩
    refine .inr ⟨n, ?_, ?_, ?_, ?_⟩
    · intro node' live'
      obtain ⟨node2, found, key, data⟩ := records live'
      rw [live2] at found
      cases found
      rw [← key, ← data, (keeps node1).key, isKey1, data_takeOver msg bssid node1 (notNull_ok readBssid)]
      exact ⟨rfl, rfl⟩
    · intro m node' other live'
      obtain ⟨node2, found, key, data⟩ := records live'
      rw [modifyNode, Heap.get?_modify, if_neg other] at found
      rcases others1 m node2 found with old | same
      · exact ⟨node2, old, key, data⟩
      · exact absurd same other
    · intro a m e shows'
      have before : Shown (d1.modifyNode n (takeOver msg bssid)) a m e → Shown d a m e :=
        (shown_of_eq infos1 stas1 tq1 a m e).mp
      rw [shown] at shows'
      split at shows'
      · rename_i here
        rcases shows' with patch | ⟨-, old⟩
        · obtain ⟨sta, listed, named, rfl⟩ := stationPatch_some patch
          exact .inl ⟨here, sta, listed, named, by rw [← setting1]; rfl⟩
        · exact .inr (before old)
      · exact .inr (before shows')
    · rintro a e ⟨si, info, ⟨liveInfo, onNode, -⟩, -⟩
      exact owner1 si info liveInfo onNode

theorem learned_node {text : CString} {msg : ApmsgNode} (keyed : Keyed d) (sound : Sound none d)
    (run : d.interfaceAddNode env cfg text id.toUInt64 msg = .ok d') (held : fact.HeldBy d') :
    fact.HeldBy d ∨ fact.SaidBy id [msg] := by
  rcases tookOver_node keyed sound run with rfl | ⟨n, took⟩
  · exact .inl held
  · cases fact with
    | node id' name data =>
      obtain ⟨m, node', live', isKey, rfl⟩ := held
      by_cases here : m = n
      · subst here
        obtain ⟨key, same⟩ := took.told live'
        rw [key] at isKey
        cases isKey
        exact .inr ⟨rfl, msg, List.mem_singleton_self msg, rfl, same⟩
      · obtain ⟨node, live, key, same⟩ := took.others here live'
        exact .inl ⟨m, node, live, key.trans isKey, same⟩
    | station id' name addr signal connected =>
      rw [held_station] at held ⊢
      obtain ⟨m, node', e, live', isKey, shows', told, isSignal, isConnected⟩ := held
      by_cases here : m = n
      · subst here
        have key := (took.told live').1
        rw [key] at isKey
        cases isKey
        rcases took.shown shows' with ⟨-, sta, listed, named, rfl⟩ | old
        · refine .inr ⟨rfl, msg, List.mem_singleton_self msg, rfl, sta, listed, named, isSignal, ?_⟩
          rw [← isConnected]
          unfold Setting.entry
          cases sta.connected with
          | true => rfl
          | false => rfl
        · obtain ⟨node, live, key⟩ := took.owner old
          exact .inl ⟨m, node, e, live, key, old, told, isSignal, isConnected⟩
      · obtain ⟨node, live, key, -⟩ := took.others here live'
        rcases took.shown shows' with ⟨same, -⟩ | old
        · exact absurd same here
        · exact .inl ⟨m, node, e, live, key.trans isKey, old, told, isSignal, isConnected⟩

theorem saidBy_mono {nodes nodes' : List ApmsgNode} (subset : ∀ msg ∈ nodes, msg ∈ nodes') (said : fact.SaidBy id nodes) :
    fact.SaidBy id nodes' := by
  cases fact with
  | node id' name data =>
    obtain ⟨same, msg, inside, rest⟩ := said
    exact ⟨same, msg, subset msg inside, rest⟩
  | station id' name addr signal connected =>
    obtain ⟨same, msg, inside, rest⟩ := said
    exact ⟨same, msg, subset msg inside, rest⟩

theorem learned_nodes {text : CString} (nodes : List ApmsgNode) : ∀ {d : Daemon}, Keyed d → Sound none d →
    Post AnyFault (nodes.foldlM (fun d node => d.interfaceAddNode env cfg text id.toUInt64 node) d) (fun d' =>
      ∀ fact : Fact, fact.HeldBy d' → fact.HeldBy d ∨ fact.SaidBy id nodes) := by
  induction nodes with
  | nil => exact fun _ _ fact held => .inl held
  | cons msg rest ih =>
    intro d keyed sound
    rw [List.foldlM_cons, post_bind]
    refine post_of_ok fun d1 run => ?_
    have evolves : Evolves env cfg (.sentBy id) d d1 :=
      (post_interfaceAddNode text rfl (fun _ _ _ _ _ impossible => impossible) sound).of_ok run
    refine (ih (keyed_evolves keyed sound evolves) (sound_evolves sound evolves)).mono fun d' learned fact held => ?_
    rcases learned fact held with old | said
    · rcases learned_node keyed sound run old with older | said
      · exact .inl older
      · exact .inr (saidBy_mono (by simp) said)
    · exact .inr (saidBy_mono (fun _ => List.mem_cons_of_mem msg) said)

/-- A message teaches what it says, unless it is the daemon's own. -/
theorem learned_handle {text : CString} {msg : Apmsg} (keyed : Keyed d) (sound : Sound none d)
    (run : d.handle env cfg (.message text msg) = .ok d') (held : fact.HeldBy d') :
    fact.HeldBy d ∨ (msg.id ≠ d.localId ∧ fact.SaidBy msg.id msg.nodes) := by
  change (if cfg.remoteDisabled then .ok d else d.interfaceRecvMsg env cfg text msg) = .ok d' at run
  split at run
  · cases run
    exact .inl held
  · unfold interfaceRecvMsg at run
    split at run
    · cases run
      exact .inl held
    · rename_i foreign
      exact ((learned_nodes msg.nodes keyed sound).of_ok run fact held).imp_right fun said => ⟨foreign, said⟩

/-! ### Sending -/

end Knowledge

/-! ### The network -/

section Network

variable {ι : Type} [DecidableEq ι] {env : ι → Platform} {cfg : ι → Config} {ids : ι → UInt32}
  {g : Gossip.Group ι Daemon Apmsg} {i : ι} {fact : Fact}

/-- The daemons with their ids, platforms and settings; each acts on its own inputs and
    receives messages from any address. -/
def daemons (env : ι → Platform) (cfg : ι → Config) (ids : ι → UInt32) : Gossip.Parties ι Daemon Apmsg where
  start i d := ∃ clock ssidList, d = .initial (ids i) clock ssidList
  act i d d' := ∃ input, d.Accepts input ∧ input.isMessage = false ∧ d.handle (env i) (cfg i) input = .ok d'
  receive i msg d d' := ∃ addr, d.handle (env i) (cfg i) (.message addr msg) = .ok d'
  sends := messages

/-- What each daemon keeps. -/
structure Member (env : Platform) (cfg : Config) (id : UInt32) (d : Daemon) : Prop where
  reach : Reachable env cfg d
  keyed : Keyed d
  localId : d.localId = id
  foreign : ∀ fact : Fact, fact.HeldBy d → fact.id ≠ id

theorem id_of_saidBy {id : UInt32} {nodes : List ApmsgNode} (said : fact.SaidBy id nodes) : fact.id = id := by
  cases fact with
  | node id' name data => exact said.1
  | station id' name addr signal connected => exact said.1

theorem member_handle {env : Platform} {cfg : Config} {id : UInt32} {d d' : Daemon} {input : Input}
    (member : Member env cfg id d) (accepts : d.Accepts input) (run : d.handle env cfg input = .ok d') :
    Member env cfg id d' := by
  have sound := reachable_sound member.reach
  refine ⟨.step input member.reach accepts run, ?_, (localId_handle sound accepts run).1.trans member.localId, ?_⟩
  · rcases (post_handle sound accepts).of_ok run with ⟨ms, -, rfl⟩ | evolves
    · exact member.keyed
    · exact keyed_evolves member.keyed sound evolves
  · intro fact held
    by_cases received : input.isMessage = true
    · cases input with
      | message addr msg =>
        rcases learned_handle member.keyed sound run held with old | ⟨other, said⟩
        · exact member.foreign fact old
        · rw [id_of_saidBy said, ← member.localId]
          exact other
      | _ => cases received
    · exact member.foreign fact ((ignorant_handle sound accepts (by simpa using received) run).held held)

theorem unaware (id : UInt32) (clock : UInt64) (ssidList : Option (List CString)) (fact : Fact) :
    ¬ fact.HeldBy (.initial id clock ssidList) := by
  intro held
  cases fact with
  | node id name data =>
    obtain ⟨n, node, live, -⟩ := held
    cases live
  | station id name addr signal connected =>
    obtain ⟨n, node, si, info, live, -⟩ := held
    cases live

theorem member_initial (env : Platform) (cfg : Config) (id : UInt32) (clock : UInt64) (ssidList : Option (List CString)) :
    Member env cfg id (.initial id clock ssidList) where
  reach := .start id clock ssidList
  keyed inside := by cases inside
  localId := rfl
  foreign fact held := absurd held (unaware id clock ssidList fact)

theorem members (reach : Gossip.Reachable (daemons env cfg ids) g) (i : ι) :
    ∀ d ∈ g.past i, Member (env i) (cfg i) (ids i) d := by
  refine Gossip.Reachable.invariant (fun i d => Member (env i) (cfg i) (ids i) d) reach ?_ ?_ ?_ i
  · rintro i d ⟨clock, ssidList, rfl⟩
    exact member_initial (env i) (cfg i) (ids i) clock ssidList
  · rintro i d d' member ⟨input, accepts, -, run⟩
    exact member_handle member accepts run
  · rintro i msg d d' member ⟨addr, run⟩
    have accepts : d.Accepts (.message addr msg) := trivial
    exact member_handle member accepts run

end Network

end Usteer
