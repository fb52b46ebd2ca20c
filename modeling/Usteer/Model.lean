import Mathlib
import Usteer.Heap
import Usteer.Timeout

/-!
The data of the daemon (`usteer.h`, `node.h`, `hearing_map.h`, `remote.h`): its
configuration, nodes, stations, station entries and beacon reports, the messages
it exchanges with other daemons, and its whole state. Every record that the code
allocates lives in a heap and is referred to by its address, and every list
threaded through records is a list of addresses, so a forgotten link or a freed
record stays visible (`Fault`). What happens outside the state (calls to hostapd,
messages sent, a client being looked at by the roam check) is kept in a history.
-/
namespace Usteer
open SearchTree Timeout

/-- An Ethernet address, its six bytes read as one number. -/
abbrev MacAddr := BitVec 48
/-- The bytes of a C string before its terminator. -/
abbrev CString := List UInt8
/-- The bytes of a message attribute. -/
abbrev Blob := List UInt8

abbrev StaId := Nat
abbrev SiId := Nat
abbrev NodeId := Nat

/-- What a run of the C code may not survive. -/
inductive Fault where
  | useAfterFree
  | nullPointer
  | divisionByZero
  | noTermination
  | outOfBounds
  | unterminated
  deriving DecidableEq, Repr

/-- `struct usteer_config` -/
structure Config where
  syslog : Bool
  remoteDisabled : Bool
  debugLevel : UInt32
  staBlockTimeout : UInt32
  localStaTimeout : UInt32
  localStaUpdate : UInt32
  maxRetryBand : UInt32
  seenPolicyTimeout : UInt32
  bandSteeringThreshold : UInt32
  loadBalancingThreshold : UInt32
  vendorUpdateInterval : UInt32
  remoteUpdateInterval : UInt32
  remoteNodeTimeout : UInt32
  minSnr : Int32
  minConnectSnr : Int32
  signalDiffThreshold : UInt32
  roamScanSnr : Int32
  roamScanTries : UInt32
  roamScanInterval : UInt32
  roamTriggerSnr : Int32
  roamTriggerInterval : UInt32
  roamKickDelay : UInt32
  initialConnectDelay : UInt32
  loadKickEnabled : Bool
  loadKickThreshold : UInt32
  loadKickDelay : UInt32
  loadKickMinClients : UInt32
  loadKickReasonCode : UInt32
  kickClientActiveSec : UInt32
  kickClientActiveBits : UInt32
  beaconReportInvalideTimeout : UInt32
  beaconRequestFrequency : UInt32
  beaconRequestSignalModifier : UInt32
  deriving DecidableEq, Repr

/-- `usteer_init_defaults` -/
def usteerInitDefaults : Config where
  syslog := false
  remoteDisabled := false
  debugLevel := 0
  staBlockTimeout := 30 * 1000
  localStaTimeout := 120 * 1000
  localStaUpdate := 1 * 1000
  maxRetryBand := 5
  seenPolicyTimeout := 30 * 1000
  bandSteeringThreshold := 5
  loadBalancingThreshold := 5
  vendorUpdateInterval := 60 * 1000
  remoteUpdateInterval := 1000
  remoteNodeTimeout := 120 * 1000
  minSnr := 0
  minConnectSnr := 0
  signalDiffThreshold := 0
  roamScanSnr := 0
  roamScanTries := 3
  roamScanInterval := 10 * 1000
  roamTriggerSnr := 0
  roamTriggerInterval := 60 * 1000
  roamKickDelay := 100
  initialConnectDelay := 0
  loadKickEnabled := false
  loadKickThreshold := 75
  loadKickDelay := 10 * 1000
  loadKickMinClients := 10
  loadKickReasonCode := 5
  kickClientActiveSec := 30
  kickClientActiveBits := 50000
  beaconReportInvalideTimeout := 200
  beaconRequestFrequency := 30 * 1000
  beaconRequestSignalModifier := 20 * 1000

/-- `NO_SIGNAL` -/
def noSignal : Int32 := 0xff

/-! ### Nodes -/

/-- What only a local node has (`struct usteer_local_node`). -/
structure LocalNode where
  nl80211Present : Bool
  loadThrCount : Int32
  deriving DecidableEq, Repr

/-- What only a remote node has (`struct usteer_remote_node`). -/
structure RemoteNode where
  id : UInt32
  name : CString
  check : Int32
  deriving DecidableEq, Repr

/-- `enum usteer_node_type`, with the record around the node. -/
inductive NodeKind where
  | loc (node : LocalNode)
  | remote (node : RemoteNode)
  deriving DecidableEq, Repr

/-- `struct usteer_node` -/
structure UsteerNode where
  kind : NodeKind
  name : CString
  staInfo : List SiId
  rrmNr : Option Blob
  scriptData : Option Blob
  ssid : CString
  bssid : MacAddr
  freq : Int32
  noise : Int32
  nAssoc : Int32
  maxAssoc : Int32
  load : Int32
  deriving DecidableEq, Repr

/-- `load_thr_count`, which only a local node has. -/
def UsteerNode.loadThrCount (node : UsteerNode) : Except Fault Int32 :=
  match node.kind with
  | .loc ln => .ok ln.loadThrCount
  | .remote _ => .error .nullPointer

/-- The node with another `load_thr_count`. -/
def UsteerNode.setLoadThrCount (node : UsteerNode) (count : Int32) : UsteerNode :=
  match node.kind with
  | .loc ln => { node with kind := .loc { ln with loadThrCount := count } }
  | .remote _ => node

/-! ### Stations -/

/-- `enum usteer_event_type` -/
inductive EventType where
  | probe
  | assoc
  | auth
  | beacon
  deriving DecidableEq, Repr

/-- `struct sta_info_stats` -/
structure StaInfoStats where
  requests : UInt32
  blockedCur : UInt32
  blockedTotal : UInt32
  blockedLastTime : UInt32
  deriving DecidableEq, Repr

/-- `enum roam_trigger_state` -/
inductive RoamTriggerState where
  | idle
  | scan
  | scanDone
  | waitKick
  | notifyKick
  | kick
  deriving DecidableEq, Repr

/-- `struct sta_active_bytes`: the two latest samples of received and sent bytes. -/
structure StaActiveBytes where
  oldRx : UInt64
  oldTx : UInt64
  newRx : UInt64
  newTx : UInt64
  lastTime : UInt64
  deriving DecidableEq, Repr

/-- `struct beacon_request` -/
structure BeaconRequest where
  band : Int32
  failedRequests : UInt8
  lastReportTime : UInt64
  lastRequestTime : UInt64
  deriving DecidableEq, Repr

/-- `struct beacon_report` -/
structure BeaconReport where
  address : SiId
  bssid : MacAddr
  rcpi : UInt16
  rsni : UInt16
  opClass : UInt16
  channel : UInt16
  usteerTime : UInt64
  deriving DecidableEq, Repr

/-- The values of the two-bit field `connected`. -/
instance connectedValues : NeZero 4 := ⟨by decide⟩

/-- `struct sta_info`; `connected` is the two-bit field. -/
structure StaInfo where
  node : NodeId
  sta : StaId
  beaconReports : List BeaconReport
  stats : EventType → StaInfoStats
  created : UInt64
  seen : UInt64
  signal : Int32
  roamState : RoamTriggerState
  roamTries : UInt8
  roamEvent : UInt64
  roamKick : UInt64
  roamScanDone : UInt64
  kickCount : Int32
  activeBytes : StaActiveBytes
  beaconRequest : BeaconRequest
  scanBand : Bool
  connected : Fin 4

/-- A zeroed entry, as `calloc` returns it, with its owners. -/
def StaInfo.zeroed (node : NodeId) (sta : StaId) (band : Int32) (created : UInt64) : StaInfo where
  node := node
  sta := sta
  beaconReports := []
  stats := fun _ => ⟨0, 0, 0, 0⟩
  created := created
  seen := 0
  signal := 0
  roamState := .idle
  roamTries := 0
  roamEvent := 0
  roamKick := 0
  roamScanDone := 0
  kickCount := 0
  activeBytes := ⟨0, 0, 0, 0, 0⟩
  beaconRequest := ⟨band, 0, 0, 0⟩
  scanBand := false
  connected := 0

/-- `struct sta` -/
structure Sta where
  addr : MacAddr
  nodes : List SiId
  seen2ghz : Bool
  seen5ghz : Bool
  deriving DecidableEq, Repr

/-! ### Messages between daemons -/

/-- `struct apmsg_sta` -/
structure ApmsgSta where
  addr : MacAddr
  connected : Bool
  signal : Int32
  timeout : Int32
  seen : Int32
  deriving DecidableEq, Repr

/-- `struct apmsg_node`, the address text read by `ether_aton` and the stations of
    the attribute that parse. -/
structure ApmsgNode where
  name : CString
  ssid : CString
  bssid : Option MacAddr
  freq : Int32
  nAssoc : Int32
  maxAssoc : Int32
  noise : Int32
  load : Int32
  stations : List ApmsgSta
  rrmNr : Option Blob
  scriptData : Option Blob
  deriving DecidableEq, Repr

/-- `struct apmsg`, with the nodes of the attribute that parse. -/
structure Apmsg where
  id : UInt32
  seq : UInt32
  nodes : List ApmsgNode
  deriving DecidableEq, Repr

/-! ### The daemon -/

/-- The three places that kick a client. -/
inductive KickReason where
  | roam
  | snr
  | load
  deriving DecidableEq, Repr

/-- What the history records, with the value of `current_time`. -/
inductive Event where
  /-- `usteer_local_node_roam_check` looks at an entry of its node. -/
  | visit (time : UInt64) (si : SiId) (info : StaInfo) (node : UsteerNode)
  /-- `usteer_ubus_trigger_client_scan` -/
  | clientScan (time : UInt64) (si : SiId) (opClass : UInt32)
  /-- `usteer_ubus_notify_client_disassoc` -/
  | disassocImminent (time : UInt64) (si : SiId)
  /-- `usteer_ubus_kick_client` -/
  | kick (time : UInt64) (si : SiId) (why : KickReason)
  /-- `usteer_beacon_request_send` -/
  | beaconRequest (time : UInt64) (si : SiId) (channel opClass : Int32) (mode : UInt8)
  /-- `usteer_update_send` -/
  | update (time : UInt64) (msg : Apmsg)

/-- What the model does not fix: how the balanced trees are reshaped, and the
    floating-point comparison of a time span with the beacon request period. -/
structure Platform where
  timeouts : Balancing UInt32 SiId
  remotes : Balancing UInt64 NodeId
  belowRequestPeriod : Config → (signal : Int32) → (span : UInt64) → Bool

/-- The state of a daemon. `clock` is the monotonic clock in milliseconds,
    `currentTime` its value at the last `usteer_update_time`. -/
structure Daemon where
  clock : UInt64
  currentTime : UInt64
  stations : List StaId
  stas : Heap Sta
  infos : Heap StaInfo
  nodes : Heap UsteerNode
  localNodes : List NodeId
  remoteNodes : Index UInt64 NodeId
  tq : Queue SiId
  ssidList : Option (List CString)
  localId : UInt32
  msgSeq : UInt32
  trace : List Event

namespace Daemon

/-- A daemon that has not heard of anything yet. -/
def initial (localId : UInt32) (clock : UInt64) (ssidList : Option (List CString)) : Daemon where
  clock := clock
  currentTime := clock
  stations := []
  stas := .empty
  infos := .empty
  nodes := .empty
  localNodes := []
  remoteNodes := .leaf
  tq := usteerTimeoutInit
  ssidList := ssidList
  localId := localId
  msgSeq := 0
  trace := []

/-- The entry at an address. -/
def info (d : Daemon) (si : SiId) : Except Fault StaInfo :=
  match d.infos.get? si with
  | some info => .ok info
  | none => .error .useAfterFree

/-- The station at an address. -/
def sta (d : Daemon) (id : StaId) : Except Fault Sta :=
  match d.stas.get? id with
  | some sta => .ok sta
  | none => .error .useAfterFree

/-- The node at an address. -/
def node (d : Daemon) (id : NodeId) : Except Fault UsteerNode :=
  match d.nodes.get? id with
  | some node => .ok node
  | none => .error .useAfterFree

/-- A pointer that may be null. -/
def notNull {α : Type} : Option α → Except Fault α
  | some a => .ok a
  | none => .error .nullPointer

def modifyInfo (d : Daemon) (si : SiId) (f : StaInfo → StaInfo) : Daemon := { d with infos := d.infos.modify si f }
def modifySta (d : Daemon) (id : StaId) (f : Sta → Sta) : Daemon := { d with stas := d.stas.modify id f }
def modifyNode (d : Daemon) (id : NodeId) (f : UsteerNode → UsteerNode) : Daemon :=
  { d with nodes := d.nodes.modify id f }

/-- The history grows by an event. -/
def log (d : Daemon) (e : Event) : Daemon := { d with trace := d.trace ++ [e] }

/-- The remote nodes in the order of their tree. -/
def remoteList (d : Daemon) : List NodeId := d.remoteNodes.toList.map Prod.snd

/-- `usteer_update_time` -/
def usteerUpdateTime (d : Daemon) : Daemon := { d with currentTime := d.clock }

section Rules

variable {F : Fault → Prop} {d : Daemon}

theorem info_ok {si : SiId} {info : StaInfo} (live : d.infos.get? si = some info) : d.info si = .ok info := by
  rw [Daemon.info, live]

theorem sta_ok {s : StaId} {sta : Sta} (live : d.stas.get? s = some sta) : d.sta s = .ok sta := by
  rw [Daemon.sta, live]

theorem node_ok {n : NodeId} {node : UsteerNode} (live : d.nodes.get? n = some node) : d.node n = .ok node := by
  rw [Daemon.node, live]

@[simp] theorem post_info (d : Daemon) (si : SiId) (P : StaInfo → Prop) :
    Post F (d.info si) P ↔
      (∀ info, d.infos.get? si = some info → P info) ∧ (d.infos.get? si = none → F .useAfterFree) := by
  unfold Daemon.info
  cases found : d.infos.get? si with
  | none => simp
  | some info => simp

@[simp] theorem post_sta (d : Daemon) (id : StaId) (P : Sta → Prop) :
    Post F (d.sta id) P ↔
      (∀ sta, d.stas.get? id = some sta → P sta) ∧ (d.stas.get? id = none → F .useAfterFree) := by
  unfold Daemon.sta
  cases found : d.stas.get? id with
  | none => simp
  | some sta => simp

@[simp] theorem post_node (d : Daemon) (id : NodeId) (P : UsteerNode → Prop) :
    Post F (d.node id) P ↔
      (∀ node, d.nodes.get? id = some node → P node) ∧ (d.nodes.get? id = none → F .useAfterFree) := by
  unfold Daemon.node
  cases found : d.nodes.get? id with
  | none => simp
  | some node => simp

@[simp] theorem post_notNull {α : Type} (o : Option α) (P : α → Prop) :
    Post F (notNull o) P ↔ (∀ a, o = some a → P a) ∧ (o = none → F .nullPointer) := by
  cases o with
  | none => simp [notNull]
  | some a => simp [notNull]

end Rules

end Daemon
end Usteer
