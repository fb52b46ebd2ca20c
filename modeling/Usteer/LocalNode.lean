import Usteer.Policy
import Usteer.Remote

/-!
What a local node receives (`local_node.c`, with `usteer_handle_sta_event` of `sta.c`
and `nl80211_update_sta` of `nl80211.c`): requests of stations, which may be refused,
and the client table that hostapd returns, which decides who is connected. Nodes come
with the registration of a hostapd object and go with its removal.
-/
namespace Usteer
open SearchTree Timeout
namespace Daemon

/-! ### Requests of stations -/

/-- The first lines of `usteer_handle_sta_event`: the statistics of the request, with
    `diff` from the last refusal to now in 32 bits. -/
def countRequest (cfg : Config) (currentTime : UInt64) (stats : StaInfoStats) : StaInfoStats :=
  let diff := stats.blockedLastTime - currentTime.toUInt32
  { stats with
    requests := stats.requests + 1
    blockedCur := if diff > cfg.staBlockTimeout then 0 else stats.blockedCur }

/-- The last lines of `usteer_handle_sta_event`: the statistics after the answer. -/
def countAnswer (currentTime : UInt64) (ret : Bool) (stats : StaInfoStats) : StaInfoStats :=
  if ret then { stats with blockedCur := 0 }
  else { stats with
    blockedCur := stats.blockedCur + 1
    blockedTotal := stats.blockedTotal + 1
    blockedLastTime := currentTime.toUInt32 }

/-- The entry with the statistics of one event type changed. -/
def setStats (type : EventType) (f : StaInfoStats → StaInfoStats) (info : StaInfo) : StaInfo :=
  { info with stats := Function.update info.stats type (f (info.stats type)) }

/-- The station is marked as seen on the band of the frequency. -/
def markBand (freq : Int32) (sta : Sta) : Sta :=
  if freq < 4000 then { sta with seen2ghz := true } else { sta with seen5ghz := true }

/-- `usteer_handle_sta_event`, with its answer. -/
def usteerHandleStaEvent (env : Platform) (cfg : Config) (d : Daemon) (n : NodeId) (addr : MacAddr)
    (type : EventType) (freq signal : Int32) : Except Fault (Bool × Daemon) := do
  let (sta, d) ← d.usteerStaGet addr true
  let sta ← notNull sta
  let d := d.modifySta sta (markBand freq)
  let (si, create, d) ← d.usteerStaInfoGet sta n
  let d ← d.usteerStaInfoUpdate env cfg si signal false
  let _ ← d.info si
  let d := d.modifyInfo si (fun info =>
    setStats type (countRequest cfg d.currentTime) { info with roamScanDone := d.currentTime })
  let (ret, d) ← d.usteerCheckRequest cfg si type
  let d := d.modifyInfo si (setStats type (countAnswer d.currentTime ret))
  let d ← if create then d.usteerSendStaUpdate cfg si else pure d
  return (ret, d)

/-! ### Notifications of hostapd -/

/-- `event_types`: `"probe"`, `"assoc"`, `"auth"` and `"beacon-report"`. -/
def eventTypes : EventType → CString
  | .probe => [112, 114, 111, 98, 101]
  | .assoc => [97, 115, 115, 111, 99]
  | .auth => [97, 117, 116, 104]
  | .beacon => [98, 101, 97, 99, 111, 110, 45, 114, 101, 112, 111, 114, 116]

/-- The loop of `usteer_handle_event` over `event_types`; nothing found is the value
    `__EVENT_TYPE_MAX`. -/
def eventType (method : CString) : Option EventType :=
  [EventType.probe, .assoc, .auth, .beacon].find? (fun type => eventTypes type = method)

/-- The attributes of a notification that one of the two parsers looks for, those that
    pass its policy; the address texts are as `ether_aton` reads them. `target` is parsed
    and never looked at. -/
structure EventMsg where
  address : Option (Option MacAddr)
  signal : Option Int32
  freq : Option Int32
  opClass : Option UInt16
  channel : Option UInt16
  rcpi : Option UInt16
  rsni : Option UInt16
  bssid : Option (Option MacAddr)
  deriving DecidableEq, Repr

/-- The attributes that a beacon report has. -/
def EventMsg.report (msg : EventMsg) : BeaconReportMsg :=
  ⟨msg.address, msg.opClass, msg.channel, msg.rcpi, msg.rsni, msg.bssid⟩

/-- `usteer_handle_sta_event` with a type that is not declared: `stats` has no such
    element. -/
def handleUndeclared (env : Platform) (cfg : Config) (d : Daemon) (n : NodeId) (addr : MacAddr) (freq signal : Int32) :
    Except Fault (Bool × Daemon) := do
  let (sta, d) ← d.usteerStaGet addr true
  let sta ← notNull sta
  let d := d.modifySta sta (markBand freq)
  let (si, _, d) ← d.usteerStaInfoGet sta n
  let d ← d.usteerStaInfoUpdate env cfg si signal false
  let _ ← d.info si
  throw .outOfBounds

/-- What `usteer_handle_event` returns: 0, `UBUS_STATUS_INVALID_ARGUMENT` or 17
    (`WLAN_STATUS_AP_UNABLE_TO_HANDLE_NEW_STA`). -/
inductive EventStatus where
  | handled
  | invalidArgument
  | unableToHandleNewSta
  deriving DecidableEq, Repr

/-- The status of an answer. -/
def EventStatus.ofAnswer (ret : Bool) : EventStatus := if ret then .handled else .unableToHandleNewSta

/-- `usteer_handle_event` -/
def usteerHandleEvent (env : Platform) (cfg : Config) (d : Daemon) (n : NodeId) (method : CString) (msg : EventMsg) :
    Except Fault (EventStatus × Daemon) := do
  let d := d.usteerUpdateTime
  let evType := eventType method
  if evType = some .beacon then
    let d ← d.usteerHandleEventBeaconReport cfg n msg.report
    return (.handled, d)
  match msg.address, msg.freq with
  | some address, some freq =>
    let signal := msg.signal.getD noSignal
    match address with
    | none => return (.invalidArgument, d)
    | some addr =>
      let (ret, d) ← match evType with
        | some type => d.usteerHandleStaEvent env cfg n addr type freq signal
        | none => d.handleUndeclared env cfg n addr freq signal
      return (.ofAnswer ret, d)
  | _, _ => return (.invalidArgument, d)

/-! ### The client table -/

/-- One client of a `get_clients` reply: its name as `ether_aton` reads it, what the
    kernel answers about the station (nothing, no average, or the average signal),
    the `assoc` flag and the `rx` and `tx` counters of `bytes`. -/
structure ClientEntry where
  addr : Option MacAddr
  station : Option (Option Int8)
  assoc : Option Bool
  bytes : Option (Option UInt64 × Option UInt64)
  deriving DecidableEq, Repr

/-- `nl80211_update_sta` -/
def nl80211UpdateSta (env : Platform) (cfg : Config) (d : Daemon) (n : NodeId) (si : SiId)
    (station : Option (Option Int8)) : Except Fault Daemon := do
  let node ← d.node n
  match node.kind, station with
  | .loc ⟨true, _⟩, some signalAvg =>
    d.usteerStaInfoUpdate env cfg si (signalAvg.elim noSignal Int8.toInt32) true
  | _, _ => return d

/-- `usteer_local_node_assoc_update` -/
def usteerLocalNodeAssocUpdate (d : Daemon) (si : SiId) (assoc : Option Bool) : Except Fault Daemon := do
  let d := if assoc = some true then d.modifyInfo si (fun info => { info with connected := 1 }) else d
  let info ← d.info si
  let node ← d.node info.node
  let _ ← d.sta info.sta
  return d.modifySta info.sta (markBand node.freq)

/-- The samples after `usteer_update_client_active_bytes`. -/
def sampleBytes (cfg : Config) (ctime : UInt64) (bytes : Option (Option UInt64 × Option UInt64))
    (active : StaActiveBytes) : StaActiveBytes :=
  if ctime - active.lastTime < (cfg.kickClientActiveSec * 1000).toUInt64 then active
  else
    match bytes with
    | some (some rx, some tx) => ⟨active.newRx, active.newTx, rx, tx, ctime⟩
    | _ => active

/-- `usteer_update_client_active_bytes` -/
def usteerUpdateClientActiveBytes (cfg : Config) (d : Daemon) (si : SiId)
    (bytes : Option (Option UInt64 × Option UInt64)) : Daemon :=
  d.modifyInfo si (fun info => { info with activeBytes := sampleBytes cfg d.currentTime bytes info.activeBytes })

/-- The loop body of `usteer_local_node_set_assoc` over the client table, with the
    count of connected clients. -/
def listClient (env : Platform) (cfg : Config) (n : NodeId) (acc : Int32 × Daemon) (client : ClientEntry) :
    Except Fault (Int32 × Daemon) := do
  let (nAssoc, d) := acc
  match client.addr with
  | none => return (nAssoc, d)
  | some addr =>
    let (sta, d) ← d.usteerStaGet addr true
    let sta ← notNull sta
    let (si, _, d) ← d.usteerStaInfoGet sta n
    let d ← d.nl80211UpdateSta env cfg n si client.station
    let d ← d.usteerLocalNodeAssocUpdate si client.assoc
    let info ← d.info si
    let nAssoc := if info.connected = 1 then nAssoc + 1 else nAssoc
    let d := d.usteerUpdateClientActiveBytes cfg si client.bytes
    let d ← d.usteerBeaconRequestCheck env cfg si
    return (nAssoc, d)

/-- The first loop of `usteer_local_node_set_assoc`: connected clients await
    confirmation. -/
def awaitConfirmation (d : Daemon) (si : SiId) : Except Fault Daemon := do
  let info ← d.info si
  return if info.connected ≠ 0 then d.modifyInfo si (fun info => { info with connected := 2 }) else d

/-- The last loop of `usteer_local_node_set_assoc`: unconfirmed clients are gone. The loop
    goes on from the entry, which a timeout out of range has freed. -/
def dropUnconfirmed (env : Platform) (cfg : Config) (d : Daemon) (si : SiId) : Except Fault Daemon := do
  let info ← d.info si
  if info.connected ≠ 2 then
    return d
  let d := d.modifyInfo si (fun info => { info with connected := 0 })
  let d ← d.usteerStaInfoUpdateTimeout env cfg si cfg.localStaTimeout.toInt32
  let _ ← d.info si
  return d

/-- `usteer_local_node_set_assoc` -/
def usteerLocalNodeSetAssoc (env : Platform) (cfg : Config) (d : Daemon) (n : NodeId) (clients : List ClientEntry) :
    Except Fault Daemon := do
  let node ← d.node n
  let d ← node.staInfo.foldlM awaitConfirmation d
  let (nAssoc, d) ← clients.foldlM (listClient env cfg n) (0, d)
  let d := d.modifyNode n (fun node => { node with nAssoc := nAssoc })
  let node ← d.node n
  node.staInfo.foldlM (dropUnconfirmed env cfg) d

/-- A `get_clients` reply: the attributes present. -/
structure ClientsReply where
  freq : Option Int32
  clients : Option (List ClientEntry)
  deriving DecidableEq, Repr

/-- `usteer_local_node_list_cb` -/
def usteerLocalNodeListCb (env : Platform) (cfg : Config) (d : Daemon) (n : NodeId) (msg : ClientsReply) :
    Except Fault Daemon :=
  match msg.freq, msg.clients with
  | some freq, some clients =>
    (d.modifyNode n (fun node => { node with freq := freq })).usteerLocalNodeSetAssoc env cfg n clients
  | _, _ => .ok d

/-! ### Registration and removal -/

/-- A new local node, zeroed but for its name. -/
def newLocalNode (name : CString) : UsteerNode where
  kind := .loc ⟨false, 0⟩
  name := name
  staInfo := []
  rrmNr := none
  scriptData := none
  ssid := []
  bssid := 0
  freq := 0
  noise := 0
  nAssoc := 0
  maxAssoc := 0
  load := 0

/-- The place of a name among local nodes in the order of `strcmp`. -/
def insertByName (d : Daemon) (n : NodeId) (name : CString) : List NodeId → List NodeId
  | [] => [n]
  | m :: rest =>
    if (d.nodes.get? m).any (fun node => node.name < name) then m :: d.insertByName n name rest else n :: m :: rest

/-- `usteer_get_node` -/
def usteerGetNode (d : Daemon) (name : CString) : Except Fault (NodeId × Daemon) := do
  match ← search d.node (fun node => node.name = name) d.localNodes with
  | some n => return (n, d)
  | none =>
    let n := d.nodes.next
    return (n, { d with nodes := d.nodes.alloc (newLocalNode name), localNodes := d.insertByName n name d.localNodes })

/-- `"hostapd."` -/
def hostapdDot : CString := [104, 111, 115, 116, 97, 112, 100, 46]

/-- `usteer_register_node`; what its handlers find out about the interface is a
    `NodeStatus`. -/
def usteerRegisterNode (d : Daemon) (name : CString) : Except Fault Daemon := do
  if name.take 8 ≠ hostapdDot then
    return d
  let (_, d) ← d.usteerGetNode name
  return d

/-- What other subsystems write into a local node: netifd, nl80211 and the reply to
    `rrm_nr_get_own`. -/
structure NodeStatus where
  ssid : CString
  bssid : MacAddr
  freq : Int32
  noise : Int32
  maxAssoc : Int32
  load : Int32
  rrmNr : Option Blob
  scriptData : Option Blob
  nl80211Present : Bool
  deriving DecidableEq, Repr

/-- The node with another status. -/
def NodeStatus.apply (status : NodeStatus) (node : UsteerNode) : UsteerNode :=
  { node with
    kind := match node.kind with
      | .loc ln => .loc { ln with nl80211Present := status.nl80211Present }
      | .remote rn => .remote rn
    ssid := status.ssid
    bssid := status.bssid
    freq := status.freq
    noise := status.noise
    maxAssoc := status.maxAssoc
    load := status.load
    rrmNr := status.rrmNr
    scriptData := status.scriptData }

/-- `usteer_free_node` -/
def usteerFreeNode (env : Platform) (cfg : Config) (d : Daemon) (n : NodeId) : Except Fault Daemon := do
  let d ← d.usteerStaNodeCleanup env cfg n
  return { d with localNodes := d.localNodes.erase n, nodes := d.nodes.free n }

end Daemon
end Usteer
