import Usteer.Isolation
import Usteer.Netifd
import Usteer.Requests
import Usteer.Survey

/-!
The daemon inside its event loop. Beyond its record, a local node has handles: the timers
that `uloop` holds for it and the requests that libubus has not completed. A `Host` is a
daemon with the handles of its nodes; `step` handles a signal of the loop. A timer fires
when it is set and a request is answered when it is pending (`Due`), whether or not the
node that it points to is still there.
-/
namespace Usteer
open SearchTree Timeout Function Daemon
open Requests (LocalNodeReq)

/-- What libubus holds of the request in `ln->netifd.req`: nothing, a request without a
    reply, or one with a reply that is not complete. -/
inductive StatusRequest where
  | none
  | waiting
  | answered
  deriving DecidableEq, Repr

/-- What `struct usteer_local_node` has beyond the record of the node. `requests` holds the
    requests to hostapd with their timer, and by `registered` the update timer. -/
structure Handles where
  iface : CString
  ifindex : UInt32
  wiphy : Int32
  requests : LocalNodeReq
  loadEwma : ℚ
  time : UInt64
  timeBusy : UInt64
  surveyTimer : Bool
  statusRequest : StatusRequest
  reqPending : Bool
  statusComplete : Bool

/-- A run that the code may not survive: a fault of the daemon, a load that is no `int`, or
    a request that is started in the memory of one that libubus still holds. -/
inductive HostFault where
  | daemon (fault : Fault)
  | load
  | reused
  deriving DecidableEq, Repr

/-- A computation of the daemon. -/
def within {α : Type} (m : Except Fault α) : Except HostFault α := m.mapError .daemon

/-! ### What the system tells -/

/-- The attributes of a survey result. -/
structure SurveyInfo where
  frequency : Option UInt32
  noise : Option UInt8
  channelTime : Option UInt64
  channelTimeBusy : Option UInt64
  deriving DecidableEq, Repr

/-- The attributes of a reply to `NL80211_CMD_GET_INTERFACE`. -/
structure InterfaceReply where
  wiphy : Option UInt32
  ssid : Option (List UInt8)
  deriving DecidableEq, Repr

/-- What a survey of a node yields: the index of its interface and the dump of results, of
    which some have no survey attributes. -/
structure SurveyReply where
  ifindex : UInt32
  dump : List (Option SurveyInfo)
  deriving DecidableEq, Repr

/-- What `usteer_register_node` finds: the index of the interface, whether the family
    nl80211 is there, the interface in the kernel, its first survey, and whether netifd is
    on the bus. -/
structure Found where
  ifindex : UInt32
  family : Bool
  interface : Option InterfaceReply
  survey : SurveyReply
  lookup : Bool
  deriving DecidableEq, Repr

/-- A reply to `rrm_nr_get_own`: its value, and of the first two strings in it the address
    and the SSID. -/
structure RrmReply where
  value : Blob
  bssid : Option (Option MacAddr)
  ssid : Option CString
  deriving DecidableEq, Repr

/-- The address of the node after the reply. -/
def RrmReply.address (reply : RrmReply) (node : UsteerNode) : Except Fault MacAddr :=
  match reply.bssid with
  | some address => notNull address
  | none => .ok node.bssid

/-- A reply of hostapd, as each of the callbacks reads it. -/
structure HostapdReply where
  clients : ClientsReply
  neighbors : Option RrmReply
  deriving DecidableEq, Repr

/-! ### nl80211 -/

/-- `nl80211_survey_result`: what the callback gets. -/
def nl80211SurveyResult : Option SurveyInfo → Option UsteerSurveyData
  | none => none
  | some attrs =>
    match attrs.frequency with
    | none => none
    | some frequency =>
      let counters := match attrs.channelTime, attrs.channelTimeBusy with
        | some time, some busy => (time, busy)
        | _, _ => (0, 0)
      some ⟨frequency.toUInt16, (attrs.noise.getD 0).toInt8, counters.1, counters.2⟩

/-- `ln->nl80211.present` -/
def UsteerNode.present (node : UsteerNode) : Bool :=
  match node.kind with
  | .loc ln => ln.nl80211Present
  | .remote _ => false

/-- The node with another `present`. -/
def UsteerNode.setPresent (node : UsteerNode) (present : Bool) : UsteerNode :=
  match node.kind with
  | .loc ln => { node with kind := .loc { ln with nl80211Present := present } }
  | .remote _ => node

/-- `nl80211_get_survey` with `nl80211_update_node_result` as callback. -/
def nl80211GetSurvey (dump : List (Option SurveyInfo)) (node : UsteerNode) (ln : Handles) :
    Except HostFault (UsteerNode × Handles) :=
  if node.present then
    match (dump.filterMap nl80211SurveyResult).foldlM nl80211UpdateNodeResult ⟨node, ln.loadEwma, ln.time, ln.timeBusy⟩ with
    | some surveyed =>
      .ok (surveyed.node, { ln with loadEwma := surveyed.loadEwma, time := surveyed.time, timeBusy := surveyed.timeBusy })
    | none => .error .load
  else .ok (node, ln)

/-- `nl80211_update_node` -/
def nl80211UpdateNode (reply : SurveyReply) (node : UsteerNode) (ln : Handles) : Except HostFault (UsteerNode × Handles) :=
  nl80211GetSurvey reply.dump node { ln with surveyTimer := true, ifindex := reply.ifindex }

/-- The node with an SSID that the kernel knows, cut to the 32 bytes that there is room for
    beside the terminator. -/
def UsteerNode.copySsid (node : UsteerNode) : Option (List UInt8) → UsteerNode
  | some ssid => { node with ssid := (ssid.take 32).takeWhile (· ≠ 0) }
  | none => node

/-- The rest of `nl80211_init_node`, from the reply of the kernel on. -/
def nl80211Found (survey : SurveyReply) (reply : Option InterfaceReply) (node : UsteerNode) (ln : Handles) :
    Except HostFault (UsteerNode × Handles) :=
  match reply with
  | none => .ok (node, ln)
  | some reply =>
    match reply.wiphy with
    | none => .ok (node, ln)
    | some wiphy =>
      nl80211UpdateNode survey ((node.copySsid reply.ssid).setPresent true) { ln with wiphy := wiphy.toInt32, loadEwma := -1 }

/-- `nl80211_init_node`; `ready` is `_init`. -/
def nl80211InitNode (found : Found) (ready : Bool) (node : UsteerNode) (ln : Handles) :
    Except HostFault (Bool × UsteerNode × Handles) :=
  if !node.isLocal then .ok (ready, node, ln)
  else
    let node := node.setPresent false
    let ln := { ln with wiphy := -1 }
    if ln.ifindex = 0 then .ok (ready, node, ln)
    else if !ready && !found.family then .ok (ready, node, ln)
    else (nl80211Found found.survey found.interface node ln).map fun r => (true, r)

/-- `nl80211_free_node` -/
def nl80211FreeNode (present : Bool) (ln : Handles) : Handles :=
  if present then { ln with surveyTimer := false } else ln

/-! ### netifd -/

/-- `ubus_abort_request` for the request in `netifd.req`, when it is pending. -/
def abortPending (ln : Handles) : Handles := if ln.reqPending then { ln with statusRequest := .none } else ln

/-- `netifd_update_node` -/
def netifdUpdateNode (lookup : Bool) (ln : Handles) : Except HostFault Handles :=
  if ln.statusComplete then .ok ln
  else
    let ln := abortPending ln
    if !lookup then .ok ln
    else if ln.statusRequest = .none then .ok { ln with statusRequest := .waiting, reqPending := true }
    else .error .reused

/-- `netifd_init_node` -/
def netifdInitNode (lookup : Bool) (ln : Handles) : Except HostFault Handles :=
  netifdUpdateNode lookup { ln with statusComplete := false }

/-- `netifd_free_node` -/
def netifdFreeNode (ln : Handles) : Handles := abortPending ln

/-! ### The handles of a node -/

namespace Handles

/-- What `usteer_get_node` allocates. -/
def usteerGetNode : Handles := ⟨[], 0, 0, .usteerGetNode, 0, 0, 0, false, .none, false, false⟩

/-- Nothing, where no local node was yet. -/
def unused : Handles := { usteerGetNode with requests := LocalNodeReq.usteerGetNode.usteerFreeNode }

/-- What `usteer_free_node` does with them. -/
def usteerFreeNode (present : Bool) (ln : Handles) : Handles :=
  let ln := netifdFreeNode (nl80211FreeNode present ln)
  { ln with requests := ln.requests.usteerFreeNode }

/-- A timer that is set or a request that is pending still points to the node. -/
def Live (ln : Handles) : Prop :=
  ln.requests.registered ∨ ln.requests.reqTimer ∨ ln.requests.pending ≠ [] ∨ ln.surveyTimer ∨ ln.statusRequest ≠ .none

end Handles

/-! ### The host -/

/-- A daemon, whether `nl80211.c` has found its family, and the handles of all nodes. -/
structure Host where
  daemon : Daemon
  ready : Bool
  handles : NodeId → Handles

/-- What the event loop delivers. -/
inductive Signal where
  /-- An input that is about no local node as such, or a notification of hostapd. -/
  | input (input : Input)
  /-- A hostapd object appears. -/
  | register (name : CString) (found : Found)
  /-- A hostapd object disappears. -/
  | remove (n : NodeId)
  /-- The timer `update` fires; `lookup` says whether netifd is on the bus. -/
  | update (n : NodeId) (lookup : Bool)
  /-- The timer `req_timer` fires. -/
  | reqTimer (n : NodeId)
  /-- hostapd replies to a request. -/
  | reply (n : NodeId) (req : Requests.Request) (msg : HostapdReply)
  /-- A request to hostapd is complete. -/
  | complete (n : NodeId) (req : Requests.Request)
  /-- The timer `nl80211.update` fires. -/
  | survey (n : NodeId) (reply : SurveyReply)
  /-- netifd replies. -/
  | status (n : NodeId) (msg : List Blobmsg)
  /-- The request to netifd is complete. -/
  | statusComplete (n : NodeId)

namespace Host

/-- The inputs that the loop passes on as they are. -/
def Passes : Input → Prop
  | .advance _ | .staEvent .. | .beaconReport .. | .message .. | .timeouts | .update | .vendorUpdate => True
  | _ => False

/-- The loop may deliver the signal. -/
def Due (h : Host) : Signal → Prop
  | .input input => Passes input ∧ h.daemon.Accepts input
  | .register _ _ => True
  | .remove n => n ∈ h.daemon.localNodes
  | .update n _ => (h.handles n).requests.registered
  | .reqTimer n => (h.handles n).requests.reqTimer
  | .reply n req _ => req ∈ (h.handles n).requests.pending
  | .complete n req => req ∈ (h.handles n).requests.pending
  | .survey n _ => (h.handles n).surveyTimer
  | .status n _ => (h.handles n).statusRequest ≠ .none
  | .statusComplete n => (h.handles n).statusRequest ≠ .none

/-- The host with other handles of a node. -/
def setHandles (h : Host) (n : NodeId) (ln : Handles) : Host := { h with handles := update h.handles n ln }

/-- The host with another record and other handles of a node. -/
def store (h : Host) (n : NodeId) (node : UsteerNode) (ln : Handles) : Host :=
  { h with daemon := h.daemon.modifyNode n fun _ => node, handles := update h.handles n ln }

/-- `usteer_get_node` -/
def usteerGetNode (h : Host) (name : CString) : Except Fault (NodeId × Host) := do
  match ← search h.daemon.node (fun node => node.name = name) h.daemon.localNodes with
  | some n => return (n, h)
  | none =>
    let (n, daemon) ← h.daemon.usteerGetNode name
    return (n, { h with daemon := daemon, handles := update h.handles n .usteerGetNode })

/-- `usteer_register_node`, with the handlers in one of their orders; they do not depend on
    each other. -/
def usteerRegisterNode (h : Host) (name : CString) (found : Found) : Except HostFault Host := do
  if name.take 8 ≠ hostapdDot then
    return h
  let (n, h) ← within (h.usteerGetNode name)
  let node ← within (h.daemon.node n)
  let (ready, node, ln) ←
    nl80211InitNode found h.ready node { h.handles n with iface := name.drop 8, ifindex := found.ifindex }
  let ln ← netifdInitNode found.lookup ln
  return { h.store n node ln with ready := ready }

/-- `usteer_free_node` -/
def usteerFreeNode (env : Platform) (cfg : Config) (h : Host) (n : NodeId) : Except HostFault Host := do
  let node ← within (h.daemon.node n)
  let daemon ← within (h.daemon.usteerFreeNode env cfg n)
  return { h with daemon := daemon, handles := update h.handles n ((h.handles n).usteerFreeNode node.present) }

/-- `usteer_local_node_update` -/
def usteerLocalNodeUpdate (cfg : Config) (h : Host) (n : NodeId) (lookup : Bool) : Except HostFault Host := do
  let _ ← within (h.daemon.node n)
  let ln ← netifdUpdateNode lookup (h.handles n)
  let daemon ← within (h.daemon.usteerLocalNodeKick cfg n)
  return { h with
    daemon := daemon
    handles := update h.handles n { ln with requests := ln.requests.usteerLocalNodeUpdate } }

/-- `usteer_local_node_state_next`, when its timer fires. -/
def usteerLocalNodeStateNext (h : Host) (n : NodeId) : Except HostFault Host := do
  let _ ← within (h.daemon.node n)
  let ln := h.handles n
  return h.setHandles n { ln with requests := { ln.requests with reqTimer := false }.usteerLocalNodeStateNext }

/-- What `usteer_local_node_rrm_nr_cb` does in the end: a node with an SSID that is not on
    the list is freed. -/
def checkSsid (env : Platform) (cfg : Config) (h : Host) (n : NodeId) : Option CString → Except HostFault Host
  | some ssid => if h.daemon.usteerIsValidSsid ssid then .ok h else h.usteerFreeNode env cfg n
  | none => .ok h

/-- `usteer_local_node_rrm_nr_cb` -/
def usteerLocalNodeRrmNrCb (env : Platform) (cfg : Config) (h : Host) (n : NodeId) :
    Option RrmReply → Except HostFault Host
  | none => .ok h
  | some reply => do
    let node ← within (h.daemon.node n)
    let bssid ← within (reply.address node)
    (h.store n { node with rrmNr := some reply.value, bssid := bssid } (h.handles n)).checkSsid env cfg n reply.ssid

/-- A reply of hostapd goes to `data_cb`. -/
def reply (env : Platform) (cfg : Config) (h : Host) (n : NodeId) (req : Requests.Request) (msg : HostapdReply) :
    Except HostFault Host := do
  let _ ← within (h.daemon.node n)
  let ln := h.handles n
  let h := h.setHandles n { ln with requests := ln.requests.reply req false }
  match ln.requests.dataCb with
  | none => return h
  | some .listCb =>
    let daemon ← within (h.daemon.usteerLocalNodeListCb env cfg n msg.clients)
    return { h with daemon := daemon }
  | some .rrmNrCb => h.usteerLocalNodeRrmNrCb env cfg n msg.neighbors

/-- The completion of a request to hostapd goes to `complete_cb`. -/
def complete (h : Host) (n : NodeId) (req : Requests.Request) : Except HostFault Host := do
  let _ ← within (h.daemon.node n)
  let ln := h.handles n
  return h.setHandles n { ln with requests := ln.requests.complete req }

/-- The timer `nl80211.update` fires. -/
def survey (h : Host) (n : NodeId) (reply : SurveyReply) : Except HostFault Host := do
  let node ← within (h.daemon.node n)
  let (node, ln) ← nl80211UpdateNode reply node { h.handles n with surveyTimer := false }
  return h.store n node ln

/-- `netifd_status_cb` -/
def netifdStatusCb (h : Host) (n : NodeId) (msg : List Blobmsg) : Except HostFault Host := do
  let node ← within (h.daemon.node n)
  let ln := h.handles n
  let status := Usteer.netifdStatusCb ln.iface ⟨node.maxAssoc, ln.statusComplete⟩ msg
  return h.store n { node with maxAssoc := status.maxAssoc }
    { ln with statusRequest := .answered, reqPending := false, statusComplete := status.statusComplete }

/-- libubus completes the request in `netifd.req`, which has no callback for it. -/
def statusDone (h : Host) (n : NodeId) : Except HostFault Host := do
  let _ ← within (h.daemon.node n)
  return h.setHandles n { h.handles n with statusRequest := .none }

/-- The host after a signal. -/
def step (env : Platform) (cfg : Config) (h : Host) : Signal → Except HostFault Host
  | .input input => do
    let daemon ← within (h.daemon.handle env cfg input)
    return { h with daemon := daemon }
  | .register name found => h.usteerRegisterNode name found
  | .remove n => h.usteerFreeNode env cfg n
  | .update n lookup => h.usteerLocalNodeUpdate cfg n lookup
  | .reqTimer n => h.usteerLocalNodeStateNext n
  | .reply n req msg => h.reply env cfg n req msg
  | .complete n req => h.complete n req
  | .survey n reply => h.survey n reply
  | .status n msg => h.netifdStatusCb n msg
  | .statusComplete n => h.statusDone n

/-- A host that has not been told of any hostapd object yet. -/
def initial (localId : UInt32) (clock : UInt64) (ssidList : Option (List CString)) : Host :=
  ⟨.initial localId clock ssidList, false, fun _ => .unused⟩

end Host
end Usteer
