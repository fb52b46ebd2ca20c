import Usteer.Sta

/-!
The exchange with other daemons (`remote.c`). A received message updates one remote
node per node it lists, found in a tree by the sender's id and the node's name
(`interfaceGetNode`), and the entries of the stations it lists. The periodic update
sends every local node with all its stations and then ages the remote nodes.
-/
namespace Usteer
open SearchTree Timeout
namespace Daemon

/-- `remote_node_cmp`, whose difference is cut to an `int`. -/
def remoteNodeCmp (k1 k2 : UInt64) : ℤ := (k2 - k1).toUInt32.toInt32.toInt

/-! ### Receiving -/

/-- The name under which a remote node was announced. -/
def remoteName (node : UsteerNode) : Option CString :=
  match node.kind with
  | .remote rn => some rn.name
  | .loc _ => none

/-- The nodes that `interface_get_node` walks over: from the leader found for the id as
    long as the key is the id. -/
def remoteGroup (d : Daemon) (id : UInt64) : List NodeId :=
  match d.remoteNodes.find remoteNodeCmp id with
  | none => []
  | some leader =>
    ((d.remoteNodes.toList.dropWhile (fun e => e.2 ≠ leader.2)).takeWhile (fun e => e.1 = id)).map Prod.snd

/-- A new remote node, zeroed but for its names. -/
def newRemoteNode (addr : CString) (id : UInt64) (name : CString) : UsteerNode where
  kind := .remote ⟨id.toUInt32, name, 0⟩
  name := addr ++ '#'.toUInt8 :: name
  staInfo := []
  rrmNr := none
  scriptData := none
  ssid := []
  bssid := 0
  freq := 0
  noise := 0
  nAssoc := 0
  maxAssoc := 0
  load := 0

/-- `interface_get_node` -/
def interfaceGetNode (env : Platform) (d : Daemon) (addr : CString) (id : UInt64) (name : CString) :
    Except Fault (NodeId × Daemon) := do
  match ← search d.node (fun node => remoteName node = some name) (d.remoteGroup id) with
  | some n => return (n, d)
  | none =>
    let n := d.nodes.next
    return (n, { d with
      nodes := d.nodes.alloc (newRemoteNode addr id name)
      remoteNodes := env.remotes.insert remoteNodeCmp (id, n) d.remoteNodes })

/-- `interface_add_station` -/
def interfaceAddStation (env : Platform) (cfg : Config) (d : Daemon) (n : NodeId) (msg : ApmsgSta) :
    Except Fault Daemon := do
  if msg.timeout ≤ 0 then
    return d
  match ← d.usteerStaGet msg.addr true with
  | (none, d) => return d
  | (some sta, d) =>
    let (si, _, d) ← d.usteerStaInfoGet sta n
    let d := d.modifyInfo si (fun info => { info with
      connected := if msg.connected then 1 else 0
      signal := msg.signal
      seen := d.currentTime - msg.seen.toInt64.toUInt64 })
    d.usteerStaInfoUpdateTimeout env cfg si msg.timeout

/-- `usteer_is_valid_ssid` -/
def usteerIsValidSsid (d : Daemon) (ssid : CString) : Bool :=
  match d.ssidList with
  | none => true
  | some list => list.isEmpty || list.any (fun uss => uss.take 33 = ssid.take 33)

/-- What `interface_add_node` copies from a message into a remote node. -/
def takeOver (msg : ApmsgNode) (bssid : MacAddr) (node : UsteerNode) : UsteerNode :=
  { node with
    kind := match node.kind with
      | .remote rn => .remote { rn with check := 0 }
      | .loc ln => .loc ln
    freq := msg.freq
    nAssoc := msg.nAssoc
    maxAssoc := msg.maxAssoc
    noise := msg.noise
    load := msg.load
    ssid := msg.ssid.take 32
    rrmNr := msg.rrmNr
    scriptData := msg.scriptData
    bssid := bssid }

/-- `interface_add_node` -/
def interfaceAddNode (env : Platform) (cfg : Config) (d : Daemon) (addr : CString) (id : UInt64) (msg : ApmsgNode) :
    Except Fault Daemon := do
  if !d.usteerIsValidSsid msg.ssid then
    return d
  let (n, d) ← d.interfaceGetNode env addr id msg.name
  let bssid ← notNull msg.bssid
  let d := d.modifyNode n (takeOver msg bssid)
  msg.stations.foldlM (fun d sta => d.interfaceAddStation env cfg n sta) d

/-- `interface_recv_msg`, for a message that parses. -/
def interfaceRecvMsg (env : Platform) (cfg : Config) (d : Daemon) (addr : CString) (msg : Apmsg) :
    Except Fault Daemon :=
  if msg.id = d.localId then .ok d
  else msg.nodes.foldlM (fun d node => d.interfaceAddNode env cfg addr msg.id.toUInt64 node) d

/-! ### Sending -/

/-- `usteer_send_sta_info` -/
def usteerSendStaInfo (cfg : Config) (d : Daemon) (si : SiId) : Except Fault ApmsgSta := do
  let info ← d.info si
  let sta ← d.sta info.sta
  let seen := (d.currentTime - info.seen).toUInt32.toInt32
  return {
    addr := sta.addr
    connected := info.connected ≠ 0
    signal := info.signal
    seen := seen
    timeout := (cfg.localStaTimeout - seen.toUInt32).toInt32 }

/-- `usteer_send_node`, with one station or with all of them. -/
def usteerSendNode (cfg : Config) (d : Daemon) (n : NodeId) (sta : Option SiId) : Except Fault ApmsgNode := do
  let node ← d.node n
  let stations ← if cfg.remoteDisabled then pure [] else (sta.elim node.staInfo (fun si => [si])).mapM (d.usteerSendStaInfo cfg)
  return {
    name := node.name
    ssid := node.ssid
    bssid := some node.bssid
    freq := node.freq
    nAssoc := node.nAssoc
    maxAssoc := node.maxAssoc
    noise := node.noise
    load := node.load
    stations := stations
    rrmNr := node.rrmNr
    scriptData := node.scriptData }

/-- `usteer_update_init` and `usteer_update_send` around the given nodes. -/
def usteerUpdateSend (cfg : Config) (d : Daemon) (nodes : List ApmsgNode) : Daemon :=
  let d := { d with msgSeq := d.msgSeq + 1 }
  if cfg.remoteDisabled then d else d.log (.update d.currentTime ⟨d.localId, d.msgSeq, nodes⟩)

/-- `usteer_send_sta_update` -/
def usteerSendStaUpdate (cfg : Config) (d : Daemon) (si : SiId) : Except Fault Daemon := do
  let info ← d.info si
  let node ← d.usteerSendNode cfg info.node (some si)
  return d.usteerUpdateSend cfg [node]

/-! ### Ageing -/

/-- `remote_node_free` -/
def remoteNodeFree (env : Platform) (cfg : Config) (d : Daemon) (n : NodeId) : Except Fault Daemon := do
  let d := { d with remoteNodes := env.remotes.delete n d.remoteNodes }
  let d ← d.usteerStaNodeCleanup env cfg n
  return { d with nodes := d.nodes.free n }

/-- `check` of a node, which only remote nodes have. -/
def remoteCheck (node : UsteerNode) : Except Fault Int32 :=
  match node.kind with
  | .remote rn => .ok rn.check
  | .loc _ => .error .nullPointer

/-- The node with its `check` one higher. -/
def bumpCheck (node : UsteerNode) : UsteerNode :=
  match node.kind with
  | .remote rn => { node with kind := .remote { rn with check := rn.check + 1 } }
  | .loc _ => node

/-- The loop body of `usteer_check_timeout`. -/
def ageNode (env : Platform) (cfg : Config) (timeout : Int32) (d : Daemon) (n : NodeId) : Except Fault Daemon := do
  let node ← d.node n
  let check ← remoteCheck node
  let d := d.modifyNode n bumpCheck
  if check > timeout then d.remoteNodeFree env cfg n else return d

/-- `usteer_check_timeout` -/
def usteerCheckTimeout (env : Platform) (cfg : Config) (d : Daemon) : Except Fault Daemon :=
  if cfg.remoteUpdateInterval = 0 then .error .divisionByZero
  else
    let timeout := (cfg.remoteNodeTimeout / cfg.remoteUpdateInterval).toInt32
    d.remoteList.foldlM (ageNode env cfg timeout) d

/-- `usteer_send_update_timer` -/
def usteerSendUpdateTimer (env : Platform) (cfg : Config) (d : Daemon) : Except Fault Daemon := do
  let d := d.usteerUpdateTime
  let nodes ← d.localNodes.mapM (fun n => d.usteerSendNode cfg n none)
  (d.usteerUpdateSend cfg nodes).usteerCheckTimeout env cfg

end Daemon
end Usteer
