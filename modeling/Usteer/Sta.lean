import Usteer.Model

/-!
The station table (`sta.c`) and the list of beacon reports each entry owns
(`usteer_beacon_report_cleanup` of `hearing_map.c`). A station is created on first
mention and has one entry per node it was heard on; an entry that is not connected
waits in the timeout queue, and its deletion takes it out of the queue, out of its
node's list and out of its station's list, and the station with the last of them.
-/
namespace Usteer
open SearchTree Timeout

/-- The first address of a list, followed one after the other, whose value fits. -/
def search {α : Type} (follow : Nat → Except Fault α) (fits : α → Bool) : List Nat → Except Fault (Option Nat)
  | [] => .ok none
  | k :: rest => do
    let value ← follow k
    if fits value then return some k
    search follow fits rest

namespace Daemon

/-! ### Beacon reports -/

/-- Whether `usteer_beacon_report_delete` frees a report. -/
def usteerBeaconReportDelete (cfg : Config) (currentTime : UInt64) (bssid : MacAddr) (br : BeaconReport) : Bool :=
  let timeDiff := currentTime - br.usteerTime
  let timeDiffConf := (cfg.beaconReportInvalideTimeout * 1000).toUInt64
  br.bssid = bssid || decide (timeDiffConf < timeDiff)

/-- `usteer_beacon_report_cleanup`; without a BSSID every report goes. -/
def usteerBeaconReportCleanup (cfg : Config) (d : Daemon) (si : SiId) (bssid : Option MacAddr) : Daemon :=
  d.modifyInfo si (fun info => { info with
    beaconReports := match bssid with
      | some bssid => info.beaconReports.filter (fun br => !usteerBeaconReportDelete cfg d.currentTime bssid br)
      | none => [] })

/-! ### Deletion -/

/-- `usteer_sta_del` -/
def usteerStaDel (d : Daemon) (s : StaId) : Daemon :=
  { d with stations := d.stations.erase s, stas := d.stas.free s }

/-- `usteer_sta_info_del` -/
def usteerStaInfoDel (env : Platform) (cfg : Config) (d : Daemon) (si : SiId) : Except Fault Daemon := do
  let info ← d.info si
  let _ ← d.sta info.sta
  let _ ← d.node info.node
  let d := { d with tq := d.tq.usteerTimeoutCancel env.timeouts si }
  let d := d.usteerBeaconReportCleanup cfg si none
  let d := d.modifySta info.sta (fun sta => { sta with nodes := sta.nodes.erase si })
  let d := d.modifyNode info.node (fun node => { node with staInfo := node.staInfo.erase si })
  let d := { d with infos := d.infos.free si }
  let sta ← d.sta info.sta
  return if sta.nodes.isEmpty then d.usteerStaDel info.sta else d

/-- `usteer_sta_node_cleanup` -/
def usteerStaNodeCleanup (env : Platform) (cfg : Config) (d : Daemon) (n : NodeId) : Except Fault Daemon := do
  let node ← d.node n
  let d := d.modifyNode n (fun node => { node with rrmNr := none })
  node.staInfo.foldlM (fun d si => d.usteerStaInfoDel env cfg si) d

/-- `usteer_sta_info_timeout` -/
def usteerStaInfoTimeout (env : Platform) (cfg : Config) (d : Daemon) (si : SiId) : Except Fault Daemon :=
  d.usteerStaInfoDel env cfg si

/-- The timeout queue's timer fires (`usteer_timeout_cb` with `usteer_sta_info_timeout`).
    The deletion of a fired entry touches nothing else that is queued, so the
    deletions may follow the passes over the queue. -/
def stationTimeouts (env : Platform) (cfg : Config) (d : Daemon) : Except Fault Daemon :=
  match d.tq.usteerTimeoutCb env.timeouts (fun _ => d.clock.toNat) (d.tq.items.length + 1) with
  | none => .error .noTermination
  | some (fired, _, tq) => fired.flatten.foldlM (fun d si => d.usteerStaInfoTimeout env cfg si) { d with tq := tq }

/-! ### Lookup and creation -/

/-- The station that `usteer_sta_get` allocates. -/
def newSta (d : Daemon) (addr : MacAddr) : Daemon :=
  { d with stas := d.stas.alloc ⟨addr, [], false, false⟩, stations := d.stas.next :: d.stations }

/-- `usteer_sta_get` -/
def usteerStaGet (d : Daemon) (addr : MacAddr) (create : Bool) : Except Fault (Option StaId × Daemon) := do
  match ← search d.sta (fun sta => sta.addr = addr) d.stations with
  | some s => return (some s, d)
  | none => return if create then (some d.stas.next, d.newSta addr) else (none, d)

/-- The entry that `usteer_sta_info_get` allocates, linked into both lists. -/
def newInfo (d : Daemon) (s : StaId) (n : NodeId) (freq : Int32) : Daemon :=
  let si := d.infos.next
  let d := { d with infos := d.infos.alloc (.zeroed n s freq d.currentTime) }
  let d := d.modifySta s (fun sta => { sta with nodes := si :: sta.nodes })
  d.modifyNode n (fun node => { node with staInfo := si :: node.staInfo })

/-- `usteer_sta_info_get` in creating mode: the entry and whether it is new. -/
def usteerStaInfoGet (d : Daemon) (s : StaId) (n : NodeId) : Except Fault (SiId × Bool × Daemon) := do
  let sta ← d.sta s
  match ← search d.info (fun info => info.node = n) sta.nodes with
  | some si => return (si, false, d)
  | none =>
    let node ← d.node n
    return (d.infos.next, true, d.newInfo s n node.freq)

/-- `usteer_sta_info_get` without creation. -/
def usteerStaInfoFind (d : Daemon) (s : StaId) (n : NodeId) : Except Fault (Option SiId) := do
  let sta ← d.sta s
  search d.info (fun info => info.node = n) sta.nodes

/-! ### Updates -/

/-- `usteer_sta_info_update_timeout` -/
def usteerStaInfoUpdateTimeout (env : Platform) (cfg : Config) (d : Daemon) (si : SiId) (timeout : Int32) :
    Except Fault Daemon := do
  let info ← d.info si
  if info.connected = 1 then
    return { d with tq := d.tq.usteerTimeoutCancel env.timeouts si }
  else if timeout > 0 then
    return { d with tq := d.tq.usteerTimeoutSet env.timeouts si timeout d.clock.toNat }
  else
    d.usteerStaInfoDel env cfg si

/-- `usteer_sta_info_update`; the signal of a probe request is ignored while connected. -/
def usteerStaInfoUpdate (env : Platform) (cfg : Config) (d : Daemon) (si : SiId) (signal : Int32) (avg : Bool) :
    Except Fault Daemon := do
  let info ← d.info si
  let signal := if info.connected = 1 && info.signal ≠ noSignal && !avg then noSignal else signal
  let d := d.modifyInfo si (fun info => { info with
    signal := if signal ≠ noSignal then signal else info.signal
    seen := d.currentTime })
  d.usteerStaInfoUpdateTimeout env cfg si cfg.localStaTimeout.toInt32

end Daemon
end Usteer
