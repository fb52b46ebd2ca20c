import Usteer.Sta

/-!
The hearing map (`hearing_map.c`): beacon reports that clients send back, kept with
the client's entry on the node it is connected to, and the beacon requests that ask
for them, band by band and in a mode that falls back when a client never answers.
-/
namespace Usteer
open SearchTree Timeout
namespace Daemon

/-- `get_usteer_node_from_bssid`: local nodes before remote ones. -/
def getUsteerNodeFromBssid (d : Daemon) (bssid : MacAddr) : Except Fault (Option NodeId) :=
  search d.node (fun node => node.bssid = bssid) (d.localNodes ++ d.remoteList)

/-- What the pointer returned by `get_usteer_node_from_bssid` points to. -/
def nodeFromBssid (d : Daemon) (bssid : MacAddr) : Option UsteerNode :=
  match d.getUsteerNodeFromBssid bssid with
  | .ok (some n) => d.nodes.get? n
  | _ => none

/-! ### Beacon requests -/

/-- `get_channel_from_freq` -/
def getChannelFromFreq (freq : Int32) : Int32 :=
  if freq = 2484 then 14
  else if freq < 2484 then (freq - 2407) / 5
  else if freq ≥ 4910 && freq ≤ 4980 then (freq - 4000) / 5
  else if freq ≤ 45000 then (freq - 5000) / 5
  else if freq ≥ 58320 && freq ≤ 64800 then (freq - 56160) / 2160
  else 0

/-- `get_op_class_from_channel` -/
def getOpClassFromChannel (channel : Int32) : Int32 :=
  if channel ≥ 36 && channel ≤ 48 then 115
  else if channel ≥ 52 && channel ≤ 64 then 118
  else if channel ≥ 100 && channel ≤ 140 then 121
  else if channel ≥ 1 && channel ≤ 13 then 81
  else 0

/-- `usteer_beacon_request_send` -/
def usteerBeaconRequestSend (d : Daemon) (si : SiId) (freq : Int32) (mode : UInt8) : Daemon :=
  let channel := getChannelFromFreq freq
  d.log (.beaconRequest d.currentTime si channel (getOpClassFromChannel channel) mode)

/-- The failed requests counted by `usteer_get_beacon_request_mode`, which counts once
    per scan row, on the client's own frequency. -/
def countFailedRequests (br : BeaconRequest) (nodeFreq freq : Int32) : UInt8 :=
  if nodeFreq = freq then
    let timeDiff := (br.lastReportTime - br.lastRequestTime).toInt64
    (if 0 < timeDiff then br.failedRequests / 2 else br.failedRequests) + 1
  else br.failedRequests

/-- The mode returned by `usteer_get_beacon_request_mode`: 1 active, 0 passive, 2 the
    client's beacon table. -/
def requestMode (freq : Int32) (failedRequests : UInt8) : UInt8 :=
  if freq < 4000 && failedRequests < 3 then 1
  else if freq < 4000 && failedRequests < 7 then 0
  else if freq > 4000 && failedRequests < 5 then 0
  else 2

/-- The walk of `usteer_beacon_request_next_band` over the local nodes: the frequency
    after the first node on `freq` that is not `freq` itself. -/
def bandAfter (freq : Int32) : Bool → List Int32 → Option Int32
  | _, [] => none
  | bandAlreadyScanned, f :: rest =>
    if freq = f then bandAfter freq false rest
    else if bandAlreadyScanned then bandAfter freq true rest
    else some f

/-- `usteer_beacon_request_next_band`, which starts over at the first local node. -/
def usteerBeaconRequestNextBand (d : Daemon) (freq : Int32) : Except Fault Int32 := do
  let freqs ← d.localNodes.mapM (fun n => (fun node : UsteerNode => node.freq) <$> d.node n)
  match bandAfter freq true freqs with
  | some next => return next
  | none => notNull freqs.head?

/-- `usteer_beacon_request_check` -/
def usteerBeaconRequestCheck (env : Platform) (cfg : Config) (d : Daemon) (si : SiId) : Except Fault Daemon := do
  let info ← d.info si
  let node ← d.node info.node
  let br := info.beaconRequest
  let ctime := d.currentTime
  let freq := br.band
  if freq = node.freq && env.belowRequestPeriod cfg info.signal (ctime - br.lastRequestTime) then
    return d
  let failed := countFailedRequests br node.freq freq
  let d := d.modifyInfo si (fun info =>
    { info with beaconRequest := { info.beaconRequest with failedRequests := failed } })
  let d := d.usteerBeaconRequestSend si freq (requestMode freq failed)
  -- once per scan row; no node has the broadcast address, so only stale reports go
  let d := if freq = node.freq then
      (d.modifyInfo si (fun info =>
        { info with beaconRequest := { info.beaconRequest with lastRequestTime := ctime } })).usteerBeaconReportCleanup
          cfg si (some (BitVec.allOnes 48))
    else d
  let next ← d.usteerBeaconRequestNextBand freq
  return d.modifyInfo si (fun info => { info with beaconRequest := { info.beaconRequest with band := next } })

/-! ### Beacon reports -/

/-- A `beacon-report` notification: the attributes present, the address texts as
    `ether_aton` reads them. -/
structure BeaconReportMsg where
  address : Option (Option MacAddr)
  opClass : Option UInt16
  channel : Option UInt16
  rcpi : Option UInt16
  rsni : Option UInt16
  bssid : Option (Option MacAddr)
  deriving DecidableEq, Repr

/-- The report that `usteer_handle_event_beacon_report` stores for an entry, at the head
    of the list and in the place of an older one of the same BSSID. -/
def storeBeaconReport (cfg : Config) (d : Daemon) (si : SiId) (br : BeaconReport) : Daemon :=
  let d := d.modifyInfo si (fun info =>
    { info with beaconRequest := { info.beaconRequest with lastReportTime := br.usteerTime } })
  let d := d.usteerBeaconReportCleanup cfg si (some br.bssid)
  d.modifyInfo si (fun info => { info with beaconReports := br :: info.beaconReports })

/-- `usteer_handle_event_beacon_report` -/
def usteerHandleEventBeaconReport (cfg : Config) (d : Daemon) (n : NodeId) (msg : BeaconReportMsg) :
    Except Fault Daemon := do
  match msg.bssid, msg.address with
  | some bssid, some address =>
    let addrSta ← notNull address
    match ← d.usteerStaGet addrSta false with
    | (none, d) => return d
    | (some sta, d) =>
      match ← d.usteerStaInfoFind sta n with
      | none => return d
      | some si =>
        let addr ← notNull bssid
        match ← d.getUsteerNodeFromBssid addr with
        | none => return d
        | some _ =>
          let br : BeaconReport := {
            address := si
            bssid := addr
            rcpi := ← notNull msg.rcpi
            rsni := ← notNull msg.rsni
            opClass := ← notNull msg.opClass
            channel := ← notNull msg.channel
            usteerTime := d.currentTime }
          return d.storeBeaconReport cfg si br
  | _, _ => return d

end Daemon
end Usteer
