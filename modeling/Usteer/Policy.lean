import Usteer.Candidates
import Usteer.HearingMap

/-!
The decisions (`policy.c` after the comparisons, with the calls to hostapd of
`ubus.c`): the search for a better candidate, whether a request is answered, and
the three ways a tick of a local node may kick a client, namely the roam state
machine, a signal below the minimum and a loaded node.
-/
namespace Usteer
open SearchTree Timeout
namespace Daemon

/-! ### The search for a better candidate -/

/-- The first loop of `find_better_candidate`: the first report that resolves to the
    entry's own node. -/
def ownReport (d : Daemon) (own : NodeId) : List BeaconReport → Except Fault (Option BeaconReport)
  | [] => .ok none
  | br :: rest => do
    match ← d.getUsteerNodeFromBssid br.bssid with
    | none => d.ownReport own rest
    | some n => if n = own then return some br else d.ownReport own rest

/-- The second loop of `find_better_candidate`: the first report of another node with
    the same SSID that is strictly better than the own report, with that node. -/
def betterReport (cfg : Config) (d : Daemon) (own : NodeId) (brCur : BeaconReport) :
    List BeaconReport → Except Fault (Option (BeaconReport × NodeId))
  | [] => .ok none
  | br :: rest => do
    match ← d.getUsteerNodeFromBssid br.bssid with
    | none => d.betterReport cfg own brCur rest
    | some n =>
      if n = own then
        d.betterReport cfg own brCur rest
      else
        let node ← d.node n
        let nodeRef ← d.node own
        if node.ssid ≠ nodeRef.ssid then
          d.betterReport cfg own brCur rest
        else if (← isBetterCandidateHearingMap cfg d.nodeFromBssid brCur br) &&
            !(← isBetterCandidateHearingMap cfg d.nodeFromBssid br brCur) then
          return some (br, n)
        else
          d.betterReport cfg own brCur rest

/-- The third loop of `find_better_candidate`: the first other entry of the station,
    seen recently on a node with the same SSID, that is strictly better. -/
def betterEntry (cfg : Config) (d : Daemon) (siRef : SiId) (ref : Candidate) : List SiId → Except Fault (Option SiId)
  | [] => .ok none
  | si :: rest => do
    if si = siRef then
      d.betterEntry cfg siRef ref rest
    else
      let info ← d.info si
      if d.currentTime - info.seen > cfg.seenPolicyTimeout.toUInt64 then
        d.betterEntry cfg siRef ref rest
      else
        let node ← d.node info.node
        if node.ssid ≠ ref.node.ssid then
          d.betterEntry cfg siRef ref rest
        else if isBetterCandidate cfg ref ⟨info, node⟩ && !isBetterCandidate cfg ⟨info, node⟩ ref then
          return some si
        else
          d.betterEntry cfg siRef ref rest

/-- The hearing-map part of `find_better_candidate`. -/
def betterHeard (cfg : Config) (d : Daemon) (ref : StaInfo) : Except Fault (Option (BeaconReport × NodeId)) := do
  match ← d.ownReport ref.node ref.beaconReports with
  | none => return none
  | some brCur => d.betterReport cfg ref.node brCur ref.beaconReports

/-- `find_better_candidate`; a node that was only heard of gets an entry. -/
def findBetterCandidate (cfg : Config) (d : Daemon) (siRef : SiId) : Except Fault (Option SiId × Daemon) := do
  let ref ← d.info siRef
  match ← d.betterHeard cfg ref with
  | some (br, n) =>
    let owner ← d.info br.address
    let (si, _, d) ← d.usteerStaInfoGet owner.sta n
    return (some si, d)
  | none =>
    let sta ← d.sta ref.sta
    let node ← d.node ref.node
    return (← d.betterEntry cfg siRef ⟨ref, node⟩ sta.nodes, d)

/-- `snr_to_signal` -/
def snrToSignal (node : UsteerNode) (snr : Int32) : Int32 :=
  if snr < 0 then snr
  else (if node.noise ≠ 0 then node.noise else -95) + snr

/-- `usteer_check_request` -/
def usteerCheckRequest (cfg : Config) (d : Daemon) (si : SiId) (type : EventType) : Except Fault (Bool × Daemon) := do
  let info ← d.info si
  if type = .assoc then
    return (true, d)
  if (info.stats type).blockedCur ≥ cfg.maxRetryBand then
    return (true, d)
  let node ← d.node info.node
  if info.signal < snrToSignal node cfg.minConnectSnr then
    return (false, d)
  if d.currentTime - info.created < cfg.initialConnectDelay.toUInt64 then
    return (false, d)
  let (siNew, d) ← d.findBetterCandidate cfg si
  return (siNew.isNone, d)

/-! ### Calls to hostapd -/

/-- `usteer_ubus_trigger_client_scan` -/
def usteerUbusTriggerClientScan (d : Daemon) (si : SiId) : Except Fault Daemon := do
  let info ← d.info si
  let scanBand := !info.scanBand
  let d := d.modifyInfo si (fun info => { info with scanBand := scanBand })
  return d.log (.clientScan d.currentTime si (if scanBand then 1 else 12))

/-- `usteer_ubus_notify_client_disassoc` -/
def usteerUbusNotifyClientDisassoc (d : Daemon) (si : SiId) : Daemon :=
  d.log (.disassocImminent d.currentTime si)

/-- `usteer_ubus_kick_client` -/
def usteerUbusKickClient (d : Daemon) (si : SiId) (why : KickReason) : Daemon :=
  (d.log (.kick d.currentTime si why)).modifyInfo si
    (fun info => { info with connected := 0, roamKick := d.currentTime })

/-! ### The roam state machine -/

/-- `usteer_get_client_active_bits` -/
def usteerGetClientActiveBits (cfg : Config) (info : StaInfo) : Except Fault UInt64 :=
  let bytes := info.activeBytes
  let rxDelta := bytes.newRx - bytes.oldRx
  let txDelta := bytes.newTx - bytes.oldTx
  if cfg.kickClientActiveSec = 0 then .error .divisionByZero
  else .ok (((rxDelta + txDelta) / cfg.kickClientActiveSec.toUInt64) * 8)

/-- `is_active_client` -/
def isActiveClient (cfg : Config) (info : StaInfo) : Except Fault Bool := do
  let clientActiveRatio ← usteerGetClientActiveBits cfg info
  return clientActiveRatio ≥ cfg.kickClientActiveBits.toUInt64

/-- `usteer_roam_set_state` -/
def usteerRoamSetState (d : Daemon) (si : SiId) (state : RoamTriggerState) : Daemon :=
  d.modifyInfo si (fun info => { info with
    roamEvent := d.currentTime
    roamTries :=
      if info.roamState = state then (if info.roamState = .idle then 0 else info.roamTries + 1) else 0
    roamState := state })

/-- `usteer_roam_trigger_sm`; true when it kicked the client. -/
def usteerRoamTriggerSm (cfg : Config) (d : Daemon) (si : SiId) : Except Fault (Bool × Daemon) := do
  let info ← d.info si
  let node ← d.node info.node
  let minSignal := snrToSignal node cfg.roamTriggerSnr
  match info.roamState with
  | .scan =>
    if d.currentTime - info.roamEvent < cfg.roamScanInterval.toUInt64 then
      return (false, d)
    let (siNew, d) ← d.findBetterCandidate cfg si
    if siNew.isSome || info.roamScanDone > info.roamEvent then
      return (false, d.usteerRoamSetState si .scanDone)
    if cfg.roamScanTries ≠ 0 && info.roamTries.toUInt32 ≥ cfg.roamScanTries then
      return (false, d.usteerRoamSetState si .waitKick)
    let d ← d.usteerUbusTriggerClientScan si
    return (false, d.usteerRoamSetState si .scan)
  | .idle =>
    let (siNew, d) ← d.findBetterCandidate cfg si
    if siNew.isSome then
      return (false, d.usteerRoamSetState si .scanDone)
    return (false, d.usteerRoamSetState si .scan)
  | .scanDone =>
    -- stale scan results send the client back to scanning
    if d.currentTime - info.roamScanDone > (2 * cfg.roamScanInterval).toUInt64 then
      return (false, d.usteerRoamSetState si .scan)
    let (siNew, d) ← d.findBetterCandidate cfg si
    if siNew.isNone then
      return (false, d)
    return (false, d.usteerRoamSetState si .waitKick)
  | .waitKick =>
    if info.signal > minSignal then
      return (false, d)
    return (false, (d.usteerRoamSetState si .notifyKick).usteerUbusNotifyClientDisassoc si)
  | .notifyKick =>
    if d.currentTime - info.roamEvent < (cfg.roamKickDelay * 100).toUInt64 then
      return (false, d)
    return (false, d.usteerRoamSetState si .kick)
  | .kick =>
    return (true, (d.usteerUbusKickClient si .roam).usteerRoamSetState si .idle)

/-- The signal level of `usteer_local_node_roam_check`, when roaming is configured. -/
def roamLevel (cfg : Config) : Option Int32 :=
  if cfg.roamScanSnr ≠ 0 then some cfg.roamScanSnr
  else if cfg.roamTriggerSnr ≠ 0 then some cfg.roamTriggerSnr
  else none

/-- The entries that `usteer_local_node_roam_check` hands to the state machine. -/
def roamEligible (cfg : Config) (currentTime : UInt64) (minSignal : Int32) (info : StaInfo) : Except Fault Bool := do
  if info.connected = 0 || info.signal ≥ minSignal then
    return false
  if ← isActiveClient cfg info then
    return false
  return !(currentTime - info.roamKick < cfg.roamTriggerInterval.toUInt64)

/-- The loop of `usteer_local_node_roam_check`, left as soon as one client is kicked. -/
def roamVisits (cfg : Config) (minSignal : Int32) : List SiId → Daemon → Except Fault Daemon
  | [], d => .ok d
  | si :: rest, d => do
    let info ← d.info si
    let node ← d.node info.node
    let d := d.log (.visit d.currentTime si info node)
    if ← roamEligible cfg d.currentTime minSignal info then
      let (kicked, d) ← d.usteerRoamTriggerSm cfg si
      if kicked then return d
      roamVisits cfg minSignal rest d
    else
      roamVisits cfg minSignal rest (d.usteerRoamSetState si .idle)

/-- `usteer_local_node_roam_check` -/
def usteerLocalNodeRoamCheck (cfg : Config) (d : Daemon) (n : NodeId) : Except Fault Daemon := do
  match roamLevel cfg with
  | none => return d
  | some snr =>
    let d := d.usteerUpdateTime
    let node ← d.node n
    roamVisits cfg (snrToSignal node snr) node.staInfo d

/-! ### The other kicks -/

/-- The loop of `usteer_local_node_snr_kick`: the first client that it may kick. -/
def snrVictim (cfg : Config) (d : Daemon) (minSignal : Int32) : List SiId → Except Fault (Option SiId)
  | [] => .ok none
  | si :: rest => do
    let info ← d.info si
    if info.connected = 0 then
      d.snrVictim cfg minSignal rest
    else if ← isActiveClient cfg info then
      d.snrVictim cfg minSignal rest
    else if info.signal ≥ minSignal then
      d.snrVictim cfg minSignal rest
    else
      return some si

/-- `kick_count` goes up and the client is kicked. -/
def countedKick (d : Daemon) (si : SiId) (why : KickReason) : Daemon :=
  (d.modifyInfo si (fun info => { info with kickCount := info.kickCount + 1 })).usteerUbusKickClient si why

/-- `usteer_local_node_snr_kick` -/
def usteerLocalNodeSnrKick (cfg : Config) (d : Daemon) (n : NodeId) : Except Fault Daemon := do
  if cfg.minSnr = 0 then
    return d
  let node ← d.node n
  match ← d.snrVictim cfg (snrToSignal node cfg.minSnr) node.staInfo with
  | some si => return d.countedKick si .snr
  | none => return d

/-- `is_more_kickable` -/
def isMoreKickable (d : Daemon) (siCur : Option SiId) (siNew : SiId) : Except Fault Bool := do
  match siCur with
  | none => return true
  | some siCur =>
    let cur ← d.info siCur
    let new ← d.info siNew
    if new.kickCount > cur.kickCount then
      return false
    return cur.signal > new.signal

/-- The loop of `usteer_local_node_kick`: the most kickable client, the most kickable one
    among those with a better candidate, and that candidate. -/
def loadVictims (cfg : Config) : List SiId → Option SiId → Option SiId → Option SiId → Daemon →
    Except Fault (Option SiId × Option SiId × Option SiId × Daemon)
  | [], kick1, kick2, candidate, d => .ok (kick1, kick2, candidate, d)
  | si :: rest, kick1, kick2, candidate, d => do
    let info ← d.info si
    if info.connected = 0 then
      loadVictims cfg rest kick1 kick2 candidate d
    else if ← isActiveClient cfg info then
      loadVictims cfg rest kick1 kick2 candidate d
    else
      let kick1 := if ← d.isMoreKickable kick1 si then some si else kick1
      let (tmp, d) ← d.findBetterCandidate cfg si
      if tmp.isNone then
        loadVictims cfg rest kick1 kick2 candidate d
      else if ← d.isMoreKickable kick2 si then
        loadVictims cfg rest kick1 (some si) tmp d
      else
        loadVictims cfg rest kick1 kick2 candidate d

/-- `DIV_ROUND_UP` on unsigned operands. -/
def divRoundUp (n d : UInt32) : Except Fault UInt32 :=
  if d = 0 then .error .divisionByZero else .ok ((n + d - 1) / d)

/-- The load kick, the last part of `usteer_local_node_kick`. -/
def loadKick (cfg : Config) (d : Daemon) (n : NodeId) : Except Fault Daemon := do
  if !cfg.loadKickEnabled || cfg.loadKickThreshold = 0 || cfg.loadKickDelay = 0 then
    return d
  let node ← d.node n
  if node.load.toUInt32 < cfg.loadKickThreshold then
    return d.modifyNode n (fun node => node.setLoadThrCount 0)
  let count := (← node.loadThrCount) + 1
  let d := d.modifyNode n (fun node => node.setLoadThrCount count)
  if count.toUInt32 ≤ (← divRoundUp cfg.loadKickDelay cfg.localStaUpdate) then
    return d
  let d := d.modifyNode n (fun node => node.setLoadThrCount 0)
  if node.nAssoc.toUInt32 < cfg.loadKickMinClients then
    return d
  -- the candidate is only shown in the message about the kick
  match ← loadVictims cfg node.staInfo none none none d with
  | (none, _, _, d) => return d
  | (some kick1, kick2, _, d) => return d.countedKick (kick2.getD kick1) .load

/-- `usteer_local_node_kick` -/
def usteerLocalNodeKick (cfg : Config) (d : Daemon) (n : NodeId) : Except Fault Daemon := do
  let d ← d.usteerLocalNodeRoamCheck cfg n
  let d ← d.usteerLocalNodeSnrKick cfg n
  d.loadKick cfg n

end Daemon
end Usteer
