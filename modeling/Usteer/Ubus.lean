import Usteer.Runs

/-!
The daemon's own ubus object (`ubus.c`): the options that `set_config` and
`update_config` write (`usteerUbusSetConfig`) and what `get_client_info` reads, with the
hearing map of a client (`usteerUbusGetClientInfo`). A `System` is a daemon together with
its configuration, which may change between any two inputs; its runs are those of
`System.Reachable`. The three divisors of the code are options like any other, and a run
divides by zero only after a message that sets one of them to zero
(`divisors_stay_positive`).
-/
namespace Usteer
open SearchTree Timeout Function Daemon

/-! ### Options -/

/-- `enum cfg_items`, in the order of `__config_items` -/
inductive CfgItem where
  | syslog
  | remoteDisabled
  | debugLevel
  | staBlockTimeout
  | localStaTimeout
  | localStaUpdate
  | maxRetryBand
  | seenPolicyTimeout
  | loadBalancingThreshold
  | bandSteeringThreshold
  | remoteUpdateInterval
  | minConnectSnr
  | minSnr
  | roamScanSnr
  | roamScanTries
  | roamScanInterval
  | roamTriggerSnr
  | roamTriggerInterval
  | roamKickDelay
  | signalDiffThreshold
  | initialConnectDelay
  | loadKickEnabled
  | loadKickThreshold
  | loadKickDelay
  | loadKickMinClients
  | loadKickReasonCode
  | kickClientActiveSec
  | kickClientActiveBits
  | beaconReportInvalideTimeout
  | beaconRequestFrequency
  | beaconRequestSignalModifier
  | interfaces
  | ssid
  | nodeUpScript
  deriving DecidableEq, Repr

/-- `enum cfg_type` -/
inductive CfgType where
  | bool
  | i32
  | u32
  | arrayCb
  | stringCb
  deriving DecidableEq, Repr

namespace CfgItem

/-- The items that `usteer_ubus_set_config` goes through. -/
def all : List CfgItem :=
  [syslog, remoteDisabled, debugLevel, staBlockTimeout, localStaTimeout, localStaUpdate, maxRetryBand,
    seenPolicyTimeout, loadBalancingThreshold, bandSteeringThreshold, remoteUpdateInterval, minConnectSnr, minSnr,
    roamScanSnr, roamScanTries, roamScanInterval, roamTriggerSnr, roamTriggerInterval, roamKickDelay,
    signalDiffThreshold, initialConnectDelay, loadKickEnabled, loadKickThreshold, loadKickDelay, loadKickMinClients,
    loadKickReasonCode, kickClientActiveSec, kickClientActiveBits, beaconReportInvalideTimeout,
    beaconRequestFrequency, beaconRequestSignalModifier, interfaces, ssid, nodeUpScript]

/-- The type that `__config_items` gives an option. -/
def type : CfgItem → CfgType
  | syslog | remoteDisabled | loadKickEnabled => .bool
  | minConnectSnr | minSnr | roamScanSnr | roamTriggerSnr => .i32
  | interfaces | ssid => .arrayCb
  | nodeUpScript => .stringCb
  | _ => .u32

end CfgItem

/-- What an attribute of that type carries; of an array the strings, when
    `blobmsg_check_attr_list` finds nothing else in it. -/
def CfgType.Value : CfgType → Type
  | .bool => Bool
  | .i32 => UInt32
  | .u32 => UInt32
  | .arrayCb => Option (List CString)
  | .stringCb => CString

/-- A configuration message: the attributes present. -/
def ConfigMsg := (item : CfgItem) → Option item.type.Value

/-- A daemon with its settings. -/
structure System where
  config : Config
  interfaces : List CString
  nodeUpScript : Option CString
  daemon : Daemon

/-- An interface name among others, in the order of `avl_strcmp`. -/
def addInterface (name : CString) : List CString → List CString
  | [] => [name]
  | other :: rest =>
    if name = other then other :: rest
    else if name < other then name :: other :: rest
    else other :: addInterface name rest

namespace System

/-- `config_set_interfaces` -/
def configSetInterfaces (s : System) : Option (List CString) → System
  | none => s
  | some names => { s with interfaces := names.foldl (fun list name => addInterface name list) [] }

/-- `config_set_ssid`; what its search for hostapd objects finds is registered by later
    inputs. -/
def configSetSsid (s : System) : Option (List CString) → System
  | none => s
  | some names => { s with daemon := { s.daemon with ssidList := some (names.map (List.take 33)).reverse } }

/-- `config_set_node_up_script` -/
def configSetNodeUpScript (s : System) (val : CString) : System :=
  { s with nodeUpScript := if val.isEmpty then none else some val }

/-- The body of the loop of `usteer_ubus_set_config`: the option is set to the value. -/
def setItem (s : System) : (item : CfgItem) → item.type.Value → System
  | .syslog, (v : Bool) => { s with config := { s.config with syslog := v } }
  | .remoteDisabled, (v : Bool) => { s with config := { s.config with remoteDisabled := v } }
  | .debugLevel, (v : UInt32) => { s with config := { s.config with debugLevel := v } }
  | .staBlockTimeout, (v : UInt32) => { s with config := { s.config with staBlockTimeout := v } }
  | .localStaTimeout, (v : UInt32) => { s with config := { s.config with localStaTimeout := v } }
  | .localStaUpdate, (v : UInt32) => { s with config := { s.config with localStaUpdate := v } }
  | .maxRetryBand, (v : UInt32) => { s with config := { s.config with maxRetryBand := v } }
  | .seenPolicyTimeout, (v : UInt32) => { s with config := { s.config with seenPolicyTimeout := v } }
  | .loadBalancingThreshold, (v : UInt32) => { s with config := { s.config with loadBalancingThreshold := v } }
  | .bandSteeringThreshold, (v : UInt32) => { s with config := { s.config with bandSteeringThreshold := v } }
  | .remoteUpdateInterval, (v : UInt32) => { s with config := { s.config with remoteUpdateInterval := v } }
  | .minConnectSnr, (v : UInt32) => { s with config := { s.config with minConnectSnr := v.toInt32 } }
  | .minSnr, (v : UInt32) => { s with config := { s.config with minSnr := v.toInt32 } }
  | .roamScanSnr, (v : UInt32) => { s with config := { s.config with roamScanSnr := v.toInt32 } }
  | .roamScanTries, (v : UInt32) => { s with config := { s.config with roamScanTries := v } }
  | .roamScanInterval, (v : UInt32) => { s with config := { s.config with roamScanInterval := v } }
  | .roamTriggerSnr, (v : UInt32) => { s with config := { s.config with roamTriggerSnr := v.toInt32 } }
  | .roamTriggerInterval, (v : UInt32) => { s with config := { s.config with roamTriggerInterval := v } }
  | .roamKickDelay, (v : UInt32) => { s with config := { s.config with roamKickDelay := v } }
  | .signalDiffThreshold, (v : UInt32) => { s with config := { s.config with signalDiffThreshold := v } }
  | .initialConnectDelay, (v : UInt32) => { s with config := { s.config with initialConnectDelay := v } }
  | .loadKickEnabled, (v : Bool) => { s with config := { s.config with loadKickEnabled := v } }
  | .loadKickThreshold, (v : UInt32) => { s with config := { s.config with loadKickThreshold := v } }
  | .loadKickDelay, (v : UInt32) => { s with config := { s.config with loadKickDelay := v } }
  | .loadKickMinClients, (v : UInt32) => { s with config := { s.config with loadKickMinClients := v } }
  | .loadKickReasonCode, (v : UInt32) => { s with config := { s.config with loadKickReasonCode := v } }
  | .kickClientActiveSec, (v : UInt32) => { s with config := { s.config with kickClientActiveSec := v } }
  | .kickClientActiveBits, (v : UInt32) => { s with config := { s.config with kickClientActiveBits := v } }
  | .beaconReportInvalideTimeout, (v : UInt32) =>
    { s with config := { s.config with beaconReportInvalideTimeout := v } }
  | .beaconRequestFrequency, (v : UInt32) => { s with config := { s.config with beaconRequestFrequency := v } }
  | .beaconRequestSignalModifier, (v : UInt32) =>
    { s with config := { s.config with beaconRequestSignalModifier := v } }
  | .interfaces, v => s.configSetInterfaces v
  | .ssid, v => s.configSetSsid v
  | .nodeUpScript, v => s.configSetNodeUpScript v

end System

/-- The methods that share `usteer_ubus_set_config`. -/
inductive ConfigMethod where
  | setConfig
  | updateConfig
  deriving DecidableEq, Repr

/-- `usteer_ubus_set_config`; only `set_config` starts from the defaults. -/
def System.usteerUbusSetConfig (s : System) (method : ConfigMethod) (tb : ConfigMsg) : System :=
  let s := if method = .setConfig then { s with config := usteerInitDefaults } else s
  CfgItem.all.foldl (fun s item => (tb item).elim s (s.setItem item)) s

/-! ### Clients -/

/-- One report of a client as `usteer_ubus_hearing_map` shows it. -/
structure HearingMapEntry where
  bssid : MacAddr
  node : Option CString
  rcpi : UInt16
  rsni : UInt16
  opClass : UInt16
  channel : UInt16
  timeToLive : UInt64
  deriving DecidableEq, Repr

/-- What `get_client_info` shows of an entry; the rate and the hearing map belong to
    clients connected to a local node. -/
structure ClientNodeInfo where
  node : CString
  connected : Fin 4
  signal : Int32
  stats : EventType → StaInfoStats
  hearing : Option (UInt64 × List HearingMapEntry)

/-- The reply to `get_client_info`. -/
structure ClientInfo where
  seen2ghz : Bool
  seen5ghz : Bool
  nodes : List ClientNodeInfo

/-- The error codes of `get_client_info`. -/
inductive UbusStatus where
  | invalidArgument
  | notFound
  deriving DecidableEq, Repr

namespace Daemon

/-- The loop body of `usteer_ubus_hearing_map`. -/
def showReport (cfg : Config) (d : Daemon) (br : BeaconReport) : Except Fault HearingMapEntry := do
  let node ← d.getUsteerNodeFromBssid br.bssid
  let name ← node.elim (pure none) (fun n => (fun node : UsteerNode => some node.name) <$> d.node n)
  let diffSecs := (d.currentTime - br.usteerTime) / 1000
  return {
    bssid := br.bssid
    node := name
    rcpi := br.rcpi
    rsni := br.rsni
    opClass := br.opClass
    channel := br.channel
    timeToLive := cfg.beaconReportInvalideTimeout.toUInt64 - diffSecs }

/-- `usteer_ubus_hearing_map` -/
def usteerUbusHearingMap (cfg : Config) (d : Daemon) (info : StaInfo) : Except Fault (List HearingMapEntry) :=
  info.beaconReports.mapM (d.showReport cfg)

/-- The loop body of `usteer_ubus_get_client_info`; under the name of every event type it
    shows the statistics of probe requests. -/
def showEntry (cfg : Config) (d : Daemon) (si : SiId) : Except Fault ClientNodeInfo := do
  let info ← d.info si
  let node ← d.node info.node
  let hearing ←
    if (remoteName node).isNone && info.connected ≠ 0 then do
      let rate ← usteerGetClientActiveBits cfg info
      let reports ← d.usteerUbusHearingMap cfg info
      pure (some (rate, reports))
    else pure none
  return {
    node := node.name
    connected := info.connected
    signal := info.signal
    stats := fun _ => info.stats .probe
    hearing := hearing }

/-- `usteer_ubus_get_client_info`, the address as `ether_aton` reads it. -/
def usteerUbusGetClientInfo (cfg : Config) (d : Daemon) (address : Option (Option MacAddr)) :
    Except Fault (Except UbusStatus ClientInfo) := do
  match address.join with
  | none => return .error .invalidArgument
  | some mac =>
    match ← d.usteerStaGet mac false with
    | (none, _) => return .error .notFound
    | (some s, _) =>
      let sta ← d.sta s
      let nodes ← sta.nodes.mapM (d.showEntry cfg)
      return .ok ⟨sta.seen2ghz, sta.seen5ghz, nodes⟩

end Daemon

/-! ### Runs with a changing configuration -/

/-- What happens to a daemon and its configuration. -/
inductive SystemInput where
  | daemon (input : Input)
  | config (method : ConfigMethod) (tb : ConfigMsg)
  | getClientInfo (address : Option (Option MacAddr))

namespace System

/-- The system after an input. -/
def handle (env : Platform) (s : System) : SystemInput → Except Fault System
  | .daemon input => (fun d => { s with daemon := d }) <$> s.daemon.handle env s.config input
  | .config method tb => .ok (s.usteerUbusSetConfig method tb)
  | .getClientInfo address => (fun _ => s) <$> s.daemon.usteerUbusGetClientInfo s.config address

/-- The inputs that may occur. -/
def Accepts (s : System) : SystemInput → Prop
  | .daemon input => s.daemon.Accepts input
  | _ => True

/-- A daemon as `main` starts it; the command line gives the interfaces and two options
    about the log. -/
def initial (debugLevel : UInt32) (syslog : Bool) (interfaces : List CString) (localId : UInt32) (clock : UInt64) :
    System where
  config := { usteerInitDefaults with debugLevel := debugLevel, syslog := syslog }
  interfaces := interfaces
  nodeUpScript := none
  daemon := .initial localId clock none

/-- The states that a system reaches by inputs that all meet a condition. -/
inductive Reachable (env : Platform) (meets : SystemInput → Prop) : System → Prop where
  | start (debugLevel : UInt32) (syslog : Bool) (interfaces : List CString) (localId : UInt32) (clock : UInt64) :
      Reachable env meets (.initial debugLevel syslog interfaces localId clock)
  | step {s s'} (input : SystemInput) (reach : Reachable env meets s) (accepts : s.Accepts input) (met : meets input)
      (run : s.handle env input = .ok s') : Reachable env meets s'

/-- The states that a system reaches by steps that all meet a condition on the state before
    them, the input and the state after them. -/
inductive ReachableWhen (env : Platform) (meets : System → SystemInput → System → Prop) : System → Prop where
  | start (debugLevel : UInt32) (syslog : Bool) (interfaces : List CString) (localId : UInt32) (clock : UInt64) :
      ReachableWhen env meets (.initial debugLevel syslog interfaces localId clock)
  | step {s s'} (input : SystemInput) (reach : ReachableWhen env meets s) (accepts : s.Accepts input)
      (run : s.handle env input = .ok s') (met : meets s input s') : ReachableWhen env meets s'

theorem ReachableWhen.reachable {env : Platform} {meets : System → SystemInput → System → Prop} {s : System}
    (reach : ReachableWhen env meets s) : Reachable env (fun _ => True) s := by
  induction reach with
  | start debugLevel syslog interfaces localId clock => exact .start debugLevel syslog interfaces localId clock
  | step input _ accepts run _ ih => exact .step input ih accepts trivial run

theorem handle_daemon {env : Platform} {s : System} {input : Input} {d' : Daemon}
    (handled : s.daemon.handle env s.config input = .ok d') : s.handle env (.daemon input) = .ok { s with daemon := d' } := by
  simp only [handle, handled]
  rfl

/-- A list of inputs that meet the condition in whatever state they come. -/
theorem ReachableWhen.runs {env : Platform} {meets : System → SystemInput → System → Prop} {s : System}
    {inputs : List Input} {d' : Daemon} (reach : ReachableWhen env meets s)
    (run : s.daemon.runs env s.config inputs = some d')
    (met : ∀ input ∈ inputs, ∀ d d', meets { s with daemon := d } (.daemon input) { s with daemon := d' }) :
    ReachableWhen env meets { s with daemon := d' } := by
  induction inputs generalizing s with
  | nil =>
    cases run
    exact reach
  | cons input rest ih =>
    obtain ⟨d1, accepts, handled, run⟩ := runs_cons run
    have step : ReachableWhen env meets { s with daemon := d1 } :=
      .step (.daemon input) reach accepts (handle_daemon handled) (met input List.mem_cons_self s.daemon d1)
    exact ih (s := { s with daemon := d1 }) step run fun input' inside => met input' (List.mem_cons_of_mem _ inside)

end System

section Runs

variable {env : Platform} {meets : SystemInput → Prop} {s s' : System}

theorem daemon_setItem (s : System) (item : CfgItem) (v : item.type.Value) :
    ∃ ssidList, (s.setItem item v).daemon = { s.daemon with ssidList := ssidList } := by
  cases item
  case ssid =>
    cases v with
    | none => exact ⟨s.daemon.ssidList, rfl⟩
    | some names => exact ⟨_, rfl⟩
  case interfaces =>
    cases v with
    | none => exact ⟨s.daemon.ssidList, rfl⟩
    | some names => exact ⟨s.daemon.ssidList, rfl⟩
  all_goals exact ⟨s.daemon.ssidList, rfl⟩

/-- What every option set keeps, a configuration message keeps. -/
theorem setConfig_induction {P : System → Prop} (method : ConfigMethod) (tb : ConfigMsg)
    (defaults : method = .setConfig → P s → P { s with config := usteerInitDefaults })
    (item : ∀ s item v, tb item = some v → P s → P (s.setItem item v)) (holds : P s) :
    P (s.usteerUbusSetConfig method tb) := by
  have items : ∀ (list : List CfgItem) (s : System), P s →
      P (list.foldl (fun s item => (tb item).elim s (s.setItem item)) s) := by
    intro list
    induction list with
    | nil => intro s holds; exact holds
    | cons first rest ih =>
      intro s holds
      refine ih _ ?_
      dsimp only
      cases present : tb first with
      | none => exact holds
      | some v => exact item s first v present holds
  refine items _ _ ?_
  split
  · rename_i set
    exact defaults set holds
  · exact holds

theorem sound_ssidList {d : Daemon} (sound : Sound none d) (ssidList : Option (List CString)) :
    Sound none { d with ssidList := ssidList } :=
  sound_of_table sound rfl sound.reports sound.pending sound.once

/-- What an input leads to. -/
theorem System.handle_cases {input : SystemInput} (run : s.handle env input = .ok s') :
    (∃ daemonInput d, input = .daemon daemonInput ∧ s.daemon.handle env s.config daemonInput = .ok d ∧
      s' = { s with daemon := d }) ∨
    (∃ method tb, input = .config method tb ∧ s' = s.usteerUbusSetConfig method tb) ∨
    (∃ address, input = .getClientInfo address) ∧ s' = s := by
  cases input with
  | daemon input =>
    rw [System.handle] at run
    cases handled : s.daemon.handle env s.config input with
    | error e =>
      rw [handled] at run
      cases run
    | ok d =>
      rw [handled] at run
      cases run
      exact .inl ⟨input, d, rfl, handled, rfl⟩
  | config method tb =>
    cases run
    exact .inr (.inl ⟨method, tb, rfl, rfl⟩)
  | getClientInfo address =>
    rw [System.handle] at run
    cases shown : s.daemon.usteerUbusGetClientInfo s.config address with
    | error e =>
      rw [shown] at run
      cases run
    | ok reply =>
      rw [shown] at run
      cases run
      exact .inr (.inr ⟨⟨address, rfl⟩, rfl⟩)

/-- The settings of a configuration message leave the entries and the clock alone. -/
theorem daemon_setConfig (s : System) (method : ConfigMethod) (tb : ConfigMsg) :
    (s.usteerUbusSetConfig method tb).daemon.infos = s.daemon.infos ∧
      (s.usteerUbusSetConfig method tb).daemon.clock = s.daemon.clock := by
  refine setConfig_induction (P := fun s' => s'.daemon.infos = s.daemon.infos ∧ s'.daemon.clock = s.daemon.clock)
    method tb (fun _ same => same) ?_ ⟨rfl, rfl⟩
  intro s' item v _ same
  obtain ⟨ssidList, shape⟩ := daemon_setItem s' item v
  rw [shape]
  exact same

/-- What holds of a new daemon, and is kept by its inputs and by another list of SSIDs,
    holds in every run. -/
theorem System.Reachable.daemon {P : Daemon → Prop} (start : ∀ localId clock, P (.initial localId clock none))
    (step : ∀ {cfg d d' input}, Sound none d → d.Accepts input → d.handle env cfg input = .ok d' → P d → P d')
    (setting : ∀ {d} ssidList, P d → P { d with ssidList := ssidList }) (reach : System.Reachable env meets s) :
    Sound none s.daemon ∧ P s.daemon := by
  induction reach with
  | start debugLevel syslog interfaces localId clock => exact ⟨sound_initial localId clock none, start localId clock⟩
  | step input before accepts met run ih =>
    rcases System.handle_cases run with ⟨daemonInput, d, rfl, handled, rfl⟩ | ⟨method, tb, rfl, rfl⟩ | ⟨_, rfl⟩
    · exact ⟨sound_handle ih.1 accepts handled, step ih.1 accepts handled ih.2⟩
    · refine setConfig_induction (P := fun s => Sound none s.daemon ∧ P s.daemon) method tb (fun _ holds => holds) ?_ ih
      intro s item v _ holds
      obtain ⟨ssidList, shape⟩ := daemon_setItem s item v
      rw [shape]
      exact ⟨sound_ssidList holds.1 ssidList, setting ssidList holds.2⟩
    · exact ih

/-- The references stay in order in every run. -/
theorem System.Reachable.sound (reach : System.Reachable env meets s) : Sound none s.daemon :=
  (reach.daemon (P := fun _ => True) (fun _ _ => trivial) (fun _ _ _ _ => trivial) fun _ _ => trivial).1

/-! ### Divisions -/

theorem post_showReport {F : Fault → Prop} {d : Daemon} (cfg : Config) (br : BeaconReport) (sound : Sound none d) :
    Post F (d.showReport cfg br) (fun _ => True) := by
  unfold showReport
  rw [post_bind]
  refine (post_getUsteerNodeFromBssid br.bssid sound).mono fun found lives => ?_
  cases found with
  | none => trivial
  | some n =>
    obtain ⟨node, live⟩ := lives n rfl
    simp [node_ok live]

theorem post_usteerUbusGetClientInfo {d : Daemon} (cfg : Config) (address : Option (Option MacAddr)) (sound : Sound none d) :
    Post (fun e => e = .divisionByZero ∧ cfg.kickClientActiveSec = 0) (d.usteerUbusGetClientInfo cfg address)
      (fun _ => True) := by
  unfold usteerUbusGetClientInfo
  split
  · trivial
  · rename_i mac _
    rw [post_bind]
    refine (post_usteerStaFind mac sound).mono ?_
    rintro ⟨found, d'⟩ ⟨_, lives⟩
    cases found with
    | none => trivial
    | some sta =>
      obtain ⟨sta, live, _⟩ := lives.1 sta rfl
      dsimp only
      rw [sta_ok live, ok_bind, post_bind]
      refine (post_mapM (Q := fun _ _ => True) sta.nodes fun si listed => ?_).mono fun _ _ => trivial
      obtain ⟨info, liveInfo, _⟩ := info_of_sta sound.links live listed
      obtain ⟨node, liveNode, _⟩ := node_of_info sound.links liveInfo
      unfold showEntry
      rw [info_ok liveInfo, ok_bind, node_ok liveNode, ok_bind]
      split
      · rw [post_bind]
        unfold usteerGetClientActiveBits
        dsimp only
        split
        · rename_i zero
          exact ⟨rfl, zero⟩
        · rw [post_ok, post_bind]
          refine (post_mapM (Q := fun _ _ => True) info.beaconReports fun br _ => ?_).mono fun _ _ => trivial
          exact post_showReport cfg br sound
      · trivial

/-- No message sets a divisor to zero. -/
def KeepsDivisors : SystemInput → Prop
  | .config _ tb => tb .kickClientActiveSec ≠ some (0 : UInt32) ∧ tb .localStaUpdate ≠ some (0 : UInt32) ∧
      tb .remoteUpdateInterval ≠ some (0 : UInt32)
  | _ => True

/-- The settings that the code divides by. -/
def Config.Divisible (cfg : Config) : Prop :=
  cfg.kickClientActiveSec ≠ 0 ∧ cfg.localStaUpdate ≠ 0 ∧ cfg.remoteUpdateInterval ≠ 0

theorem divisible_defaults : usteerInitDefaults.Divisible := ⟨by decide, by decide, by decide⟩

theorem divisible_setItem {tb : ConfigMsg} (keeps : ∀ method, KeepsDivisors (.config method tb)) (s : System)
    (item : CfgItem) (v : item.type.Value) (present : tb item = some v) (divisible : s.config.Divisible) :
    (s.setItem item v).config.Divisible := by
  obtain ⟨active, update, interval⟩ := divisible
  obtain ⟨active', update', interval'⟩ := keeps .setConfig
  cases item
  case kickClientActiveSec => exact ⟨fun zero => active' (by rw [present]; exact congrArg some zero), update, interval⟩
  case localStaUpdate => exact ⟨active, fun zero => update' (by rw [present]; exact congrArg some zero), interval⟩
  case remoteUpdateInterval => exact ⟨active, update, fun zero => interval' (by rw [present]; exact congrArg some zero)⟩
  case interfaces =>
    cases v with
    | none => exact ⟨active, update, interval⟩
    | some names => exact ⟨active, update, interval⟩
  case ssid =>
    cases v with
    | none => exact ⟨active, update, interval⟩
    | some names => exact ⟨active, update, interval⟩
  all_goals exact ⟨active, update, interval⟩

theorem reachable_divisible (reach : System.Reachable env KeepsDivisors s) : s.config.Divisible := by
  induction reach with
  | start debugLevel syslog interfaces localId clock => exact divisible_defaults
  | step input before accepts met run ih =>
    rcases System.handle_cases run with ⟨daemonInput, d, rfl, handled, rfl⟩ | ⟨method, tb, rfl, rfl⟩ | ⟨_, rfl⟩
    · exact ih
    · exact setConfig_induction (P := fun s => s.config.Divisible) method tb (fun _ _ => divisible_defaults)
        (divisible_setItem fun _ => met) ih
    · exact ih

end Runs

/-- In every run whose configuration messages set none of the three divisors to zero, no
    input makes the daemon divide by zero. -/
theorem divisors_stay_positive (env : Platform) {s : System} (reach : System.Reachable env KeepsDivisors s)
    (input : SystemInput) (accepts : s.Accepts input) : s.handle env input ≠ .error .divisionByZero := by
  obtain ⟨active, update, interval⟩ := reachable_divisible reach
  intro fault
  cases input with
  | daemon input =>
    have safe : Post (input.Trips s.config) (s.daemon.handle env s.config input) _ := post_handle reach.sound accepts
    cases handled : s.daemon.handle env s.config input with
    | ok d =>
      rw [System.handle, handled] at fault
      cases fault
    | error e =>
      rw [System.handle, handled] at fault
      cases fault
      rw [handled] at safe
      rcases safe with ⟨other, _⟩ | ⟨_, zero⟩ | ⟨other, _⟩ | ⟨_, _, zero⟩
      · cases other
      · exact zero.elim active update
      · cases other
      · exact interval zero
  | config method tb => cases fault
  | getClientInfo address =>
    have safe := post_usteerUbusGetClientInfo s.config address reach.sound
    cases shown : s.daemon.usteerUbusGetClientInfo s.config address with
    | ok reply =>
      rw [System.handle, shown] at fault
      cases fault
    | error e =>
      rw [shown] at safe
      exact active safe.2

/-- A message with one option. -/
def oneOption (item : CfgItem) (v : item.type.Value) : ConfigMsg := Function.update (fun _ => none) item (some v)

/-- A new daemon. -/
def newSystem : System := .initial 0 false [] 1 0

theorem divisors_stay_positive_after_update : ∃ s : System,
    newSystem.handle plainPlatform (.config .updateConfig (oneOption .remoteUpdateInterval (500 : UInt32))) = .ok s ∧
      s.config.remoteUpdateInterval = 500 ∧ s.handle plainPlatform (.daemon .update) ≠ .error .divisionByZero := by
  have keeps : KeepsDivisors (.config .updateConfig (oneOption .remoteUpdateInterval (500 : UInt32))) := by
    refine ⟨fun same => ?_, fun same => ?_, fun same => ?_⟩
    · cases same
    · cases same
    · exact absurd (Option.some.inj same) (by decide : (500 : UInt32) ≠ 0)
  have reach : System.Reachable plainPlatform KeepsDivisors
      (newSystem.usteerUbusSetConfig .updateConfig (oneOption .remoteUpdateInterval (500 : UInt32))) :=
    .step (.config .updateConfig _) (.start 0 false [] 1 0) trivial keeps rfl
  exact ⟨_, rfl, rfl, divisors_stay_positive plainPlatform reach _ trivial⟩

/-- The update interval is set to zero, and the next update divides by it. -/
theorem interval_zero_divides : ∃ s : System, System.Reachable plainPlatform (fun _ => True) s ∧
    s.Accepts (.daemon .update) ∧ s.handle plainPlatform (.daemon .update) = .error .divisionByZero := by
  refine ⟨newSystem.usteerUbusSetConfig .updateConfig (oneOption .remoteUpdateInterval (0 : UInt32)), ?_, trivial, ?_⟩
  · exact .step (.config .updateConfig _) (.start 0 false [] 1 0) trivial trivial rfl
  · rfl

end Usteer
