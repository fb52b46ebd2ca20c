import Usteer.Ubus

/-!
Configuration messages as a whole. `set_config` starts from the defaults, but only for the
options that are fields of `struct usteer_config`; the interfaces, the SSIDs and the script
are kept elsewhere and stay as they are when the message does not name them. `get_config`
shows all options, and its reply can be sent back once there is a list of SSIDs to walk over
(`restorable_iff`).
-/
namespace Usteer
open SearchTree Timeout Function Daemon

/-! ### Showing the options -/

/-- The message with an attribute added. -/
def ConfigMsg.add (tb : ConfigMsg) (item : CfgItem) (v : Option item.type.Value) : ConfigMsg :=
  Function.update tb item v

theorem ConfigMsg.add_self (tb : ConfigMsg) (item : CfgItem) (v : Option item.type.Value) : tb.add item v item = v :=
  Function.update_self ..

theorem ConfigMsg.add_of_ne (tb : ConfigMsg) {item other : CfgItem} (v : Option item.type.Value)
    (differ : other ≠ item) : tb.add item v other = tb other :=
  Function.update_of_ne differ ..

namespace System

/-- `config_get_ssid`, which walks over the list unasked and shows every entry up to its
    terminator. -/
def configGetSsid (s : System) : Except Fault (List CString) := do
  let list ← notNull s.daemon.ssidList
  list.mapM (fun uss => if uss.length < 33 then .ok uss else .error .unterminated)

/-- The body of the loop of `usteer_ubus_get_config`: what the reply has of an option. -/
def getItem (s : System) : (item : CfgItem) → Except Fault (Option item.type.Value)
  | .syslog => .ok (some s.config.syslog)
  | .remoteDisabled => .ok (some s.config.remoteDisabled)
  | .debugLevel => .ok (some s.config.debugLevel)
  | .staBlockTimeout => .ok (some s.config.staBlockTimeout)
  | .localStaTimeout => .ok (some s.config.localStaTimeout)
  | .localStaUpdate => .ok (some s.config.localStaUpdate)
  | .maxRetryBand => .ok (some s.config.maxRetryBand)
  | .seenPolicyTimeout => .ok (some s.config.seenPolicyTimeout)
  | .loadBalancingThreshold => .ok (some s.config.loadBalancingThreshold)
  | .bandSteeringThreshold => .ok (some s.config.bandSteeringThreshold)
  | .remoteUpdateInterval => .ok (some s.config.remoteUpdateInterval)
  | .minConnectSnr => .ok (some s.config.minConnectSnr.toUInt32)
  | .minSnr => .ok (some s.config.minSnr.toUInt32)
  | .roamScanSnr => .ok (some s.config.roamScanSnr.toUInt32)
  | .roamScanTries => .ok (some s.config.roamScanTries)
  | .roamScanInterval => .ok (some s.config.roamScanInterval)
  | .roamTriggerSnr => .ok (some s.config.roamTriggerSnr.toUInt32)
  | .roamTriggerInterval => .ok (some s.config.roamTriggerInterval)
  | .roamKickDelay => .ok (some s.config.roamKickDelay)
  | .signalDiffThreshold => .ok (some s.config.signalDiffThreshold)
  | .initialConnectDelay => .ok (some s.config.initialConnectDelay)
  | .loadKickEnabled => .ok (some s.config.loadKickEnabled)
  | .loadKickThreshold => .ok (some s.config.loadKickThreshold)
  | .loadKickDelay => .ok (some s.config.loadKickDelay)
  | .loadKickMinClients => .ok (some s.config.loadKickMinClients)
  | .loadKickReasonCode => .ok (some s.config.loadKickReasonCode)
  | .kickClientActiveSec => .ok (some s.config.kickClientActiveSec)
  | .kickClientActiveBits => .ok (some s.config.kickClientActiveBits)
  | .beaconReportInvalideTimeout => .ok (some s.config.beaconReportInvalideTimeout)
  | .beaconRequestFrequency => .ok (some s.config.beaconRequestFrequency)
  | .beaconRequestSignalModifier => .ok (some s.config.beaconRequestSignalModifier)
  | .interfaces => .ok (some (some s.interfaces))
  | .ssid => (fun list => some (some list)) <$> s.configGetSsid
  | .nodeUpScript => .ok s.nodeUpScript

/-- The reply with what it has of an option. -/
def addItem (s : System) (reply : ConfigMsg) (item : CfgItem) : Except Fault ConfigMsg :=
  reply.add item <$> s.getItem item

/-- `usteer_ubus_get_config` -/
def usteerUbusGetConfig (s : System) : Except Fault ConfigMsg :=
  CfgItem.all.foldlM s.addItem (fun _ => none : ConfigMsg)

end System

/-! ### Settings -/

/-- Two systems have the same configuration; interfaces and SSIDs are sets. -/
structure SameSettings (s s' : System) : Prop where
  config : s'.config = s.config
  interfaces : ∀ name, name ∈ s'.interfaces ↔ name ∈ s.interfaces
  ssids : ∀ ssid, ssid ∈ s'.daemon.ssidList.getD [] ↔ ssid ∈ s.daemon.ssidList.getD []
  nodeUpScript : s'.nodeUpScript = s.nodeUpScript

theorem mem_addInterface (name : CString) (list : List CString) (other : CString) :
    other ∈ addInterface name list ↔ other = name ∨ other ∈ list := by
  induction list with
  | nil => simp [addInterface]
  | cons first rest ih =>
    unfold addInterface
    split
    · rename_i same
      simp [same]
    · split
      · simp
      · rw [List.mem_cons, ih, List.mem_cons]
        tauto

theorem mem_addInterfaces (names list : List CString) (other : CString) :
    other ∈ names.foldl (fun list name => addInterface name list) list ↔ other ∈ names ∨ other ∈ list := by
  induction names generalizing list with
  | nil => simp
  | cons first rest ih =>
    rw [List.foldl_cons, ih, mem_addInterface, List.mem_cons]
    tauto

section Settings

variable {env : Platform} {meets : SystemInput → Prop} {s s' : System} {tb : ConfigMsg}

/-! ### What a message sets -/

/-- What only one option sets is as the message has that option, or as it was. -/
theorem component_setConfig {α : Type} (f : System → α) (only : CfgItem) (g : only.type.Value → α → α)
    (keeps : ∀ s item v, item ≠ only → f (s.setItem item v) = f s) (sets : ∀ s v, f (s.setItem only v) = g v (f s))
    (defaults : ∀ s : System, f { s with config := usteerInitDefaults } = f s) (method : ConfigMethod) :
    f (s.usteerUbusSetConfig method tb) = (tb only).elim (f s) (fun v => g v (f s)) := by
  have untouched : ∀ (list : List CfgItem) (s : System), only ∉ list →
      f (list.foldl (fun s item => (tb item).elim s (s.setItem item)) s) = f s := by
    intro list
    induction list with
    | nil => exact fun _ _ => rfl
    | cons item rest ih =>
      intro s outside
      rw [List.mem_cons, not_or] at outside
      rw [List.foldl_cons, ih _ outside.2]
      cases tb item with
      | none => rfl
      | some v => exact keeps s item v (Ne.symm outside.1)
  have touched : ∀ (list : List CfgItem) (s : System), list.Nodup → only ∈ list →
      f (list.foldl (fun s item => (tb item).elim s (s.setItem item)) s) =
        (tb only).elim (f s) (fun v => g v (f s)) := by
    intro list
    induction list with
    | nil => exact fun _ _ inside => (List.not_mem_nil inside).elim
    | cons item rest ih =>
      intro s distinct inside
      rw [List.nodup_cons] at distinct
      rw [List.foldl_cons]
      by_cases here : only = item
      · subst here
        rw [untouched rest _ distinct.1]
        cases tb only with
        | none => rfl
        | some v => exact sets s v
      · rw [ih _ distinct.2 ((List.mem_cons.mp inside).resolve_left here)]
        have same : f ((tb item).elim s (s.setItem item)) = f s := by
          cases tb item with
          | none => rfl
          | some v => exact keeps s item v (Ne.symm here)
        rw [same]
  have listed : only ∈ CfgItem.all := by
    cases only <;> decide
  unfold System.usteerUbusSetConfig
  rw [touched _ _ (by decide) listed]
  have start : f (if method = .setConfig then { s with config := usteerInitDefaults } else s) = f s := by
    split
    · exact defaults s
    · rfl
  rw [start]

theorem interfaces_setConfig (method : ConfigMethod) : (s.usteerUbusSetConfig method tb).interfaces =
    (tb .interfaces).elim s.interfaces (fun v : Option (List CString) =>
      v.elim s.interfaces (fun names => names.foldl (fun list name => addInterface name list) [])) := by
  refine component_setConfig System.interfaces .interfaces (fun (v : Option (List CString)) old =>
    v.elim old (fun names => names.foldl (fun list name => addInterface name list) [])) ?_ ?_ (fun _ => rfl) method
  · intro s item v other
    cases item
    case interfaces => exact absurd rfl other
    case ssid =>
      cases v with
      | none => rfl
      | some names => rfl
    all_goals rfl
  · intro s v
    cases v with
    | none => rfl
    | some names => rfl

theorem ssidList_setConfig (method : ConfigMethod) : (s.usteerUbusSetConfig method tb).daemon.ssidList =
    (tb .ssid).elim s.daemon.ssidList (fun v : Option (List CString) =>
      v.elim s.daemon.ssidList (fun names => some (names.map (List.take 33)).reverse)) := by
  refine component_setConfig (fun s => s.daemon.ssidList) .ssid (fun (v : Option (List CString)) old =>
    v.elim old (fun names => some (names.map (List.take 33)).reverse)) ?_ ?_ (fun _ => rfl) method
  · intro s item v other
    cases item
    case ssid => exact absurd rfl other
    case interfaces =>
      cases v with
      | none => rfl
      | some names => rfl
    all_goals rfl
  · intro s v
    cases v with
    | none => rfl
    | some names => rfl

theorem nodeUpScript_setConfig (method : ConfigMethod) : (s.usteerUbusSetConfig method tb).nodeUpScript =
    (tb .nodeUpScript).elim s.nodeUpScript (fun v : CString => if v.isEmpty then none else some v) := by
  refine component_setConfig System.nodeUpScript .nodeUpScript
    (fun (v : CString) _ => if v.isEmpty then none else some v) ?_ (fun _ _ => rfl) (fun _ => rfl) method
  intro s item v other
  cases item
  case nodeUpScript => exact absurd rfl other
  case interfaces =>
    cases v with
    | none => rfl
    | some names => rfl
  case ssid =>
    cases v with
    | none => rfl
    | some names => rfl
  all_goals rfl

/-- The options that are fields start from the defaults. -/
theorem config_setConfig :
    (s.usteerUbusSetConfig .setConfig tb).config = (s'.usteerUbusSetConfig .setConfig tb).config := by
  have alike : ∀ (list : List CfgItem) (s s' : System), s.config = s'.config →
      (list.foldl (fun s item => (tb item).elim s (s.setItem item)) s).config =
        (list.foldl (fun s item => (tb item).elim s (s.setItem item)) s').config := by
    intro list
    induction list with
    | nil => exact fun _ _ same => same
    | cons item rest ih =>
      intro s s' same
      refine ih _ _ ?_
      dsimp only
      cases tb item with
      | none => exact same
      | some v =>
        cases item
        case interfaces =>
          cases v with
          | none => exact same
          | some names => exact same
        case ssid =>
          cases v with
          | none => exact same
          | some names => exact same
        all_goals simp only [Option.elim_some, System.setItem, System.configSetNodeUpScript, same]
  exact alike _ _ _ rfl

end Settings

/-! ### Full replacement -/

/-- The message names the three options that are not fields, and its lists hold nothing but
    strings. -/
def NamesAll (tb : ConfigMsg) : Prop :=
  (∃ names : List CString, tb .interfaces = some (some names)) ∧
    (∃ names : List CString, tb .ssid = some (some names)) ∧ (tb .nodeUpScript).isSome

/-- The states of a system with any configuration messages. -/
abbrev System.Reached (env : Platform) : System → Prop := System.Reachable env (fun _ => True)

/-- A new daemon after one option was set. -/
def withOption (item : CfgItem) (v : item.type.Value) : System :=
  newSystem.usteerUbusSetConfig .updateConfig (oneOption item v)

theorem reached_newSystem (env : Platform) : System.Reached env newSystem := .start 0 false [] 1 0

theorem reached_withOption (env : Platform) (item : CfgItem) (v : item.type.Value) :
    System.Reached env (withOption item v) :=
  .step (.config .updateConfig (oneOption item v)) (reached_newSystem env) trivial trivial rfl

/-- `set_config` leads to the same configuration from all states exactly for the messages
    that name the interfaces, the SSIDs and the script. -/
theorem set_config_replaces_iff (env : Platform) (tb : ConfigMsg) :
    (∀ s s', System.Reached env s → System.Reached env s' →
      SameSettings (s.usteerUbusSetConfig .setConfig tb) (s'.usteerUbusSetConfig .setConfig tb)) ↔ NamesAll tb := by
  constructor
  · intro same
    refine ⟨?_, ?_, ?_⟩
    · by_contra unnamed
      have stays : ∀ s : System, (s.usteerUbusSetConfig .setConfig tb).interfaces = s.interfaces := by
        intro s
        rw [interfaces_setConfig]
        rcases named : tb .interfaces with _ | _ | names
        · rfl
        · rfl
        · exact absurd ⟨names, named⟩ unnamed
      have differ := (same _ _ (reached_newSystem env) (.start 0 false [[1]] 1 0)).interfaces [1]
      rw [stays, stays] at differ
      exact absurd (differ.mp List.mem_cons_self) List.not_mem_nil
    · by_contra unnamed
      have stays : ∀ s : System, (s.usteerUbusSetConfig .setConfig tb).daemon.ssidList = s.daemon.ssidList := by
        intro s
        rw [ssidList_setConfig]
        rcases named : tb .ssid with _ | _ | names
        · rfl
        · rfl
        · exact absurd ⟨names, named⟩ unnamed
      have differ := (same _ _ (reached_newSystem env)
        (reached_withOption env .ssid (some [[1]] : Option (List CString)))).ssids [1]
      rw [stays, stays] at differ
      exact absurd (differ.mp List.mem_cons_self) List.not_mem_nil
    · by_contra unnamed
      have stays : ∀ s : System, (s.usteerUbusSetConfig .setConfig tb).nodeUpScript = s.nodeUpScript := by
        intro s
        rw [nodeUpScript_setConfig, Option.not_isSome_iff_eq_none.mp unnamed]
        rfl
      have differ := (same _ _ (reached_newSystem env)
        (reached_withOption env .nodeUpScript ([1] : CString))).nodeUpScript
      rw [stays, stays] at differ
      cases differ
  · rintro ⟨⟨interfaces, hasInterfaces⟩, ⟨ssids, hasSsids⟩, named⟩ s s' _ _
    obtain ⟨script, hasScript⟩ := Option.isSome_iff_exists.mp named
    refine ⟨config_setConfig, fun name => ?_, fun ssid => ?_, ?_⟩
    · rw [interfaces_setConfig, interfaces_setConfig, hasInterfaces]
      rfl
    · rw [ssidList_setConfig, ssidList_setConfig, hasSsids]
      rfl
    · rw [nodeUpScript_setConfig, nodeUpScript_setConfig, hasScript]
      rfl

/-- The message without options. -/
def noOptions : ConfigMsg := fun _ => none

/-- After a message without options a daemon that had a script still has it. -/
theorem set_config_keeps_script : ∃ s s', System.Reached plainPlatform s ∧ System.Reached plainPlatform s' ∧
    ¬ SameSettings (s.usteerUbusSetConfig .setConfig noOptions) (s'.usteerUbusSetConfig .setConfig noOptions) := by
  refine ⟨newSystem, withOption .nodeUpScript ([1] : CString), reached_newSystem _, reached_withOption _ _ _, ?_⟩
  intro same
  have differ := same.nodeUpScript
  rw [nodeUpScript_setConfig, nodeUpScript_setConfig] at differ
  cases differ

/-! ### Reading and setting -/

section Reading

variable {env : Platform} {meets : SystemInput → Prop} {s : System} {reply : ConfigMsg}

/-- A reply has what every option shows. -/
theorem getConfig_iff : s.usteerUbusGetConfig = .ok reply ↔ ∀ item, s.getItem item = .ok (reply item) := by
  have general : ∀ (list : List CfgItem) (start : ConfigMsg),
      list.foldlM s.addItem start = .ok reply ↔
        (∀ item ∈ list, s.getItem item = .ok (reply item)) ∧ ∀ item ∉ list, reply item = start item := by
    intro list
    induction list with
    | nil =>
      intro start
      constructor
      · intro same
        cases same
        exact ⟨fun _ absent => (List.not_mem_nil absent).elim, fun _ _ => rfl⟩
      · rintro ⟨-, same⟩
        exact congrArg Except.ok (funext fun item => (same item List.not_mem_nil).symm)
    | cons first rest ih =>
      intro start
      rw [List.foldlM_cons, System.addItem]
      cases shown : s.getItem first with
      | error e =>
        constructor
        · intro impossible
          cases impossible
        · intro both
          cases shown.symm.trans (both.1 first List.mem_cons_self)
      | ok v =>
        change rest.foldlM s.addItem (start.add first v) = _ ↔ _
        rw [ih]
        constructor
        · rintro ⟨inside, outside⟩
          refine ⟨fun item listed => ?_, fun item absent => ?_⟩
          · by_cases later : item ∈ rest
            · exact inside item later
            · have here : item = first := (List.mem_cons.mp listed).resolve_right later
              subst here
              rw [outside item later, ConfigMsg.add_self, shown]
          · rw [List.mem_cons, not_or] at absent
            rw [outside item absent.2, ConfigMsg.add_of_ne _ _ absent.1]
        · rintro ⟨inside, outside⟩
          refine ⟨fun item listed => inside item (List.mem_cons_of_mem _ listed), fun item absent => ?_⟩
          by_cases here : item = first
          · subst here
            rw [ConfigMsg.add_self]
            exact (Except.ok.inj (shown.symm.trans (inside item List.mem_cons_self))).symm
          · rw [ConfigMsg.add_of_ne _ _ here]
            exact outside item (fun listed => (List.mem_cons.mp listed).elim here absent)
  have listed : ∀ item : CfgItem, item ∈ CfgItem.all := by
    intro item
    cases item <;> decide
  exact (general _ _).trans ⟨fun both item => both.1 item (listed item),
    fun all => ⟨fun item _ => all item, fun item absent => absurd (listed item) absent⟩⟩

/-- What no message sets: two options that are not in the table, and an empty script. -/
structure Settled (s : System) : Prop where
  vendorUpdateInterval : s.config.vendorUpdateInterval = usteerInitDefaults.vendorUpdateInterval
  remoteNodeTimeout : s.config.remoteNodeTimeout = usteerInitDefaults.remoteNodeTimeout
  nodeUpScript : s.nodeUpScript ≠ some []

theorem settled_setItem (settled : Settled s) (item : CfgItem) (v : item.type.Value) :
    Settled (s.setItem item v) := by
  cases item
  case interfaces =>
    cases v with
    | none => exact settled
    | some names => exact ⟨settled.vendorUpdateInterval, settled.remoteNodeTimeout, settled.nodeUpScript⟩
  case ssid =>
    cases v with
    | none => exact settled
    | some names => exact ⟨settled.vendorUpdateInterval, settled.remoteNodeTimeout, settled.nodeUpScript⟩
  case nodeUpScript =>
    refine ⟨settled.vendorUpdateInterval, settled.remoteNodeTimeout, ?_⟩
    cases v with
    | nil =>
      intro same
      cases same
    | cons first rest =>
      intro same
      cases same
  all_goals exact ⟨settled.vendorUpdateInterval, settled.remoteNodeTimeout, settled.nodeUpScript⟩

theorem reachable_settled (reach : System.Reachable env meets s) : Settled s := by
  induction reach with
  | start debugLevel syslog interfaces localId clock =>
    refine ⟨rfl, rfl, ?_⟩
    intro same
    cases same
  | step input before accepts met run ih =>
    rcases System.handle_cases run with ⟨daemonInput, d, rfl, handled, rfl⟩ | ⟨method, tb, rfl, rfl⟩ | ⟨_, rfl⟩
    · exact ⟨ih.vendorUpdateInterval, ih.remoteNodeTimeout, ih.nodeUpScript⟩
    · exact setConfig_induction (P := Settled) method tb (fun _ settled => ⟨rfl, rfl, settled.nodeUpScript⟩)
        (fun s item v _ settled => settled_setItem settled item v) ih
    · exact ih

/-- The list of SSIDs fits its entries. -/
def Terminated (s : System) : Prop :=
  ∀ ssid ∈ s.daemon.ssidList.getD [], ssid.length ≤ 32

theorem configGetSsid_iff (fits : Terminated s) (list : List CString) :
    s.configGetSsid = .ok list ↔ s.daemon.ssidList = some list := by
  unfold Terminated at fits
  unfold System.configGetSsid
  cases stored : s.daemon.ssidList with
  | none =>
    constructor
    · intro impossible
      cases impossible
    · intro impossible
      cases impossible
  | some ssids =>
    rw [stored, Option.getD_some] at fits
    have shown : ssids.mapM (fun uss => if uss.length < 33 then Except.ok uss else .error .unterminated) =
        (.ok ssids : Except Fault (List CString)) := by
      clear stored
      induction ssids with
      | nil => rfl
      | cons first rest ih =>
        have short : first.length < 33 := Nat.lt_succ_of_le (fits first List.mem_cons_self)
        rw [List.mapM_cons, if_pos short, ih (fun ssid later => fits ssid (List.mem_cons_of_mem _ later))]
        rfl
    change ssids.mapM _ = _ ↔ _
    rw [shown, Except.ok.injEq, Option.some.injEq]

/-- The reply when there is a list of SSIDs. -/
theorem reply_shape (list : List CString) (stored : s.configGetSsid = .ok list)
    (shows : ∀ item, s.getItem item = .ok (reply item)) :
    reply = ConfigMsg.add (fun item => (s.getItem item).toOption.join) .ssid (some (some list)) := by
  funext item
  by_cases here : item = .ssid
  · subst here
    have shown := shows .ssid
    rw [System.getItem, stored] at shown
    exact (Except.ok.inj shown).symm.trans (ConfigMsg.add_self ..).symm
  · refine Eq.trans ?_ (ConfigMsg.add_of_ne _ _ here).symm
    rw [shows item]
    rfl

/-- The fields of the configuration come back from the reply. -/
theorem config_restored (settled : Settled s) (list : List CString) :
    (s.usteerUbusSetConfig .setConfig
      (ConfigMsg.add (fun item => (s.getItem item).toOption.join) .ssid (some (some list)))).config = s.config := by
  obtain ⟨⟨⟩, interfaces, script, daemon⟩ := s
  obtain ⟨vendor, remote, -⟩ := settled
  cases vendor
  cases remote
  cases script with
  | none => rfl
  | some script => rfl

/-- The reply can be sent back. -/
def Restorable (s : System) : Prop :=
  ∃ reply, s.usteerUbusGetConfig = .ok reply ∧ SameSettings s (s.usteerUbusSetConfig .setConfig reply)

theorem restorable_iff (settled : Settled s) (fits : Terminated s) : Restorable s ↔ s.daemon.ssidList.isSome := by
  constructor
  · rintro ⟨reply, shown, -⟩
    have ssid := getConfig_iff.mp shown .ssid
    rw [System.getItem] at ssid
    cases listed : s.configGetSsid with
    | error e =>
      rw [listed] at ssid
      cases ssid
    | ok list => rw [(configGetSsid_iff fits list).mp listed, Option.isSome_some]
  · intro present
    obtain ⟨list, stored⟩ := Option.isSome_iff_exists.mp present
    have listed : s.configGetSsid = .ok list := (configGetSsid_iff fits list).mpr stored
    have replies : ∃ reply : ConfigMsg, ∀ item, s.getItem item = .ok (reply item) := by
      have each : ∀ item, ∃ v, s.getItem item = .ok v := by
        intro item
        cases item
        case ssid =>
          rw [System.getItem, listed]
          exact ⟨_, rfl⟩
        all_goals exact ⟨_, rfl⟩
      choose reply shows using each
      exact ⟨reply, shows⟩
    obtain ⟨reply, shows⟩ := replies
    have shape := reply_shape list listed shows
    refine ⟨reply, getConfig_iff.mpr shows, ?_, fun name => ?_, fun ssid => ?_, ?_⟩
    · rw [shape]
      exact config_restored settled list
    · have shown : reply .interfaces = some (some s.interfaces) := (Except.ok.inj (shows .interfaces)).symm
      rw [interfaces_setConfig, shown]
      exact (mem_addInterfaces s.interfaces [] name).trans (by simp)
    · have shown : reply .ssid = some (some list) := by
        rw [shape]
        rfl
      rw [ssidList_setConfig, shown, stored]
      unfold Terminated at fits
      rw [stored, Option.getD_some] at fits
      have whole : list.map (List.take 33) = list :=
        (List.map_congr_left fun ssid listed =>
          List.take_of_length_le (Nat.le_succ_of_le (fits ssid listed))).trans (List.map_id list)
      change ssid ∈ (list.map (List.take 33)).reverse ↔ ssid ∈ list
      rw [whole, List.mem_reverse]
    · have shown : reply .nodeUpScript = s.nodeUpScript := (Except.ok.inj (shows .nodeUpScript)).symm
      rw [nodeUpScript_setConfig, shown]
      cases script : s.nodeUpScript with
      | none => rfl
      | some v =>
        cases v with
        | nil => exact absurd script settled.nodeUpScript
        | cons first rest => rfl

/-- The inputs of a run, the first one first, and the state that it ends in. -/
inductive System.Run (env : Platform) : List SystemInput → System → Prop where
  | start (debugLevel : UInt32) (syslog : Bool) (interfaces : List CString) (localId : UInt32) (clock : UInt64) :
      Run env [] (.initial debugLevel syslog interfaces localId clock)
  | step {inputs s s'} (input : SystemInput) (before : Run env inputs s) (accepts : s.Accepts input)
      (handled : s.handle env input = .ok s') : Run env (inputs ++ [input]) s'

/-- A configuration message with SSIDs, all of them strings. -/
def SetsSsids : SystemInput → Prop
  | .config _ tb => ∃ names : List CString, tb .ssid = some (some names)
  | _ => False

theorem System.Run.reached {inputs : List SystemInput} (run : System.Run env inputs s) : System.Reached env s := by
  induction run with
  | start debugLevel syslog interfaces localId clock => exact .start debugLevel syslog interfaces localId clock
  | step input before accepts handled ih => exact .step input ih accepts trivial handled

/-- There is a list of SSIDs once a message had one. -/
theorem ssidList_run {inputs : List SystemInput} (run : System.Run env inputs s) :
    s.daemon.ssidList.isSome ↔ ∃ input ∈ inputs, SetsSsids input := by
  induction run with
  | start debugLevel syslog interfaces localId clock =>
    change (none : Option (List CString)).isSome ↔ _
    simp
  | @step inputs s s' input before accepts handled ih =>
    have append : (∃ other ∈ inputs ++ [input], SetsSsids other) ↔ s.daemon.ssidList.isSome ∨ SetsSsids input := by
      rw [ih]
      simp only [List.mem_append, List.mem_singleton, or_and_right, exists_or, exists_eq_left]
    rw [append]
    rcases System.handle_cases handled with ⟨daemonInput, d, rfl, daemonHandled, rfl⟩ | ⟨method, tb, rfl, rfl⟩ |
      ⟨⟨address, rfl⟩, rfl⟩
    · have same : d.ssidList = s.daemon.ssidList := by
        rcases (post_handle before.reached.sound accepts).of_ok daemonHandled with ⟨ms, rfl, rfl⟩ | evolves
        · rfl
        · exact ssidList_evolves evolves
      simp [same, SetsSsids]
    · rw [ssidList_setConfig, SetsSsids]
      rcases tb .ssid with _ | _ | names
      · refine ⟨Or.inl, fun either => either.resolve_right ?_⟩
        rintro ⟨names, same⟩
        cases same
      · refine ⟨Or.inl, fun either => either.resolve_right ?_⟩
        rintro ⟨names, same⟩
        cases same
      · exact ⟨fun _ => .inr ⟨names, rfl⟩, fun _ => rfl⟩
    · simp [SetsSsids]

end Reading

/-- In every run `get_config` replies, and its reply sent back changes nothing, exactly once
    a message with a list of SSIDs has come. -/
theorem get_config_restores_iff (env : Platform) {inputs : List SystemInput} {s : System}
    (run : System.Run env inputs s) (fits : Terminated s) : Restorable s ↔ ∃ input ∈ inputs, SetsSsids input :=
  (restorable_iff (reachable_settled run.reached) fits).trans (ssidList_run run)

/-- The message that sets the list of SSIDs to one SSID. -/
def oneSsid : SystemInput := .config .updateConfig (oneOption .ssid (some [[1]] : Option (List CString)))

theorem get_config_restores_after_ssid : ∃ s, System.Run plainPlatform [oneSsid] s ∧ Restorable s := by
  have run : System.Run plainPlatform [oneSsid] (withOption .ssid (some [[1]] : Option (List CString))) :=
    .step oneSsid (.start 0 false [] 1 0) trivial rfl
  refine ⟨_, run, (get_config_restores_iff plainPlatform run ?_).mpr ⟨oneSsid, List.mem_cons_self, [[1]], rfl⟩⟩
  intro ssid listed
  cases List.mem_singleton.mp listed
  decide

/-- A new daemon has no list to walk over. -/
theorem get_config_without_ssids : ∃ s, System.Run plainPlatform [] s ∧ Terminated s ∧
    s.usteerUbusGetConfig = .error .nullPointer ∧ ¬ Restorable s := by
  refine ⟨newSystem, .start 0 false [] 1 0, ?_, rfl, ?_⟩
  · intro ssid listed
    exact (List.not_mem_nil listed).elim
  · rintro ⟨reply, shown, -⟩
    cases shown

end Usteer
