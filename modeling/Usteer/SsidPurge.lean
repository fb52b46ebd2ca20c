import Usteer.Ageing
import Usteer.Network
import Usteer.Search
import Usteer.Settings

/-!
A new list of SSIDs. It does not touch the remote nodes that are there; it only decides
which nodes of a message are taken over. A node that it does not admit is no longer told
about, so the updates count it up and remove it: `ssids_purged` says that after enough
updates every remote node has an SSID that the list admits, whatever arrives meanwhile.
-/
namespace Usteer
open SearchTree Timeout Function Daemon

/-- The SSID is one that the list admits, as far as a node can hold it. -/
def Daemon.Admits (d : Daemon) (ssid : CString) : Prop :=
  ∃ text, d.usteerIsValidSsid text = true ∧ ssid.take 32 = text.take 32

section Purging

variable {env : Platform} {cfg : Config} {d d' d'' : Daemon} {n : NodeId} {node node' : UsteerNode} {count : Int32}
  {id : UInt32}

theorem admits_of_list (same : d'.ssidList = d.ssidList) {ssid : CString} : d'.Admits ssid ↔ d.Admits ssid := by
  unfold Daemon.Admits usteerIsValidSsid
  rw [same]

theorem countOf_bare (node : UsteerNode) : countOf (bare node) = countOf node := rfl

theorem isLocal_of_counts (counts : countOf node = some count) : node.isLocal = false := by
  unfold countOf remoteOf at counts
  unfold UsteerNode.isLocal
  cases kind : node.kind with
  | loc ln =>
    rw [kind] at counts
    cases counts
  | remote rn => rfl

theorem counts_of_isLocal (isRemote : node.isLocal = false) : ∃ count, countOf node = some count := by
  unfold UsteerNode.isLocal at isRemote
  unfold countOf remoteOf
  cases kind : node.kind with
  | loc ln =>
    rw [kind] at isRemote
    cases isRemote
  | remote rn => exact ⟨rn.check, rfl⟩

theorem countOf_bumped (node : UsteerNode) : countOf (bumpCheck node) = (countOf node).map (· + 1) := by
  unfold countOf remoteOf bumpCheck
  cases kind : node.kind with
  | loc ln => simp [kind]
  | remote rn => rfl

/-- A remote node is new to the list, or has the SSID that it had and has been counted
    so. -/
structure Carried (counted : Int32 → Int32 → Prop) (d d' : Daemon) : Prop where
  list : d'.ssidList = d.ssidList
  nodes : ∀ {n node' count}, d'.nodes.get? n = some node' → countOf node' = some count →
    (d.Admits node'.ssid ∧ count = 0) ∨ ∃ node before, d.nodes.get? n = some node ∧
      node.ssid.take 32 = node'.ssid.take 32 ∧ countOf node = some before ∧ counted before count

theorem Carried.refl (d : Daemon) : Carried Eq d d := ⟨rfl, fun live counts => .inr ⟨_, _, live, rfl, counts, rfl⟩⟩

theorem Carried.trans (first : Carried Eq d d') (second : Carried Eq d' d'') : Carried Eq d d'' := by
  refine ⟨second.list.trans first.list, fun live'' counts'' => ?_⟩
  rcases second.nodes live'' counts'' with ⟨admits, zero⟩ | ⟨node', _, live', same', counts', rfl⟩
  · exact .inl ⟨(admits_of_list first.list).mp admits, zero⟩
  · rcases first.nodes live' counts' with ⟨⟨text, valid, fits⟩, zero⟩ | ⟨node, _, live, same, counts, rfl⟩
    · exact .inl ⟨⟨text, valid, same'.symm.trans fits⟩, zero⟩
    · exact .inr ⟨node, _, live, same.trans same', counts, rfl⟩

/-! ### Messages -/

theorem countOf_taken {msg : ApmsgNode} {bssid : MacAddr} (counts : countOf (takeOver msg bssid node) = some count) :
    count = 0 := by
  unfold countOf remoteOf takeOver at counts
  cases kind : node.kind with
  | loc ln =>
    rw [kind] at counts
    cases counts
  | remote rn =>
    rw [kind] at counts
    cases counts
    rfl

theorem carried_node {text : CString} {msg : ApmsgNode} (sound : Sound none d)
    (run : d.interfaceAddNode env cfg text id.toUInt64 msg = .ok d') : Carried Eq d d' := by
  unfold interfaceAddNode at run
  split at run
  · cases run
    exact .refl d
  · rename_i valid
    obtain ⟨⟨n, d1⟩, got, run⟩ := bind_ok run
    obtain ⟨bssid, -, run⟩ := bind_ok run
    have found : Sound none d1 ∧ d1.ssidList = d.ssidList ∧ (∃ node, d1.nodes.get? n = some node ∧ node.isLocal = false) ∧
        ∀ m node, m ≠ n → d1.nodes.get? m = some node → d.nodes.get? m = some node := by
      rcases (post_interfaceGetNode (F := AnyFault) text id msg.name sound).of_ok got with
        ⟨same, inside, node, live, -⟩ | ⟨fresh, joined, -, sound1, -⟩
      · dsimp only at same
        subst same
        obtain ⟨node, live, isRemote⟩ := node_of_remotes sound.registered (mem_remoteGroup inside)
        exact ⟨sound, rfl, ⟨node, live, isRemote⟩, fun _ _ _ live => live⟩
      · dsimp only at fresh joined sound1
        subst fresh
        refine ⟨sound1, by rw [joined.rest], ⟨newRemoteNode text id.toUInt64 msg.name, ?_, rfl⟩, fun m node other live => ?_⟩
        · rw [joined.nodes, Heap.get?_alloc, if_pos rfl]
        · rwa [joined.nodes, Heap.get?_alloc, if_neg other] at live
    obtain ⟨sound1, list, ⟨node1, live1, isRemote⟩, others⟩ := found
    have live2 : (d1.modifyNode n (takeOver msg bssid)).nodes.get? n = some (takeOver msg bssid node1) := by
      rw [modifyNode, Heap.get?_modify, if_pos rfl, live1]
      rfl
    have keeps := keepsNode_takeOver msg bssid
    have sound2 : Sound none (d1.modifyNode n (takeOver msg bssid)) := by
      have moves : Moves env cfg .plain (none, d1) (none, d1.modifyNode n (takeOver msg bssid)) :=
        .one (.editNode n keeps fun _ _ _ => keepsCounts_plain)
      exact sound_moves (a := (none, d1)) sound1 moves
    have isRemote2 : (bare (takeOver msg bssid node1)).isLocal = false := by
      rw [← isRemote, isLocal_eq, isLocal_eq, ← (keeps node1).key]
      rfl
    have stations : Post AnyFault (msg.stations.foldlM (fun d sta => d.interfaceAddStation env cfg n sta)
        (d1.modifyNode n (takeOver msg bssid))) _ := shown_stations msg.stations sound2 (by rw [live2]; rfl) isRemote2
    obtain ⟨moves, -, bares, -⟩ := stations.of_ok run
    have list' : d'.ssidList = d.ssidList := ((survives_moves moves).ssidList).trans list
    refine ⟨list', fun {m node' count} live' counts => ?_⟩
    have same := bares m
    rw [live'] at same
    obtain ⟨node2, found, equal⟩ := Option.map_eq_some_iff.mp same.symm
    rw [← countOf_bare, ← equal, countOf_bare] at counts
    have ssid : node2.ssid = node'.ssid := (congrArg UsteerNode.ssid equal :)
    by_cases here : m = n
    · subst here
      rw [live2] at found
      cases found
      refine .inl ⟨⟨msg.ssid, by simpa using valid, ?_⟩, countOf_taken counts⟩
      rw [← ssid]
      simp [takeOver, List.take_take]
    · rw [modifyNode, Heap.get?_modify, if_neg here] at found
      exact .inr ⟨node2, count, others m node2 here found, by rw [ssid], counts, rfl⟩

theorem carried_message {text : CString} {msg : Apmsg} (sound : Sound none d)
    (run : d.handle env cfg (.message text msg) = .ok d') : Carried Eq d d' := by
  have each : ∀ (nodes : List ApmsgNode) {d : Daemon}, Sound none d →
      Post AnyFault (nodes.foldlM (fun d node => d.interfaceAddNode env cfg text msg.id.toUInt64 node) d) (Carried Eq d) := by
    intro nodes
    induction nodes with
    | nil => exact fun _ => .refl _
    | cons first rest ih =>
      intro d sound
      rw [List.foldlM_cons, post_bind]
      refine post_of_ok fun d1 added => ?_
      have evolves : Evolves env cfg (.sentBy msg.id) d d1 :=
        (post_interfaceAddNode text rfl (fun _ _ _ _ _ impossible => impossible) sound).of_ok added
      exact (ih (sound_evolves sound evolves)).mono fun d' => (carried_node sound added).trans
  change (if cfg.remoteDisabled then .ok d else d.interfaceRecvMsg env cfg text msg) = .ok d' at run
  split at run
  · cases run
    exact .refl d
  · unfold interfaceRecvMsg at run
    split at run
    · cases run
      exact .refl d
    · exact (each msg.nodes sound).of_ok run

/-! ### Other inputs -/

theorem list_handle {input : Input} (sound : Sound none d) (accepts : d.Accepts input) (run : d.handle env cfg input = .ok d') :
    d'.ssidList = d.ssidList := by
  rcases (post_handle sound accepts).of_ok run with ⟨ms, -, rfl⟩ | evolves
  · rfl
  · exact ssidList_evolves evolves

/-- What is known of remote nodes tells the SSID. -/
theorem Ignorant.ssid (ignorant : Ignorant d d') (live' : d'.nodes.get? n = some node') (counts : countOf node' = some count) :
    ∃ node, d.nodes.get? n = some node ∧ node.ssid.take 32 = node'.ssid.take 32 := by
  have isKey : ∃ key, remoteKey node' = some key := by
    unfold countOf remoteOf at counts
    unfold remoteKey
    cases kind : node'.kind with
    | loc ln =>
      rw [kind] at counts
      cases counts
    | remote rn => exact ⟨_, rfl⟩
  obtain ⟨key, isKey⟩ := isKey
  obtain ⟨node, live, -, same⟩ := ignorant.nodes live' isKey
  exact ⟨node, live, (congrArg NodeData.ssid same :)⟩

theorem carried_others {input : Input} (sound : Sound none d) (accepts : d.Accepts input) (others : ¬ input.OfPeers)
    (run : d.handle env cfg input = .ok d') : Carried Eq d d' := by
  refine ⟨list_handle sound accepts run, fun {n node' count} live' counts => ?_⟩
  have own : input.isMessage = false := by
    cases input with
    | message addr msg => exact absurd trivial others
    | _ => rfl
  obtain ⟨node, live, same⟩ := (ignorant_handle sound accepts own run).ssid live' counts
  have alike := ((undisturbed_handle sound accepts others).of_ok run).nodes n
  rw [live, live'] at alike
  change remoteOf node' = remoteOf node at alike
  refine .inr ⟨node, count, live, same, ?_, rfl⟩
  rw [← counts, countOf, countOf, alike]

theorem carried_update (sound : Sound none d) (run : d.handle env cfg .update = .ok d') :
    Carried (fun before count => before ≤ ageTimeout cfg ∧ count = before + 1) d d' := by
  refine ⟨list_handle sound (show d.Accepts .update from trivial) run, fun {n node' count} live' counts => .inr ?_⟩
  have positive : cfg.remoteUpdateInterval ≠ 0 := by
    intro zero
    change d.usteerSendUpdateTimer env cfg = .ok d' at run
    obtain ⟨nodes, -, run⟩ := bind_ok run
    rw [usteerCheckTimeout, if_pos zero] at run
    cases run
  obtain ⟨sound', aged⟩ := (aged_update env positive sound).of_ok run
  obtain ⟨node, live, same⟩ := (ignorant_aged aged).ssid live' counts
  have listed : n ∈ d.remoteList := by
    by_contra unlisted
    have alike := aged.others n unlisted
    rw [live, live'] at alike
    have equal : bare node' = bare node := Option.some.inj alike
    rw [← countOf_bare, equal, countOf_bare] at counts
    refine unlisted ((sound.registered.inRemotes n).mpr ?_)
    simp [table, live, isLocal_of_counts counts]
  by_cases outdated : Outdated (ageTimeout cfg) d n
  · rw [aged.gone n listed outdated] at live'
    cases live'
  · have bumped := aged.counted n listed outdated
    rw [live, live'] at bumped
    have equal : bare node' = bumpCheck (bare node) := Option.some.inj bumped
    rw [← countOf_bare, equal, countOf_bumped, countOf_bare] at counts
    obtain ⟨before, held, rfl⟩ := Option.map_eq_some_iff.mp counts
    refine ⟨node, before, live, same, held, ?_, rfl⟩
    by_contra beyond
    exact outdated ⟨node, before, live, held, Int32.not_le.mp beyond⟩

/-! ### Runs -/

/-- The input is the periodic update. -/
def Input.isUpdate : Input → Bool
  | .update => true
  | _ => false

theorem carried_handle {input : Input} (sound : Sound none d) (accepts : d.Accepts input)
    (run : d.handle env cfg input = .ok d') :
    Carried (fun before count => if input.isUpdate then before ≤ ageTimeout cfg ∧ count = before + 1 else before = count)
      d d' := by
  cases input with
  | message text msg => exact carried_message sound run
  | update => exact carried_update sound run
  | _ => exact carried_others sound accepts (fun peers => peers) run

/-- The counts are in a range in which counting up is exact. -/
def InRange (limit : Nat) (d : Daemon) : Prop :=
  ∀ n node count, d.nodes.get? n = some node → countOf node = some count → 0 ≤ count.toInt ∧ count.toInt ≤ limit + 1

theorem toInt_ageTimeout {limit : Nat} (cfg : Config) (small : limit + 1 < 2 ^ 31) (within : ageLimit cfg ≤ limit) :
    (ageTimeout cfg).toInt = ageLimit cfg :=
  Words.toInt_toInt32_of_lt (by unfold ageLimit at within; omega)

theorem toInt_counted {limit : Nat} {before : Int32} (small : limit + 1 < 2 ^ 31) (within : ageLimit cfg ≤ limit)
    (young : before ≤ ageTimeout cfg) (natural : 0 ≤ before.toInt) :
    (before + 1).toInt = before.toInt + 1 ∧ before.toInt ≤ ageLimit cfg := by
  rw [Int32.le_iff_toInt_le, toInt_ageTimeout cfg small within] at young
  refine ⟨Words.toInt_add_exact ?_ ?_, young⟩
  · rw [show (1 : Int32).toInt = 1 from rfl]
    omega
  · rw [show (1 : Int32).toInt = 1 from rfl]
    omega

theorem inRange_handle {limit : Nat} {input : Input} (small : limit + 1 < 2 ^ 31) (within : ageLimit cfg ≤ limit)
    (range : InRange limit d) (sound : Sound none d) (accepts : d.Accepts input) (run : d.handle env cfg input = .ok d') :
    InRange limit d' := by
  intro n node' count live' counts
  rcases (carried_handle sound accepts run).nodes live' counts with ⟨-, rfl⟩ | ⟨node, before, live, -, held, counted⟩
  · exact ⟨Int.le_refl 0, by simp; omega⟩
  · have before' := range n node before live held
    by_cases update : input.isUpdate = true
    · rw [if_pos update] at counted
      obtain ⟨young, rfl⟩ := counted
      obtain ⟨exact', low⟩ := toInt_counted small within young before'.1
      omega
    · rw [if_neg update] at counted
      rw [← counted]
      exact before'

theorem remoteNodeTimeout_setItem (s : System) (item : CfgItem) (v : item.type.Value) :
    (s.setItem item v).config.remoteNodeTimeout = s.config.remoteNodeTimeout := by
  cases item
  case interfaces =>
    cases v with
    | none => rfl
    | some names => rfl
  case ssid =>
    cases v with
    | none => rfl
    | some names => rfl
  all_goals rfl

/-- A configuration message leaves the nodes alone, and no option sets the time after which
    remote nodes go. -/
theorem System.Reachable.inRange {meets : SystemInput → Prop} {s : System} (reach : System.Reachable env meets s) :
    InRange 120000 s.daemon ∧ s.config.remoteNodeTimeout = 120000 := by
  induction reach with
  | start debugLevel syslog interfaces localId clock => exact ⟨nofun, rfl⟩
  | @step s s' input before accepts met run ih =>
    rcases System.handle_cases run with ⟨daemonInput, d, rfl, handled, rfl⟩ | ⟨method, tb, rfl, rfl⟩ | ⟨_, rfl⟩
    · have within : ageLimit s.config ≤ 120000 := by
        rw [ageLimit, ih.2, UInt32.toNat_div]
        exact Nat.div_le_self _ _
      exact ⟨inRange_handle (by decide) within ih.1 before.sound accepts handled, ih.2⟩
    · refine setConfig_induction (P := fun s => InRange 120000 s.daemon ∧ s.config.remoteNodeTimeout = 120000) method tb
        (fun _ holds => ⟨holds.1, rfl⟩) ?_ ih
      intro s item v _ holds
      obtain ⟨ssidList, shape⟩ := daemon_setItem s item v
      rw [shape, remoteNodeTimeout_setItem]
      exact holds
    · exact ih

/-- What a run keeps: a node whose SSID the list does not admit was counted up at each of
    its updates. -/
def Dwindling (updates : Nat) (cfg : Config) (d : Daemon) : Prop :=
  ∀ n node count, d.nodes.get? n = some node → countOf node = some count → d.Admits node.ssid ∨
    (updates : ℤ) ≤ count.toInt ∧ (0 < updates → count.toInt ≤ ageLimit cfg + 1)

theorem dwindling_handle {limit updates : Nat} {input : Input} (small : limit + 1 < 2 ^ 31) (within : ageLimit cfg ≤ limit)
    (range : InRange limit d) (dwindling : Dwindling updates cfg d) (sound : Sound none d) (accepts : d.Accepts input)
    (run : d.handle env cfg input = .ok d') : Dwindling (updates + if input.isUpdate then 1 else 0) cfg d' := by
  intro n node' count live' counts
  have carried := carried_handle sound accepts run
  rcases carried.nodes live' counts with ⟨admits, -⟩ | ⟨node, before, live, same, held, counted⟩
  · exact .inl ((admits_of_list carried.list).mpr admits)
  · rcases dwindling n node before live held with ⟨text, valid, fits⟩ | ⟨many, few⟩
    · exact .inl ((admits_of_list carried.list).mpr ⟨text, valid, same.symm.trans fits⟩)
    · refine .inr ?_
      have before' := range n node before live held
      by_cases update : input.isUpdate = true
      · rw [if_pos update] at counted ⊢
        obtain ⟨young, rfl⟩ := counted
        obtain ⟨exact', low⟩ := toInt_counted small within young before'.1
        omega
      · rw [if_neg update] at counted ⊢
        rw [← counted]
        exact ⟨by simpa using many, few⟩

theorem dwindling_runs {limit : Nat} (small : limit + 1 < 2 ^ 31) (within : ageLimit cfg ≤ limit) {inputs : List Input} :
    ∀ {updates : Nat} {d : Daemon}, Sound none d → InRange limit d → Dwindling updates cfg d →
      d.runs env cfg inputs = some d' → Dwindling (updates + inputs.countP Input.isUpdate) cfg d' := by
  induction inputs with
  | nil =>
    intro updates d _ _ dwindling run
    cases run
    exact dwindling
  | cons input rest ih =>
    intro updates d sound range dwindling run
    obtain ⟨d1, accepts, handled, run⟩ := runs_cons run
    rw [List.countP_cons, Nat.add_comm (rest.countP Input.isUpdate), ← Nat.add_assoc]
    exact ih (sound_handle sound accepts handled) (inRange_handle small within range sound accepts handled)
      (dwindling_handle small within range dwindling sound accepts handled) run

theorem sound_runs {inputs : List Input} : ∀ {d : Daemon}, Sound none d → d.runs env cfg inputs = some d' →
    Sound none d' ∧ d'.ssidList = d.ssidList := by
  induction inputs with
  | nil =>
    intro d sound run
    cases run
    exact ⟨sound, rfl⟩
  | cons input rest ih =>
    intro d sound run
    obtain ⟨d1, accepts, handled, run⟩ := runs_cons run
    obtain ⟨sound', list⟩ := ih (sound_handle sound accepts handled) run
    exact ⟨sound', list.trans (list_handle sound accepts handled)⟩

end Purging

/-- However the SSIDs were set before: once a configuration has lasted for two more updates
    than its limit for remote nodes, every remote node has an SSID that the list admits. -/
theorem ssids_purged (env : Platform) {meets : SystemInput → Prop} {s : System} {inputs : List Input} {d : Daemon}
    (reach : System.Reachable env meets s) (run : s.daemon.runs env s.config inputs = some d)
    (enough : ageLimit s.config + 2 ≤ inputs.countP Input.isUpdate) :
    ∀ n ∈ d.remoteList, ∃ node, d.nodes.get? n = some node ∧ s.daemon.Admits node.ssid := by
  obtain ⟨range, timeout⟩ := reach.inRange
  have within : ageLimit s.config ≤ 120000 := by
    rw [ageLimit, timeout, UInt32.toNat_div]
    exact Nat.div_le_self _ _
  have start : Dwindling 0 s.config s.daemon := by
    intro n node count live counts
    exact .inr ⟨(range n node count live counts).1, fun impossible => absurd impossible (Nat.lt_irrefl 0)⟩
  have dwindling := dwindling_runs (by decide) within reach.sound range start run
  obtain ⟨sound, list⟩ := sound_runs reach.sound run
  intro n inside
  obtain ⟨node, live, isRemote⟩ := node_of_remotes sound.registered inside
  refine ⟨node, live, ?_⟩
  obtain ⟨count, counts⟩ := counts_of_isLocal isRemote
  rw [← admits_of_list list]
  refine (dwindling n node count live counts).resolve_right fun unfit => ?_
  have low := unfit.2 (by omega)
  omega

/-- The SSIDs are limited to one, and updates become rare. -/
def onlyB : ConfigMsg :=
  (oneOption .ssid (some [[98]] : Option (List CString))).add .remoteUpdateInterval (some (120 * 1000 : UInt32))

/-- A daemon announces a node with this SSID between the updates. -/
def announcesB : List Input :=
  [.update, .message [] ⟨7, 0, [⟨hostapdDot, [98], some 0, 2412, 0, 0, 0, 0, [], none, none⟩]⟩, .update, .update]

/-- The node of another SSID, announced before, is gone, and the new one is there. -/
theorem ssids_purged_of_new_list : ∃ s d, System.Reached plainPlatform s ∧ s.daemon.remoteList = [0] ∧
    s.daemon.runs plainPlatform s.config announcesB = some d ∧ d.remoteList = [1] ∧
    ∃ node, d.nodes.get? 1 = some node ∧ s.daemon.Admits node.ssid := by
  have evaluates : ((newSystem.daemon.runs plainPlatform newSystem.config [announces 5]).any fun d =>
      let s := { newSystem with daemon := d }.usteerUbusSetConfig .updateConfig onlyB
      decide (s.daemon.remoteList = [0]) && decide (ageLimit s.config = 1) &&
        (s.daemon.runs plainPlatform s.config announcesB).any fun d' => decide (d'.remoteList = [1])) = true := by
    decide +kernel
  obtain ⟨d, run, evaluates⟩ := (Option.any_eq_true _ _).mp evaluates
  simp only [Bool.and_eq_true, decide_eq_true_eq, Option.any_eq_true] at evaluates
  obtain ⟨⟨before, limit⟩, d', run', after⟩ := evaluates
  have start : System.ReachableWhen plainPlatform (fun _ _ _ => True) newSystem := .start 0 false [] 1 0
  have reach : System.Reached plainPlatform ({ newSystem with daemon := d }.usteerUbusSetConfig .updateConfig onlyB) :=
    .step (.config .updateConfig onlyB) (start.runs run fun _ _ _ _ => trivial).reachable trivial trivial rfl
  have purged := ssids_purged plainPlatform reach run' (by rw [limit]; decide)
  exact ⟨_, d', reach, before, run', after, purged 1 (by rw [after]; exact List.mem_singleton_self 1)⟩

end Usteer
