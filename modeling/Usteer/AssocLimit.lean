import Usteer.Mirror
import Usteer.Teardown

/-!
The limit of clients that a local node has from netifd. Over a run of the event loop it is
the one that the last reply gave the node's interface, and 0 before any did. A node asks
again at each update until a reply has listed its interface, and anew when it is registered
once more (`limit_told_last`).
-/
namespace Usteer
open SearchTree Timeout Function Daemon
open Requests (LocalNodeReq)

/-- The limits that netifd told a node, in their order. -/
def toldLimits (iface : CString) (n : NodeId) (signals : List Signal) : List Int32 :=
  signals.flatMap fun
    | .status m msg => if m = n then limitsFor iface msg else []
    | _ => []

/-- The signal registers the node of that name. -/
def Signal.registers (name : CString) : Signal → Bool
  | .register name' _ => name' = name && name'.take 8 = hostapdDot
  | _ => false

/-- The signals after the last one that registers the name. -/
def sinceRegistered (name : CString) (signals : List Signal) : List Signal :=
  (signals.reverse.takeWhile fun signal => !signal.registers name).reverse

theorem toldLimits_concat (iface : CString) (n : NodeId) (signals : List Signal) (signal : Signal) :
    toldLimits iface n (signals ++ [signal]) = toldLimits iface n signals ++ toldLimits iface n [signal] := by
  simp [toldLimits]

theorem sinceRegistered_concat (name : CString) (signals : List Signal) (signal : Signal) :
    sinceRegistered name (signals ++ [signal]) =
      if signal.registers name then [] else sinceRegistered name signals ++ [signal] := by
  by_cases registers : signal.registers name = true
  · simp [sinceRegistered, registers]
  · simp [sinceRegistered, registers]

/-- A signal that is no reply to the node tells it nothing. -/
theorem toldLimits_other {iface : CString} {n : NodeId} {signal : Signal} (other : ∀ msg, signal ≠ .status n msg) :
    toldLimits iface n [signal] = [] := by
  cases signal with
  | status m msg =>
    have apart : m ≠ n := by
      rintro rfl
      exact other msg rfl
    simp [toldLimits, apart]
  | _ => rfl

/-- What the limit of a node depends on is as it was. -/
structure SameLimit (h h' : Host) (n : NodeId) : Prop where
  record : ∀ node', h'.daemon.nodes.get? n = some node' →
    ∃ node, h.daemon.nodes.get? n = some node ∧ node'.name = node.name ∧ node'.maxAssoc = node.maxAssoc
  iface : (h'.handles n).iface = (h.handles n).iface
  statusComplete : (h'.handles n).statusComplete = (h.handles n).statusComplete

section Limit

variable {env : Platform} {cfg : Config} {h h' : Host} {n m : NodeId} {d d' : Daemon} {strays : NodeId → Prop}

theorem record_of_profile (same : (d'.nodes.get? n).map UsteerNode.profile = (d.nodes.get? n).map UsteerNode.profile) :
    ∀ node', d'.nodes.get? n = some node' →
      ∃ node, d.nodes.get? n = some node ∧ node'.name = node.name ∧ node'.maxAssoc = node.maxAssoc := by
  intro node' live'
  rw [live', Option.map_some] at same
  obtain ⟨node, live, equal⟩ := Option.map_eq_some_iff.mp same.symm
  have reads : ∀ node : UsteerNode, node.profile.name = node.name ∧ node.profile.maxAssoc = node.maxAssoc := by
    rintro ⟨kind⟩
    cases kind with
    | loc own => exact ⟨rfl, rfl⟩
    | remote rn => exact ⟨rfl, rfl⟩
  refine ⟨node, live, ?_, ?_⟩
  · rw [← (reads node').1, ← equal, (reads node).1]
  · rw [← (reads node').2, ← equal, (reads node).2]

/-- The daemon works, and the handles of the node keep what its limit depends on. -/
theorem sameLimit_of_locals (same : SameLocals h.daemon h'.daemon) (inside : n ∈ h'.daemon.localNodes)
    (handles : (h'.handles n).iface = (h.handles n).iface ∧ (h'.handles n).statusComplete = (h.handles n).statusComplete) :
    n ∈ h.daemon.localNodes ∧ SameLimit h h' n := by
  have before := (same.locals n).mp inside
  exact ⟨before, record_of_profile (same.profiles n before), handles.1, handles.2⟩

/-- Another record and other handles, that keep what the limit depends on. -/
theorem sameLimit_store {node : UsteerNode} {ln : Handles} (live : h.daemon.nodes.get? m = some node) {node' : UsteerNode}
    (name : node'.name = node.name) (maxAssoc : n = m → node'.maxAssoc = node.maxAssoc)
    (iface : n = m → ln.iface = (h.handles m).iface) (complete : n = m → ln.statusComplete = (h.handles m).statusComplete) :
    SameLimit h (h.store m node' ln) n := by
  by_cases here : n = m
  · subst here
    refine ⟨fun node'' live'' => ?_, ?_, ?_⟩
    · simp only [Host.store, modifyNode, Heap.get?_modify, if_true, live, Option.map_some, Option.some.injEq] at live''
      exact ⟨node, live, by rw [← live'', name], by rw [← live'', maxAssoc rfl]⟩
    · simp [Host.store, iface rfl]
    · simp [Host.store, complete rfl]
  · refine ⟨fun node'' live'' => ⟨node'', ?_, rfl, rfl⟩, ?_, ?_⟩
    · simpa [Host.store, modifyNode, Heap.get?_modify, here] using live''
    · simp [Host.store, update_of_ne here]
    · simp [Host.store, update_of_ne here]

theorem record_store {node node' : UsteerNode} {ln : Handles} (live : h.daemon.nodes.get? n = some node) :
    (h.store n node' ln).daemon.nodes.get? n = some node' := by
  simp [Host.store, modifyNode, Heap.get?_modify, live]

theorem handles_store {node : UsteerNode} {ln : Handles} : (h.store n node ln).handles n = ln := by
  simp [Host.store]

theorem SameLimit.refl (h : Host) (n : NodeId) : SameLimit h h n := ⟨fun _ live => ⟨_, live, rfl, rfl⟩, rfl, rfl⟩

theorem SameLimit.trans {h'' : Host} (first : SameLimit h h' n) (second : SameLimit h' h'' n) : SameLimit h h'' n where
  record := by
    intro node'' live''
    obtain ⟨node', live', name', limit'⟩ := second.record node'' live''
    obtain ⟨node, live, name, limit⟩ := first.record node' live'
    exact ⟨node, live, name'.trans name, limit'.trans limit⟩
  iface := second.iface.trans first.iface
  statusComplete := second.statusComplete.trans first.statusComplete

theorem sameLimit_setHandles {ln : Handles} (iface : ln.iface = (h.handles m).iface)
    (complete : ln.statusComplete = (h.handles m).statusComplete) : SameLimit h (h.setHandles m ln) n := by
  refine ⟨fun node live => ⟨node, live, rfl, rfl⟩, ?_, ?_⟩
  · by_cases here : n = m
    · subst here
      simp [Host.setHandles, iface]
    · simp [Host.setHandles, update_of_ne here]
  · by_cases here : n = m
    · subst here
      simp [Host.setHandles, complete]
    · simp [Host.setHandles, update_of_ne here]

theorem Restated.name {node node' : UsteerNode} (restated : Restated node node') : node'.name = node.name := by
  obtain ⟨status, rfl⟩ := restated
  rfl

theorem sameLimit_free (sound : Sound none h.daemon) (inside : m ∈ h.daemon.localNodes)
    (run : h.usteerFreeNode env cfg m = .ok h') (stays : n ∈ h'.daemon.localNodes) :
    n ∈ h.daemon.localNodes ∧ SameLimit h h' n := by
  unfold Host.usteerFreeNode at run
  obtain ⟨node, live, run⟩ := bind_ok run
  obtain ⟨d, freed, run⟩ := bind_ok run
  cases run
  have removed := ((post_usteerFreeNode (F := AnyFault) sound inside).of_ok (within_ok freed)).2.1
  obtain ⟨before, other⟩ := (removed.locals n).mp stays
  exact ⟨before, record_of_profile (profiles_of_bare (removed.others n other)), by simp [update_of_ne other],
    by simp [update_of_ne other]⟩

theorem sameLimit_rrmNrCb {msg : Option RrmReply} (sound : Sound none h.daemon) (inside : m ∈ h.daemon.localNodes)
    (run : h.usteerLocalNodeRrmNrCb env cfg m msg = .ok h') (stays : n ∈ h'.daemon.localNodes) :
    n ∈ h.daemon.localNodes ∧ SameLimit h h' n := by
  unfold Host.usteerLocalNodeRrmNrCb at run
  cases msg with
  | none =>
    cases run
    exact ⟨stays, .refl h n⟩
  | some reply =>
    obtain ⟨node, live, run⟩ := bind_ok run
    have live : h.daemon.nodes.get? m = some node := node_of_ok (within_ok live)
    obtain ⟨bssid, -, run⟩ := bind_ok run
    have stored : SameLimit h (h.store m { node with rrmNr := some reply.value, bssid := bssid } (h.handles m)) n :=
      sameLimit_store live rfl (fun _ => rfl) (fun _ => rfl) fun _ => rfl
    obtain ⟨node0, live0, isLocal⟩ := node_of_locals sound.registered inside
    rw [live] at live0
    cases live0
    have simulates : Simulates env cfg h.daemon (h.store m { node with rrmNr := some reply.value, bssid := bssid }
        (h.handles m)).daemon := simulates_restated inside live
      (restated_fields isLocal node.ssid bssid node.noise node.maxAssoc node.load (some reply.value))
    unfold Host.checkSsid at run
    split at run
    · split at run
      · cases run
        exact ⟨stays, stored⟩
      · obtain ⟨before, same⟩ := sameLimit_free (sound_simulates sound simulates) inside run stays
        exact ⟨before, stored.trans same⟩
    · cases run
      exact ⟨stays, stored⟩

/-- A signal that neither registers a node nor brings it a reply of netifd. -/
theorem sameLimit_step {signal : Signal} (sound : Sound none h.daemon) (kept : Kept h strays) (due : h.Due signal)
    (run : h.step env cfg signal = .ok h') (stays : n ∈ h'.daemon.localNodes) (unregistered : ∀ name found, signal ≠ .register name found)
    (untold : ∀ msg, signal ≠ .status n msg) : n ∈ h.daemon.localNodes ∧ SameLimit h h' n := by
  cases signal with
  | register name found => exact absurd rfl (unregistered name found)
  | input input =>
    obtain ⟨d, handled, run⟩ := bind_ok run
    cases run
    exact sameLimit_of_locals (sameLocals_handle sound (.inl due.1) (within_ok handled)) stays ⟨rfl, rfl⟩
  | remove m => exact sameLimit_free sound due run stays
  | update m lookup =>
    obtain ⟨node, -, run⟩ := bind_ok run
    obtain ⟨ln, asked, run⟩ := bind_ok run
    obtain ⟨d, kicked, run⟩ := bind_ok run
    cases run
    have tick : h.daemon.handle env cfg (.tick m) = .ok d := within_ok kicked
    obtain ⟨-, iface, -, complete⟩ := wired_netifdUpdate (kept.wired m) asked
    refine sameLimit_of_locals (sameLocals_handle sound (.inr (.inr ⟨m, rfl⟩)) tick) stays ?_
    by_cases here : n = m
    · subst here
      simp [iface, complete]
    · simp [update_of_ne here]
  | reqTimer m =>
    obtain ⟨node, -, run⟩ := bind_ok run
    cases run
    exact ⟨stays, sameLimit_setHandles rfl rfl⟩
  | complete m req =>
    obtain ⟨node, -, run⟩ := bind_ok run
    cases run
    exact ⟨stays, sameLimit_setHandles rfl rfl⟩
  | statusComplete m =>
    obtain ⟨node, -, run⟩ := bind_ok run
    cases run
    exact ⟨stays, sameLimit_setHandles rfl rfl⟩
  | reply m req msg =>
    have inside := kept.served (.inr (.inr (.inl (List.ne_nil_of_mem due)))) run
    obtain ⟨node, -, run⟩ := bind_ok run
    have answered : SameLimit h (h.setHandles m { h.handles m with requests := (h.handles m).requests.reply req false }) n :=
      sameLimit_setHandles rfl rfl
    dsimp only at run
    split at run
    · cases run
      exact ⟨stays, answered⟩
    · obtain ⟨d, listed, run⟩ := bind_ok run
      cases run
      have clients : h.daemon.handle env cfg (.clients m msg.clients) = .ok d := within_ok listed
      exact sameLimit_of_locals (sameLocals_handle sound (.inr (.inl ⟨m, _, rfl⟩)) clients) stays
        ⟨answered.iface, answered.statusComplete⟩
    · have sound' : Sound none (h.setHandles m { h.handles m with
          requests := (h.handles m).requests.reply req false }).daemon := sound
      obtain ⟨before, same⟩ := sameLimit_rrmNrCb sound' inside run stays
      exact ⟨before, answered.trans same⟩
  | survey m reply =>
    have inside := kept.served (.inr (.inr (.inr (.inl due)))) run
    obtain ⟨node, live, run⟩ := bind_ok run
    have live := node_of_ok (within_ok live)
    obtain ⟨node0, live0, isLocal⟩ := node_of_locals sound.registered inside
    rw [live] at live0
    cases live0
    obtain ⟨⟨node', ln⟩, surveyed, run⟩ := bind_ok run
    cases run
    have probed := probed_updateNode isLocal surveyed
    exact ⟨stays, sameLimit_store live probed.restated.name (fun _ => probed.maxAssoc) (fun _ => probed.iface)
      fun _ => probed.statusComplete⟩
  | status m msg =>
    obtain ⟨node, live, run⟩ := bind_ok run
    have live := node_of_ok (within_ok live)
    cases run
    have other : n ≠ m := by
      rintro rfl
      exact untold msg rfl
    exact ⟨stays, sameLimit_store live rfl (absurd · other) (absurd · other) (absurd · other)⟩

/-- A registration. -/
theorem limit_register {name : CString} {found : Found} (sound : Sound none h.daemon) (kept : Kept h strays)
    (run : h.usteerRegisterNode name found = .ok h') (own : name.take 8 = hostapdDot) :
    ∃ m node', h'.daemon.nodes.get? m = some node' ∧ m ∈ h'.daemon.localNodes ∧ node'.name = name ∧
      (h'.handles m).iface = name.drop 8 ∧ (h'.handles m).statusComplete = false ∧
      ((m = h.daemon.nodes.next ∧ node'.maxAssoc = 0) ∨
        m ∈ h.daemon.localNodes ∧ ∃ node, h.daemon.nodes.get? m = some node ∧ node.name = name ∧ node'.maxAssoc = node.maxAssoc) ∧
      ∀ n ∈ h'.daemon.localNodes, n ≠ m → n ∈ h.daemon.localNodes ∧ SameLimit h h' n := by
  unfold Host.usteerRegisterNode at run
  rw [if_neg (not_not_intro own)] at run
  obtain ⟨⟨m, h1⟩, got, run⟩ := bind_ok run
  obtain ⟨daemon, ready, sound1, origin⟩ := steps_getNode sound (within_ok got)
  have inside1 := origin.inside
  obtain ⟨node, live, run⟩ := bind_ok run
  have live := node_of_ok (within_ok live)
  obtain ⟨⟨ready', node', ln⟩, probed, run⟩ := bind_ok run
  obtain ⟨ln', asked, run⟩ := bind_ok run
  cases run
  obtain ⟨node0, live0, isLocal⟩ := node_of_locals sound1.registered inside1
  rw [live] at live0
  cases live0
  have probed := probed_initNode isLocal probed
  have wired : Wired { ln with statusComplete := false } := by
    have wired1 : Wired (h1.handles m) := by
      cases origin with
      | found same =>
        rw [same]
        exact kept.wired m
      | made fresh joined handles =>
        rw [handles, update_self]
        exact wired_getNode
    exact wired1.of_eq (by rw [probed.requests]; exact wired1.orderly) probed.statusRequest probed.reqPending
  obtain ⟨-, iface, -, complete⟩ := wired_netifdUpdate wired asked
  have elsewhere : ∀ n, n ≠ m → SameLimit h1 (h1.store m node' ln') n := fun n other =>
    sameLimit_store live probed.restated.name (absurd · other) (absurd · other) (absurd · other)
  have named : node.name = name ∧ ((m = h.daemon.nodes.next ∧ node.maxAssoc = 0) ∨
      m ∈ h.daemon.localNodes ∧ h.daemon.nodes.get? m = some node) := by
    cases origin with
    | @found same inside node0 live0 named =>
      rw [same, live0] at live
      cases live
      exact ⟨named, .inr ⟨inside, live0⟩⟩
    | made fresh joined handles =>
      rw [joined.nodes, Heap.get?_alloc, if_pos fresh] at live
      cases live
      exact ⟨rfl, .inl ⟨fresh, rfl⟩⟩
  have handles : (h1.store m node' ln').handles m = ln' := handles_store
  have stored : (h1.store m node' ln').daemon.nodes.get? m = some node' := record_store live
  refine ⟨m, node', stored, inside1, probed.restated.name.trans named.1, ?_, ?_, ?_, fun n stays other => ?_⟩
  · exact (congrArg Handles.iface handles).trans (iface.trans probed.iface)
  · exact (congrArg Handles.statusComplete handles).trans complete
  · rcases named.2 with ⟨fresh, zero⟩ | ⟨inside, live⟩
    · exact .inl ⟨fresh, probed.maxAssoc.trans zero⟩
    · exact .inr ⟨inside, node, live, named.1, probed.maxAssoc⟩
  · have after := elsewhere n other
    cases origin with
    | found same inside =>
      subst same
      exact ⟨stays, after.record, after.iface, after.statusComplete⟩
    | made fresh joined handles =>
      have before : n ∈ h.daemon.localNodes := ((locals_made joined n).mp stays).resolve_right (by rwa [← fresh])
      refine ⟨before, fun node'' live'' => ?_, ?_, ?_⟩
      · obtain ⟨node1, live1, name1, limit1⟩ := after.record node'' live''
        rw [joined.nodes, Heap.get?_alloc, if_neg (by rwa [← fresh])] at live1
        exact ⟨node1, live1, name1, limit1⟩
      · have same := after.iface
        rwa [handles, update_of_ne other] at same
      · have same := after.statusComplete
        rwa [handles, update_of_ne other] at same

/-- A reply of netifd. -/
theorem limit_status {msg : List Blobmsg} (run : h.netifdStatusCb n msg = .ok h') :
    ∃ node node', h.daemon.nodes.get? n = some node ∧ h'.daemon.nodes.get? n = some node' ∧ node'.name = node.name ∧
      (h'.handles n).iface = (h.handles n).iface ∧ h'.daemon.localNodes = h.daemon.localNodes ∧
      (⟨node'.maxAssoc, (h'.handles n).statusComplete⟩ : NetifdStatus) =
        NetifdStatus.after ⟨node.maxAssoc, (h.handles n).statusComplete⟩ (limitsFor (h.handles n).iface msg) := by
  obtain ⟨node, live, run⟩ := bind_ok run
  have live := node_of_ok (within_ok live)
  cases run
  refine ⟨node, _, live, record_store live, rfl, ?_, rfl, ?_⟩
  · rw [handles_store]
  · rw [handles_store, ← netifdStatusCb_eq]

/-- The signals so far account for the limit of a node and for its handles. -/
structure Told (signals : List Signal) (n : NodeId) (node : UsteerNode) (ln : Handles) : Prop where
  iface : ln.iface = node.name.drop 8
  limit : node.maxAssoc = ((toldLimits (node.name.drop 8) n signals).getLast?).getD 0
  complete : ln.statusComplete = true ↔ toldLimits (node.name.drop 8) n (sinceRegistered node.name signals) ≠ []

/-- They do for every registered node, and nothing was told yet to those that may come. -/
structure Ledger (signals : List Signal) (h : Host) : Prop where
  addressed : ∀ n msg, .status n msg ∈ signals → n < h.daemon.nodes.next
  told : ∀ n ∈ h.daemon.localNodes, ∀ node, h.daemon.nodes.get? n = some node → Told signals n node (h.handles n)

variable {signals : List Signal}

/-- Nothing was told to a node before it was there. -/
theorem Ledger.untold (ledger : Ledger signals h) (iface : CString) (fresh : h.daemon.nodes.next ≤ n) :
    toldLimits iface n signals = [] := by
  unfold toldLimits
  rw [List.flatMap_eq_nil_iff]
  intro signal inside
  cases signal with
  | status m msg =>
    have other : m ≠ n := Nat.ne_of_lt (Nat.lt_of_lt_of_le (ledger.addressed m msg inside) fresh)
    simp [other]
  | _ => rfl

theorem told_same {signal : Signal} {node' : UsteerNode} (ledger : Ledger signals h) (inside : n ∈ h.daemon.localNodes)
    (same : SameLimit h h' n) (live' : h'.daemon.nodes.get? n = some node') (untold : ∀ msg, signal ≠ .status n msg)
    (unregistered : signal.registers node'.name = false) : Told (signals ++ [signal]) n node' (h'.handles n) := by
  obtain ⟨node, live, name, limit⟩ := same.record node' live'
  have told := ledger.told n inside node live
  refine ⟨?_, ?_, ?_⟩
  · rw [same.iface, told.iface, name]
  · rw [limit, told.limit, name, toldLimits_concat, toldLimits_other untold, List.append_nil]
  · rw [same.statusComplete, told.complete, sinceRegistered_concat, unregistered, if_neg Bool.false_ne_true, name,
      toldLimits_concat, toldLimits_other untold, List.append_nil]

theorem told_status {msg : List Blobmsg} {node' : UsteerNode} (ledger : Ledger signals h) (inside : n ∈ h.daemon.localNodes)
    (run : h.netifdStatusCb n msg = .ok h') (live' : h'.daemon.nodes.get? n = some node') :
    Told (signals ++ [.status n msg]) n node' (h'.handles n) := by
  obtain ⟨node, node1, live, live1, name, iface, -, result⟩ := limit_status run
  rw [live'] at live1
  cases live1
  have told := ledger.told n inside node live
  have news : toldLimits (node.name.drop 8) n [.status n msg] = limitsFor (node.name.drop 8) msg := by simp [toldLimits]
  rw [told.iface] at result
  refine ⟨?_, ?_, ?_⟩
  · rw [iface, told.iface, name]
  · rw [name, toldLimits_concat, news, List.getLast?_append]
    cases last : (limitsFor (node.name.drop 8) msg).getLast? with
    | none =>
      rw [NetifdStatus.after, last] at result
      rw [Option.none_or, ← told.limit]
      exact congrArg NetifdStatus.maxAssoc result
    | some limit =>
      rw [NetifdStatus.after, last] at result
      exact congrArg NetifdStatus.maxAssoc result
  · have unregistered : (Signal.status n msg).registers node.name = false := rfl
    rw [name, sinceRegistered_concat, unregistered, if_neg Bool.false_ne_true, toldLimits_concat, news]
    cases last : (limitsFor (node.name.drop 8) msg).getLast? with
    | none =>
      rw [NetifdStatus.after, last] at result
      rw [List.getLast?_eq_none_iff.mp last, List.append_nil, ← told.complete]
      exact Bool.eq_iff_iff.mp (congrArg NetifdStatus.statusComplete result)
    | some limit =>
      rw [NetifdStatus.after, last] at result
      have told : limitsFor (node.name.drop 8) msg ≠ [] := by
        intro empty
        rw [empty] at last
        cases last
      have complete : (h'.handles n).statusComplete = true := congrArg NetifdStatus.statusComplete result
      simp [complete, told]

theorem ledger_step {signal : Signal} (ledger : Ledger signals h) (sound : Sound none h.daemon) (kept : Kept h strays)
    (names : NamesUnique h'.daemon) (due : h.Due signal) (run : h.step env cfg signal = .ok h') :
    Ledger (signals ++ [signal]) h' := by
  have steps := steps_step sound kept due run
  have older : ∀ {n}, n < h.daemon.nodes.next → n < h'.daemon.nodes.next := fun old =>
    (next_simulates sound steps.simulates old).1
  refine ⟨fun n msg inside => ?_, fun n inside node live => ?_⟩
  · rcases List.mem_append.mp inside with before | now
    · exact older (ledger.addressed n msg before)
    · rw [List.mem_singleton] at now
      subst now
      obtain ⟨node, node', live, -⟩ := limit_status run
      exact older (Heap.lt_next live)
  · by_cases registers : ∃ name found, signal = .register name found
    · obtain ⟨name, found, rfl⟩ := registers
      by_cases own : name.take 8 = hostapdDot
      · obtain ⟨m, node', live', inside', named, iface, complete, origin, others⟩ := limit_register sound kept run own
        by_cases here : n = m
        · subst here
          rw [live] at live'
          cases live'
          have registers : (Signal.register name found).registers node.name = true := by simp [Signal.registers, named, own]
          refine ⟨by rw [iface, named], ?_, by simp [complete, sinceRegistered_concat, registers, toldLimits]⟩
          have silent : ∀ msg, Signal.register name found ≠ .status n msg := fun msg same => by cases same
          rw [toldLimits_concat, toldLimits_other silent, List.append_nil]
          rcases origin with ⟨fresh, zero⟩ | ⟨before, node0, live0, named0, limit⟩
          · rw [zero, ledger.untold _ (Nat.le_of_eq fresh.symm)]
            rfl
          · rw [limit, (ledger.told n before node0 live0).limit, named0, named]
        · obtain ⟨before, same⟩ := others n inside here
          have other : name ≠ node.name := fun same => here (names n m node node' inside inside' live live' (by rw [named, same]))
          exact told_same ledger before same live nofun (by simp [Signal.registers, other])
      · have same : h' = h := by
          change h.usteerRegisterNode name found = .ok h' at run
          rw [Host.usteerRegisterNode, if_pos own] at run
          cases run
          rfl
        subst same
        exact told_same ledger inside (.refl h' n) live nofun (by simp [Signal.registers, own])
    · have unregistered : ∀ name found, signal ≠ .register name found := fun name found same => registers ⟨name, found, same⟩
      by_cases tells : ∃ msg, signal = .status n msg
      · obtain ⟨msg, rfl⟩ := tells
        obtain ⟨-, -, -, -, -, -, locals, -⟩ := limit_status run
        exact told_status ledger (by rwa [← locals]) run live
      · have untold : ∀ msg, signal ≠ .status n msg := fun msg same => tells ⟨msg, same⟩
        obtain ⟨before, same⟩ := sameLimit_step sound kept due run inside unregistered untold
        refine told_same ledger before same live untold ?_
        cases signal with
        | register name found => exact absurd rfl (unregistered name found)
        | _ => rfl

/-- What `netifd_update_node` does when netifd is on the bus. -/
theorem netifdUpdate_eq {ln : Handles} (wired : Wired ln) : netifdUpdateNode true ln =
    if ln.statusComplete then .ok ln
    else if ln.statusRequest = .answered then .error .reused
    else .ok { ln with statusRequest := .waiting, reqPending := true } := by
  unfold netifdUpdateNode
  by_cases complete : ln.statusComplete = true
  · simp [complete]
  · rw [if_neg complete, if_neg complete, abortPending_eq]
    cases status : ln.statusRequest with
    | none => simp
    | waiting => simp [wired.waiting status]
    | answered => simp [wired.answered status]

theorem ledger_run : ∀ {later : List Signal} {h h' : Host} {strays : NodeId → Prop} {signals : List Signal},
    Host.Reaches env cfg h strays → Ledger signals h → h.run env cfg later = some h' → Ledger (signals ++ later) h' := by
  intro later
  induction later with
  | nil =>
    intro h h' strays signals _ ledger run
    cases run
    rw [List.append_nil]
    exact ledger
  | cons signal rest ih =>
    intro h h' strays signals reach ledger run
    rw [Host.run] at run
    split at run
    · rename_i due
      obtain ⟨h1, stepped, run⟩ := Option.bind_eq_some_iff.mp run
      have stepped := ok_of_toOption stepped
      have reach1 := Host.Reaches.step signal reach due stepped
      obtain ⟨reachable, kept⟩ := reach.facts
      have ledger1 := ledger_step ledger (reachable_sound reachable) kept (reachable_namesUnique reach1.facts.1) due stepped
      have whole := ih reach1 ledger1 run
      rwa [List.append_assoc] at whole
    · cases run

end Limit

/-- After any run of the event loop, the limit of a registered node is the one that the last
    reply of netifd gave its interface, and 0 when none did. Its update asks netifd, if that
    is on the bus, exactly when no reply has listed the interface since the node was last
    registered; and it does so in the memory of a request that is still pending exactly when
    the last one has been answered without being complete. -/
theorem limit_told_last (env : Platform) (cfg : Config) (localId : UInt32) (clock : UInt64) (ssidList : Option (List CString))
    {signals : List Signal} {h : Host} {n : NodeId} {node : UsteerNode}
    (run : (Host.initial localId clock ssidList).run env cfg signals = some h) (inside : n ∈ h.daemon.localNodes)
    (live : h.daemon.nodes.get? n = some node) :
    node.maxAssoc = ((toldLimits (node.name.drop 8) n signals).getLast?).getD 0 ∧
      (∀ h', h.step env cfg (.update n true) = .ok h' → (h'.handles n).statusRequest =
        if toldLimits (node.name.drop 8) n (sinceRegistered node.name signals) = [] then .waiting
        else (h.handles n).statusRequest) ∧
      (h.step env cfg (.update n true) = .error .reused ↔
        toldLimits (node.name.drop 8) n (sinceRegistered node.name signals) = [] ∧ (h.handles n).statusRequest = .answered) := by
  have start : Host.Reaches env cfg (.initial localId clock ssidList) fun _ => False := .start localId clock ssidList
  have nothing : Ledger [] (.initial localId clock ssidList) :=
    ⟨fun _ _ inside => (by cases inside), fun _ inside => (by cases inside)⟩
  have ledger := ledger_run start nothing run
  rw [List.nil_append] at ledger
  have told := ledger.told n inside node live
  obtain ⟨strays, reach⟩ := start.run run
  have asks := netifdUpdate_eq (reach.facts.2.wired n)
  have begins : h.step env cfg (.update n true) = (do
      let ln ← netifdUpdateNode true (h.handles n)
      let daemon ← within (h.daemon.usteerLocalNodeKick cfg n)
      return { h with daemon := daemon, handles := update h.handles n { ln with requests := ln.requests.usteerLocalNodeUpdate } }) := by
    show h.usteerLocalNodeUpdate cfg n true = _
    rw [Host.usteerLocalNodeUpdate, node_ok live]
    rfl
  have kicks : ∀ {ln : Handles} {h' : Host}, netifdUpdateNode true (h.handles n) = .ok ln →
      h.step env cfg (.update n true) = .ok h' → (h'.handles n).statusRequest = ln.statusRequest := by
    intro ln h' asked run
    rw [begins, asked, ok_bind] at run
    obtain ⟨d, kicked, run⟩ := bind_ok run
    cases run
    simp
  have reuses : ∀ {ln : Handles}, netifdUpdateNode true (h.handles n) = .ok ln →
      h.step env cfg (.update n true) ≠ .error .reused := by
    intro ln asked fails
    rw [begins, asked, ok_bind] at fails
    cases kicked : h.daemon.usteerLocalNodeKick cfg n with
    | ok d =>
      rw [kicked] at fails
      cases fails
    | error fault =>
      rw [kicked] at fails
      cases fails
  have complete := told.complete
  refine ⟨told.limit, fun h' stepped => ?_, ?_⟩
  · by_cases listed : (h.handles n).statusComplete = true
    · rw [if_pos listed] at asks
      rw [kicks asks stepped, if_neg (complete.mp listed)]
    · have empty := not_not.mp (fun told => listed (complete.mpr told))
      rw [if_pos empty]
      rw [if_neg listed] at asks
      split at asks
      · rw [begins, asks] at stepped
        cases stepped
      · exact kicks asks stepped
  · by_cases listed : (h.handles n).statusComplete = true
    · rw [if_pos listed] at asks
      exact ⟨fun fails => absurd fails (reuses asks), fun told => absurd told.1 (complete.mp listed)⟩
    · have empty := not_not.mp (fun told => listed (complete.mpr told))
      rw [if_neg listed] at asks
      by_cases answered : (h.handles n).statusRequest = .answered
      · rw [if_pos answered] at asks
        rw [begins, asks]
        exact ⟨fun _ => ⟨empty, answered⟩, fun _ => rfl⟩
      · rw [if_neg answered] at asks
        exact ⟨fun fails => absurd fails (reuses asks), fun told => absurd told.2 answered⟩

/-- A reply with the limit 5 for the interface `a`. -/
def limitsClients : List Blobmsg :=
  [.table [(interfacesName, .array [.table [(configName, .table [(maxassocName, .int32 5)]), (ifnameName, .string [97])]])]]

/-- netifd replies to the request of a node that is registered. -/
def toldOnce : List Signal :=
  [.register (hostapdDot ++ [97]) ⟨0, true, none, ⟨0, []⟩, true⟩, .status 0 limitsClients, .update 0 true]

theorem limit_told_last_of_reply : ∃ h node, (Host.initial 1 0 none).run plainPlatform usteerInitDefaults toldOnce = some h ∧
    h.daemon.nodes.get? 0 = some node ∧ node.maxAssoc = 5 ∧ (h.handles 0).statusRequest = .answered ∧
    h.step plainPlatform usteerInitDefaults (.update 0 true) ≠ .error .reused := by
  have evaluates : (((Host.initial 1 0 none).run plainPlatform usteerInitDefaults toldOnce).any fun h =>
      decide (0 ∈ h.daemon.localNodes) && decide ((h.handles 0).statusRequest = .answered) &&
        ((h.daemon.nodes.get? 0).any fun node => decide (node.name = hostapdDot ++ [97]))) = true := by decide +kernel
  obtain ⟨h, ran, evaluates⟩ := (Option.any_eq_true _ _).mp evaluates
  simp only [Bool.and_eq_true, decide_eq_true_eq, Option.any_eq_true] at evaluates
  obtain ⟨⟨inside, answered⟩, node, live, name⟩ := evaluates
  obtain ⟨limit, -, reuses⟩ := limit_told_last plainPlatform usteerInitDefaults 1 0 none ran inside live
  rw [name] at limit reuses
  have told : toldLimits ((hostapdDot ++ [97]).drop 8) 0 toldOnce = [5] := by decide
  have since : toldLimits ((hostapdDot ++ [97]).drop 8) 0 (sinceRegistered (hostapdDot ++ [97]) toldOnce) = [5] := by decide
  rw [told] at limit
  rw [since] at reuses
  exact ⟨h, node, ran, live, limit, answered, fun fails => nomatch (reuses.mp fails).1⟩

end Usteer
