import Usteer.Ageing
import Usteer.Entries
import Usteer.Host
import Usteer.Messages

/-!
The end of a local node. As long as a node is registered, its timers and requests may be
served, and no longer: what the loop delivers concerns registered nodes, which is what the
daemon's inputs take for granted (`Daemon.Accepts`). `usteer_free_node` sees to that except
in two cases, a survey timer of an nl80211 interface that was not found again when the node
was registered once more, and a request to netifd that has been answered and is not complete
(`Clean`, `teardown_complete_iff`).
-/
namespace Usteer
open SearchTree Timeout Function Daemon
open Requests (LocalNodeReq Orderly)

/-! ### Local nodes through an input -/

/-- The local nodes are the same, and in their records only what work changes differs. -/
structure SameLocals (d d' : Daemon) : Prop where
  locals : ∀ n, n ∈ d'.localNodes ↔ n ∈ d.localNodes
  profiles : ∀ n ∈ d.localNodes, (d'.nodes.get? n).map UsteerNode.profile = (d.nodes.get? n).map UsteerNode.profile

section Locals

variable {env : Platform} {cfg : Config} {n m : NodeId} {d d' d'' : Daemon}

theorem SameLocals.refl (d : Daemon) : SameLocals d d := ⟨fun _ => .rfl, fun _ _ => rfl⟩

theorem SameLocals.trans (first : SameLocals d d') (second : SameLocals d' d'') : SameLocals d d'' where
  locals n := (second.locals n).trans (first.locals n)
  profiles n inside := (second.profiles n ((first.locals n).mpr inside)).trans (first.profiles n inside)

theorem SameLocals.of_eq (locals : d'.localNodes = d.localNodes) (nodes : d'.nodes = d.nodes) : SameLocals d d' where
  locals n := by rw [locals]
  profiles n _ := by rw [nodes]

@[simp] theorem profile_staInfo (list : List SiId) (node : UsteerNode) :
    UsteerNode.profile { node with staInfo := list } = node.profile := by
  obtain ⟨kind⟩ := node
  cases kind with
  | loc ln => rfl
  | remote rn => rfl

theorem profiles_of_bare (same : (d'.nodes.get? n).map bare = (d.nodes.get? n).map bare) :
    (d'.nodes.get? n).map UsteerNode.profile = (d.nodes.get? n).map UsteerNode.profile := by
  have through : ∀ node : Option UsteerNode, node.map UsteerNode.profile = (node.map bare).map UsteerNode.profile := by
    intro node
    cases node with
    | none => rfl
    | some node => simp [bare]
  rw [through, same, ← through]

/-- An edit of a node that keeps its profile. -/
theorem profiles_modify {f : UsteerNode → UsteerNode} (keeps : ∀ node, (f node).profile = node.profile) (n : NodeId) :
    ((d.nodes.modify m f).get? n).map UsteerNode.profile = (d.nodes.get? n).map UsteerNode.profile := by
  rw [Heap.get?_modify]
  split
  · rename_i same
    subst same
    cases d.nodes.get? n with
    | none => rfl
    | some node => simp [keeps]
  · rfl

theorem sameLocals_write (write : Write env m d d') : SameLocals d d' := by
  cases write with
  | newInfo s k freq =>
    refine ⟨fun _ => .rfl, fun n _ => ?_⟩
    simp only [Daemon.newInfo, modifySta, modifyNode]
    exact profiles_modify (fun node => profile_staInfo _ node) n
  | editNode f keeps work => exact ⟨fun _ => .rfl, fun n _ => profiles_modify work n⟩
  | unlink live own =>
    refine ⟨fun _ => .rfl, fun n _ => ?_⟩
    simp only [unlinked]
    exact profiles_modify (fun node => profile_staInfo _ node) n
  | _ => exact .of_eq rfl rfl

theorem sameLocals_writes (writes : Writes env m d d') : SameLocals d d' := by
  induction writes with
  | refl => exact .refl d
  | tail _ write ih => exact ih.trans (sameLocals_write write)

theorem sameLocals_updateSend (nodes : List ApmsgNode) : SameLocals d (d.usteerUpdateSend cfg nodes) := by
  unfold usteerUpdateSend
  dsimp only
  split
  · exact .of_eq rfl rfl
  · exact .of_eq rfl rfl

theorem sameLocals_answers (answers : Answers env cfg m d d') : SameLocals d d' := by
  cases answers with
  | quiet writes => exact sameLocals_writes writes
  | sends writes own built => exact (sameLocals_writes writes).trans (sameLocals_updateSend _)

theorem not_local_of_remote (sound : Sound none d) (inside : n ∈ d.localNodes) (isRemote : m ∈ d.remoteList) : n ≠ m := by
  rintro rfl
  obtain ⟨node, live, isLocal⟩ := node_of_locals sound.registered inside
  obtain ⟨node', live', isRemote⟩ := node_of_remotes sound.registered isRemote
  rw [live] at live'
  cases live'
  rw [isLocal] at isRemote
  cases isRemote

theorem sameLocals_joined {node : UsteerNode} (joined : Joined node d d') (isRemote : node.isLocal = false)
    (sound : Sound none d) : SameLocals d d' where
  locals n := by simp [joined.locals, isRemote]
  profiles n inside := by
    have old : n ≠ d.nodes.next := by
      rintro rfl
      exact (next_fresh sound).1 inside
    rw [joined.nodes, Heap.get?_alloc, if_neg old]

/-- The record of a message changes no local node. -/
theorem sameLocals_addNode (addr : CString) (id : UInt32) (msg : ApmsgNode) (sound : Sound none d) :
    Post AnyFault (d.interfaceAddNode env cfg addr id.toUInt64 msg) (SameLocals d) := by
  unfold interfaceAddNode
  split
  · exact .refl d
  · rw [post_bind]
    refine (post_interfaceGetNode addr id msg.name sound).mono ?_
    rintro ⟨m, d1⟩ got
    have joined : SameLocals d d1 ∧ Sound none d1 ∧ m ∈ d1.remoteList := by
      rcases got with ⟨same, inside, -⟩ | ⟨fresh, joined, -, sound1, -⟩
      · rw [show d1 = d from same]
        exact ⟨.refl d, sound, mem_remoteGroup inside⟩
      · exact ⟨sameLocals_joined joined rfl sound, sound1, (joined.remotes m).mpr (.inr ⟨fresh, rfl⟩)⟩
    obtain ⟨same1, sound1, isRemote⟩ := joined
    refine Undisturbed.reading fun bssid => ?_
    have taken : SameLocals d1 (d1.modifyNode m (takeOver msg bssid)) := by
      refine ⟨fun _ => .rfl, fun n inside => ?_⟩
      rw [modifyNode, Heap.get?_modify, if_neg (not_local_of_remote sound1 inside isRemote)]
    refine (post_foldlM (I := fun d' => Writes env m (d1.modifyNode m (takeOver msg bssid)) d') msg.stations ?_ _ (.refl _)).mono
      fun d' writes => same1.trans (taken.trans (sameLocals_writes writes))
    exact fun d' before sta _ => (writes_interfaceAddStation sta).mono fun _ more => before.trans more

theorem sameLocals_recvMsg (addr : CString) (msg : Apmsg) (sound : Sound none d) :
    Post AnyFault (d.interfaceRecvMsg env cfg addr msg) (SameLocals d) := by
  unfold interfaceRecvMsg
  split
  · exact .refl d
  · refine (post_foldlM (I := fun d' => Sound none d' ∧ SameLocals d d') msg.nodes ?_ d ⟨sound, .refl d⟩).mono
      fun _ facts => facts.2
    rintro d' ⟨sound', same⟩ node -
    let scope : Scope := { Scope.quiet with sender := some msg.id, unheard := fun _ _ key => key = none }
    have evolves : Post AnyFault (d'.interfaceAddNode env cfg addr msg.id.toUInt64 node) (Evolves env cfg scope d') :=
      (post_interfaceAddNode addr rfl (fun n key _ sta _ none => by cases none) sound').excuse fun _ _ => trivial
    exact ((sameLocals_addNode addr msg.id node sound').and evolves).mono fun d'' facts =>
      ⟨sound_evolves sound' facts.2, same.trans facts.1⟩

theorem sameLocals_aged {timeout : Int32} (aged : Aged timeout d.remoteList d d') (sound : Sound none d) : SameLocals d d' where
  locals := aged.locals
  profiles n inside := profiles_of_bare (aged.others n fun isRemote => not_local_of_remote sound inside isRemote rfl)

/-- Only registrations, removals and changes of their status are about local nodes as such. -/
theorem sameLocals_handle {input : Input} (sound : Sound none d)
    (work : Host.Passes input ∨ (∃ n msg, input = .clients n msg) ∨ ∃ n, input = .tick n)
    (run : d.handle env cfg input = .ok d') : SameLocals d d' := by
  have about : ∀ {n}, input.about = some n → (∀ m status, input ≠ .status m status) → SameLocals d d' :=
    fun concerns states => sameLocals_answers (answers_handle sound concerns run states)
  cases input with
  | advance ms =>
    cases run
    exact .of_eq rfl rfl
  | staEvent n addr type freq signal => exact about rfl nofun
  | beaconReport n msg => exact about rfl nofun
  | clients n msg => exact about rfl nofun
  | tick n => exact about rfl nofun
  | message addr msg =>
    change (if cfg.remoteDisabled then .ok d else d.interfaceRecvMsg env cfg addr msg) = .ok d' at run
    split at run
    · cases run
      exact .refl d
    · exact (sameLocals_recvMsg addr msg sound).of_ok run
  | timeouts =>
    have pruned := ((post_stationTimeouts (F := AnyFault) sound.toIntact).of_ok run).2.1
    refine ⟨fun n => by rw [pruned.localNodes], fun n _ => profiles_of_bare (pruned.nodes n)⟩
  | update =>
    by_cases zero : cfg.remoteUpdateInterval = 0
    · exfalso
      change d.usteerSendUpdateTimer env cfg = .ok d' at run
      obtain ⟨nodes, -, run⟩ := bind_ok run
      rw [usteerCheckTimeout, if_pos zero] at run
      cases run
    · exact sameLocals_aged ((aged_update env zero sound).of_ok run).2 sound
  | vendorUpdate =>
    cases run
    exact .of_eq rfl rfl
  | _ => simp [Host.Passes] at work

end Locals

/-! ### The status of a local node -/

/-- The records differ in their status. -/
def Restated (node node' : UsteerNode) : Prop := ∃ status : NodeStatus, node' = status.apply node

section Restated

variable {node node' node'' : UsteerNode} {ln ln' : Handles}

theorem isLocal_apply (status : NodeStatus) (node : UsteerNode) : (status.apply node).isLocal = node.isLocal := by
  obtain ⟨kind⟩ := node
  cases kind with
  | loc own => rfl
  | remote rn => rfl

theorem Restated.isLocal (restated : Restated node node') (isLocal : node.isLocal = true) : node'.isLocal = true := by
  obtain ⟨status, rfl⟩ := restated
  rw [isLocal_apply]
  exact isLocal

theorem Restated.trans (first : Restated node node') (second : Restated node' node'') : Restated node node'' := by
  obtain ⟨status, rfl⟩ := first
  obtain ⟨status', rfl⟩ := second
  refine ⟨status', ?_⟩
  obtain ⟨kind⟩ := node
  cases kind with
  | loc own => rfl
  | remote rn => rfl

theorem restated_fields (isLocal : node.isLocal = true) (ssid : CString) (bssid : MacAddr) (noise maxAssoc load : Int32)
    (rrmNr : Option Blob) : Restated node { node with
      ssid := ssid, bssid := bssid, noise := noise, maxAssoc := maxAssoc, load := load, rrmNr := rrmNr } := by
  refine ⟨⟨ssid, bssid, node.freq, noise, maxAssoc, load, rrmNr, node.scriptData, node.present⟩, ?_⟩
  obtain ⟨kind⟩ := node
  cases kind with
  | loc own => rfl
  | remote rn => cases isLocal

theorem Restated.refl (isLocal : node.isLocal = true) : Restated node node :=
  restated_fields isLocal node.ssid node.bssid node.noise node.maxAssoc node.load node.rrmNr

theorem restated_setPresent (isLocal : node.isLocal = true) (present : Bool) : Restated node (node.setPresent present) := by
  refine ⟨⟨node.ssid, node.bssid, node.freq, node.noise, node.maxAssoc, node.load, node.rrmNr, node.scriptData, present⟩, ?_⟩
  obtain ⟨kind⟩ := node
  cases kind with
  | loc own => rfl
  | remote rn => cases isLocal

theorem maxAssoc_setPresent (present : Bool) (node : UsteerNode) : (node.setPresent present).maxAssoc = node.maxAssoc := by
  unfold UsteerNode.setPresent
  split
  · rfl
  · rfl

/-- What the handlers of nl80211 do to a local node. -/
structure Probed (node : UsteerNode) (ln : Handles) (node' : UsteerNode) (ln' : Handles) : Prop where
  restated : Restated node node'
  maxAssoc : node'.maxAssoc = node.maxAssoc
  iface : ln'.iface = ln.iface
  requests : ln'.requests = ln.requests
  statusRequest : ln'.statusRequest = ln.statusRequest
  reqPending : ln'.reqPending = ln.reqPending
  statusComplete : ln'.statusComplete = ln.statusComplete

theorem Probed.trans {ln'' : Handles} (first : Probed node ln node' ln') (second : Probed node' ln' node'' ln'') :
    Probed node ln node'' ln'' where
  restated := first.restated.trans second.restated
  maxAssoc := second.maxAssoc.trans first.maxAssoc
  iface := second.iface.trans first.iface
  requests := second.requests.trans first.requests
  statusRequest := second.statusRequest.trans first.statusRequest
  reqPending := second.reqPending.trans first.reqPending
  statusComplete := second.statusComplete.trans first.statusComplete

theorem probed_surveys {results : List UsteerSurveyData} : ∀ {s s' : SurveyedNode}, s.node.isLocal = true →
    results.foldlM nl80211UpdateNodeResult s = some s' → Restated s.node s'.node ∧ s'.node.maxAssoc = s.node.maxAssoc := by
  induction results with
  | nil =>
    intro s s' isLocal run
    cases run
    exact ⟨.refl isLocal, rfl⟩
  | cons result rest ih =>
    intro s s' isLocal run
    obtain ⟨s1, taken, run⟩ := Option.bind_eq_some_iff.mp run
    obtain ⟨noise, load, same⟩ := survey_changes_load taken
    have restated : Restated s.node s1.node := by
      rw [same]
      exact restated_fields isLocal s.node.ssid s.node.bssid noise s.node.maxAssoc load s.node.rrmNr
    obtain ⟨restated', maxAssoc⟩ := ih (restated.isLocal isLocal) run
    exact ⟨restated.trans restated', by rw [maxAssoc, same]⟩

theorem probed_getSurvey {dump : List (Option SurveyInfo)} {r : UsteerNode × Handles} (isLocal : node.isLocal = true)
    (run : nl80211GetSurvey dump node ln = .ok r) : Probed node ln r.1 r.2 := by
  unfold nl80211GetSurvey at run
  split at run
  · split at run
    · rename_i surveyed results
      cases run
      obtain ⟨restated, maxAssoc⟩ := probed_surveys isLocal results
      exact ⟨restated, maxAssoc, rfl, rfl, rfl, rfl, rfl⟩
    · cases run
  · cases run
    exact ⟨.refl isLocal, rfl, rfl, rfl, rfl, rfl, rfl⟩

theorem probed_updateNode {reply : SurveyReply} {r : UsteerNode × Handles} (isLocal : node.isLocal = true)
    (run : nl80211UpdateNode reply node ln = .ok r) : Probed node ln r.1 r.2 := by
  obtain ⟨restated, maxAssoc, iface, requests, statusRequest, reqPending, complete⟩ := probed_getSurvey isLocal run
  exact ⟨restated, maxAssoc, iface, requests, statusRequest, reqPending, complete⟩

theorem probed_found {survey : SurveyReply} {reply : Option InterfaceReply} {r : UsteerNode × Handles}
    (isLocal : node.isLocal = true) (run : nl80211Found survey reply node ln = .ok r) : Probed node ln r.1 r.2 := by
  have unchanged : Probed node ln node ln := ⟨.refl isLocal, rfl, rfl, rfl, rfl, rfl, rfl⟩
  unfold nl80211Found at run
  split at run
  · cases run
    exact unchanged
  · split at run
    · cases run
      exact unchanged
    · rename_i reply _ wiphy _
      have named : Restated node (node.copySsid reply.ssid) ∧ (node.copySsid reply.ssid).maxAssoc = node.maxAssoc := by
        cases reply.ssid with
        | none => exact ⟨.refl isLocal, rfl⟩
        | some ssid => exact ⟨restated_fields isLocal _ node.bssid node.noise node.maxAssoc node.load node.rrmNr, rfl⟩
      have present := restated_setPresent (named.1.isLocal isLocal) true
      have probed : Probed node ln ((node.copySsid reply.ssid).setPresent true)
          { ln with wiphy := wiphy.toInt32, loadEwma := -1 } :=
        ⟨named.1.trans present, (maxAssoc_setPresent true _).trans named.2, rfl, rfl, rfl, rfl, rfl⟩
      exact probed.trans (probed_updateNode (probed.restated.isLocal isLocal) run)

theorem probed_initNode {found : Found} {ready : Bool} {r : Bool × UsteerNode × Handles} (isLocal : node.isLocal = true)
    (run : nl80211InitNode found ready node ln = .ok r) : Probed node ln r.2.1 r.2.2 := by
  have absent : Probed node ln (node.setPresent false) { ln with wiphy := -1 } :=
    ⟨restated_setPresent isLocal false, maxAssoc_setPresent false node, rfl, rfl, rfl, rfl, rfl⟩
  unfold nl80211InitNode at run
  rw [isLocal] at run
  simp only [Bool.not_true, Bool.false_eq_true, if_false] at run
  split at run
  · cases run
    exact absent
  · split at run
    · cases run
      exact absent
    · cases reached : nl80211Found found.survey found.interface (node.setPresent false) { ln with wiphy := -1 } with
      | error e =>
        rw [reached] at run
        cases run
      | ok r' =>
        rw [reached] at run
        cases run
        exact absent.trans (probed_found (absent.restated.isLocal isLocal) reached)

end Restated

/-! ### The handles of one node -/

/-- The requests are in order, and `req_pending` tells a request without a reply from one
    with a reply. -/
structure Wired (ln : Handles) : Prop where
  orderly : Orderly ln.requests
  waiting : ln.statusRequest = .waiting → ln.reqPending = true
  answered : ln.statusRequest = .answered → ln.reqPending = false

section Wired

variable {ln ln' : Handles}

theorem Wired.of_eq (wired : Wired ln) (requests : Orderly ln'.requests) (status : ln'.statusRequest = ln.statusRequest)
    (pending : ln'.reqPending = ln.reqPending) : Wired ln' where
  orderly := requests
  waiting := by rw [status, pending]; exact wired.waiting
  answered := by rw [status, pending]; exact wired.answered

theorem wired_getNode : Wired .usteerGetNode := ⟨Requests.orderly_start, nofun, nofun⟩

theorem wired_unused : Wired .unused := ⟨Requests.orderly_free Requests.orderly_start, nofun, nofun⟩

theorem not_live_unused : ¬ Handles.unused.Live := by simp [Handles.Live, Handles.unused, Handles.usteerGetNode,
  LocalNodeReq.usteerFreeNode, LocalNodeReq.usteerGetNode, LocalNodeReq.usteerLocalNodeStateReset]

/-- What `netifd_update_node` does to the handles of a node. -/
theorem wired_netifdUpdate {lookup : Bool} (wired : Wired ln) (run : netifdUpdateNode lookup ln = .ok ln') :
    Wired ln' ∧ ln'.iface = ln.iface ∧ ln'.requests = ln.requests ∧ ln'.statusComplete = ln.statusComplete := by
  have aborted : Wired (abortPending ln) ∧ (abortPending ln).iface = ln.iface ∧ (abortPending ln).requests = ln.requests ∧
      (abortPending ln).statusComplete = ln.statusComplete := by
    unfold abortPending
    split
    · exact ⟨⟨wired.orderly, nofun, nofun⟩, rfl, rfl, rfl⟩
    · exact ⟨wired, rfl, rfl, rfl⟩
  unfold netifdUpdateNode at run
  by_cases complete : ln.statusComplete = true
  · rw [if_pos complete] at run
    cases run
    exact ⟨wired, rfl, rfl, rfl⟩
  · rw [if_neg complete] at run
    dsimp only at run
    split at run
    · cases run
      exact aborted
    · split at run
      · cases run
        exact ⟨⟨aborted.1.orderly, fun _ => rfl, nofun⟩, aborted.2⟩
      · cases run

theorem abortPending_eq (ln : Handles) :
    abortPending ln = { ln with statusRequest := if ln.reqPending then .none else ln.statusRequest } := by
  unfold abortPending
  split
  · rfl
  · rfl

theorem nl80211FreeNode_eq (present : Bool) (ln : Handles) :
    nl80211FreeNode present ln = { ln with surveyTimer := if present then false else ln.surveyTimer } := by
  cases present with
  | true => rfl
  | false => rfl

theorem usteerFreeNode_eq (present : Bool) (ln : Handles) : ln.usteerFreeNode present = { ln with
    requests := ln.requests.usteerFreeNode
    surveyTimer := if present then false else ln.surveyTimer
    statusRequest := if ln.reqPending then .none else ln.statusRequest } := by
  simp only [Handles.usteerFreeNode, netifdFreeNode, abortPending_eq, nl80211FreeNode_eq]

theorem wired_usteerFreeNode (present : Bool) (wired : Wired ln) : Wired (ln.usteerFreeNode present) := by
  rw [usteerFreeNode_eq]
  refine ⟨Requests.orderly_free wired.orderly, ?_, ?_⟩
  · intro waits
    by_cases pending : ln.reqPending = true
    · exact pending
    · exact wired.waiting (by simpa [pending] using waits)
  · intro answered
    by_cases pending : ln.reqPending = true
    · simp [pending] at answered
    · simpa using pending

/-- What is left of the handles of a node that is freed. -/
theorem live_usteerFreeNode (present : Bool) (wired : Wired ln) : (ln.usteerFreeNode present).Live ↔
    (ln.surveyTimer = true ∧ present = false) ∨ ln.statusRequest = .answered := by
  obtain ⟨quiet, -, -, -⟩ := Requests.reset_quiet wired.orderly.phase
  have pending : ln.requests.usteerFreeNode.pending = [] := quiet
  have request : (if ln.reqPending then StatusRequest.none else ln.statusRequest) ≠ .none ↔ ln.statusRequest = .answered := by
    cases status : ln.statusRequest with
    | none => simp
    | waiting => simp [wired.waiting status]
    | answered => simp [wired.answered status]
  have timer : (if present then false else ln.surveyTimer) = true ↔ ln.surveyTimer = true ∧ present = false := by
    cases present with
    | true => simp
    | false => simp
  rw [usteerFreeNode_eq, Handles.Live, pending, request, timer]
  simp [LocalNodeReq.usteerFreeNode]

end Wired

/-! ### A step of the host -/

section Step

variable {env : Platform} {cfg : Config} {h h' h1 : Host} {n m : NodeId} {d d' d'' : Daemon}

theorem within_ok {α : Type} {x : Except Fault α} {a : α} (run : within x = .ok a) : x = .ok a := by
  cases x with
  | error e => cases run
  | ok b =>
    cases run
    rfl

/-- The daemon gets from one state to another by inputs that it accepts. -/
def Simulates (env : Platform) (cfg : Config) (d d' : Daemon) : Prop := ∃ inputs, d.runs env cfg inputs = some d'

theorem Simulates.refl (d : Daemon) : Simulates env cfg d d := ⟨[], rfl⟩

theorem simulates_of_handle (input : Input) (accepts : d.Accepts input) (run : d.handle env cfg input = .ok d') :
    Simulates env cfg d d' := by
  refine ⟨[input], ?_⟩
  rw [Daemon.runs, if_pos accepts, run]
  rfl

theorem Simulates.trans (first : Simulates env cfg d d') (second : Simulates env cfg d' d'') : Simulates env cfg d d'' := by
  obtain ⟨inputs, run⟩ := first
  obtain ⟨inputs', run'⟩ := second
  refine ⟨inputs ++ inputs', ?_⟩
  induction inputs generalizing d with
  | nil =>
    cases run
    exact run'
  | cons input rest ih =>
    obtain ⟨d1, accepts, handled, run⟩ := runs_cons run
    rw [List.cons_append, Daemon.runs, if_pos accepts, handled]
    exact ih run

theorem reachable_simulates (reach : Reachable env cfg d) (simulates : Simulates env cfg d d') : Reachable env cfg d' := by
  obtain ⟨inputs, run⟩ := simulates
  induction inputs generalizing d with
  | nil =>
    cases run
    exact reach
  | cons input rest ih =>
    obtain ⟨d1, accepts, handled, run⟩ := runs_cons run
    exact ih (.step input reach accepts handled) run

theorem sound_simulates (sound : Sound none d) (simulates : Simulates env cfg d d') : Sound none d' := by
  obtain ⟨inputs, run⟩ := simulates
  induction inputs generalizing d with
  | nil =>
    cases run
    exact sound
  | cons input rest ih =>
    obtain ⟨d1, accepts, handled, run⟩ := runs_cons run
    exact ih (sound_handle sound accepts handled) run

/-- The address was a node's and is not any more. -/
def Dead (d : Daemon) (n : NodeId) : Prop := n < d.nodes.next ∧ d.nodes.get? n = none

theorem next_simulates (sound : Sound none d) (simulates : Simulates env cfg d d') (old : n < d.nodes.next) :
    n < d'.nodes.next ∧ (d.nodes.get? n = none → d'.nodes.get? n = none) := by
  obtain ⟨inputs, run⟩ := simulates
  induction inputs generalizing d with
  | nil =>
    cases run
    exact ⟨old, id⟩
  | cons input rest ih =>
    obtain ⟨d1, accepts, handled, run⟩ := runs_cons run
    obtain ⟨old1, back⟩ := record_handle sound accepts handled old
    obtain ⟨old', stays⟩ := ih (sound_handle sound accepts handled) old1 run
    refine ⟨old', fun dead => stays ?_⟩
    by_contra live
    obtain ⟨node1, live1⟩ := Option.ne_none_iff_exists'.mp live
    obtain ⟨node, before, -⟩ := back live1
    rw [dead] at before
    cases before

/-- A new status of a local node is an input of the daemon. -/
theorem simulates_restated {node node' : UsteerNode} (inside : n ∈ d.localNodes) (live : d.nodes.get? n = some node)
    (restated : Restated node node') : Simulates env cfg d (d.modifyNode n fun _ => node') := by
  obtain ⟨status, rfl⟩ := restated
  have same : d.nodes.modify n (fun _ => status.apply node) = d.nodes.modify n status.apply := by
    have live' : d.nodes.cells n = some node := live
    simp [Heap.modify, live']
  refine simulates_of_handle (.status n status) inside ?_
  show Except.ok (d.modifyNode n status.apply) = _
  rw [modifyNode, modifyNode, same]

/-- What a signal does to the handles: nothing; something to those of a registered node;
    a node comes, with handles of its own; a node goes. -/
inductive Effect (h h' : Host) : Prop
  | none (locals : ∀ m, m ∈ h'.daemon.localNodes ↔ m ∈ h.daemon.localNodes) (handles : h'.handles = h.handles)
  | work {n ln} (locals : ∀ m, m ∈ h'.daemon.localNodes ↔ m ∈ h.daemon.localNodes)
      (handles : h'.handles = update h.handles n ln) (wired : Wired ln)
      (registered : ln.requests.registered = (h.handles n).requests.registered) (inside : n ∈ h.daemon.localNodes)
  | joins {n ln} (fresh : n = h.daemon.nodes.next)
      (locals : ∀ m, m ∈ h'.daemon.localNodes ↔ m ∈ h.daemon.localNodes ∨ m = n)
      (handles : h'.handles = update h.handles n ln) (wired : Wired ln) (registered : ln.requests.registered = true)
  | leaves {n ln node} (inside : n ∈ h.daemon.localNodes)
      (locals : ∀ m, m ∈ h'.daemon.localNodes ↔ m ∈ h.daemon.localNodes ∧ m ≠ n) (freed : h'.daemon.nodes.get? n = none)
      (handles : h'.handles = update h.handles n (ln.usteerFreeNode node.present)) (wired : Wired ln)
      (live : h.daemon.nodes.get? n = some node) (surveyTimer : ln.surveyTimer = (h.handles n).surveyTimer)
      (statusRequest : ln.statusRequest = (h.handles n).statusRequest)

/-- `usteer_free_node` would leave no handle of the node: a survey timer belongs to an
    interface that is present, and no request to netifd has been answered without being
    complete. -/
def Host.Clean (h : Host) (n : NodeId) : Prop :=
  ((h.handles n).surveyTimer = true → ∃ node, h.daemon.nodes.get? n = some node ∧ node.present = true) ∧
    (h.handles n).statusRequest ≠ .answered

theorem live_after_leaving {ln : Handles} {node : UsteerNode} (wired : Wired ln)
    (live : h.daemon.nodes.get? n = some node) (surveyTimer : ln.surveyTimer = (h.handles n).surveyTimer)
    (statusRequest : ln.statusRequest = (h.handles n).statusRequest) :
    (ln.usteerFreeNode node.present).Live ↔ ¬ h.Clean n := by
  have shows : (∃ node, h.daemon.nodes.get? n = some node ∧ node.present = true) ↔ node.present = true := by simp [live]
  rw [live_usteerFreeNode _ wired, Host.Clean, shows, surveyTimer, statusRequest]
  by_cases timer : (h.handles n).surveyTimer = true
  · simp [timer, imp_iff_not_or]
  · simp [timer]

/-- A node goes and leaves something behind. -/
def Host.LeavesBehind (h h' : Host) (n : NodeId) : Prop :=
  n ∈ h.daemon.localNodes ∧ n ∉ h'.daemon.localNodes ∧ ¬ h.Clean n

/-- The handles of registered nodes are served, and beside them there are only those that
    were left behind. -/
structure Kept (h : Host) (strays : NodeId → Prop) : Prop where
  wired : ∀ n, Wired (h.handles n)
  serves : ∀ n ∈ h.daemon.localNodes, (h.handles n).requests.registered = true
  gone : ∀ n, n ∉ h.daemon.localNodes → (h.handles n).Live → strays n
  strays : ∀ n, strays n → (h.handles n).Live ∧ Dead h.daemon n

theorem kept_frame {strays : NodeId → Prop} {ln : Handles} (kept : Kept h strays) (sound : Sound none h.daemon)
    (handles : h'.handles = update h.handles n ln) (simulates : Simulates env cfg h.daemon h'.daemon) (wired : Wired ln)
    (others : ∀ m, m ≠ n → (m ∈ h'.daemon.localNodes ↔ m ∈ h.daemon.localNodes))
    (serves : n ∈ h'.daemon.localNodes → ln.requests.registered = true)
    (gone : n ∉ h'.daemon.localNodes → (ln.Live ↔ h.LeavesBehind h' n))
    (left : h.LeavesBehind h' n → Dead h'.daemon n) (own : ¬ strays n) :
    Kept h' (fun m => strays m ∨ h.LeavesBehind h' m) := by
  have here : h'.handles n = ln := by rw [handles, update_self]
  have elsewhere : ∀ m, m ≠ n → h'.handles m = h.handles m := fun m other => by rw [handles, update_of_ne other]
  refine ⟨fun m => ?_, fun m listed => ?_, fun m out live => ?_, ?_⟩
  · by_cases same : m = n
    · rw [same, here]
      exact wired
    · rw [elsewhere m same]
      exact kept.wired m
  · by_cases same : m = n
    · subst same
      rw [here]
      exact serves listed
    · rw [elsewhere m same]
      exact kept.serves m ((others m same).mp listed)
  · by_cases same : m = n
    · subst same
      rw [here] at live
      exact .inr ((gone out).mp live)
    · rw [elsewhere m same] at live
      exact .inl (kept.gone m (fun listed => out ((others m same).mpr listed)) live)
  · rintro m (stray | behind)
    · have other : m ≠ n := by
        rintro rfl
        exact own stray
      obtain ⟨live, old, dead⟩ := kept.strays m stray
      obtain ⟨old', dead'⟩ := next_simulates sound simulates old
      rw [elsewhere m other]
      exact ⟨live, old', dead' dead⟩
    · have same : m = n := by
        by_contra other
        exact behind.2.1 ((others m other).mpr behind.1)
      subst same
      rw [here]
      exact ⟨(gone behind.2.1).mpr behind, left behind⟩

theorem not_stray {strays : NodeId → Prop} (kept : Kept h strays) (sound : Sound none h.daemon)
    (inside : n ∈ h.daemon.localNodes) : ¬ strays n := by
  intro stray
  obtain ⟨node, live, -⟩ := node_of_locals sound.registered inside
  have dead := (kept.strays n stray).2.2
  rw [live] at dead
  cases dead

/-- What a step does. -/
structure Steps (env : Platform) (cfg : Config) (h h' : Host) : Prop where
  effect : Effect h h'
  simulates : Simulates env cfg h.daemon h'.daemon

theorem kept_steps {strays : NodeId → Prop} (kept : Kept h strays) (sound : Sound none h.daemon) (steps : Steps env cfg h h') :
    Kept h' (fun m => strays m ∨ h.LeavesBehind h' m) := by
  obtain ⟨effect, simulates⟩ := steps
  cases effect with
  | none locals handles =>
    have nobody : ∀ m, ¬ h.LeavesBehind h' m := fun m behind => behind.2.1 ((locals m).mpr behind.1)
    refine ⟨fun m => ?_, fun m listed => ?_, fun m out live => ?_, ?_⟩
    · rw [handles]
      exact kept.wired m
    · rw [handles]
      exact kept.serves m ((locals m).mp listed)
    · rw [handles] at live
      exact .inl (kept.gone m (fun listed => out ((locals m).mpr listed)) live)
    · rintro m (stray | behind)
      · obtain ⟨live, old, dead⟩ := kept.strays m stray
        obtain ⟨old', dead'⟩ := next_simulates sound simulates old
        rw [handles]
        exact ⟨live, old', dead' dead⟩
      · exact absurd behind (nobody m)
  | @work n ln locals handles wired registered inside =>
    have stays : n ∈ h'.daemon.localNodes := (locals n).mpr inside
    refine kept_frame kept sound handles simulates wired (fun m _ => locals m) (fun _ => ?_) (absurd stays) ?_
      (not_stray kept sound inside)
    · rw [registered]
      exact kept.serves n inside
    · exact fun behind => absurd stays behind.2.1
  | @joins n ln fresh locals handles wired registered =>
    have comes : n ∈ h'.daemon.localNodes := (locals n).mpr (.inr rfl)
    refine kept_frame kept sound handles simulates wired (fun m other => ?_) (fun _ => registered) (absurd comes) ?_ ?_
    · rw [locals m, or_iff_left other]
    · exact fun behind => absurd comes behind.2.1
    · intro stray
      exact absurd fresh (Nat.ne_of_lt (kept.strays n stray).2.1)
  | @leaves n ln node inside locals freed handles wired live surveyTimer statusRequest =>
    have left : n ∉ h'.daemon.localNodes := fun listed => ((locals n).mp listed).2 rfl
    refine kept_frame kept sound handles simulates (wired_usteerFreeNode _ wired) (fun m other => ?_) (absurd · left) (fun _ => ?_)
      ?_ (not_stray kept sound inside)
    · rw [locals m, and_iff_left other]
    · rw [live_after_leaving wired live surveyTimer statusRequest, Host.LeavesBehind]
      simp [inside, left]
    · exact fun _ => ⟨(next_simulates sound simulates (Heap.lt_next live)).1, freed⟩

/-- An edit of the record of a registered node, with other handles. -/
theorem effect_store {node : UsteerNode} {ln : Handles} (wired : Wired ln) (inside : n ∈ h.daemon.localNodes)
    (registered : ln.requests.registered = (h.handles n).requests.registered) : Effect h (h.store n node ln) :=
  .work (fun _ => .rfl) rfl wired registered inside

theorem effect_setHandles {ln : Handles} (wired : Wired ln) (inside : n ∈ h.daemon.localNodes)
    (registered : ln.requests.registered = (h.handles n).requests.registered) : Effect h (h.setHandles n ln) :=
  .work (fun _ => .rfl) rfl wired registered inside

/-! ### Each signal -/

variable {strays : NodeId → Prop}

/-- What `usteer_get_node` finds or makes. -/
inductive GotNode (h h1 : Host) (name : CString) (n : NodeId) : Prop
  | found (same : h1 = h) (inside : n ∈ h.daemon.localNodes) {node} (live : h.daemon.nodes.get? n = some node)
      (named : node.name = name)
  | made (fresh : n = h.daemon.nodes.next) (joined : Joined (newLocalNode name) h.daemon h1.daemon)
      (handles : h1.handles = update h.handles n .usteerGetNode)

theorem locals_made {name : CString} (joined : Joined (newLocalNode name) d d') (m : NodeId) :
    m ∈ d'.localNodes ↔ m ∈ d.localNodes ∨ m = d.nodes.next := by
  have isLocal : (newLocalNode name).isLocal = true := rfl
  rw [joined.locals m, isLocal]
  simp

theorem GotNode.inside {name : CString} (got : GotNode h h1 name n) : n ∈ h1.daemon.localNodes := by
  cases got with
  | found same inside => rwa [same]
  | made fresh joined => exact (locals_made joined n).mpr (.inr fresh)

theorem steps_getNode {name : CString} (sound : Sound none h.daemon) (run : h.usteerGetNode name = .ok (n, h1)) :
    h.daemon.usteerGetNode name = .ok (n, h1.daemon) ∧ h1.ready = h.ready ∧ Sound none h1.daemon ∧ GotNode h h1 name n := by
  have lives : ∀ k ∈ h.daemon.localNodes, ∃ node, h.daemon.node k = .ok node := by
    intro k listed
    obtain ⟨node, live, -⟩ := node_of_locals sound.registered listed
    exact ⟨node, node_ok live⟩
  unfold Host.usteerGetNode at run
  obtain ⟨found, searched, run⟩ := bind_ok run
  obtain ⟨hit, -⟩ := (post_search (F := AnyFault) h.daemon.localNodes lives).of_ok searched
  cases found with
  | some k =>
    cases run
    obtain ⟨inside, node, live, named⟩ := hit n rfl
    refine ⟨?_, rfl, sound, .found rfl inside (node_of_ok live) (of_decide_eq_true named)⟩
    rw [Daemon.usteerGetNode, searched]
    rfl
  | none =>
    obtain ⟨⟨k, d⟩, got, run⟩ := bind_ok run
    cases run
    have fresh : n = h.daemon.nodes.next ∧ d.nodes.next = h.daemon.nodes.next + 1 := by
      unfold Daemon.usteerGetNode at got
      rw [searched] at got
      cases got
      exact ⟨rfl, rfl⟩
    rcases (post_usteerGetNode (F := AnyFault) plainPlatform none name sound).of_ok got with same | ⟨joined, -, sound'⟩
    · have same : d = h.daemon := same
      rw [same] at fresh
      omega
    · exact ⟨got, rfl, sound', .made fresh.1 joined rfl⟩

theorem steps_register {name : CString} {found : Found} (sound : Sound none h.daemon) (kept : Kept h strays)
    (run : h.usteerRegisterNode name found = .ok h') : Steps env cfg h h' := by
  unfold Host.usteerRegisterNode at run
  split at run
  · cases run
    exact ⟨.none (fun _ => .rfl) rfl, .refl _⟩
  · rename_i own
    obtain ⟨⟨n, h1⟩, got, run⟩ := bind_ok run
    obtain ⟨daemon, ready, sound1, origin⟩ := steps_getNode sound (within_ok got)
    have inside1 := origin.inside
    obtain ⟨node, live, run⟩ := bind_ok run
    have live := node_of_ok (within_ok live)
    obtain ⟨⟨ready', node', ln⟩, probed, run⟩ := bind_ok run
    obtain ⟨ln', asked, run⟩ := bind_ok run
    cases run
    obtain ⟨node0, live0, isLocal⟩ := node_of_locals sound1.registered inside1
    rw [live] at live0
    cases live0
    have probed := probed_initNode isLocal probed
    have wired1 : Wired (h1.handles n) := by
      cases origin with
      | found same =>
        rw [same]
        exact kept.wired n
      | made fresh joined handles =>
        rw [handles, update_self]
        exact wired_getNode
    have wired : Wired { ln with statusComplete := false } :=
      wired1.of_eq (by rw [probed.requests]; exact wired1.orderly) probed.statusRequest probed.reqPending
    obtain ⟨wired', -, requests, -⟩ := wired_netifdUpdate wired asked
    have registered : ln'.requests.registered = (h1.handles n).requests.registered :=
      congrArg LocalNodeReq.registered (requests.trans probed.requests)
    constructor
    · cases origin with
      | found same inside =>
        subst same
        exact .work (fun _ => .rfl) rfl wired' registered inside
      | made fresh joined handles =>
        refine .joins fresh (fun m => by rw [fresh]; exact locals_made joined m) ?_ wired' ?_
        · show update h1.handles n ln' = _
          rw [handles, update_idem]
        · rw [registered, handles, update_self]
          rfl
    · have registers : h.daemon.handle env cfg (.register name) = .ok h1.daemon := by
        show h.daemon.usteerRegisterNode name = _
        rw [Daemon.usteerRegisterNode, if_neg own, daemon]
        rfl
      exact (simulates_of_handle (.register name) trivial registers).trans (simulates_restated inside1 live probed.restated)

theorem steps_remove (sound : Sound none h.daemon) (kept : Kept h strays) (inside : n ∈ h.daemon.localNodes)
    (run : h.usteerFreeNode env cfg n = .ok h') : Steps env cfg h h' := by
  unfold Host.usteerFreeNode at run
  obtain ⟨node, live, run⟩ := bind_ok run
  obtain ⟨d, freed, run⟩ := bind_ok run
  cases run
  have removed := ((post_usteerFreeNode (F := AnyFault) sound inside).of_ok (within_ok freed)).2.1
  exact ⟨.leaves inside removed.locals removed.freed rfl (kept.wired n) (node_of_ok (within_ok live)) rfl rfl,
    simulates_of_handle (.remove n) inside (within_ok freed)⟩

theorem registered_reset (ln : LocalNodeReq) : ln.usteerLocalNodeStateReset.registered = ln.registered := by
  unfold LocalNodeReq.usteerLocalNodeStateReset
  split
  · rfl
  · rfl

theorem registered_next (ln : LocalNodeReq) : ln.usteerLocalNodeStateNext.registered = ln.registered := by
  unfold LocalNodeReq.usteerLocalNodeStateNext
  cases ln.reqState.succ with
  | none => rfl
  | some state =>
    cases state with
    | idle => rfl
    | clients => rfl
    | rrmSetList => rfl
    | rrmGetOwn => rfl

theorem registered_reply (ln : LocalNodeReq) (req : Requests.Request) : (ln.reply req false).registered = ln.registered := by
  unfold LocalNodeReq.reply
  cases ln.dataCb with
  | none => rfl
  | some cb => simp

theorem registered_complete (ln : LocalNodeReq) (req : Requests.Request) : (ln.complete req).registered = ln.registered := by
  unfold LocalNodeReq.complete
  dsimp only
  split
  · rfl
  · rfl

theorem steps_update {lookup : Bool} (sound : Sound none h.daemon) (kept : Kept h strays) (inside : n ∈ h.daemon.localNodes)
    (run : h.usteerLocalNodeUpdate cfg n lookup = .ok h') : Steps env cfg h h' := by
  unfold Host.usteerLocalNodeUpdate at run
  obtain ⟨node, -, run⟩ := bind_ok run
  obtain ⟨ln, asked, run⟩ := bind_ok run
  obtain ⟨d, kicked, run⟩ := bind_ok run
  cases run
  have tick : h.daemon.handle env cfg (.tick n) = .ok d := within_ok kicked
  obtain ⟨wired, -, requests, -⟩ := wired_netifdUpdate (kept.wired n) asked
  refine ⟨.work (sameLocals_handle sound (.inr (.inr ⟨n, rfl⟩)) tick).locals rfl
    (wired.of_eq (Requests.orderly_update wired.orderly) rfl rfl) ?_ inside, simulates_of_handle (.tick n) inside tick⟩
  rw [← requests]
  exact registered_reset ln.requests

theorem steps_next (kept : Kept h strays) (inside : n ∈ h.daemon.localNodes) (set : (h.handles n).requests.reqTimer = true)
    (run : h.usteerLocalNodeStateNext n = .ok h') : Steps env cfg h h' := by
  unfold Host.usteerLocalNodeStateNext at run
  obtain ⟨node, -, run⟩ := bind_ok run
  cases run
  have wired := kept.wired n
  exact ⟨effect_setHandles (wired.of_eq (Requests.orderly_next wired.orderly set) rfl rfl) inside (registered_next _), .refl _⟩

theorem steps_complete {req : Requests.Request} (kept : Kept h strays) (inside : n ∈ h.daemon.localNodes)
    (pending : req ∈ (h.handles n).requests.pending) (run : h.complete n req = .ok h') : Steps env cfg h h' := by
  unfold Host.complete at run
  obtain ⟨node, -, run⟩ := bind_ok run
  cases run
  have wired := kept.wired n
  exact ⟨effect_setHandles (wired.of_eq (Requests.orderly_complete wired.orderly pending) rfl rfl) inside
    (registered_complete _ _), .refl _⟩

theorem steps_survey {reply : SurveyReply} (sound : Sound none h.daemon) (kept : Kept h strays) (inside : n ∈ h.daemon.localNodes)
    (run : h.survey n reply = .ok h') : Steps env cfg h h' := by
  unfold Host.survey at run
  obtain ⟨node, live, run⟩ := bind_ok run
  have live := node_of_ok (within_ok live)
  obtain ⟨⟨node', ln⟩, surveyed, run⟩ := bind_ok run
  cases run
  obtain ⟨node0, live0, isLocal⟩ := node_of_locals sound.registered inside
  rw [live] at live0
  cases live0
  have probed := probed_updateNode isLocal surveyed
  have wired := kept.wired n
  refine ⟨effect_store (wired.of_eq ?_ probed.statusRequest probed.reqPending) inside ?_,
    simulates_restated inside live probed.restated⟩
  · rw [probed.requests]
    exact wired.orderly
  · rw [probed.requests]

theorem steps_status {msg : List Blobmsg} (sound : Sound none h.daemon) (kept : Kept h strays) (inside : n ∈ h.daemon.localNodes)
    (run : h.netifdStatusCb n msg = .ok h') : Steps env cfg h h' := by
  unfold Host.netifdStatusCb at run
  obtain ⟨node, live, run⟩ := bind_ok run
  have live := node_of_ok (within_ok live)
  cases run
  obtain ⟨node0, live0, isLocal⟩ := node_of_locals sound.registered inside
  rw [live] at live0
  cases live0
  exact ⟨effect_store ⟨(kept.wired n).orderly, nofun, fun _ => rfl⟩ inside rfl, simulates_restated inside live
    (restated_fields isLocal node.ssid node.bssid node.noise _ node.load node.rrmNr)⟩

theorem steps_statusDone (kept : Kept h strays) (inside : n ∈ h.daemon.localNodes) (run : h.statusDone n = .ok h') :
    Steps env cfg h h' := by
  unfold Host.statusDone at run
  obtain ⟨node, -, run⟩ := bind_ok run
  cases run
  exact ⟨effect_setHandles ⟨(kept.wired n).orderly, nofun, nofun⟩ inside rfl, .refl _⟩

/-- `usteer_local_node_rrm_nr_cb` on a host whose node has other handles than before. -/
theorem steps_rrmNrCb {ln : Handles} {msg : Option RrmReply} (sound : Sound none h.daemon) (inside : n ∈ h.daemon.localNodes)
    (wired : Wired ln) (registered : ln.requests.registered = (h.handles n).requests.registered)
    (surveyTimer : ln.surveyTimer = (h.handles n).surveyTimer) (statusRequest : ln.statusRequest = (h.handles n).statusRequest)
    (run : (h.setHandles n ln).usteerLocalNodeRrmNrCb env cfg n msg = .ok h') : Steps env cfg h h' := by
  unfold Host.usteerLocalNodeRrmNrCb at run
  cases msg with
  | none =>
    cases run
    exact ⟨effect_setHandles wired inside registered, .refl _⟩
  | some reply =>
    obtain ⟨node, live, run⟩ := bind_ok run
    have live : h.daemon.nodes.get? n = some node := node_of_ok (within_ok live)
    obtain ⟨bssid, -, run⟩ := bind_ok run
    obtain ⟨node0, live0, isLocal⟩ := node_of_locals sound.registered inside
    rw [live] at live0
    cases live0
    have restated : Restated node { node with rrmNr := some reply.value, bssid := bssid } :=
      restated_fields isLocal node.ssid bssid node.noise node.maxAssoc node.load (some reply.value)
    have simulates : Simulates env cfg h.daemon (h.daemon.modifyNode n fun _ =>
        { node with rrmNr := some reply.value, bssid := bssid }) := simulates_restated inside live restated
    have stored : (h.setHandles n ln).store n { node with rrmNr := some reply.value, bssid := bssid }
        ((h.setHandles n ln).handles n) = h.store n { node with rrmNr := some reply.value, bssid := bssid } ln := by
      simp [Host.setHandles, Host.store]
    have stays : Steps env cfg h (h.store n { node with rrmNr := some reply.value, bssid := bssid } ln) :=
      ⟨effect_store wired inside registered, simulates⟩
    rw [stored] at run
    unfold Host.checkSsid at run
    split at run
    · split at run
      · cases run
        exact stays
      · unfold Host.usteerFreeNode at run
        obtain ⟨node', live', run⟩ := bind_ok run
        obtain ⟨d, freed, run⟩ := bind_ok run
        cases run
        have live' := node_of_ok (within_ok live')
        simp only [Host.store, modifyNode, Heap.get?_modify, if_true, live, Option.map_some, Option.some.injEq] at live'
        subst live'
        have freed := within_ok freed
        have removed := ((post_usteerFreeNode (F := AnyFault) (sound_simulates sound simulates) inside).of_ok freed).2.1
        refine ⟨.leaves inside removed.locals removed.freed ?_ wired live surveyTimer statusRequest,
          simulates.trans (simulates_of_handle (.remove n) inside freed)⟩
        simp [Host.store, UsteerNode.present]
    · cases run
      exact stays

theorem steps_reply {req : Requests.Request} {msg : HostapdReply} (sound : Sound none h.daemon) (kept : Kept h strays)
    (inside : n ∈ h.daemon.localNodes) (pending : req ∈ (h.handles n).requests.pending)
    (run : h.reply env cfg n req msg = .ok h') : Steps env cfg h h' := by
  unfold Host.reply at run
  obtain ⟨node, -, run⟩ := bind_ok run
  have wired : Wired { h.handles n with requests := (h.handles n).requests.reply req false } :=
    (kept.wired n).of_eq (Requests.orderly_reply (kept.wired n).orderly pending false) rfl rfl
  have registered := registered_reply (h.handles n).requests req
  dsimp only at run
  split at run
  · cases run
    exact ⟨effect_setHandles wired inside registered, .refl _⟩
  · obtain ⟨d, listed, run⟩ := bind_ok run
    cases run
    have clients : h.daemon.handle env cfg (.clients n msg.clients) = .ok d := within_ok listed
    exact ⟨.work (sameLocals_handle sound (.inr (.inl ⟨n, _, rfl⟩)) clients).locals rfl wired registered inside,
      simulates_of_handle (.clients n msg.clients) inside clients⟩
  · exact steps_rrmNrCb sound inside wired registered rfl rfl run

/-- What has handles is registered, when following the pointer to it is no fault. -/
theorem Kept.served {α : Type} {k : UsteerNode → Except HostFault α} {r : α} (kept : Kept h strays) (live : (h.handles n).Live)
    (run : (within (h.daemon.node n) >>= k) = .ok r) : n ∈ h.daemon.localNodes := by
  by_contra out
  obtain ⟨node, found, -⟩ := bind_ok run
  have dead := (kept.strays n (kept.gone n out live)).2.2
  rw [node_of_ok (within_ok found)] at dead
  cases dead

/-- Whatever the loop delivers is a sequence of inputs that the daemon accepts. -/
theorem steps_step {signal : Signal} (sound : Sound none h.daemon) (kept : Kept h strays) (due : h.Due signal)
    (run : h.step env cfg signal = .ok h') : Steps env cfg h h' := by
  have inside : ∀ {n k}, (h.handles n).Live → (within (h.daemon.node n) >>= k) = .ok h' → n ∈ h.daemon.localNodes :=
    fun live run => kept.served live run
  cases signal with
  | input input =>
    obtain ⟨d, handled, run⟩ := bind_ok run
    cases run
    exact ⟨.none (sameLocals_handle sound (.inl due.1) (within_ok handled)).locals rfl,
      simulates_of_handle input due.2 (within_ok handled)⟩
  | register name found => exact steps_register sound kept run
  | remove n => exact steps_remove sound kept due run
  | update n lookup => exact steps_update sound kept (inside (.inl due) run) run
  | reqTimer n => exact steps_next kept (inside (.inr (.inl due)) run) due run
  | reply n req msg => exact steps_reply sound kept (inside (.inr (.inr (.inl (List.ne_nil_of_mem due)))) run) due run
  | complete n req => exact steps_complete kept (inside (.inr (.inr (.inl (List.ne_nil_of_mem due)))) run) due run
  | survey n reply => exact steps_survey sound kept (inside (.inr (.inr (.inr (.inl due)))) run) run
  | status n msg => exact steps_status sound kept (inside (.inr (.inr (.inr (.inr due)))) run) run
  | statusComplete n => exact steps_statusDone kept (inside (.inr (.inr (.inr (.inr due)))) run) run

end Step

/-! ### Runs of the host -/

/-- The hosts that signals lead to, with the nodes that left something behind. -/
inductive Host.Reaches (env : Platform) (cfg : Config) : Host → (NodeId → Prop) → Prop
  | start (localId : UInt32) (clock : UInt64) (ssidList : Option (List CString)) :
      Reaches env cfg (.initial localId clock ssidList) (fun _ => False)
  | step {h h' strays} (signal : Signal) (reach : Reaches env cfg h strays) (due : h.Due signal)
      (run : h.step env cfg signal = .ok h') : Reaches env cfg h' (fun n => strays n ∨ h.LeavesBehind h' n)

/-- The node that a timer or a request belongs to. -/
def Signal.handleOf : Signal → Option NodeId
  | .update n _ | .reqTimer n | .reply n _ _ | .complete n _ | .survey n _ | .status n _ | .statusComplete n => some n
  | .input _ | .register _ _ | .remove _ => none

theorem Host.Reaches.facts {env : Platform} {cfg : Config} {h : Host} {strays : NodeId → Prop}
    (reach : Host.Reaches env cfg h strays) : Reachable env cfg h.daemon ∧ Kept h strays := by
  induction reach with
  | start localId clock ssidList =>
    exact ⟨.start localId clock ssidList, fun _ => wired_unused, fun n inside => (by cases inside),
      fun _ _ live => absurd live not_live_unused, fun _ stray => stray.elim⟩
  | step signal _ due run ih =>
    obtain ⟨reachable, kept⟩ := ih
    have sound := reachable_sound reachable
    have steps := steps_step sound kept due run
    exact ⟨reachable_simulates reachable steps.simulates, kept_steps kept sound steps⟩

/-- In every run of the event loop the daemon gets inputs that it accepts. Timers that are
    set and requests that are pending belong to registered nodes and to those that went
    while their survey timer was set without an interface being present, or their request
    to netifd answered without being complete. All of the latter have some, and the first
    that is delivered uses a freed node. -/
theorem teardown_complete_iff (env : Platform) (cfg : Config) {h : Host} {strays : NodeId → Prop}
    (reach : Host.Reaches env cfg h strays) : Reachable env cfg h.daemon ∧
      (∀ n, (h.handles n).Live ↔ n ∈ h.daemon.localNodes ∨ strays n) ∧ (∀ n, strays n → n ∉ h.daemon.localNodes) ∧
      ∀ signal n, signal.handleOf = some n → strays n → h.step env cfg signal = .error (.daemon .useAfterFree) := by
  obtain ⟨reachable, kept⟩ := reach.facts
  have sound := reachable_sound reachable
  refine ⟨reachable, fun n => ⟨fun live => ?_, ?_⟩, fun n stray inside => not_stray kept sound inside stray, ?_⟩
  · by_cases inside : n ∈ h.daemon.localNodes
    · exact .inl inside
    · exact .inr (kept.gone n inside live)
  · rintro (inside | stray)
    · exact .inl (kept.serves n inside)
    · exact (kept.strays n stray).1
  · intro signal n belongs stray
    have dead : within (h.daemon.node n) = .error (.daemon .useAfterFree) := by
      rw [Daemon.node, (kept.strays n stray).2.2]
      rfl
    have faults : ∀ k : UsteerNode → Except HostFault Host, (within (h.daemon.node n) >>= k) = .error (.daemon .useAfterFree) := by
      intro k
      rw [dead]
      rfl
    cases signal with
    | input input => cases belongs
    | register name found => cases belongs
    | remove m => cases belongs
    | _ =>
      cases belongs
      exact faults _

instance : (input : Input) → Decidable (Host.Passes input)
  | .advance _ | .staEvent .. | .beaconReport .. | .message .. | .timeouts | .update | .vendorUpdate => .isTrue trivial
  | .clients .. | .tick _ | .register _ | .status .. | .remove _ => .isFalse id

instance (h : Host) (signal : Signal) : Decidable (h.Due signal) := by
  cases signal <;> unfold Host.Due <;> infer_instance

/-- The host after signals that the loop may deliver, when none is a fault. -/
def Host.run (env : Platform) (cfg : Config) : List Signal → Host → Option Host
  | [], h => some h
  | signal :: rest, h => if h.Due signal then (h.step env cfg signal).toOption.bind (run env cfg rest) else none

theorem Host.Reaches.run {env : Platform} {cfg : Config} {signals : List Signal} : ∀ {h h' : Host} {strays : NodeId → Prop},
    Host.Reaches env cfg h strays → h.run env cfg signals = some h' → ∃ strays', Host.Reaches env cfg h' strays' := by
  induction signals with
  | nil =>
    intro h h' strays reach run
    cases run
    exact ⟨strays, reach⟩
  | cons signal rest ih =>
    intro h h' strays reach run
    rw [Host.run] at run
    split at run
    · rename_i due
      obtain ⟨h1, stepped, run⟩ := Option.bind_eq_some_iff.mp run
      exact ih (.step signal reach due (ok_of_toOption stepped)) run
    · cases run

/-- An interface that nl80211 knows. -/
def foundInterface : Found := ⟨3, true, some ⟨some 0, some [97]⟩, ⟨3, []⟩, true⟩

/-- The hostapd object appears twice, and the second time the interface is not found. -/
def lostInterface : List Signal :=
  [.register hostapdDot foundInterface, .register hostapdDot { foundInterface with interface := none }]

theorem teardown_complete_iff_lost_interface : ∃ h strays, Host.Reaches plainPlatform usteerInitDefaults h strays ∧
    strays 0 ∧ h.Due (.survey 0 ⟨3, []⟩) ∧
    h.step plainPlatform usteerInitDefaults (.survey 0 ⟨3, []⟩) = .error (.daemon .useAfterFree) := by
  have evaluates : (((Host.initial 1 0 none).run plainPlatform usteerInitDefaults lostInterface).any fun h =>
      decide (0 ∈ h.daemon.localNodes) && (h.handles 0).surveyTimer && ((h.daemon.nodes.get? 0).any fun node => !node.present) &&
        (h.step plainPlatform usteerInitDefaults (.remove 0)).toOption.any fun h' => decide (0 ∉ h'.daemon.localNodes) &&
          (h'.handles 0).surveyTimer) = true := by decide +kernel
  obtain ⟨h, ran, evaluates⟩ := (Option.any_eq_true _ _).mp evaluates
  simp only [Bool.and_eq_true, decide_eq_true_eq, Option.any_eq_true, Bool.not_eq_true'] at evaluates
  obtain ⟨⟨⟨inside, timer⟩, node, live, absent⟩, h', removed, left, set⟩ := evaluates
  have start : Host.Reaches plainPlatform usteerInitDefaults (.initial 1 0 none) fun _ => False := .start 1 0 none
  obtain ⟨strays, reach⟩ := start.run ran
  have behind : h.LeavesBehind h' 0 := by
    refine ⟨inside, left, fun clean => ?_⟩
    obtain ⟨node', live', present⟩ := clean.1 timer
    rw [live] at live'
    cases live'
    rw [absent] at present
    cases present
  have reach' := Host.Reaches.step (.remove 0) reach inside (ok_of_toOption removed)
  exact ⟨h', _, reach', .inr behind, set, (teardown_complete_iff plainPlatform usteerInitDefaults reach').2.2.2
    (.survey 0 ⟨3, []⟩) 0 rfl (.inr behind)⟩

end Usteer
