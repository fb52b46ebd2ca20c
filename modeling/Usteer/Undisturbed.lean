import Usteer.Runs

/-!
Remote nodes change with the messages of their daemons and with the periodic update, and
with nothing else: requests, client tables, beacon reports, policy ticks and expiry leave
the tree and what only remote nodes have as they are (`undisturbed_handle`).
-/
namespace Usteer
open SearchTree Timeout Function Daemon

/-- What a remote node has beside its common fields. -/
def remoteOf (node : UsteerNode) : Option RemoteNode :=
  match node.kind with
  | .remote rn => some rn
  | .loc _ => none

/-- The tree of remote nodes and what only remote nodes have are as before. -/
structure Undisturbed (d d' : Daemon) : Prop where
  tree : d'.remoteNodes = d.remoteNodes
  nodes : ∀ m, (d'.nodes.get? m).bind remoteOf = (d.nodes.get? m).bind remoteOf

section Undisturbed

variable {env : Platform} {cfg : Config} {d d' d'' : Daemon} {α β : Type} {n : NodeId} {si : SiId}

namespace Undisturbed

theorem of_eq (tree : d'.remoteNodes = d.remoteNodes) (nodes : d'.nodes = d.nodes) : Undisturbed d d' :=
  ⟨tree, fun m => by rw [nodes]⟩

theorem refl (d : Daemon) : Undisturbed d d := of_eq rfl rfl

theorem trans (first : Undisturbed d d') (second : Undisturbed d' d'') : Undisturbed d d'' :=
  ⟨second.tree.trans first.tree, fun m => (second.nodes m).trans (first.nodes m)⟩

theorem modifyNode {f : UsteerNode → UsteerNode} (keeps : ∀ node, remoteOf (f node) = remoteOf node) :
    Undisturbed d (d.modifyNode n f) := by
  refine ⟨rfl, fun m => ?_⟩
  rw [Daemon.modifyNode, Heap.get?_modify]
  split
  · rename_i here
    rw [here]
    cases d.nodes.get? n with
    | none => rfl
    | some node => exact keeps node
  · rfl

/-- One step after the other. -/
theorem bind {m : Except Fault α} {f : α → Except Fault β} {now : α → Daemon} {after : β → Daemon}
    (first : Post AnyFault m (fun a => Undisturbed d (now a)))
    (second : ∀ a, Post AnyFault (f a) (fun b => Undisturbed (now a) (after b))) :
    Post AnyFault (m >>= f) (fun b => Undisturbed d (after b)) := by
  rw [post_bind]
  exact first.mono fun a before => (second a).mono fun b => before.trans

/-- A step that returns only the daemon. -/
theorem next {m : Except Fault Daemon} {f : Daemon → Except Fault β} {after : β → Daemon} (first : Post AnyFault m (Undisturbed d))
    (second : ∀ d', Post AnyFault (f d') (fun b => Undisturbed d' (after b))) :
    Post AnyFault (m >>= f) (fun b => Undisturbed d (after b)) :=
  bind first second

/-- Something is read. -/
theorem reading {m : Except Fault α} {f : α → Except Fault β} {P : β → Prop} (next : ∀ a, Post AnyFault (f a) P) :
    Post AnyFault (m >>= f) P := by
  rw [post_bind]
  exact post_of_ok fun a _ => next a

/-- What comes after a first step. -/
theorem after {m : Except Fault α} {now : α → Daemon} (before : Undisturbed d d')
    (rest : Post AnyFault m (fun a => Undisturbed d' (now a))) : Post AnyFault m (fun a => Undisturbed d (now a)) :=
  rest.mono fun _ => before.trans

/-- Records other than nodes are edited first. -/
theorem edited {m : Except Fault α} {now : α → Daemon} (rest : Post AnyFault m (fun a => Undisturbed d' (now a)))
    (tree : d'.remoteNodes = d.remoteNodes) (nodes : d'.nodes = d.nodes) :
    Post AnyFault m (fun a => Undisturbed d (now a)) :=
  rest.mono fun _ => (of_eq tree nodes).trans

theorem foldlM {γ : Type} {f : Daemon → γ → Except Fault Daemon} (items : List γ)
    (step : ∀ d, ∀ x ∈ items, Post AnyFault (f d x) (Undisturbed d)) : Post AnyFault (items.foldlM f d) (Undisturbed d) :=
  post_foldlM (I := Undisturbed d) items (fun d' before x inside => before.after (step d' x inside)) d (.refl d)

end Undisturbed

open Undisturbed

/-! ### Stations and their entries -/

theorem undisturbed_usteerStaGet (addr : MacAddr) (create : Bool) :
    Post AnyFault (d.usteerStaGet addr create) (fun r => Undisturbed d r.2) := by
  refine reading fun found => ?_
  cases found with
  | some s => exact .refl d
  | none =>
    cases create with
    | false => exact .refl d
    | true => exact .of_eq rfl rfl

theorem undisturbed_usteerStaInfoGet (s : StaId) (n : NodeId) :
    Post AnyFault (d.usteerStaInfoGet s n) (fun r => Undisturbed d r.2.2) := by
  refine reading fun sta => reading fun found => ?_
  cases found with
  | some si => exact .refl d
  | none =>
    refine reading fun node => ?_
    have listed : Undisturbed d (d.modifyNode n fun node => { node with staInfo := d.infos.next :: node.staInfo }) :=
      .modifyNode fun _ => rfl
    exact listed.trans (.of_eq rfl rfl)

theorem undisturbed_usteerStaInfoDel : Post AnyFault (d.usteerStaInfoDel env cfg si) (Undisturbed d) := by
  refine reading fun info => reading fun _ => reading fun _ => reading fun sta => ?_
  have unlinked : Undisturbed d (d.modifyNode info.node fun node => { node with staInfo := node.staInfo.erase si }) :=
    .modifyNode fun _ => rfl
  refine (unlinked.trans (.of_eq ?_ ?_) :)
  · split
    · rfl
    · rfl
  · split
    · rfl
    · rfl

theorem undisturbed_updateTimeout (timeout : Int32) :
    Post AnyFault (d.usteerStaInfoUpdateTimeout env cfg si timeout) (Undisturbed d) := by
  refine reading fun info => ?_
  split
  · exact .of_eq rfl rfl
  · split
    · exact .of_eq rfl rfl
    · exact undisturbed_usteerStaInfoDel

theorem undisturbed_usteerStaInfoUpdate (signal : Int32) (avg : Bool) :
    Post AnyFault (d.usteerStaInfoUpdate env cfg si signal avg) (Undisturbed d) :=
  reading fun _ => edited (undisturbed_updateTimeout _) rfl rfl

theorem undisturbed_fetchEntry (addr : MacAddr) (mark : Sta → Sta) :
    Post AnyFault (fetchEntry d n addr mark) (fun r => Undisturbed d r.2.2) := by
  refine bind (undisturbed_usteerStaGet addr true) fun r => reading fun s => ?_
  exact edited (undisturbed_usteerStaInfoGet s n) rfl rfl

/-! ### Requests -/

theorem undisturbed_findBetterCandidate :
    Post AnyFault (d.findBetterCandidate cfg si) (fun r => Undisturbed d r.2) := by
  refine reading fun ref => reading fun heard => ?_
  cases heard with
  | none => exact reading fun sta => reading fun node => reading fun best => .refl d
  | some found =>
    obtain ⟨br, n⟩ := found
    exact reading fun owner => bind (undisturbed_usteerStaInfoGet owner.sta n) fun r => .refl _

theorem undisturbed_usteerCheckRequest (type : EventType) :
    Post AnyFault (d.usteerCheckRequest cfg si type) (fun r => Undisturbed d r.2) := by
  refine reading fun info => ?_
  split
  · exact .refl d
  · split
    · exact .refl d
    · refine reading fun node => ?_
      split
      · exact .refl d
      · split
        · exact .refl d
        · exact bind undisturbed_findBetterCandidate fun r => .refl _

theorem undisturbed_usteerUpdateSend (nodes : List ApmsgNode) : Undisturbed d (d.usteerUpdateSend cfg nodes) := by
  unfold usteerUpdateSend
  dsimp only
  split
  · exact .of_eq rfl rfl
  · exact .of_eq rfl rfl

theorem undisturbed_usteerSendStaUpdate : Post AnyFault (d.usteerSendStaUpdate cfg si) (Undisturbed d) :=
  reading fun _ => reading fun node => undisturbed_usteerUpdateSend [node]

theorem undisturbed_answerRequest (create : Bool) (type : EventType) :
    Post AnyFault (answerRequest cfg d si create type) (fun r => Undisturbed d r.2) := by
  refine reading fun _ => edited (bind (undisturbed_usteerCheckRequest type) fun r => ?_) rfl rfl
  cases create with
  | false => exact .of_eq rfl rfl
  | true =>
    exact edited (bind undisturbed_usteerSendStaUpdate fun d' => .refl d') rfl rfl

theorem undisturbed_usteerHandleStaEvent (addr : MacAddr) (type : EventType) (freq signal : Int32) :
    Post AnyFault (d.usteerHandleStaEvent env cfg n addr type freq signal) (fun r => Undisturbed d r.2) := by
  rw [usteerHandleStaEvent_eq]
  refine bind (undisturbed_fetchEntry addr (markBand freq)) fun r => ?_
  exact bind (undisturbed_usteerStaInfoUpdate signal false) fun d' => undisturbed_answerRequest r.2.1 type

/-! ### Client tables -/

theorem undisturbed_usteerBeaconRequestCheck : Post AnyFault (d.usteerBeaconRequestCheck env cfg si) (Undisturbed d) := by
  refine reading fun info => reading fun node => ?_
  dsimp only
  split
  · exact .refl d
  · refine reading fun next => ?_
    split
    · exact .of_eq rfl rfl
    · exact .of_eq rfl rfl

theorem undisturbed_nl80211UpdateSta (station : Option (Option Int8)) :
    Post AnyFault (d.nl80211UpdateSta env cfg n si station) (Undisturbed d) := by
  refine reading fun node => ?_
  split
  · exact undisturbed_usteerStaInfoUpdate _ true
  · exact .refl d

theorem undisturbed_confirmClient (nAssoc : Int32) (client : ClientEntry) :
    Post AnyFault (confirmClient env cfg d si nAssoc client) (fun r => Undisturbed d r.2) := by
  have marked : Post AnyFault (d.usteerLocalNodeAssocUpdate si client.assoc) (Undisturbed d) := by
    refine reading fun info => reading fun node => reading fun sta => ?_
    split
    · exact .of_eq rfl rfl
    · exact .of_eq rfl rfl
  refine bind marked fun d1 => reading fun info => ?_
  exact edited (bind undisturbed_usteerBeaconRequestCheck fun d' => .refl d') rfl rfl

theorem undisturbed_listClient (nAssoc : Int32) (client : ClientEntry) :
    Post AnyFault (listClient env cfg n (nAssoc, d) client) (fun r => Undisturbed d r.2) := by
  cases named : client.addr with
  | none =>
    unfold listClient
    simp only [named]
    exact .refl d
  | some addr =>
    rw [listClient_eq env cfg named]
    refine bind (undisturbed_fetchEntry addr id) fun r => ?_
    exact bind (undisturbed_nl80211UpdateSta client.station) fun d' => undisturbed_confirmClient nAssoc client

theorem undisturbed_usteerLocalNodeSetAssoc (clients : List ClientEntry) :
    Post AnyFault (d.usteerLocalNodeSetAssoc env cfg n clients) (Undisturbed d) := by
  refine reading fun node => next ?_ fun d1 => ?_
  · refine Undisturbed.foldlM node.staInfo fun d si _ => reading fun info => ?_
    split
    · exact .of_eq rfl rfl
    · exact .refl d
  · have listed : Post AnyFault (clients.foldlM (listClient env cfg n) (0, d1)) (fun r => Undisturbed d1 r.2) :=
      post_foldlM (I := fun r : Int32 × Daemon => Undisturbed d1 r.2) clients
        (fun r before client _ => before.after (undisturbed_listClient r.1 client)) _ (.refl d1)
    refine bind listed fun r => ?_
    have counted : Undisturbed r.2 (r.2.modifyNode n fun node => { node with nAssoc := r.1 }) := .modifyNode fun _ => rfl
    refine counted.after (reading fun node' => Undisturbed.foldlM node'.staInfo fun d si _ => reading fun info => ?_)
    split
    · exact .refl d
    · exact edited (next (undisturbed_updateTimeout _) fun d' => reading fun _ => .refl d') rfl rfl

theorem undisturbed_usteerLocalNodeListCb (msg : ClientsReply) :
    Post AnyFault (d.usteerLocalNodeListCb env cfg n msg) (Undisturbed d) := by
  unfold usteerLocalNodeListCb
  split
  · rename_i freq clients _ _
    exact (Undisturbed.modifyNode fun _ => rfl : Undisturbed d (d.modifyNode n fun node => { node with freq := freq })).after
      (undisturbed_usteerLocalNodeSetAssoc clients)
  · exact .refl d

/-! ### Beacon reports -/

theorem undisturbed_beaconReport (msg : BeaconReportMsg) :
    Post AnyFault (d.usteerHandleEventBeaconReport cfg n msg) (Undisturbed d) := by
  unfold usteerHandleEventBeaconReport
  split
  · refine reading fun addrSta => bind (undisturbed_usteerStaGet addrSta false) fun r => ?_
    obtain ⟨found, d1⟩ := r
    cases found with
    | none => exact .refl d1
    | some s =>
      refine reading fun known => ?_
      cases known with
      | none => exact .refl d1
      | some si =>
        refine reading fun addr => reading fun heard => ?_
        cases heard with
        | none => exact .refl d1
        | some m =>
          exact reading fun rcpi => reading fun rsni => reading fun opClass => reading fun channel => .of_eq rfl rfl
  · exact .refl d

/-! ### Policy ticks -/

theorem undisturbed_usteerRoamTriggerSm :
    Post AnyFault (d.usteerRoamTriggerSm cfg si) (fun r => Undisturbed d r.2) := by
  refine reading fun info => reading fun node => ?_
  dsimp only
  split
  · split
    · exact .refl d
    · refine bind undisturbed_findBetterCandidate fun r => ?_
      split
      · exact .of_eq rfl rfl
      · split
        · exact .of_eq rfl rfl
        · exact next (reading fun info => .of_eq rfl rfl) fun d' => .of_eq rfl rfl
  · refine bind undisturbed_findBetterCandidate fun r => ?_
    split
    · exact .of_eq rfl rfl
    · exact .of_eq rfl rfl
  · split
    · exact .of_eq rfl rfl
    · refine bind undisturbed_findBetterCandidate fun r => ?_
      split
      · exact .refl _
      · exact .of_eq rfl rfl
  · split
    · exact .refl d
    · exact .of_eq rfl rfl
  · split
    · exact .refl d
    · exact .of_eq rfl rfl
  · exact .of_eq rfl rfl

theorem undisturbed_roamVisits (minSignal : Int32) (list : List SiId) :
    ∀ {d : Daemon}, Post AnyFault (roamVisits cfg minSignal list d) (Undisturbed d) := by
  induction list with
  | nil => exact fun {d} => .refl d
  | cons si rest ih =>
    intro d
    refine reading fun info => reading fun node => reading fun eligible => ?_
    cases eligible with
    | true =>
      refine edited (bind undisturbed_usteerRoamTriggerSm fun r => ?_) rfl rfl
      obtain ⟨kicked, d1⟩ := r
      cases kicked with
      | true => exact .refl d1
      | false => exact ih
    | false => exact edited ih rfl rfl

theorem undisturbed_loadVictims (list : List SiId) :
    ∀ {kick1 kick2 candidate : Option SiId} {d : Daemon},
      Post AnyFault (loadVictims cfg list kick1 kick2 candidate d) (fun r => Undisturbed d r.2.2.2) := by
  induction list with
  | nil => exact fun {_ _ _ d} => .refl d
  | cons si rest ih =>
    intro kick1 kick2 candidate d
    refine reading fun info => ?_
    split
    · exact ih
    · refine reading fun active => ?_
      split
      · exact ih
      · refine reading fun more => bind undisturbed_findBetterCandidate fun r => ?_
        obtain ⟨tmp, d1⟩ := r
        cases tmp with
        | none => exact ih
        | some better =>
          refine reading fun more => ?_
          cases more with
          | true => exact ih
          | false => exact ih

theorem remoteOf_setLoadThrCount (node : UsteerNode) (count : Int32) :
    remoteOf (node.setLoadThrCount count) = remoteOf node := by
  unfold remoteOf UsteerNode.setLoadThrCount
  cases kind : node.kind with
  | loc ln => rfl
  | remote rn => simp [kind]

theorem undisturbed_loadKick : Post AnyFault (d.loadKick cfg n) (Undisturbed d) := by
  have counted : ∀ {d : Daemon} (count : Int32), Undisturbed d (d.modifyNode n fun node => node.setLoadThrCount count) :=
    fun count => .modifyNode fun node => remoteOf_setLoadThrCount node count
  unfold loadKick
  split
  · exact .refl d
  · refine reading fun node => ?_
    split
    · exact counted 0
    · refine reading fun count => (counted (count + 1)).after (reading fun limit => ?_)
      split
      · exact .refl _
      · refine (counted 0).after ?_
        split
        · exact .refl _
        · refine bind (undisturbed_loadVictims node.staInfo) fun r => ?_
          obtain ⟨kick1, kick2, candidate, d1⟩ := r
          cases kick1 with
          | none => exact .refl d1
          | some kick1 => exact .of_eq rfl rfl

theorem undisturbed_usteerLocalNodeKick : Post AnyFault (d.usteerLocalNodeKick cfg n) (Undisturbed d) := by
  refine next ?_ fun d1 => next ?_ fun d2 => undisturbed_loadKick
  · unfold usteerLocalNodeRoamCheck
    split
    · exact .refl d
    · exact reading fun node => edited (undisturbed_roamVisits _ node.staInfo) rfl rfl
  · unfold usteerLocalNodeSnrKick
    split
    · exact .refl _
    · refine reading fun node => reading fun victim => ?_
      cases victim with
      | none => exact .refl _
      | some si => exact .of_eq rfl rfl

/-! ### Everything but messages and updates -/

theorem undisturbed_deleteAll (list : List SiId) :
    Post AnyFault (list.foldlM (fun d si => d.usteerStaInfoDel env cfg si) d) (Undisturbed d) :=
  Undisturbed.foldlM list fun _ _ _ => undisturbed_usteerStaInfoDel

theorem undisturbed_usteerStaNodeCleanup : Post AnyFault (d.usteerStaNodeCleanup env cfg n) (Undisturbed d) := by
  refine reading fun node => ?_
  have forgotten : Undisturbed d (d.modifyNode n fun node => { node with rrmNr := none }) := .modifyNode fun _ => rfl
  exact forgotten.after (undisturbed_deleteAll node.staInfo)

theorem undisturbed_stationTimeouts : Post AnyFault (d.stationTimeouts env cfg) (Undisturbed d) := by
  unfold stationTimeouts
  split
  · trivial
  · rename_i fired last tq _
    exact edited (undisturbed_deleteAll fired.flatten) rfl rfl

theorem undisturbed_usteerFreeNode {node : UsteerNode} (live : d.nodes.get? n = some node) (isLocal : node.isLocal = true) :
    Post AnyFault (d.usteerFreeNode env cfg n) (Undisturbed d) := by
  have notRemote : remoteOf node = none := by
    unfold remoteOf
    unfold UsteerNode.isLocal at isLocal
    cases kind : node.kind with
    | loc ln => rfl
    | remote rn =>
      rw [kind] at isLocal
      cases isLocal
  unfold usteerFreeNode
  rw [post_bind]
  refine undisturbed_usteerStaNodeCleanup.mono fun d' same => ⟨same.tree, fun m => ?_⟩
  dsimp only
  rw [Heap.get?_free]
  split
  · rename_i here
    rw [here, live]
    exact notRemote.symm
  · exact same.nodes m

theorem undisturbed_usteerRegisterNode (name : CString) : Post AnyFault (d.usteerRegisterNode name) (Undisturbed d) := by
  unfold usteerRegisterNode
  split
  · exact .refl d
  · have looked : Post AnyFault (d.usteerGetNode name) (fun r => Undisturbed d r.2) := by
      refine reading fun found => ?_
      cases found with
      | some n => exact .refl d
      | none =>
        refine ⟨rfl, fun m => ?_⟩
        dsimp only
        rw [Heap.get?_alloc]
        split
        · rename_i fresh
          rw [fresh, Heap.get?_next]
          rfl
        · rfl
    exact bind looked fun r => .refl r.2

/-- Messages and updates. -/
def Input.OfPeers : Input → Prop
  | .message .. => True
  | .update => True
  | _ => False

theorem undisturbed_handle {input : Input} (sound : Sound none d) (accepts : d.Accepts input) (others : ¬ input.OfPeers) :
    Post AnyFault (d.handle env cfg input) (Undisturbed d) := by
  cases input with
  | advance ms => exact .of_eq rfl rfl
  | staEvent n addr type freq signal =>
    unfold handle
    rw [post_map]
    exact edited (undisturbed_usteerHandleStaEvent addr type freq signal) rfl rfl
  | beaconReport n msg => exact edited (undisturbed_beaconReport msg) rfl rfl
  | clients n msg => exact undisturbed_usteerLocalNodeListCb msg
  | message addr msg => exact absurd trivial others
  | tick n => exact undisturbed_usteerLocalNodeKick
  | timeouts => exact undisturbed_stationTimeouts
  | update => exact absurd trivial others
  | vendorUpdate => exact .of_eq rfl rfl
  | register name => exact undisturbed_usteerRegisterNode name
  | status n status =>
    refine .modifyNode fun node => ?_
    unfold remoteOf NodeStatus.apply
    cases node.kind with
    | loc ln => rfl
    | remote rn => rfl
  | remove n =>
    obtain ⟨node, live, isLocal⟩ := node_of_locals sound.registered accepts
    exact undisturbed_usteerFreeNode live isLocal

end Undisturbed

end Usteer
