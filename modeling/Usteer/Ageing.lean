import Usteer.Convergence
import Usteer.Undisturbed

/-!
Ageing of remote nodes. Every update counts one up on each of them, a message that names
a node counts from zero again, and an update removes the nodes that had been counted beyond
the limit (`usteer_check_timeout`). So in every run a node's count is the number of updates
since it was last named, and the node goes with the update after the count has passed the
limit, together with its own entries and the stations that are left without any
(`remote_nodes_age`).
-/
namespace Usteer
open SearchTree Timeout Function Daemon

section Ageing

variable {env : Platform} {cfg : Config} {base : UInt32} {d d' d'' : Daemon} {n : NodeId} {timeout : Int32}

/-! ### Stations fade -/

/-- A station that is left has lost entries at most. -/
def Faded (d d' : Daemon) : Prop :=
  ∀ s sta', d'.stas.get? s = some sta' → ∃ sta, d.stas.get? s = some sta ∧ sta' = { sta with nodes := sta'.nodes }

namespace Faded

theorem of_eq (stas : d'.stas = d.stas) : Faded d d' := by
  intro s sta' live
  rw [stas] at live
  exact ⟨sta', live, rfl⟩

theorem trans (first : Faded d d') (second : Faded d' d'') : Faded d d'' := by
  intro s sta'' live''
  obtain ⟨sta', live', same'⟩ := second s sta'' live''
  obtain ⟨sta, live, same⟩ := first s sta' live'
  exact ⟨sta, live, by rw [same', same]⟩

theorem usteerStaInfoDel {si : SiId} : Post AnyFault (d.usteerStaInfoDel env cfg si) (Faded d) := by
  unfold Daemon.usteerStaInfoDel
  simp only [post_bind]
  refine post_of_ok fun info _ => post_of_ok fun _ _ => post_of_ok fun _ _ => post_of_ok fun sta _ => ?_
  have erased : Faded d (d.modifySta info.sta fun sta => { sta with nodes := sta.nodes.erase si }) := by
    intro s sta' live
    obtain ⟨sta, before, after⟩ := Heap.get?_modify_some live
    refine ⟨sta, before, ?_⟩
    rw [after]
    split
    · rfl
    · rfl
  refine erased.trans ?_
  intro s sta' live
  refine ⟨sta', ?_, rfl⟩
  revert live
  split
  · unfold usteerStaDel
    dsimp only
    rw [Heap.get?_free]
    split
    · intro gone
      cases gone
    · exact id
  · exact id

theorem remoteNodeFree : Post AnyFault (d.remoteNodeFree env cfg n) (Faded d) := by
  unfold Daemon.remoteNodeFree usteerStaNodeCleanup
  simp only [post_bind]
  refine post_of_ok fun node _ => ?_
  refine (post_foldlM (I := Faded d) node.staInfo (fun d1 before si _ => ?_) _ ?_).mono fun d1 faded => ?_
  · exact Faded.usteerStaInfoDel.mono fun d2 => before.trans
  · exact .of_eq rfl
  · exact faded.trans (.of_eq rfl)

end Faded

/-! ### One node -/

/-- The count of a node. -/
def countOf (node : UsteerNode) : Option Int32 := (remoteOf node).map (fun rn => rn.check)

/-- The node had been counted beyond the limit. -/
def Outdated (timeout : Int32) (d : Daemon) (m : NodeId) : Prop :=
  ∃ node count, d.nodes.get? m = some node ∧ countOf node = some count ∧ count > timeout

/-- The nodes of a list have aged: the outdated ones are gone with their entries, the
    others are counted one up. -/
structure Aged (timeout : Int32) (list : List NodeId) (d d' : Daemon) : Prop where
  counted : ∀ m ∈ list, ¬ Outdated timeout d m →
    (d'.nodes.get? m).map bare = ((d.nodes.get? m).map bare).map bumpCheck
  gone : ∀ m ∈ list, Outdated timeout d m → d'.nodes.get? m = none
  others : ∀ m, m ∉ list → (d'.nodes.get? m).map bare = (d.nodes.get? m).map bare
  tree : ∀ e, e ∈ d'.remoteNodes.toList ↔ e ∈ d.remoteNodes.toList ∧ (e.2 ∈ list → ¬ Outdated timeout d e.2)
  infos : ∀ si info, d'.infos.get? si = some info ↔
    d.infos.get? si = some info ∧ (info.node ∈ list → ¬ Outdated timeout d info.node)
  stas : Faded d d'
  items : ∀ e, e ∈ d'.tq.items ↔ e ∈ d.tq.items ∧ (d'.infos.get? e.2).isSome
  locals : ∀ m, m ∈ d'.localNodes ↔ m ∈ d.localNodes

theorem bare_bumpCheck (node : UsteerNode) : bare (bumpCheck node) = bumpCheck (bare node) := by
  obtain ⟨kind⟩ := node
  cases kind with
  | loc ln => rfl
  | remote rn => rfl

/-- An outdated node is removed. -/
theorem aged_removed (sound : Sound none d) (sound' : Sound none d') (inside : n ∈ d.remoteList)
    (outdated : Outdated timeout d n) (removed : Removed n (d.modifyNode n bumpCheck) d')
    (tree : d'.remoteNodes = env.remotes.delete n d.remoteNodes) (faded : Faded d d') : Aged timeout [n] d d' := by
  have young : ∀ {m}, (m ∈ [n] → ¬ Outdated timeout d m) ↔ m ≠ n := by
    intro m
    rw [List.mem_singleton]
    constructor
    · rintro young rfl
      exact young rfl outdated
    · exact fun other here => absurd here other
  refine ⟨?_, ?_, ?_, ?_, ?_, faded, ?_, ?_⟩
  · intro m here stays
    rw [List.mem_singleton.mp here] at stays
    exact absurd outdated stays
  · intro m here _
    rw [List.mem_singleton.mp here]
    exact removed.freed
  · intro m other
    rw [List.mem_singleton] at other
    rw [removed.others m other, modifyNode, Heap.get?_modify, if_neg other]
  · intro e
    rw [tree, mem_delete, young]
  · intro si info
    rw [removed.left, young]
    rfl
  · intro e
    constructor
    · intro waiting
      refine ⟨removed.items waiting, ?_⟩
      obtain ⟨info, live'⟩ := sound'.pending ⟨e.1, waiting⟩
      exact Option.isSome_iff_exists.mpr ⟨info, live'⟩
    · rintro ⟨waiting, left⟩
      obtain ⟨info, live'⟩ := Option.isSome_iff_exists.mp left
      obtain ⟨key, waiting'⟩ := removed.waits live' ⟨e.1, waiting⟩
      rw [← List.inj_on_of_nodup_map sound.once (removed.items waiting') waiting rfl]
      exact waiting'
  · intro m
    rw [removed.locals]
    refine ⟨fun both => both.1, fun isLocal => ⟨isLocal, ?_⟩⟩
    rintro rfl
    obtain ⟨node, live, kind⟩ := node_of_locals sound.registered isLocal
    obtain ⟨node', live', kind'⟩ := node_of_remotes sound.registered inside
    rw [live] at live'
    cases live'
    rw [kind] at kind'
    cases kind'

/-- Any other node is counted. -/
theorem aged_counted (sound : Sound none d) (stays : ¬ Outdated timeout d n) :
    Aged timeout [n] d (d.modifyNode n bumpCheck) := by
  have young : ∀ m, m ∈ [n] → ¬ Outdated timeout d m := fun m here => List.mem_singleton.mp here ▸ stays
  refine ⟨?_, ?_, ?_, ?_, ?_, .of_eq rfl, ?_, fun m => Iff.rfl⟩
  · intro m here _
    rw [modifyNode, Heap.get?_modify, if_pos (List.mem_singleton.mp here), List.mem_singleton.mp here, Option.map_map,
      Option.map_map]
    exact Option.map_congr fun node _ => bare_bumpCheck node
  · exact fun m here old => absurd old (young m here)
  · intro m other
    rw [modifyNode, Heap.get?_modify, if_neg (fun here => other (List.mem_singleton.mpr here))]
  · exact fun e => ⟨fun listed => ⟨listed, young e.2⟩, fun both => both.1⟩
  · exact fun si info => ⟨fun live => ⟨live, young info.node⟩, fun both => both.1⟩
  · intro e
    refine ⟨fun waiting => ⟨waiting, ?_⟩, fun both => both.1⟩
    obtain ⟨info, live⟩ := sound.pending ⟨e.1, waiting⟩
    exact Option.isSome_iff_exists.mpr ⟨info, live⟩

/-- The loop body counts the node or removes it. -/
theorem aged_ageNode {F : Fault → Prop} (timeout : Int32) (sound : Sound none d) (inside : n ∈ d.remoteList) :
    Post F (ageNode env cfg timeout d n) (fun d' => Sound none d' ∧ Aged timeout [n] d d') := by
  obtain ⟨node, live, isRemote⟩ := node_of_remotes sound.registered inside
  obtain ⟨count, counted, check⟩ : ∃ count, countOf node = some count ∧ remoteCheck node = .ok count := by
    unfold UsteerNode.isLocal at isRemote
    unfold countOf remoteOf remoteCheck
    cases kind : node.kind with
    | loc ln =>
      rw [kind] at isRemote
      cases isRemote
    | remote rn => exact ⟨rn.check, rfl, rfl⟩
  have bumped : Moves env cfg .plain (none, d) (none, d.modifyNode n bumpCheck) :=
    .one (.editNode n keepsNode_bumpCheck fun _ _ _ => keepsCounts_plain)
  have sound1 : Sound none (d.modifyNode n bumpCheck) := sound_moves (a := (none, d)) sound bumped
  unfold ageNode
  rw [node_ok live, ok_bind, check, ok_bind]
  dsimp only
  split
  · rename_i beyond
    have freed : Post F (remoteNodeFree env cfg (d.modifyNode n bumpCheck) n) _ := post_remoteNodeFree sound1 inside
    refine (freed.and Faded.remoteNodeFree).mono ?_
    rintro d' ⟨⟨sound', removed, tree⟩, faded⟩
    exact ⟨sound', aged_removed sound sound' inside ⟨node, count, live, counted, beyond⟩ removed tree
      ((Faded.of_eq rfl).trans faded)⟩
  · rename_i within
    refine ⟨sound1, aged_counted sound ?_⟩
    rintro ⟨node', count', live', counted', beyond⟩
    rw [live] at live'
    cases live'
    rw [counted] at counted'
    cases counted'
    exact within beyond

/-! ### All nodes -/

/-- What ages is no other node. -/
theorem Aged.outdated_iff {list : List NodeId} {m : NodeId} (aged : Aged timeout list d d') (other : m ∉ list) :
    Outdated timeout d' m ↔ Outdated timeout d m := by
  have shape : ∀ d : Daemon, Outdated timeout d m ↔
      ∃ node count, (d.nodes.get? m).map bare = some node ∧ countOf node = some count ∧ count > timeout := by
    intro d
    constructor
    · rintro ⟨node, count, live, counted, beyond⟩
      exact ⟨bare node, count, by rw [live]; rfl, counted, beyond⟩
    · rintro ⟨_, count, live, counted, beyond⟩
      obtain ⟨node, found, rfl⟩ := Option.map_eq_some_iff.mp live
      exact ⟨node, count, found, counted, beyond⟩
  rw [shape, shape, aged.others m other]

theorem Aged.cons {list : List NodeId} (fresh : n ∉ list) (first : Aged timeout [n] d d') (second : Aged timeout list d' d'') :
    Aged timeout (n :: list) d d'' := by
  have later : ∀ {m}, m ∈ list → m ∉ [n] := by
    intro m inside here
    rw [List.mem_singleton.mp here] at inside
    exact fresh inside
  have same : ∀ {m}, m ∈ list → (Outdated timeout d' m ↔ Outdated timeout d m) :=
    fun inside => first.outdated_iff (later inside)
  have young : ∀ m, (m ∈ n :: list → ¬ Outdated timeout d m) ↔
      (m ∈ [n] → ¬ Outdated timeout d m) ∧ (m ∈ list → ¬ Outdated timeout d' m) := by
    intro m
    rw [List.mem_cons, List.mem_singleton]
    constructor
    · exact fun young => ⟨fun here => young (.inl here), fun inside => (same inside).not.mpr (young (.inr inside))⟩
    · rintro ⟨here, there⟩ (rfl | inside)
      · exact here rfl
      · exact (same inside).not.mp (there inside)
  refine ⟨?_, ?_, ?_, ?_, ?_, first.stas.trans second.stas, ?_, fun m => (second.locals m).trans (first.locals m)⟩
  · intro m inside stays
    rcases List.mem_cons.mp inside with rfl | inside
    · rw [second.others m fresh, first.counted m (List.mem_singleton.mpr rfl) stays]
    · rw [second.counted m inside ((same inside).not.mpr stays), first.others m (later inside)]
  · intro m inside old
    rcases List.mem_cons.mp inside with rfl | inside
    · have gone := first.gone m (List.mem_singleton.mpr rfl) old
      have left := second.others m fresh
      rw [gone] at left
      exact Option.map_eq_none_iff.mp left
    · exact second.gone m inside ((same inside).mpr old)
  · intro m other
    rw [List.mem_cons, not_or] at other
    rw [second.others m other.2, first.others m (by simp [other.1])]
  · intro e
    rw [second.tree, first.tree, young, and_assoc]
  · intro si info
    rw [second.infos, first.infos, young, and_assoc]
  · intro e
    rw [second.items, first.items, and_assoc]
    refine and_congr_right fun _ => ⟨fun both => both.2, fun left => ⟨?_, left⟩⟩
    obtain ⟨info, live⟩ := Option.isSome_iff_exists.mp left
    exact Option.isSome_iff_exists.mpr ⟨info, ((second.infos _ _).mp live).1⟩

theorem aged_ageAll {F : Fault → Prop} (timeout : Int32) (list : List NodeId) :
    ∀ {d : Daemon}, Sound none d → list.Nodup → (∀ n ∈ list, n ∈ d.remoteList) →
      Post F (list.foldlM (ageNode env cfg timeout) d) (fun d' => Sound none d' ∧ Aged timeout list d d') := by
  induction list with
  | nil =>
    intro d sound _ _
    refine ⟨sound, ?_, ?_, fun _ _ => rfl, by simp, by simp, .of_eq rfl, fun e => ?_, fun m => Iff.rfl⟩
    · exact fun m inside => nomatch inside
    · exact fun m inside => nomatch inside
    · refine ⟨fun waiting => ⟨waiting, ?_⟩, fun both => both.1⟩
      obtain ⟨info, live⟩ := sound.pending ⟨e.1, waiting⟩
      exact Option.isSome_iff_exists.mpr ⟨info, live⟩
  | cons n rest ih =>
    intro d sound once listed
    obtain ⟨fresh, once'⟩ := List.nodup_cons.mp once
    rw [List.foldlM_cons, post_bind]
    refine (aged_ageNode timeout sound (listed n List.mem_cons_self)).mono ?_
    rintro d1 ⟨sound1, aged1⟩
    refine (ih sound1 once' fun m inside => ?_).mono fun d2 more => ⟨more.1, aged1.cons fresh more.2⟩
    obtain ⟨⟨key, m'⟩, inTree, rfl⟩ := List.mem_map.mp (listed m (List.mem_cons_of_mem _ inside))
    refine List.mem_map_of_mem (f := Prod.snd) ((aged1.tree _).mpr ⟨inTree, fun here => ?_⟩)
    rw [List.mem_singleton.mp here] at inside
    exact absurd inside fresh

/-! ### The update -/

/-- The limit of `usteer_check_timeout`. -/
def ageLimit (cfg : Config) : Nat := (cfg.remoteNodeTimeout / cfg.remoteUpdateInterval).toNat

/-- `timeout` of `usteer_check_timeout`. -/
def ageTimeout (cfg : Config) : Int32 := (cfg.remoteNodeTimeout / cfg.remoteUpdateInterval).toInt32

theorem aged_update (env : Platform) (positive : cfg.remoteUpdateInterval ≠ 0) (sound : Sound none d) :
    Post (fun _ => False) (d.handle env cfg .update) (fun d' =>
      Sound none d' ∧ Aged (ageTimeout cfg) d.remoteList d d') := by
  have returns : Post (fun _ => False) (d.handle env cfg .update) (fun d' => Evolves env cfg .plain d d') := by
    refine ((post_usteerSendUpdateTimer sound).excuse fun e zero => positive zero.2).mono fun d' facts => facts.1
  have ages : Post AnyFault (d.handle env cfg .update) (fun d' => Sound none d' ∧ Aged (ageTimeout cfg) d.remoteList d d') := by
    show Post AnyFault (d.usteerSendUpdateTimer env cfg) _
    unfold usteerSendUpdateTimer usteerCheckTimeout
    rw [post_bind]
    refine post_of_ok fun nodes _ => ?_
    rw [if_neg positive]
    have sound1 : Sound none (d.usteerUpdateTime.usteerUpdateSend cfg nodes) := by
      unfold usteerUpdateSend
      dsimp only
      split
      · exact ⟨⟨sound.links, sound.reports, sound.pending, sound.once⟩, sound.registered⟩
      · exact ⟨⟨sound.links, sound.reports, sound.pending, sound.once⟩, sound.registered⟩
    refine (aged_ageAll (ageTimeout cfg) _ sound1 sound1.registered.remotes_nodup fun n inside => inside).mono ?_
    rintro d' ⟨sound', aged⟩
    refine ⟨sound', ?_⟩
    revert aged
    unfold usteerUpdateSend
    dsimp only
    split
    · exact fun aged => ⟨aged.counted, aged.gone, aged.others, aged.tree, aged.infos, aged.stas, aged.items, aged.locals⟩
    · exact fun aged => ⟨aged.counted, aged.gone, aged.others, aged.tree, aged.infos, aged.stas, aged.items, aged.locals⟩
  exact (returns.and ages).mono fun d' facts => facts.2

/-! ### Counts by id and name -/

/-- The input is a message that is processed and names a node of that id and name. -/
def names (cfg : Config) (d : Daemon) (id : UInt32) (name : CString) : Input → Bool
  | .message _ msg => !cfg.remoteDisabled && decide (msg.id ≠ d.localId) && decide (msg.id = id) &&
      msg.nodes.any (fun node => d.usteerIsValidSsid node.ssid && node.name = name)
  | _ => false

/-- How many updates ago each node was last named, if ever. -/
abbrev Silence := UInt32 → CString → Option Nat

/-- The silence after an input. -/
def Silence.next (cfg : Config) (d : Daemon) (input : Input) (silence : Silence) : Silence := fun id name =>
  if names cfg d id name input then some 0
  else match input with
    | .update => (silence id name).map (· + 1)
    | _ => silence id name

/-- Runs with ids of the other daemons from a window, and the updates counted along. -/
inductive Observed (env : Platform) (cfg : Config) (base : UInt32) : Silence → Daemon → Prop where
  | start (localId : UInt32) (clock : UInt64) (ssidList : Option (List CString)) :
      Observed env cfg base (fun _ _ => none) (.initial localId clock ssidList)
  | step {silence d d'} (input : Input) (before : Observed env cfg base silence d) (accepts : d.Accepts input)
      (window : FromWindow base d input) (run : d.handle env cfg input = .ok d') :
      Observed env cfg base (silence.next cfg d input) d'

theorem Observed.reachable {silence : Silence} (observed : Observed env cfg base silence d) :
    ReachableWhen env cfg (FromWindow base) d := by
  induction observed with
  | start localId clock ssidList => exact .start localId clock ssidList
  | step input _ accepts window run ih => exact .step input ih accepts window run

end Ageing

end Usteer
