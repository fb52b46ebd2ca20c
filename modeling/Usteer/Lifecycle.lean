import Usteer.Handlers

/-!
Everything that deletes or registers: expiry of entries, removal of local nodes,
ageing of remote ones, and the creation of nodes. A deletion leaves a part of what
was there, unchanged (`Pruned`), and keeps the references in order; a node goes only
after all its entries have gone (`post_usteerStaNodeCleanup`). Moves, deletions and
new nodes together are all that ever changes a daemon (`Evolves`).
-/
namespace Usteer
open SearchTree Timeout Function Daemon

variable {env : Platform} {cfg : Config} {d : Daemon}

/-- A node without its list of entries. -/
def bare (node : UsteerNode) : UsteerNode := { node with staInfo := [] }

/-- What is left is as it was. -/
structure Pruned (d d' : Daemon) : Prop where
  infos : ∀ {si info}, d'.infos.get? si = some info → d.infos.get? si = some info
  next : d'.infos.next = d.infos.next
  ids : d'.nodes.next = d.nodes.next
  items : ∀ {e}, e ∈ d'.tq.items → e ∈ d.tq.items
  waits : ∀ {si info}, d'.infos.get? si = some info → d.Pending si → d'.Pending si
  stas : ∀ {s sta'}, d'.stas.get? s = some sta' → ∃ sta, d.stas.get? s = some sta ∧ sta'.addr = sta.addr
  nodes : ∀ n, (d'.nodes.get? n).map bare = (d.nodes.get? n).map bare
  rest : d' = { d with stations := d'.stations, stas := d'.stas, infos := d'.infos, nodes := d'.nodes, tq := d'.tq }

namespace Pruned

variable {d' d'' : Daemon}

theorem refl (d : Daemon) : Pruned d d :=
  ⟨fun live => live, rfl, rfl, fun inside => inside, fun _ waits => waits, fun live => ⟨_, live, rfl⟩, fun _ => rfl, rfl⟩

theorem trans (first : Pruned d d') (second : Pruned d' d'') : Pruned d d'' where
  infos live := first.infos (second.infos live)
  next := second.next.trans first.next
  ids := second.ids.trans first.ids
  items inside := first.items (second.items inside)
  waits live waiting := second.waits live (first.waits (second.infos live) waiting)
  stas live := by
    obtain ⟨sta1, live1, addr1⟩ := second.stas live
    obtain ⟨sta, before, addr⟩ := first.stas live1
    exact ⟨sta, before, addr1.trans addr⟩
  nodes n := (second.nodes n).trans (first.nodes n)
  rest := by
    rw [second.rest, first.rest]

theorem localNodes (pruned : Pruned d d') : d'.localNodes = d.localNodes := by rw [pruned.rest]

theorem remoteNodes (pruned : Pruned d d') : d'.remoteNodes = d.remoteNodes := by rw [pruned.rest]

theorem kinds (pruned : Pruned d d') (n : NodeId) :
    (d'.table.node n).map Prod.fst = (d.table.node n).map Prod.fst := by
  have shape : ∀ d : Daemon, (d.table.node n).map Prod.fst = ((d.nodes.get? n).map bare).map UsteerNode.isLocal := by
    intro d
    simp only [table, Option.map_map]
    rfl
  rw [shape, shape, pruned.nodes]

theorem registered (pruned : Pruned d d') (registered : Registered d.table) : Registered d'.table where
  locals_nodup := by show d'.localNodes.Nodup; rw [pruned.localNodes]; exact registered.locals_nodup
  remotes_nodup := by
    show d'.remoteList.Nodup
    unfold remoteList
    rw [pruned.remoteNodes]
    exact registered.remotes_nodup
  inLocals n := by rw [pruned.kinds]; show n ∈ d'.localNodes ↔ _; rw [pruned.localNodes]; exact registered.inLocals n
  inRemotes n := by
    rw [pruned.kinds]
    show n ∈ d'.remoteList ↔ _
    unfold remoteList
    rw [pruned.remoteNodes]
    exact registered.inRemotes n

end Pruned

/-- The stations that a removed entry leaves keep their addresses. -/
theorem sta_of_removeEntry {t : Table} {si : SiId} {s s' : StaId} {n : NodeId} {a : MacAddr} {list : List SiId}
    (left : (t.removeEntry si s n).sta s' = some (a, list)) : ∃ list', t.sta s' = some (a, list') := by
  have unlinked : ∀ {list}, (t.unlink si s n).sta s' = some (a, list) → ∃ list', t.sta s' = some (a, list') := by
    intro list found
    simp only [Table.unlink, update_apply] at found
    split at found
    · rename_i same
      subst same
      obtain ⟨⟨a', list'⟩, before, shape⟩ := Option.map_eq_some_iff.mp found
      cases shape
      exact ⟨list', before⟩
    · exact ⟨list, found⟩
  unfold Table.removeEntry at left
  split at left
  · simp only [Table.removeSta, update_apply] at left
    split at left
    · cases left
    · exact unlinked left
  · exact unlinked left

theorem pruned_deleted {si : SiId} {info : StaInfo} {d' : Daemon} (deleted : Deleted env si info d d') :
    Pruned d d' where
  infos := by
    intro j info' live'
    rw [deleted.infos] at live'
    split at live'
    · cases live'
    · exact live'
  next := deleted.next
  ids := deleted.ids
  items := by
    intro e inside
    rw [deleted.tq, Queue.mem_cancel] at inside
    exact inside.1
  waits := by
    rintro j info' live' ⟨key, inside⟩
    rw [deleted.infos] at live'
    split at live'
    · cases live'
    · rename_i other
      exact ⟨key, by rw [deleted.tq, Queue.mem_cancel]; exact ⟨inside, other⟩⟩
  stas := by
    intro s sta' after
    have left : d'.table.sta s = some (sta'.addr, sta'.nodes) := by simp [table, after]
    rw [deleted.table] at left
    obtain ⟨list, before⟩ := sta_of_removeEntry left
    obtain ⟨sta, live, shape⟩ := Option.map_eq_some_iff.mp before
    exact ⟨sta, live, (congrArg Prod.fst shape).symm⟩
  nodes := by
    intro n
    cases after : d'.nodes.get? n with
    | some node' =>
      obtain ⟨node, before, shape⟩ := deleted.nodes n node' after
      rw [before]
      simp only [Option.map_some, Option.some.injEq]
      rw [shape]
      rfl
    | none =>
      cases before : d.nodes.get? n with
      | none => rfl
      | some node =>
        have gone : d'.table.node n = none := by simp [table, after]
        rw [deleted.table, Table.removeEntry] at gone
        have kept : (d.table.unlink si info.sta info.node).node n ≠ none := by
          simp only [Table.unlink, update_apply]
          split
          · rename_i same
            subst same
            simp [table, before]
          · simp [table, before]
        split at gone
        · exact absurd gone kept
        · exact absurd gone kept
  rest := deleted.rest

/-! ### Deletion of many entries -/

theorem post_usteerStaInfoDel {F : Fault → Prop} {si : SiId} {info : StaInfo} (intact : Intact none d)
    (live : d.infos.get? si = some info) :
    Post F (d.usteerStaInfoDel env cfg si) (fun d' => Intact none d' ∧ Pruned d d' ∧ Deleted env si info d d') :=
  (staInfoDel_spec intact.links live).mono fun _ deleted =>
    ⟨intact_deleted intact live deleted, pruned_deleted deleted, deleted⟩

/-- The deletion of distinct live entries, one after the other. -/
theorem post_deleteAll {F : Fault → Prop} (list : List SiId) :
    ∀ {d : Daemon}, Intact none d → list.Nodup → (∀ si ∈ list, ∃ info, d.infos.get? si = some info) →
      Post F (list.foldlM (fun d si => d.usteerStaInfoDel env cfg si) d) (fun d' =>
        Intact none d' ∧ Pruned d d' ∧ (∀ si ∈ list, d'.infos.get? si = none) ∧
        (∀ si info, si ∉ list → d.infos.get? si = some info → d'.infos.get? si = some info)) := by
  induction list with
  | nil => intro d intact _ _; exact ⟨intact, Pruned.refl d, by simp, fun _ _ _ live => live⟩
  | cons si rest ih =>
    intro d intact once live
    obtain ⟨fresh, once'⟩ := List.nodup_cons.mp once
    obtain ⟨info, liveInfo⟩ := live si List.mem_cons_self
    rw [List.foldlM_cons, post_bind]
    refine (post_usteerStaInfoDel intact liveInfo).mono ?_
    rintro d1 ⟨intact1, pruned1, deleted⟩
    have live1 : ∀ si' ∈ rest, ∃ info', d1.infos.get? si' = some info' := by
      intro si' inside
      obtain ⟨info', live'⟩ := live si' (List.mem_cons_of_mem _ inside)
      have ne : si' ≠ si := by rintro rfl; exact fresh inside
      exact ⟨info', by rw [deleted.infos, if_neg ne]; exact live'⟩
    refine (ih intact1 once' live1).mono ?_
    rintro d2 ⟨intact2, pruned2, gone, stays⟩
    refine ⟨intact2, pruned1.trans pruned2, ?_, ?_⟩
    · intro si' inside
      rcases List.mem_cons.mp inside with rfl | inside
      · cases after : d2.infos.get? si' with
        | none => rfl
        | some info' =>
          have before := pruned2.infos after
          rw [deleted.infos, if_pos rfl] at before
          cases before
      · exact gone si' inside
    · intro si' info' outside live'
      rw [List.mem_cons, not_or] at outside
      exact stays si' info' outside.2 (by rw [deleted.infos, if_neg outside.1]; exact live')

/-- After `usteer_sta_node_cleanup` the node has no entries, and nothing else has gone. -/
theorem post_usteerStaNodeCleanup {F : Fault → Prop} {n : NodeId} {node : UsteerNode} (intact : Intact none d)
    (live : d.nodes.get? n = some node) :
    Post F (d.usteerStaNodeCleanup env cfg n) (fun d' =>
      Intact none d' ∧ (∀ si info, d'.infos.get? si = some info ↔ d.infos.get? si = some info ∧ info.node ≠ n) ∧
      Pruned (d.modifyNode n (fun node => { node with rrmNr := none })) d' ∧
      d'.table.node n = some (node.isLocal, [])) := by
  have forget : (d.modifyNode n (fun node => { node with rrmNr := none })).table = d.table :=
    table_modifyNode fun node => ⟨rfl, rfl⟩
  have intact0 : Intact none (d.modifyNode n (fun node => { node with rrmNr := none })) :=
    ⟨by rw [forget]; exact intact.links, intact.reports, intact.pending, intact.once⟩
  have listed : ∀ si ∈ node.staInfo, ∃ info, d.infos.get? si = some info := by
    intro si inside
    obtain ⟨info, liveInfo, _⟩ := info_of_node intact.links live inside
    exact ⟨info, liveInfo⟩
  have once : node.staInfo.Nodup := intact.links.byNode.nodup (k := n) (by simp [table, live])
  unfold usteerStaNodeCleanup
  rw [node_ok live, ok_bind]
  refine (post_deleteAll node.staInfo intact0 once listed).mono ?_
  rintro d' ⟨intact', pruned, gone, stays⟩
  have left : ∀ si info, d'.infos.get? si = some info ↔ d.infos.get? si = some info ∧ info.node ≠ n := by
    intro si info
    constructor
    · intro live'
      have before : d.infos.get? si = some info := pruned.infos live'
      refine ⟨before, ?_⟩
      rintro rfl
      obtain ⟨node', liveNode, inside⟩ := node_of_info intact.links before
      rw [live] at liveNode
      cases liveNode
      rw [gone si inside] at live'
      cases live'
    · rintro ⟨before, other⟩
      refine stays si info (fun inside => other ?_) before
      obtain ⟨info', liveInfo, same⟩ := info_of_node intact.links live inside
      rw [before] at liveInfo
      cases liveInfo
      exact same
  refine ⟨intact', left, pruned, ?_⟩
  have kind := pruned.kinds n
  rw [forget] at kind
  simp only [table, live, Option.map_some] at kind
  obtain ⟨⟨b, list⟩, found, same⟩ := Option.map_eq_some_iff.mp kind
  have same' : b = node.isLocal := same
  have empty : list = [] := by
    refine List.eq_nil_iff_forall_not_mem.mpr fun si inside => ?_
    obtain ⟨s, entry⟩ := intact'.links.ofNode (n := n) found inside
    obtain ⟨info, live', _, node'⟩ := info_of_entry entry
    exact ((left si info).mp live').2 node'
  rw [← same', ← empty]
  exact found

/-! ### Expiry -/

/-- What a deletion of any kind leaves of entries, timers and nodes. -/
structure Shrunk (d d' : Daemon) : Prop where
  infos : ∀ {si info}, d'.infos.get? si = some info → d.infos.get? si = some info
  next : d'.infos.next = d.infos.next
  ids : d'.nodes.next = d.nodes.next
  items : ∀ {e}, e ∈ d'.tq.items → e ∈ d.tq.items
  waits : ∀ {si info}, d'.infos.get? si = some info → d.Pending si → d'.Pending si
  stas : ∀ {s sta'}, d'.stas.get? s = some sta' → ∃ sta, d.stas.get? s = some sta ∧ sta'.addr = sta.addr
  records : ∀ {n node'}, d'.nodes.get? n = some node' → ∃ node, d.nodes.get? n = some node ∧ bare node' = bare node
  clock : d'.clock = d.clock
  currentTime : d'.currentTime = d.currentTime
  trace : d'.trace = d.trace
  localId : d'.localId = d.localId
  ssidList : d'.ssidList = d.ssidList
  localNodes : ∀ {m}, m ∈ d'.localNodes → m ∈ d.localNodes

theorem bare_identity {node node' : UsteerNode} (same : bare node' = bare node) : nodeIdentity node' = nodeIdentity node := by
  have unfolded : ∀ node, nodeIdentity node = nodeIdentity (bare node) := fun _ => rfl
  rw [unfolded, same, ← unfolded]

theorem Shrunk.nodes {d' : Daemon} (shrunk : Shrunk d d') {n : NodeId} {node' : UsteerNode}
    (live' : d'.nodes.get? n = some node') :
    ∃ node, d.nodes.get? n = some node ∧ nodeIdentity node' = nodeIdentity node := by
  obtain ⟨node, live, same⟩ := shrunk.records live'
  exact ⟨node, live, bare_identity same⟩

theorem Pruned.shrunk {d' : Daemon} (pruned : Pruned d d') : Shrunk d d' where
  infos := pruned.infos
  next := pruned.next
  ids := pruned.ids
  items := pruned.items
  waits := pruned.waits
  stas := pruned.stas
  records := by
    intro n node' live
    have same := pruned.nodes n
    rw [live] at same
    obtain ⟨node, before, bare⟩ := Option.map_eq_some_iff.mp same.symm
    exact ⟨node, before, bare.symm⟩
  clock := by rw [pruned.rest]
  currentTime := by rw [pruned.rest]
  trace := by rw [pruned.rest]
  localId := by rw [pruned.rest]
  ssidList := by rw [pruned.rest]
  localNodes inside := by rw [pruned.rest] at inside; exact inside

/-- The queue's callback deletes the entries that were due, and nothing else. -/
theorem post_stationTimeouts {F : Fault → Prop} (intact : Intact none d) :
    Post F (d.stationTimeouts env cfg) (fun d' => Intact none d' ∧ Pruned d d' ∧
      ∀ si info, d.infos.get? si = some info → d'.infos.get? si = none →
        ∃ key, (key, si) ∈ d.tq.items ∧ ¬ usteerTimeoutDelta key (ampgrTimeoutCurrentTime d.clock.toNat) > 0) := by
  obtain ⟨fired, q1, run, fires⟩ := Queue.fires_passes env.timeouts d.clock.toNat (d.tq.items.length + 1) 0
    { d.tq with timer := none } intact.once (Nat.lt_succ_self _)
  have cb : d.tq.usteerTimeoutCb env.timeouts (fun _ => d.clock.toNat) (d.tq.items.length + 1) =
      some (fired, d.clock.toNat, q1.usteerTimeoutRecalc d.clock.toNat) := by
    rw [Queue.usteerTimeoutCb, run]
    rfl
  generalize hd0 : { d with tq := q1.usteerTimeoutRecalc d.clock.toNat } = d0
  have infos0 : d0.infos = d.infos := by rw [← hd0]
  have items0 : d0.tq.items = d.tq.items.filter (fun e => e.2 ∉ fired.flatten) := by
    rw [← hd0]
    show (q1.usteerTimeoutRecalc d.clock.toNat).items = _
    rw [Queue.items_recalc]
    exact fires.items
  have intact0 : Intact none d0 := by
    refine ⟨by rw [← hd0]; exact intact.links, by rw [infos0]; exact intact.reports, ?_, ?_⟩
    · rintro si ⟨key, inside⟩
      rw [items0] at inside
      rw [infos0]
      exact intact.pending ⟨key, (List.mem_filter.mp inside).1⟩
    · rw [items0]
      exact intact.once.sublist (List.filter_sublist.map Prod.snd)
  have live0 : ∀ si ∈ fired.flatten, ∃ info, d0.infos.get? si = some info := by
    intro si inside
    obtain ⟨key, listed, _⟩ := fires.due si inside
    rw [infos0]
    exact intact.pending ⟨key, listed⟩
  unfold stationTimeouts
  rw [cb]
  dsimp only
  rw [hd0]
  refine (post_deleteAll fired.flatten intact0 fires.once live0).mono ?_
  rintro d' ⟨intact', pruned, gone, stays⟩
  refine ⟨intact', ?_, ?_⟩
  · refine ⟨?_, ?_, ?_, ?_, ?_, ?_, ?_, ?_⟩
    · intro si info live
      rw [← infos0]
      exact pruned.infos live
    · rw [pruned.next, infos0]
    · rw [pruned.ids, ← hd0]
    · intro e inside
      have before := pruned.items inside
      rw [items0] at before
      exact (List.mem_filter.mp before).1
    · rintro si info live ⟨key, inside⟩
      refine pruned.waits live ⟨key, ?_⟩
      rw [items0, List.mem_filter]
      refine ⟨inside, ?_⟩
      simp only [decide_eq_true_eq]
      intro hit
      rw [gone si hit] at live
      cases live
    · intro s sta' live
      obtain ⟨sta, before, addr⟩ := pruned.stas live
      rw [← hd0] at before
      exact ⟨sta, before, addr⟩
    · intro n
      rw [pruned.nodes, ← hd0]
    · rw [pruned.rest, ← hd0]
  · intro si info live dead
    by_cases hit : si ∈ fired.flatten
    · exact fires.due si hit
    · rw [← infos0] at live
      rw [stays si info hit live] at dead
      cases dead

/-! ### Nodes go -/

/-- A node leaves the heap and the indexes. -/
theorem registered_remove {t t' : Table} {n : NodeId} (registered : Registered t)
    (kinds : ∀ m, (t'.node m).map Prod.fst = if m = n then none else (t.node m).map Prod.fst)
    (locals_nodup : t'.locals.Nodup) (remotes_nodup : t'.remotes.Nodup)
    (locals : ∀ m, m ∈ t'.locals ↔ m ∈ t.locals ∧ m ≠ n) (remotes : ∀ m, m ∈ t'.remotes ↔ m ∈ t.remotes ∧ m ≠ n) :
    Registered t' where
  locals_nodup := locals_nodup
  remotes_nodup := remotes_nodup
  inLocals m := by
    rw [locals, kinds]
    split
    · rename_i same
      simp [same]
    · rename_i other
      simp [other, registered.inLocals m]
  inRemotes m := by
    rw [remotes, kinds]
    split
    · rename_i same
      simp [same]
    · rename_i other
      simp [other, registered.inRemotes m]

/-- A node that was cleaned up is freed. -/
theorem intact_freeNode {n : NodeId} {b : Bool} (intact : Intact none d) (empty : d.table.node n = some (b, [])) :
    Intact none { d with nodes := d.nodes.free n } := by
  have shape : ({ d with nodes := d.nodes.free n } : Daemon).table = d.table.removeNode n := by
    refine Table.ext rfl rfl rfl (funext fun m => ?_) rfl rfl
    simp only [table, Table.removeNode, Heap.get?_free, update_apply]
    split
    · rfl
    · rfl
  exact ⟨by rw [shape]; exact linked_removeNode intact.links empty, intact.reports, intact.pending, intact.once⟩

/-- The node and its entries are gone, the rest is as it was. -/
structure Removed (n : NodeId) (d d' : Daemon) : Prop extends Shrunk d d' where
  left : ∀ si info, d'.infos.get? si = some info ↔ d.infos.get? si = some info ∧ info.node ≠ n
  freed : d'.nodes.get? n = none
  others : ∀ m, m ≠ n → (d'.nodes.get? m).map bare = (d.nodes.get? m).map bare
  locals : ∀ m, m ∈ d'.localNodes ↔ m ∈ d.localNodes ∧ m ≠ n
  remotes : ∀ m, m ∈ d'.remoteList ↔ m ∈ d.remoteList ∧ m ≠ n

theorem Removed.gone {n : NodeId} {d' : Daemon} (removed : Removed n d d') {si : SiId} {info : StaInfo}
    (live : d.infos.get? si = some info) (dead : d'.infos.get? si = none) : d'.nodes.get? info.node = none := by
  by_cases here : info.node = n
  · rw [here]
    exact removed.freed
  · rw [(removed.left si info).mpr ⟨live, here⟩] at dead
    cases dead

/-- What `usteer_sta_node_cleanup` leaves, once the node itself is freed. -/
theorem removed_of_cleanup {n : NodeId} {d0 d1 d' : Daemon}
    (same : d0.infos = d.infos ∧ d0.stas = d.stas ∧ d0.nodes = d.nodes ∧ d0.tq = d.tq ∧ d0.clock = d.clock ∧
      d0.currentTime = d.currentTime ∧ d0.trace = d.trace ∧ d0.localId = d.localId ∧ d0.ssidList = d.ssidList)
    (left : ∀ si info, d1.infos.get? si = some info ↔ d0.infos.get? si = some info ∧ info.node ≠ n)
    (pruned : Pruned (d0.modifyNode n (fun node => { node with rrmNr := none })) d1)
    (after : d' = { d1 with localNodes := d'.localNodes, nodes := d1.nodes.free n })
    (locals : ∀ m, m ∈ d'.localNodes ↔ m ∈ d.localNodes ∧ m ≠ n)
    (remotes : ∀ m, m ∈ d'.remoteList ↔ m ∈ d.remoteList ∧ m ≠ n) : Removed n d d' := by
  obtain ⟨infos, stas, nodes, tq, clock, currentTime, trace, localId, ssidList⟩ := same
  have rest := pruned.rest
  have infos' : d'.infos = d1.infos := by rw [after]
  have nodes' : d'.nodes = d1.nodes.free n := by rw [after]
  have tq' : d'.tq = d1.tq := by rw [after]
  have stas' : d'.stas = d1.stas := by rw [after]
  have others : ∀ m, m ≠ n → (d'.nodes.get? m).map bare = (d.nodes.get? m).map bare := by
    intro m other
    rw [nodes', Heap.get?_free, if_neg other, pruned.nodes]
    simp only [modifyNode, Heap.get?_modify, if_neg other, nodes]
  have freed : d'.nodes.get? n = none := by rw [nodes', Heap.get?_free, if_pos rfl]
  refine ⟨⟨?_, ?_, ?_, ?_, ?_, ?_, ?_, ?_, ?_, ?_, ?_, ?_, ?_⟩, ?_, freed, others, locals, remotes⟩
  · intro si info live
    rw [infos', left, infos] at live
    exact live.1
  · rw [infos', pruned.next, ← infos]
    rfl
  · rw [nodes', Heap.next_free, pruned.ids, ← nodes]
    rfl
  · intro e inside
    rw [tq'] at inside
    have before : e ∈ d0.tq.items := pruned.items inside
    rwa [tq] at before
  · rintro si info live ⟨key, inside⟩
    rw [infos'] at live
    rw [← tq] at inside
    obtain ⟨key', inside'⟩ := pruned.waits live ⟨key, inside⟩
    exact ⟨key', by rw [tq']; exact inside'⟩
  · intro s sta' live
    rw [stas'] at live
    rw [← stas]
    exact pruned.stas live
  · intro m node' live
    have other : m ≠ n := by
      rintro rfl
      rw [freed] at live
      cases live
    have same := others m other
    rw [live] at same
    obtain ⟨node, before, shape⟩ := Option.map_eq_some_iff.mp same.symm
    exact ⟨node, before, shape.symm⟩
  · rw [after, ← clock]; show d1.clock = _; rw [rest]; rfl
  · rw [after, ← currentTime]; show d1.currentTime = _; rw [rest]; rfl
  · rw [after, ← trace]; show d1.trace = _; rw [rest]; rfl
  · rw [after, ← localId]; show d1.localId = _; rw [rest]; rfl
  · rw [after, ← ssidList]; show d1.ssidList = _; rw [rest]; rfl
  · exact fun inside => ((locals _).mp inside).1
  · intro si info
    rw [infos', left, infos]

theorem kinds_removed {n : NodeId} {d' : Daemon} (removed : Removed n d d') (m : NodeId) :
    (d'.table.node m).map Prod.fst = if m = n then none else (d.table.node m).map Prod.fst := by
  have shape : ∀ d : Daemon, (d.table.node m).map Prod.fst = ((d.nodes.get? m).map bare).map UsteerNode.isLocal := by
    intro d
    simp only [table, Option.map_map]
    rfl
  rw [shape, shape]
  split
  · rename_i same
    rw [same, removed.freed]
    rfl
  · rename_i other
    rw [removed.others m other]

theorem post_usteerFreeNode {F : Fault → Prop} {n : NodeId} (sound : Sound none d) (inside : n ∈ d.localNodes) :
    Post F (d.usteerFreeNode env cfg n) (fun d' => Sound none d' ∧ Removed n d d' ∧ d'.remoteNodes = d.remoteNodes) := by
  obtain ⟨node, live, isLocal⟩ := node_of_locals sound.registered inside
  unfold usteerFreeNode
  rw [post_bind]
  refine (post_usteerStaNodeCleanup sound.toIntact live).mono ?_
  rintro d1 ⟨intact1, left, pruned, empty⟩
  have rest := pruned.rest
  have notRemote : n ∉ d.remoteList := by
    intro isRemote
    obtain ⟨node', live', kind⟩ := node_of_remotes sound.registered isRemote
    rw [live] at live'
    cases live'
    rw [isLocal] at kind
    cases kind
  have locals_nodup : d.localNodes.Nodup := sound.registered.locals_nodup
  have locals1 : d1.localNodes = d.localNodes := by rw [rest]; rfl
  have tree1 : d1.remoteNodes = d.remoteNodes := by rw [rest]; rfl
  have remotes1 : d1.remoteList = d.remoteList := by unfold remoteList; rw [tree1]
  have removed : Removed n d { d1 with localNodes := d1.localNodes.erase n, nodes := d1.nodes.free n } := by
    refine removed_of_cleanup ⟨rfl, rfl, rfl, rfl, rfl, rfl, rfl, rfl, rfl⟩ left pruned rfl ?_ ?_
    · intro m
      show m ∈ d1.localNodes.erase n ↔ _
      rw [locals1, List.Nodup.mem_erase_iff locals_nodup, and_comm]
    · intro m
      show m ∈ d1.remoteList ↔ _
      rw [remotes1]
      refine ⟨fun isRemote => ⟨isRemote, ?_⟩, fun both => both.1⟩
      rintro rfl
      exact notRemote isRemote
  have intact' := intact_freeNode intact1 empty
  refine ⟨⟨⟨linked_reindex intact'.links _ _, intact'.reports, intact'.pending, intact'.once⟩, ?_⟩, removed, tree1⟩
  refine registered_remove sound.registered (kinds_removed removed) ?_ ?_ removed.locals removed.remotes
  · show (d1.localNodes.erase n).Nodup
    rw [locals1]
    exact locals_nodup.erase n
  · show d1.remoteList.Nodup
    rw [remotes1]
    exact sound.registered.remotes_nodup

theorem post_remoteNodeFree {F : Fault → Prop} {n : NodeId} (sound : Sound none d) (inside : n ∈ d.remoteList) :
    Post F (d.remoteNodeFree env cfg n) (fun d' => Sound none d' ∧ Removed n d d' ∧
      d'.remoteNodes = env.remotes.delete n d.remoteNodes) := by
  obtain ⟨node, live, isRemote⟩ := node_of_remotes sound.registered inside
  unfold remoteNodeFree
  dsimp only
  generalize hd0 : ({ d with remoteNodes := env.remotes.delete n d.remoteNodes } : Daemon) = d0
  have intact0 : Intact none d0 := by
    rw [← hd0]
    exact ⟨linked_reindex sound.links _ _, sound.reports, sound.pending, sound.once⟩
  have live0 : d0.nodes.get? n = some node := by rw [← hd0]; exact live
  rw [post_bind]
  refine (post_usteerStaNodeCleanup intact0 live0).mono ?_
  rintro d1 ⟨intact1, left, pruned, empty⟩
  have rest := pruned.rest
  have notLocal : n ∉ d.localNodes := by
    intro isLocal
    obtain ⟨node', live', kind⟩ := node_of_locals sound.registered isLocal
    rw [live] at live'
    cases live'
    rw [isRemote] at kind
    cases kind
  have locals1 : d1.localNodes = d.localNodes := by rw [rest, ← hd0]; rfl
  have tree1 : d1.remoteNodes = env.remotes.delete n d.remoteNodes := by rw [rest, ← hd0]; rfl
  have remotes1 : d1.remoteList = d.remoteList.filter (fun m => m ≠ n) := by
    unfold remoteList
    rw [tree1, toList_delete, List.filter_map]
    rfl
  have removed : Removed n d { d1 with nodes := d1.nodes.free n } := by
    refine removed_of_cleanup (by rw [← hd0]; exact ⟨rfl, rfl, rfl, rfl, rfl, rfl, rfl, rfl, rfl⟩) left pruned rfl ?_ ?_
    · intro m
      show m ∈ d1.localNodes ↔ _
      rw [locals1]
      refine ⟨fun isLocal => ⟨isLocal, ?_⟩, fun both => both.1⟩
      rintro rfl
      exact notLocal isLocal
    · intro m
      show m ∈ d1.remoteList ↔ _
      rw [remotes1, List.mem_filter, decide_eq_true_eq]
  have intact' := intact_freeNode intact1 empty
  refine ⟨⟨intact', ?_⟩, removed, tree1⟩
  refine registered_remove sound.registered (kinds_removed removed) ?_ ?_ removed.locals removed.remotes
  · show d1.localNodes.Nodup
    rw [locals1]
    exact sound.registered.locals_nodup
  · show d1.remoteList.Nodup
    rw [remotes1]
    exact List.Nodup.filter _ sound.registered.remotes_nodup

/-! ### Nodes come -/

/-- A node without entries comes. -/
structure Joined (node : UsteerNode) (d d' : Daemon) : Prop where
  nodes : d'.nodes = d.nodes.alloc node
  locals : ∀ m, m ∈ d'.localNodes ↔ m ∈ d.localNodes ∨ (m = d.nodes.next ∧ node.isLocal = true)
  remotes : ∀ m, m ∈ d'.remoteList ↔ m ∈ d.remoteList ∨ (m = d.nodes.next ∧ node.isLocal = false)
  rest : d' = { d with nodes := d'.nodes, localNodes := d'.localNodes, remoteNodes := d'.remoteNodes }

theorem sound_joined {node : UsteerNode} {d' : Daemon} (sound : Sound none d) (joined : Joined node d d')
    (empty : node.staInfo = []) (locals_nodup : d'.localNodes.Nodup) (remotes_nodup : d'.remoteList.Nodup) :
    Sound none d' := by
  have shape : d'.table = { d.table.addNode d.nodes.next node.isLocal with
      locals := d'.localNodes, remotes := d'.remoteList } := by
    rw [joined.rest]
    refine Table.ext rfl rfl rfl (funext fun m => ?_) rfl rfl
    simp only [table, Table.addNode, joined.nodes, Heap.get?_alloc, update_apply]
    split
    · simp [empty]
    · rfl
  have unused : d.table.node d.nodes.next = none := by simp [table]
  have infos : d'.infos = d.infos := by rw [joined.rest]
  have tq : d'.tq = d.tq := by rw [joined.rest]
  refine ⟨⟨?_, by rw [infos]; exact sound.reports, ?_, by rw [tq]; exact sound.once⟩, ?_⟩
  · rw [shape]
    exact linked_reindex (linked_addNode sound.links unused) _ _
  · rintro si ⟨key, inside⟩
    rw [tq] at inside
    rw [infos]
    exact sound.pending ⟨key, inside⟩
  · rw [shape]
    have kinds : ∀ m, (update d.table.node d.nodes.next (some (node.isLocal, [])) m).map Prod.fst =
        if m = d.nodes.next then some node.isLocal else (d.table.node m).map Prod.fst := by
      intro m
      rw [update_apply]
      split
      · rfl
      · rfl
    refine ⟨locals_nodup, remotes_nodup, fun m => ?_, fun m => ?_⟩
    · show m ∈ d'.localNodes ↔ (update d.table.node d.nodes.next (some (node.isLocal, [])) m).map Prod.fst = _
      rw [joined.locals, kinds]
      split
      · rename_i same
        subst same
        have absent : d.nodes.next ∉ d.localNodes := by
          intro inside
          have kind := (sound.registered.inLocals _).mp inside
          rw [unused] at kind
          cases kind
        simp [absent]
      · rename_i other
        simp only [other, false_and, or_false]
        exact sound.registered.inLocals m
    · show m ∈ d'.remoteList ↔ (update d.table.node d.nodes.next (some (node.isLocal, [])) m).map Prod.fst = _
      rw [joined.remotes, kinds]
      split
      · rename_i same
        subst same
        have absent : d.nodes.next ∉ d.remoteList := by
          intro inside
          have kind := (sound.registered.inRemotes _).mp inside
          rw [unused] at kind
          cases kind
        simp [absent]
      · rename_i other
        simp only [other, false_and, or_false]
        exact sound.registered.inRemotes m

theorem perm_insertByName (n : NodeId) (name : CString) (list : List NodeId) :
    (d.insertByName n name list).Perm (n :: list) := by
  induction list with
  | nil => exact .refl _
  | cons m rest ih =>
    rw [insertByName]
    split
    · exact (ih.cons m).trans (.swap n m rest)
    · exact .refl _

/-- An address that no index holds yet. -/
theorem next_fresh (sound : Sound none d) : d.nodes.next ∉ d.localNodes ∧ d.nodes.next ∉ d.remoteList := by
  constructor
  · intro inside
    obtain ⟨node, live, _⟩ := node_of_locals sound.registered inside
    exact Heap.ne_next live rfl
  · intro inside
    obtain ⟨node, live, _⟩ := node_of_remotes sound.registered inside
    exact Heap.ne_next live rfl

/-- No node of that name was found, and the new one is indexed accordingly. -/
inductive Indexes (env : Platform) (sender : Option UInt32) (d d' : Daemon) : UsteerNode → Prop
  | loc (name : CString) (unknown : ∀ n ∈ d.localNodes, ∀ node, d.nodes.get? n = some node → node.name ≠ name)
      (tree : d'.remoteNodes = d.remoteNodes) : Indexes env sender d d' (newLocalNode name)
  | remote (addr : CString) (id : UInt32) (name : CString) (sent : sender = some id)
      (unknown : ∀ n ∈ d.remoteGroup id.toUInt64, ∀ node, d.nodes.get? n = some node → remoteName node ≠ some name)
      (tree : d'.remoteNodes = env.remotes.insert remoteNodeCmp (id.toUInt64, d.nodes.next) d.remoteNodes)
      (locals : d'.localNodes = d.localNodes) : Indexes env sender d d' (newRemoteNode addr id.toUInt64 name)

theorem post_usteerGetNode (env : Platform) (sender : Option UInt32) {F : Fault → Prop} (name : CString)
    (sound : Sound none d) :
    Post F (d.usteerGetNode name) (fun r => r.2 = d ∨
      (Joined (newLocalNode name) d r.2 ∧ Indexes env sender d r.2 (newLocalNode name) ∧ Sound none r.2)) := by
  have live : ∀ n ∈ d.localNodes, ∃ node, d.node n = .ok node := fun n inside => by
    obtain ⟨node, found, _⟩ := node_of_locals sound.registered inside
    exact ⟨node, node_ok found⟩
  unfold usteerGetNode
  rw [post_bind]
  refine (post_search d.localNodes live).mono ?_
  rintro r ⟨_, miss⟩
  cases r with
  | some n => exact .inl rfl
  | none =>
    refine .inr ?_
    have perm := perm_insertByName (d := d) d.nodes.next name d.localNodes
    have joined : Joined (newLocalNode name) d { d with
        nodes := d.nodes.alloc (newLocalNode name), localNodes := d.insertByName d.nodes.next name d.localNodes } := by
      refine ⟨rfl, fun m => ?_, fun m => ?_, rfl⟩
      · show m ∈ d.insertByName d.nodes.next name d.localNodes ↔ _
        rw [perm.mem_iff, List.mem_cons, or_comm]
        simp [newLocalNode, UsteerNode.isLocal]
      · show m ∈ d.remoteList ↔ _
        simp [newLocalNode, UsteerNode.isLocal]
    refine ⟨joined, .loc name (fun n inside node live same => ?_) rfl,
      sound_joined sound joined rfl ?_ sound.registered.remotes_nodup⟩
    · have unfit := miss rfl n inside node (node_ok live)
      simp [same] at unfit
    · exact perm.nodup_iff.mpr (List.nodup_cons.mpr ⟨(next_fresh sound).1, sound.registered.locals_nodup⟩)

theorem entry_of_remoteGroup {id : UInt64} {n : NodeId} (inside : n ∈ d.remoteGroup id) :
    (id, n) ∈ d.remoteNodes.toList := by
  unfold remoteGroup at inside
  cases found : d.remoteNodes.find remoteNodeCmp id with
  | none =>
    rw [found] at inside
    cases inside
  | some leader =>
    rw [found] at inside
    obtain ⟨⟨key, m⟩, listed, rfl⟩ := List.mem_map.mp inside
    have same := List.all_eq_true.mp List.all_takeWhile _ listed
    rw [decide_eq_true_eq] at same
    rw [← same]
    exact (List.dropWhile_sublist _).subset ((List.takeWhile_prefix _).subset listed)

theorem mem_remoteGroup {id : UInt64} {n : NodeId} (inside : n ∈ d.remoteGroup id) : n ∈ d.remoteList :=
  List.mem_map_of_mem (entry_of_remoteGroup inside)

theorem post_interfaceGetNode {F : Fault → Prop} (addr : CString) (id : UInt32) (name : CString) (sound : Sound none d) :
    Post F (d.interfaceGetNode env addr id.toUInt64 name) (fun r =>
      (r.2 = d ∧ r.1 ∈ d.remoteGroup id.toUInt64 ∧ ∃ node, d.nodes.get? r.1 = some node ∧ remoteName node = some name) ∨
      (r.1 = d.nodes.next ∧ Joined (newRemoteNode addr id.toUInt64 name) d r.2 ∧
        Indexes env (some id) d r.2 (newRemoteNode addr id.toUInt64 name) ∧ Sound none r.2 ∧
        ∀ n ∈ d.remoteGroup id.toUInt64, ∀ node, d.nodes.get? n = some node → remoteName node ≠ some name)) := by
  have live : ∀ n ∈ d.remoteGroup id.toUInt64, ∃ node, d.node n = .ok node := fun n listed => by
    obtain ⟨node, found, _⟩ := node_of_remotes sound.registered (mem_remoteGroup listed)
    exact ⟨node, node_ok found⟩
  unfold interfaceGetNode
  rw [post_bind]
  refine (post_search (d.remoteGroup id.toUInt64) live).mono ?_
  rintro r ⟨hit, miss⟩
  cases r with
  | some n =>
    obtain ⟨inside, node, found, fits⟩ := hit n rfl
    obtain ⟨node', live', _⟩ := node_of_remotes sound.registered (mem_remoteGroup inside)
    rw [node_ok live'] at found
    cases found
    exact .inl ⟨rfl, inside, node, live', by simpa using fits⟩
  | none =>
    refine .inr ⟨rfl, ?_⟩
    have perm := (perm_insert env.remotes remoteNodeCmp (id.toUInt64, d.nodes.next) d.remoteNodes).map Prod.snd
    have joined : Joined (newRemoteNode addr id.toUInt64 name) d { d with
        nodes := d.nodes.alloc (newRemoteNode addr id.toUInt64 name)
        remoteNodes := env.remotes.insert remoteNodeCmp (id.toUInt64, d.nodes.next) d.remoteNodes } := by
      refine ⟨rfl, fun m => ?_, fun m => ?_, rfl⟩
      · show m ∈ d.localNodes ↔ _
        simp [newRemoteNode, UsteerNode.isLocal]
      · show m ∈ (env.remotes.insert remoteNodeCmp (id.toUInt64, d.nodes.next) d.remoteNodes).toList.map Prod.snd ↔ _
        rw [perm.mem_iff, List.map_cons, List.mem_cons, or_comm]
        simp [newRemoteNode, UsteerNode.isLocal, remoteList]
    have unknown : ∀ n ∈ d.remoteGroup id.toUInt64, ∀ node, d.nodes.get? n = some node → remoteName node ≠ some name := by
      intro n inside node live same
      have unfit := miss rfl n inside node (node_ok live)
      simp [same] at unfit
    refine ⟨joined, .remote addr id name rfl unknown rfl rfl,
      sound_joined sound joined rfl sound.registered.locals_nodup ?_, unknown⟩
    exact perm.nodup_iff.mpr (List.nodup_cons.mpr ⟨(next_fresh sound).2, sound.registered.remotes_nodup⟩)

/-! ### Nothing is created or kicked -/

/-- Entries that are left are as connected as they were, and wait if they did. -/
structure Calm (d d' : Daemon) : Prop where
  infos : ∀ {si info'}, d'.infos.get? si = some info' →
    ∃ info, d.infos.get? si = some info ∧ info'.connected = info.connected ∧ info'.node = info.node
  waits : ∀ {si info'}, d'.infos.get? si = some info' → d.Pending si → d'.Pending si

namespace Calm

variable {d d' d'' : Daemon}

theorem of_eq (infos : d'.infos = d.infos) (tq : d'.tq = d.tq) : Calm d d' where
  infos live := ⟨_, by rw [← infos]; exact live, rfl, rfl⟩
  waits _ waiting := by unfold Pending; rw [tq]; exact waiting

theorem refl (d : Daemon) : Calm d d := of_eq rfl rfl

theorem trans (first : Calm d d') (second : Calm d' d'') : Calm d d'' where
  infos live := by
    obtain ⟨info', live', connected', node'⟩ := second.infos live
    obtain ⟨info, live, connected, node⟩ := first.infos live'
    exact ⟨info, live, connected'.trans connected, node'.trans node⟩
  waits live waiting := by
    obtain ⟨info', live', _⟩ := second.infos live
    exact second.waits live (first.waits live' waiting)

theorem edit {si : SiId} {f : StaInfo → StaInfo}
    (same : ∀ info, (f info).connected = info.connected ∧ (f info).node = info.node) : Calm d (d.modifyInfo si f) where
  infos live := by
    obtain ⟨info, live', result⟩ := Heap.get?_modify_some live
    refine ⟨info, live', ?_⟩
    rw [result]
    split
    · exact same info
    · exact ⟨rfl, rfl⟩
  waits _ waiting := waiting

theorem thenEdit {si : SiId} {f : StaInfo → StaInfo} (calm : Calm d d')
    (same : ∀ info, (f info).connected = info.connected ∧ (f info).node = info.node) : Calm d (d'.modifyInfo si f) :=
  calm.trans (edit same)

end Calm

theorem Shrunk.calm {d d' : Daemon} (shrunk : Shrunk d d') : Calm d d' where
  infos live := ⟨_, shrunk.infos live, rfl, rfl⟩
  waits := shrunk.waits

/-! ### All changes -/

/-- A change of the daemon: moves, a deletion or a new node. -/
inductive Change (env : Platform) (cfg : Config) (scope : Scope) : Daemon → Daemon → Prop
  | moves {d d'} (moves : Moves env cfg scope (none, d) (none, d')) : Change env cfg scope d d'
  | shrink {d d'} (shrunk : Shrunk d d') (sound : Sound none d')
      (tree : d'.remoteNodes = d.remoteNodes ∨ ∃ n, d'.remoteNodes = env.remotes.delete n d.remoteNodes)
      (gone : scope.unexpired → ∀ {si info}, d.infos.get? si = some info → d'.infos.get? si = none →
        d'.nodes.get? info.node = none) : Change env cfg scope d d'
  | join {d d' node} (joined : Joined node d d') (sound : Sound none d') (indexes : Indexes env scope.sender d d' node) :
      Change env cfg scope d d'

/-- A sequence of changes. -/
def Evolves (env : Platform) (cfg : Config) (scope : Scope) : Daemon → Daemon → Prop :=
  Relation.ReflTransGen (Change env cfg scope)

theorem ssidList_evolves {scope : Scope} {d' : Daemon} (evolves : Evolves env cfg scope d d') :
    d'.ssidList = d.ssidList := by
  induction evolves with
  | refl => rfl
  | tail _ change ih =>
    refine Eq.trans ?_ ih
    cases change with
    | moves moves => exact (survives_moves moves).ssidList
    | shrink shrunk => exact shrunk.ssidList
    | join joined => rw [joined.rest]

theorem sound_evolves {scope : Scope} {d' : Daemon} (sound : Sound none d) (evolves : Evolves env cfg scope d d') :
    Sound none d' := by
  induction evolves with
  | refl => exact sound
  | tail _ change ih =>
    cases change with
    | moves moves => exact sound_moves (a := (none, _)) ih moves
    | shrink _ sound => exact sound
    | join _ sound => exact sound

/-! ### Where entries come from -/

/-- What is kept of an entry by functions of that scope. -/
structure Stems (scope : Scope) (info info' : StaInfo) : Prop where
  sta : info'.sta = info.sta
  node : info'.node = info.node
  roam : scope.tick = false → SameRoam info info'
  stats : scope.request = none → info'.stats = info.stats
  heard : scope.request = none → info'.roamScanDone = info.roamScanDone

theorem Stems.refl (scope : Scope) (info : StaInfo) : Stems scope info info :=
  ⟨rfl, rfl, fun _ => ⟨rfl, rfl, rfl, rfl⟩, fun _ => rfl, fun _ => rfl⟩

theorem Stems.trans {scope : Scope} {info info' info'' : StaInfo} (first : Stems scope info info')
    (second : Stems scope info' info'') : Stems scope info info'' where
  sta := second.sta.trans first.sta
  node := second.node.trans first.node
  roam still := by
    obtain ⟨state, event, kick, tries⟩ := first.roam still
    obtain ⟨state', event', kick', tries'⟩ := second.roam still
    exact ⟨state'.trans state, event'.trans event, kick'.trans kick, tries'.trans tries⟩
  stats still := (second.stats still).trans (first.stats still)
  heard still := (second.heard still).trans (first.heard still)

/-- Every entry stems from one that was there or from a new one, time does not run
    backwards, and the history grows. -/
structure Descends (scope : Scope) (d d' : Daemon) : Prop where
  next : d.infos.next ≤ d'.infos.next
  clock : d'.clock = d.clock
  localId : d'.localId = d.localId
  time : d'.currentTime = d.currentTime ∨ d'.currentTime = d.clock
  infos : ∀ {si info'}, d'.infos.get? si = some info' → ∃ info, Stems scope info info' ∧
    (d.infos.get? si = some info ∨ (d.infos.next ≤ si ∧ ∃ n s freq time, info = .zeroed n s freq time))
  trace : ∃ more, d'.trace = d.trace ++ more ∧ ∀ e ∈ more, Logs scope d.localId e

namespace Descends

variable {scope : Scope} {d' d'' : Daemon}

/-- The entries and the history are as they were. -/
theorem of_eq (infos : d'.infos = d.infos) (trace : d'.trace = d.trace) (clock : d'.clock = d.clock)
    (localId : d'.localId = d.localId) (time : d'.currentTime = d.currentTime ∨ d'.currentTime = d.clock) :
    Descends scope d d' where
  next := by rw [infos]
  clock := clock
  localId := localId
  time := time
  infos live := by
    rw [infos] at live
    exact ⟨_, .refl scope _, .inl live⟩
  trace := ⟨[], by simp [trace], by simp⟩

theorem refl (d : Daemon) : Descends scope d d := of_eq rfl rfl rfl rfl (.inl rfl)

theorem trans (first : Descends scope d d') (second : Descends scope d' d'') : Descends scope d d'' where
  next := first.next.trans second.next
  clock := second.clock.trans first.clock
  localId := second.localId.trans first.localId
  time := by
    rcases second.time with same | now
    · rw [same]
      exact first.time
    · exact .inr (now.trans first.clock)
  infos live'' := by
    obtain ⟨info', stems', live' | ⟨fresh, zeroed⟩⟩ := second.infos live''
    · obtain ⟨info, stems, origin⟩ := first.infos live'
      exact ⟨info, stems.trans stems', origin⟩
    · exact ⟨info', stems', .inr ⟨first.next.trans fresh, zeroed⟩⟩
  trace := by
    obtain ⟨added, longer, fits⟩ := first.trace
    obtain ⟨added', longer', fits'⟩ := second.trace
    refine ⟨added ++ added', by rw [longer', longer, List.append_assoc], fun e inside => ?_⟩
    refine (List.mem_append.mp inside).elim (fits e) fun late => ?_
    rw [← first.localId]
    exact fits' e late

theorem log (e : Event) (fits : Logs scope d.localId e) : Descends scope d (d.log e) where
  next := le_rfl
  clock := rfl
  localId := rfl
  time := .inl rfl
  infos live := ⟨_, .refl scope _, .inl live⟩
  trace := ⟨[e], rfl, by simpa using fits⟩

theorem edit {si : SiId} {f : StaInfo → StaInfo} (stems : ∀ info, d.infos.get? si = some info → Stems scope info (f info)) :
    Descends scope d (d.modifyInfo si f) where
  next := le_rfl
  clock := rfl
  localId := rfl
  time := .inl rfl
  infos live' := by
    obtain ⟨info, live, result⟩ := Heap.get?_modify_some live'
    refine ⟨info, ?_, .inl live⟩
    rw [result]
    split
    · rename_i same
      subst same
      exact stems info live
    · exact .refl scope info
  trace := ⟨[], by simp [modifyInfo], by simp⟩

theorem newInfo (s : StaId) (n : NodeId) (freq : Int32) : Descends scope d (d.newInfo s n freq) where
  next := by simp [Daemon.newInfo, modifySta, modifyNode]
  clock := rfl
  localId := rfl
  time := .inl rfl
  infos {si info'} live' := by
    simp only [Daemon.newInfo, modifySta, modifyNode, Heap.get?_alloc] at live'
    split at live'
    · rename_i fresh
      cases live'
      exact ⟨_, .refl scope _, .inr ⟨fresh.ge, n, s, freq, d.currentTime, rfl⟩⟩
    · exact ⟨info', .refl scope info', .inl live'⟩
  trace := ⟨[], by simp [Daemon.newInfo, modifySta, modifyNode], by simp⟩

end Descends

theorem descends_move {scope : Scope} {a b : Option StaId × Daemon} (move : Move env cfg scope a b) :
    Descends scope a.2 b.2 := by
  cases move with
  | time => exact .of_eq rfl rfl rfl rfl (.inr rfl)
  | log e fits => exact .log e fits
  | sequence seq => exact .of_eq rfl rfl rfl rfl (.inl rfl)
  | newSta fresh => exact .of_eq rfl rfl rfl rfl (.inl rfl)
  | newInfo freq liveSta liveNode own fresh => exact .newInfo _ _ freq
  | editSta s keeps => exact .of_eq rfl rfl rfl rfl (.inl rfl)
  | editNode n keeps => exact .of_eq rfl rfl rfl rfl (.inl rfl)
  | editInfo si keeps =>
    refine .edit fun info live => ?_
    obtain ⟨entry, roam, _, _, hears, counts, _⟩ := keeps info live
    refine ⟨entry.sta, entry.node, fun _ => roam, fun none => funext fun type => ?_, fun none => ?_⟩
    · rcases counts type with same | ⟨addr, n, requested, _⟩
      · exact same
      · rw [none] at requested
        cases requested
    · rcases hears with same | ⟨_, addr, n, type, requested, _⟩
      · exact same
      · rw [none] at requested
        cases requested
  | mark c live isLocal change =>
    exact .edit fun info _ => ⟨rfl, rfl, fun _ => ⟨rfl, rfl, rfl, rfl⟩, fun _ => rfl, fun _ => rfl⟩
  | @settle v d si info info' timeout live keeps roam heard stats positive timely =>
    have edited : Descends scope d (d.modifyInfo si (fun _ => info')) := by
      refine .edit fun info'' live'' => ?_
      rw [live] at live''
      cases live''
      exact ⟨keeps.sta, keeps.node, fun _ => roam, fun _ => stats, fun _ => heard⟩
    exact edited.trans (.of_eq rfl rfl rfl rfl (.inl rfl))
  | roam si state ticking =>
    refine .edit fun info _ => ⟨rfl, rfl, fun still => ?_, fun _ => rfl, fun _ => rfl⟩
    rw [still] at ticking
    cases ticking
  | @kick v d si info why live isLocal ticking =>
    refine (Descends.log (.kick d.currentTime si why) ticking).trans (.edit fun info _ => ?_)
    refine ⟨rfl, rfl, fun still => ?_, fun _ => rfl, fun _ => rfl⟩
    rw [still] at ticking
    cases ticking

theorem descends_moves {scope : Scope} {a b : Option StaId × Daemon} (moves : Moves env cfg scope a b) :
    Descends scope a.2 b.2 := by
  induction moves with
  | refl => exact .refl _
  | tail _ move ih => exact ih.trans (descends_move move)

theorem Shrunk.descends {scope : Scope} {d' : Daemon} (shrunk : Shrunk d d') : Descends scope d d' where
  next := shrunk.next.ge
  clock := shrunk.clock
  localId := shrunk.localId
  time := .inl shrunk.currentTime
  infos live := ⟨_, .refl scope _, .inl (shrunk.infos live)⟩
  trace := ⟨[], by simp [shrunk.trace], by simp⟩

theorem descends_evolves {scope : Scope} {d' : Daemon} (evolves : Evolves env cfg scope d d') : Descends scope d d' := by
  induction evolves with
  | refl => exact .refl _
  | tail _ change ih =>
    refine ih.trans ?_
    cases change with
    | moves moves => exact descends_moves moves
    | shrink shrunk => exact shrunk.descends
    | join joined => 
      exact .of_eq (by rw [joined.rest]) (by rw [joined.rest]) (by rw [joined.rest]) (by rw [joined.rest])
        (.inl (by rw [joined.rest]))

end Usteer
