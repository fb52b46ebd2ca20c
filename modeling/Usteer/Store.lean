import Usteer.Links
import Usteer.LocalNode

/-!
The daemon's state over the station table. `Daemon.table` forgets everything but the
references, `Sound` says that they agree (`Linked`, `Registered`), that every beacon
report names the entry that lists it and that only live entries are queued, each
once. The operations that allocate and free follow those of the table
(`table_newSta`, `table_newInfo`, `staInfoDel_spec`).
-/
namespace Usteer
open SearchTree Timeout Function

/-- Whether a node is a local one. -/
def UsteerNode.isLocal (node : UsteerNode) : Bool :=
  match node.kind with
  | .loc _ => true
  | .remote _ => false

namespace Daemon

/-- Who refers to whom. -/
def table (d : Daemon) : Table where
  stations := d.stations
  sta s := (d.stas.get? s).map (fun sta => (sta.addr, sta.nodes))
  entry si := (d.infos.get? si).map (fun info => (info.sta, info.node))
  node n := (d.nodes.get? n).map (fun node => (node.isLocal, node.staInfo))
  locals := d.localNodes
  remotes := d.remoteList

/-- An entry waits in the timeout queue. -/
def Pending (d : Daemon) (si : SiId) : Prop := ∃ key, (key, si) ∈ d.tq.items

end Daemon

open Daemon

/-- The references agree, also those of beacon reports and of the timeout queue. -/
structure Intact (vacant : Option StaId) (d : Daemon) : Prop where
  links : Linked vacant d.table
  reports : ∀ {si info br}, d.infos.get? si = some info → br ∈ info.beaconReports → br.address = si
  pending : ∀ {si}, d.Pending si → ∃ info, d.infos.get? si = some info
  once : (d.tq.items.map Prod.snd).Nodup

/-- The references agree and the live nodes are the indexed ones. -/
structure Sound (vacant : Option StaId) (d : Daemon) : Prop extends Intact vacant d where
  registered : Registered d.table

/-! ### The table after an edit -/

section Edits

variable {d : Daemon}

theorem table_modifyInfo {si : SiId} {f : StaInfo → StaInfo}
    (keeps : ∀ info, d.infos.get? si = some info → (f info).sta = info.sta ∧ (f info).node = info.node) :
    (d.modifyInfo si f).table = d.table := by
  refine Table.ext rfl rfl (funext fun j => ?_) rfl rfl rfl
  simp only [table, modifyInfo, Heap.get?_modify]
  split
  · rename_i same
    subst same
    cases found : d.infos.get? j with
    | none => rfl
    | some info => simp [keeps info found]
  · rfl

theorem table_modifySta {s : StaId} {f : Sta → Sta}
    (keeps : ∀ sta, (f sta).addr = sta.addr ∧ (f sta).nodes = sta.nodes) :
    (d.modifySta s f).table = d.table := by
  refine Table.ext rfl (funext fun j => ?_) rfl rfl rfl rfl
  simp only [table, modifySta, Heap.get?_modify]
  split
  · rename_i same
    subst same
    simp [keeps, Function.comp_def]
  · rfl

theorem table_modifyNode {n : NodeId} {f : UsteerNode → UsteerNode}
    (keeps : ∀ node, (f node).isLocal = node.isLocal ∧ (f node).staInfo = node.staInfo) :
    (d.modifyNode n f).table = d.table := by
  refine Table.ext rfl rfl rfl (funext fun j => ?_) rfl rfl
  simp only [table, modifyNode, Heap.get?_modify]
  split
  · rename_i same
    subst same
    simp [keeps, Function.comp_def]
  · rfl

theorem table_newSta (addr : MacAddr) : (d.newSta addr).table = d.table.addSta d.stas.next addr := by
  refine Table.ext rfl (funext fun j => ?_) rfl rfl rfl rfl
  simp only [table, newSta, Table.addSta, Heap.get?_alloc, update_apply]
  split
  · rfl
  · rfl

theorem table_newInfo (s : StaId) (n : NodeId) (freq : Int32) :
    (d.newInfo s n freq).table = d.table.addEntry d.infos.next s n := by
  refine Table.ext rfl (funext fun j => ?_) (funext fun j => ?_) (funext fun j => ?_) rfl rfl
  · simp only [table, newInfo, modifySta, modifyNode, Table.addEntry, Heap.get?_modify, update_apply]
    split
    · rename_i same
      subst same
      simp [Function.comp_def]
    · rfl
  · simp only [table, newInfo, modifySta, modifyNode, Table.addEntry, Heap.get?_alloc, update_apply]
    split
    · rfl
    · rfl
  · simp only [table, newInfo, modifySta, modifyNode, Table.addEntry, Heap.get?_modify, update_apply]
    split
    · rename_i same
      subst same
      simp [Function.comp_def, UsteerNode.isLocal]
    · rfl

end Edits

/-! ### References followed -/

/-- The time an entry lives unseen is a positive `int`. -/
def Config.InRange (cfg : Config) : Prop := 0 < cfg.localStaTimeout.toInt32

/-- The use of a record that a timeout out of range freed. -/
def Dangles (cfg : Config) (e : Fault) : Prop := e = .useAfterFree ∧ ¬ cfg.InRange

/-- A division by one of the settings that a policy tick divides by. -/
def Divides (cfg : Config) (e : Fault) : Prop :=
  e = .divisionByZero ∧ (cfg.kickClientActiveSec = 0 ∨ cfg.localStaUpdate = 0)

section Follow

variable {vacant : Option StaId} {d : Daemon}

theorem entry_of_info {si : SiId} {info : StaInfo} (live : d.infos.get? si = some info) :
    d.table.entry si = some (info.sta, info.node) := by
  simp [table, live]

theorem info_of_entry {si : SiId} {s : StaId} {n : NodeId} (entry : d.table.entry si = some (s, n)) :
    ∃ info, d.infos.get? si = some info ∧ info.sta = s ∧ info.node = n := by
  obtain ⟨info, live, owners⟩ := Option.map_eq_some_iff.mp entry
  cases owners
  exact ⟨info, live, rfl, rfl⟩

/-- The station of a live entry is live and lists it. -/
theorem sta_of_info {si : SiId} {info : StaInfo} (links : Linked vacant d.table)
    (live : d.infos.get? si = some info) : ∃ sta, d.stas.get? info.sta = some sta ∧ si ∈ sta.nodes := by
  obtain ⟨a, l, found, inside⟩ := links.inSta (entry_of_info live)
  obtain ⟨sta, liveSta, shape⟩ := Option.map_eq_some_iff.mp found
  cases shape
  exact ⟨sta, liveSta, inside⟩

/-- The node of a live entry is live and lists it. -/
theorem node_of_info {si : SiId} {info : StaInfo} (links : Linked vacant d.table)
    (live : d.infos.get? si = some info) : ∃ node, d.nodes.get? info.node = some node ∧ si ∈ node.staInfo := by
  obtain ⟨b, l, found, inside⟩ := links.inNode (entry_of_info live)
  obtain ⟨node, liveNode, shape⟩ := Option.map_eq_some_iff.mp found
  cases shape
  exact ⟨node, liveNode, inside⟩

/-- What a live station lists is live and its own. -/
theorem info_of_sta {s : StaId} {sta : Sta} {si : SiId} (links : Linked vacant d.table)
    (live : d.stas.get? s = some sta) (inside : si ∈ sta.nodes) : ∃ info, d.infos.get? si = some info ∧ info.sta = s := by
  obtain ⟨n, entry⟩ := links.ofSta (s := s) (a := sta.addr) (l := sta.nodes) (by simp [table, live]) inside
  obtain ⟨info, liveInfo, same, _⟩ := info_of_entry entry
  exact ⟨info, liveInfo, same⟩

/-- What a live node lists is live and its own. -/
theorem info_of_node {n : NodeId} {node : UsteerNode} {si : SiId} (links : Linked vacant d.table)
    (live : d.nodes.get? n = some node) (inside : si ∈ node.staInfo) :
    ∃ info, d.infos.get? si = some info ∧ info.node = n := by
  obtain ⟨s, entry⟩ := links.ofNode (n := n) (b := node.isLocal) (l := node.staInfo) (by simp [table, live]) inside
  obtain ⟨info, liveInfo, _, same⟩ := info_of_entry entry
  exact ⟨info, liveInfo, same⟩

theorem onNode_of_listed {n : NodeId} {node : UsteerNode} (links : Linked vacant d.table)
    (live : d.nodes.get? n = some node) : ∀ si ∈ node.staInfo, ∀ info, d.infos.get? si = some info → info.node = n := by
  intro si listed info liveInfo
  obtain ⟨info', live', same⟩ := info_of_node links live listed
  rw [liveInfo] at live'
  cases live'
  exact same

/-- An indexed station is live. -/
theorem sta_of_stations {s : StaId} (links : Linked vacant d.table) (inside : s ∈ d.stations) :
    ∃ sta, d.stas.get? s = some sta := by
  obtain ⟨x, found⟩ := (links.indexed s).mp inside
  obtain ⟨sta, live, _⟩ := Option.map_eq_some_iff.mp found
  exact ⟨sta, live⟩

/-- An indexed local node is live and local. -/
theorem node_of_locals {n : NodeId} (registered : Registered d.table) (inside : n ∈ d.localNodes) :
    ∃ node, d.nodes.get? n = some node ∧ node.isLocal = true := by
  have kind := (registered.inLocals n).mp inside
  simp only [table, Option.map_map, Option.map_eq_some_iff, Function.comp_apply] at kind
  exact kind

/-- An indexed remote node is live and remote. -/
theorem node_of_remotes {n : NodeId} (registered : Registered d.table) (inside : n ∈ d.remoteList) :
    ∃ node, d.nodes.get? n = some node ∧ node.isLocal = false := by
  have kind := (registered.inRemotes n).mp inside
  simp only [table, Option.map_map, Option.map_eq_some_iff, Function.comp_apply] at kind
  exact kind

/-- The search of a list whose addresses are all live follows none that is not. -/
theorem post_search {α : Type} {F : Fault → Prop} {follow : Nat → Except Fault α} {fits : α → Bool} (list : List Nat)
    (live : ∀ k ∈ list, ∃ v, follow k = .ok v) :
    Post F (search follow fits list) (fun r =>
      (∀ k, r = some k → k ∈ list ∧ ∃ v, follow k = .ok v ∧ fits v = true) ∧
      (r = none → ∀ k ∈ list, ∀ v, follow k = .ok v → fits v = false)) := by
  induction list with
  | nil => simp [search]
  | cons k rest ih =>
    obtain ⟨v, found⟩ := live k List.mem_cons_self
    rw [search, found]
    show Post F (if fits v = true then pure (some k) else search follow fits rest) _
    split
    · rename_i fit
      simp only [post_pure, Option.some.injEq, reduceCtorEq, false_implies, and_true]
      rintro k' rfl
      exact ⟨List.mem_cons_self, v, found, fit⟩
    · rename_i unfit
      refine (ih (fun k' inside => live k' (List.mem_cons_of_mem _ inside))).mono ?_
      rintro r ⟨hit, miss⟩
      refine ⟨fun k' same => ?_, fun none k' inside v' at' => ?_⟩
      · obtain ⟨inside, fit⟩ := hit k' same
        exact ⟨List.mem_cons_of_mem _ inside, fit⟩
      · rcases List.mem_cons.mp inside with rfl | inside
        · rw [found] at at'
          cases at'
          simpa using unfit
        · exact miss none k' inside v' at'

end Follow

/-! ### Deletion -/

/-- What the deletion of an entry changes. -/
structure Deleted (env : Platform) (si : SiId) (info : StaInfo) (d d' : Daemon) : Prop where
  table : d'.table = d.table.removeEntry si info.sta info.node
  infos : ∀ j, d'.infos.get? j = if j = si then none else d.infos.get? j
  next : d'.infos.next = d.infos.next
  ids : d'.nodes.next = d.nodes.next
  tq : d'.tq = d.tq.usteerTimeoutCancel env.timeouts si
  nodes : ∀ n node', d'.nodes.get? n = some node' →
    ∃ node, d.nodes.get? n = some node ∧ node' = { node with staInfo := node'.staInfo }
  rest : d' = { d with stations := d'.stations, stas := d'.stas, infos := d'.infos, nodes := d'.nodes, tq := d'.tq }

section Deletion

variable {env : Platform} {cfg : Config} {d : Daemon} {F : Fault → Prop}

/-- The state before `usteer_sta_info_del` looks at the rest of the station. -/
def unlinked (env : Platform) (d : Daemon) (si : SiId) (info : StaInfo) : Daemon :=
  { d with
    tq := d.tq.usteerTimeoutCancel env.timeouts si
    stas := d.stas.modify info.sta (fun sta => { sta with nodes := sta.nodes.erase si })
    nodes := d.nodes.modify info.node (fun node => { node with staInfo := node.staInfo.erase si })
    infos := (d.infos.modify si (fun info => { info with beaconReports := [] })).free si }

theorem table_unlinked (si : SiId) (info : StaInfo) :
    (unlinked env d si info).table = d.table.unlink si info.sta info.node := by
  refine Table.ext rfl (funext fun j => ?_) (funext fun j => ?_) (funext fun j => ?_) rfl rfl
  · simp only [table, unlinked, Table.unlink, Heap.get?_modify, update_apply]
    split
    · rename_i same
      subst same
      simp [Function.comp_def]
    · rfl
  · simp only [table, unlinked, Table.unlink, Heap.get?_free, Heap.get?_modify, update_apply]
    split
    · rfl
    · rfl
  · simp only [table, unlinked, Table.unlink, Heap.get?_modify, update_apply]
    split
    · rename_i same
      subst same
      simp [Function.comp_def, UsteerNode.isLocal]
    · rfl

theorem table_usteerStaDel (s : StaId) : (d.usteerStaDel s).table = d.table.removeSta s := by
  refine Table.ext rfl (funext fun j => ?_) rfl rfl rfl rfl
  simp only [table, usteerStaDel, Table.removeSta, Heap.get?_free, update_apply]
  split
  · rfl
  · rfl

theorem unlinked_infos (env : Platform) (si : SiId) (info : StaInfo) (j : SiId) :
    (unlinked env d si info).infos.get? j = if j = si then none else d.infos.get? j := by
  simp only [unlinked, Heap.get?_free, Heap.get?_modify]
  split
  · rfl
  · rfl

theorem unlinked_nodes (env : Platform) {si : SiId} {info : StaInfo} {n : NodeId} {node' : UsteerNode}
    (live : (unlinked env d si info).nodes.get? n = some node') :
    ∃ node, d.nodes.get? n = some node ∧ node' = { node with staInfo := node'.staInfo } := by
  obtain ⟨node, found, shape⟩ := Heap.get?_modify_some live
  refine ⟨node, found, ?_⟩
  subst shape
  split
  · rfl
  · rfl

theorem staInfoDel_spec {si : SiId} {info : StaInfo} (links : Linked none d.table)
    (live : d.infos.get? si = some info) :
    Post F (d.usteerStaInfoDel env cfg si) (Deleted env si info d) := by
  obtain ⟨sta, liveSta, _⟩ := sta_of_info links live
  obtain ⟨node, liveNode, _⟩ := node_of_info links live
  have left : (unlinked env d si info).stas.get? info.sta = some { sta with nodes := sta.nodes.erase si } := by
    simp [unlinked, Heap.get?_modify, liveSta]
  have run : d.usteerStaInfoDel env cfg si =
      .ok (if (sta.nodes.erase si).isEmpty then (unlinked env d si info).usteerStaDel info.sta
        else unlinked env d si info) := by
    unfold usteerStaInfoDel
    rw [info_ok live, ok_bind, sta_ok liveSta, ok_bind, node_ok liveNode, ok_bind]
    show (unlinked env d si info).sta info.sta >>= _ = _
    rw [sta_ok left]
    rfl
  rw [run, post_ok]
  have shape : (d.table.unlink si info.sta info.node).sta info.sta = some (sta.addr, sta.nodes.erase si) := by
    simp [Table.unlink, table, liveSta]
  split
  · rename_i empty
    refine ⟨?_, unlinked_infos env si info, rfl, rfl, rfl, fun _ _ => unlinked_nodes env, rfl⟩
    rw [table_usteerStaDel, table_unlinked, Table.removeEntry, shape, if_pos (by simpa using empty)]
  · rename_i some
    refine ⟨?_, unlinked_infos env si info, rfl, rfl, rfl, fun _ _ => unlinked_nodes env, rfl⟩
    rw [table_unlinked, Table.removeEntry, shape, if_neg (by simpa using some)]

theorem intact_deleted {si : SiId} {info : StaInfo} {d' : Daemon} (intact : Intact none d)
    (live : d.infos.get? si = some info) (deleted : Deleted env si info d d') : Intact none d' where
  links := by
    rw [deleted.table]
    exact linked_removeEntry intact.links (entry_of_info live)
  reports := by
    intro j info' br live' inside
    rw [deleted.infos] at live'
    split at live'
    · cases live'
    · exact intact.reports live' inside
  pending := by
    rintro j ⟨key, inside⟩
    rw [deleted.tq, Queue.mem_cancel] at inside
    obtain ⟨info', live'⟩ := intact.pending ⟨key, inside.1⟩
    exact ⟨info', by rw [deleted.infos, if_neg inside.2]; exact live'⟩
  once := by
    rw [deleted.tq, Queue.items_cancel]
    exact intact.once.sublist (List.filter_sublist.map Prod.snd)

end Deletion

end Usteer
