import Usteer.Vlist
import Usteer.Settings

/-!
The interfaces that messages go out on and come in on. A record of an interface holds its
name, which is the key of the record's own node in the versioned list, and its index, which
the kernel gives at each addition. What the list drops is freed there, and what an addition
brings a second time is freed at once. `Filed` says that the list and the records match;
`post_usteerInterfaceAdd` and `post_configSetInterfaces` say what the two ways to change
the interfaces do to the names and to the indices.
-/
namespace Usteer
open Function

/-- `struct interface`, with the name in the same allocation. -/
structure Interface where
  name : CString
  ifindex : UInt32

/-- `interfaces`, the records in it, and whether `reload_timer` is pending. -/
structure InterfaceTree where
  tree : Vlist.Tree CString Nat
  records : Heap Interface
  reloadTimer : Bool

namespace InterfaceTree

/-- Before the first interface. -/
def initial : InterfaceTree := ⟨Vlist.empty, .empty, false⟩

/-- The record at an address. -/
def record (s : InterfaceTree) (iface : Nat) : Except Fault Interface :=
  match s.records.get? iface with
  | some r => .ok r
  | none => .error .useAfterFree

/-- `free` -/
def free (s : InterfaceTree) (iface : Nat) : Except Fault InterfaceTree := do
  let _ ← s.record iface
  return { s with records := s.records.free iface }

/-- `interface_check` -/
def interfaceCheck (ifNametoindex : CString → UInt32) (s : InterfaceTree) (iface : Nat) : Except Fault InterfaceTree := do
  let r ← s.record iface
  return { s with
    records := s.records.modify iface ({ · with ifindex := ifNametoindex r.name })
    reloadTimer := true }

/-- `interface_init` -/
def interfaceInit (ifNametoindex : CString → UInt32) (s : InterfaceTree) (iface : Nat) : Except Fault InterfaceTree :=
  s.interfaceCheck ifNametoindex iface

/-- `interface_free` -/
def interfaceFree (s : InterfaceTree) (iface : Nat) : Except Fault InterfaceTree := do
  let r ← s.record iface
  { s with tree := s.tree.delete r.name }.free iface

/-- `interfaces_update_cb` -/
def interfacesUpdateCb (ifNametoindex : CString → UInt32) (s : InterfaceTree) (nodeNew nodeOld : Option Nat) :
    Except Fault InterfaceTree :=
  match nodeNew, nodeOld with
  | some new, some old => do
    let s ← s.free new
    s.interfaceCheck ifNametoindex old
  | none, some old => s.interfaceFree old
  | some new, none => s.interfaceInit ifNametoindex new
  | none, none => .error .nullPointer

/-- `usteer_interface_add` -/
def usteerInterfaceAdd (ifNametoindex : CString → UInt32) (s : InterfaceTree) (name : CString) : Except Fault InterfaceTree :=
  let iface := s.records.next
  let old := (s.tree.find? name).map Vlist.Node.value
  { s with tree := s.tree.add name iface, records := s.records.alloc ⟨name, 0⟩ }.interfacesUpdateCb ifNametoindex iface old

/-- `config_set_interfaces`, whose list may hold other things than strings. -/
def configSetInterfaces (ifNametoindex : CString → UInt32) (s : InterfaceTree) (data : Option (List CString)) :
    Except Fault InterfaceTree :=
  match data with
  | none => .ok s
  | some names => do
    let s ← names.foldlM (fun s name => s.usteerInterfaceAdd ifNametoindex name) { s with tree := s.tree.update }
    s.tree.stale.foldlM (fun s node => s.interfacesUpdateCb ifNametoindex none (some node.value)) s

/-- The walk of `interface_find_by_ifindex`. -/
def findByIfindex (s : InterfaceTree) (index : UInt32) : List (Vlist.Node CString Nat) → Except Fault (Option Nat)
  | [] => .ok none
  | node :: rest => do
    let r ← s.record node.value
    if r.ifindex = index then
      return some node.value
    s.findByIfindex index rest

/-- `interface_find_by_ifindex` -/
def interfaceFindByIfindex (s : InterfaceTree) (index : UInt32) : Except Fault (Option Nat) :=
  s.findByIfindex index s.tree.nodes

/-- `usteer_update_send` with `interface_send_msg`: the scopes that a message is sent to. -/
def usteerUpdateSend (cfg : Config) (s : InterfaceTree) : Except Fault (List UInt32) := do
  let scopes ← s.tree.nodes.mapM fun node => Interface.ifindex <$> s.record node.value
  return if cfg.remoteDisabled then [] else scopes

/-! ### The list and its records -/

/-- The names of the interfaces. -/
def names (s : InterfaceTree) : List CString := s.tree.nodes.map Vlist.Node.key

/-- The index of the interface with a name. -/
def index (s : InterfaceTree) (name : CString) : Option UInt32 :=
  (s.tree.find? name).bind fun node => (s.records.get? node.value).map Interface.ifindex

/-- The nodes are those of the records, under their names. -/
structure Filed (s : InterfaceTree) : Prop where
  ordered : s.tree.Ordered
  live : ∀ node ∈ s.tree.nodes, ∃ r, s.records.get? node.value = some r ∧ r.name = node.key
  filed : ∀ iface r, s.records.get? iface = some r → ∃ node ∈ s.tree.nodes, node.value = iface

variable {s : InterfaceTree} {ifNametoindex : CString → UInt32} {name : CString} {iface : Nat} {r : Interface}
  {node : Vlist.Node CString Nat}

theorem filed_initial : initial.Filed := ⟨Vlist.ordered_empty, nofun, nofun⟩

theorem record_ok (live : s.records.get? iface = some r) : s.record iface = .ok r := by
  unfold record
  rw [live]

/-- Two nodes do not share a record. -/
theorem Filed.distinct (filed : s.Filed) {other : Vlist.Node CString Nat} (inside : node ∈ s.tree.nodes)
    (there : other ∈ s.tree.nodes) (same : node.value = other.value) : node = other := by
  obtain ⟨r, live, named⟩ := filed.live node inside
  obtain ⟨r', live', named'⟩ := filed.live other there
  rw [same, live'] at live
  cases live
  exact List.inj_on_of_nodup_map (Vlist.nodup_keys filed.ordered) inside there (named.symm.trans named')

theorem Filed.record_of_find (filed : s.Filed) (found : s.tree.find? name = some node) :
    ∃ r, s.records.get? node.value = some r ∧ r.name = name := by
  obtain ⟨inside, same⟩ := (Vlist.find?_eq_some_iff filed.ordered).mp found
  rw [← same]
  exact filed.live node inside

/-- An index is that of the record in the node with the name. -/
theorem index_eq_some_iff {i : UInt32} :
    s.index name = some i ↔ ∃ node r, s.tree.find? name = some node ∧ s.records.get? node.value = some r ∧ r.ifindex = i := by
  simp [index, Option.bind_eq_some_iff, Option.map_eq_some_iff]

theorem Filed.index_of_mem (filed : s.Filed) (inside : node ∈ s.tree.nodes) (live : s.records.get? node.value = some r) :
    s.index node.key = some r.ifindex :=
  index_eq_some_iff.mpr ⟨node, r, (Vlist.find?_eq_some_iff filed.ordered).mpr ⟨inside, rfl⟩, live, rfl⟩

/-- The interfaces with an index are those with a node. -/
theorem Filed.mem_names (filed : s.Filed) : name ∈ s.names ↔ (s.index name).isSome := by
  rw [Option.isSome_iff_exists]
  constructor
  · intro listed
    obtain ⟨node, inside, rfl⟩ := List.mem_map.mp listed
    obtain ⟨r, live, _⟩ := filed.live node inside
    exact ⟨r.ifindex, filed.index_of_mem inside live⟩
  · rintro ⟨i, indexed⟩
    obtain ⟨node, _, found, _⟩ := index_eq_some_iff.mp indexed
    obtain ⟨inside, same⟩ := (Vlist.find?_eq_some_iff filed.ordered).mp found
    exact List.mem_map.mpr ⟨node, inside, same⟩

/-! ### Additions -/

/-- What an addition does. -/
structure Added (ifNametoindex : CString → UInt32) (name : CString) (s s' : InterfaceTree) : Prop where
  filed : s'.Filed
  tree : s'.tree = s.tree.add name s.records.next
  index : s'.index = update s.index name (some (ifNametoindex name))
  reload : s'.reloadTimer = true

theorem names_add (iface : Nat) (tree : Vlist.Tree CString Nat) : (tree.add name iface).nodes.map Vlist.Node.key =
    addInterface name (tree.nodes.map Vlist.Node.key) := by
  unfold Vlist.Tree.add
  dsimp only
  induction tree.nodes with
  | nil => rfl
  | cons first rest ih =>
    simp only [Vlist.Tree.place, List.map_cons, addInterface]
    split
    · rfl
    · split
      · rfl
      · rw [List.map_cons, ih]

/-- The nodes after an addition, with the record that the tree keeps under the name. -/
theorem find?_added (filed : s.Filed) (name k : CString) : (s.tree.add name s.records.next).find? k =
    if k = name then some ⟨name, s.tree.version, ((s.tree.find? name).map Vlist.Node.value).getD s.records.next⟩
    else s.tree.find? k :=
  Vlist.find?_add filed.ordered

/-- An addition leaves the records under the other names, and a record with the index that
    the kernel gave under the name. -/
theorem added_of_records {records : Heap Interface} (kept : Nat) (filed : s.Filed)
    (keeps : ((s.tree.find? name).map Vlist.Node.value).getD s.records.next = kept)
    (here : records.get? kept = some ⟨name, ifNametoindex name⟩)
    (others : ∀ iface, iface ≠ kept → records.get? iface = s.records.get? iface) :
    Added ifNametoindex name s ⟨s.tree.add name s.records.next, records, true⟩ := by
  have apart : ∀ {k node}, k ≠ name → s.tree.find? k = some node → node.value ≠ kept := by
    intro k node other found same
    obtain ⟨r, live, named⟩ := filed.record_of_find found
    cases old : s.tree.find? name with
    | none =>
      rw [old] at keeps
      exact Heap.ne_next live (same.trans keeps.symm)
    | some before =>
      rw [old] at keeps
      obtain ⟨r', live', named'⟩ := filed.record_of_find old
      have keeps : before.value = kept := keeps
      rw [same, ← keeps, live'] at live
      cases live
      exact other (named.symm.trans named')
  refine ⟨⟨filed.ordered.add, ?_, ?_⟩, rfl, ?_, rfl⟩
  · intro node inside
    have found := (Vlist.find?_eq_some_iff filed.ordered.add).mpr ⟨inside, rfl⟩
    rw [find?_added filed, keeps] at found
    by_cases same : node.key = name
    · rw [if_pos same] at found
      cases found
      exact ⟨_, here, rfl⟩
    · rw [if_neg same] at found
      obtain ⟨r, live, named⟩ := filed.record_of_find found
      exact ⟨r, (others _ (apart same found)).trans live, named⟩
  · intro iface r live
    by_cases same : iface = kept
    · have found := find?_added filed name name
      rw [if_pos rfl, keeps] at found
      exact ⟨_, ((Vlist.find?_eq_some_iff filed.ordered.add).mp found).1, same.symm⟩
    · rw [others iface same] at live
      obtain ⟨node, inside, rfl⟩ := filed.filed iface r live
      have other : node.key ≠ name := by
        rintro rfl
        rw [(Vlist.find?_eq_some_iff filed.ordered).mpr ⟨inside, rfl⟩] at keeps
        exact same keeps
      have found := find?_added filed name node.key
      rw [if_neg other, (Vlist.find?_eq_some_iff filed.ordered).mpr ⟨inside, rfl⟩] at found
      exact ⟨node, ((Vlist.find?_eq_some_iff filed.ordered.add).mp found).1, rfl⟩
  · funext k
    by_cases same : k = name
    · rw [same, update_self, index, find?_added filed, if_pos rfl, keeps]
      simp [here]
    · rw [update_of_ne same, index, find?_added filed, if_neg same, index]
      cases found : s.tree.find? k with
      | none => rfl
      | some node => simp [others _ (apart same found)]

theorem post_usteerInterfaceAdd (filed : s.Filed) :
    Post (fun _ => False) (s.usteerInterfaceAdd ifNametoindex name) (Added ifNametoindex name s) := by
  unfold usteerInterfaceAdd
  dsimp only
  cases old : s.tree.find? name with
  | none =>
    -- the new record stays
    simp only [Option.map_none, interfacesUpdateCb, interfaceInit, interfaceCheck]
    rw [record_ok (r := ⟨name, 0⟩) (by simp [Heap.get?_alloc]), ok_bind]
    refine added_of_records s.records.next filed (by simp [old]) ?_ fun iface other => ?_
    · simp [Heap.get?_modify, Heap.get?_alloc]
    · simp [Heap.get?_modify, Heap.get?_alloc, other]
  | some before =>
    -- the new record is given back, and the old one is looked up again
    obtain ⟨r, live, rfl⟩ := filed.record_of_find old
    have fresh := Heap.ne_next live
    simp only [Option.map_some, interfacesUpdateCb, free]
    rw [record_ok (r := ⟨r.name, 0⟩) (by simp [Heap.get?_alloc]), ok_bind, pure_bind]
    unfold interfaceCheck
    rw [record_ok (r := r) (by simp [Heap.get?_free, Heap.get?_alloc, fresh, live]), ok_bind]
    refine added_of_records before.value filed (by simp [old]) ?_ fun iface other => ?_
    · simp [Heap.get?_modify, Heap.get?_free, Heap.get?_alloc, fresh, live]
    · by_cases new : iface = s.records.next
      · simp [Heap.get?_modify, Heap.get?_free, Ne.symm fresh, new]
      · simp [Heap.get?_modify, Heap.get?_free, Heap.get?_alloc, other, new]

/-! ### Updates -/

/-- What the additions of an update do. -/
structure Refreshed (ifNametoindex : CString → UInt32) (list : List CString) (s s' : InterfaceTree) : Prop where
  filed : s'.Filed
  version : s'.tree.version = s.tree.version
  index : ∀ k, s'.index k = if k ∈ list then some (ifNametoindex k) else s.index k
  current : ∀ k ∈ list, ∃ node, s'.tree.find? k = some node ∧ node.version = s.tree.version
  others : ∀ k, k ∉ list → s'.tree.find? k = s.tree.find? k

theorem Added.refreshed {s' : InterfaceTree} (filed : s.Filed) (added : Added ifNametoindex name s s') :
    Refreshed ifNametoindex [name] s s' := by
  have found : ∀ k, s'.tree.find? k = _ := fun k => (congrArg (fun t => t.find? k) added.tree).trans (find?_added filed name k)
  refine ⟨added.filed, ?_, ?_, ?_, ?_⟩
  · rw [added.tree]
    rfl
  · intro k
    rw [added.index]
    by_cases same : k = name
    · simp [same]
    · simp [same]
  · intro k inside
    rw [List.mem_singleton.mp inside, found, if_pos rfl]
    exact ⟨_, rfl, rfl⟩
  · intro k other
    rw [found, if_neg (by simpa using other)]

theorem Refreshed.append {list list' : List CString} {s₁ s₂ : InterfaceTree} (first : Refreshed ifNametoindex list s s₁)
    (second : Refreshed ifNametoindex list' s₁ s₂) : Refreshed ifNametoindex (list ++ list') s s₂ := by
  refine ⟨second.filed, second.version.trans first.version, ?_, ?_, ?_⟩
  · intro k
    rw [second.index, first.index]
    by_cases late : k ∈ list'
    · simp [late]
    · simp [late]
  · intro k inside
    by_cases late : k ∈ list'
    · rw [← first.version]
      exact second.current k late
    · rw [second.others k late]
      exact first.current k ((List.mem_append.mp inside).resolve_right late)
  · intro k outside
    rw [List.mem_append, not_or] at outside
    rw [second.others k outside.2, first.others k outside.1]

theorem refreshed_self (filed : s.Filed) : Refreshed ifNametoindex [] s s :=
  ⟨filed, rfl, by simp, by simp, fun _ _ => rfl⟩

theorem post_additions (list : List CString) (filed : s.Filed) :
    Post (fun _ => False) (list.foldlM (fun s name => s.usteerInterfaceAdd ifNametoindex name) s)
      (Refreshed ifNametoindex list s) := by
  induction list generalizing s with
  | nil => exact refreshed_self filed
  | cons first rest ih =>
    rw [List.foldlM_cons, post_bind]
    refine (post_usteerInterfaceAdd filed).mono fun s₁ added => ?_
    exact (ih added.filed).mono fun s₂ refreshed => (added.refreshed filed).append refreshed

/-- What the deletion of nodes does. -/
structure Dropped (nodes : List (Vlist.Node CString Nat)) (s s' : InterfaceTree) : Prop where
  filed : s'.Filed
  tree : s'.tree = nodes.foldl (fun t node => t.delete node.key) s.tree
  records : ∀ iface, (∀ node ∈ nodes, node.value ≠ iface) → s'.records.get? iface = s.records.get? iface

theorem post_drop (filed : s.Filed) (inside : node ∈ s.tree.nodes) :
    Post (fun _ => False) (s.interfacesUpdateCb ifNametoindex none (some node.value)) (Dropped [node] s) := by
  obtain ⟨r, live, named⟩ := filed.live node inside
  show Post _ (s.interfaceFree node.value) _
  unfold interfaceFree free
  rw [record_ok live, ok_bind, named, record_ok (s := { s with tree := s.tree.delete node.key }) live, ok_bind]
  have remains : ∀ other, other ∈ (s.tree.delete node.key).nodes ↔ other ∈ s.tree.nodes ∧ other.key ≠ node.key := by
    simp [Vlist.Tree.delete]
  refine ⟨⟨filed.ordered.delete, ?_, ?_⟩, rfl, ?_⟩
  · intro other there
    obtain ⟨there, apart⟩ := (remains other).mp there
    obtain ⟨r', live', named'⟩ := filed.live other there
    have differ : other.value ≠ node.value := fun same => apart (congrArg _ (filed.distinct there inside same))
    exact ⟨r', by simpa [Heap.get?_free, differ] using live', named'⟩
  · intro iface r' live'
    by_cases same : iface = node.value
    · simp [Heap.get?_free, same] at live'
    · rw [Heap.get?_free, if_neg same] at live'
      obtain ⟨other, there, rfl⟩ := filed.filed iface r' live'
      refine ⟨other, (remains other).mpr ⟨there, fun alike => same ?_⟩, rfl⟩
      rw [List.inj_on_of_nodup_map (Vlist.nodup_keys filed.ordered) there inside alike]
  · intro iface apart
    simp [Heap.get?_free, Ne.symm (apart node List.mem_cons_self)]

theorem post_drops (nodes : List (Vlist.Node CString Nat)) (distinct : (nodes.map Vlist.Node.key).Nodup)
    (filed : s.Filed) (inside : ∀ node ∈ nodes, node ∈ s.tree.nodes) :
    Post (fun _ => False) (nodes.foldlM (fun s node => s.interfacesUpdateCb ifNametoindex none (some node.value)) s)
      (Dropped nodes s) := by
  induction nodes generalizing s with
  | nil => exact ⟨filed, rfl, fun _ _ => rfl⟩
  | cons first rest ih =>
    rw [List.map_cons, List.nodup_cons] at distinct
    rw [List.foldlM_cons, post_bind]
    refine (post_drop filed (inside first List.mem_cons_self)).mono fun s₁ dropped => ?_
    have remain : ∀ node ∈ rest, node ∈ s₁.tree.nodes := by
      intro node later
      rw [dropped.tree]
      refine List.mem_filter.mpr ⟨inside node (List.mem_cons_of_mem _ later), ?_⟩
      have apart : node.key ≠ first.key := fun same => distinct.1 (List.mem_map.mpr ⟨node, later, same⟩)
      simpa using apart
    refine (ih distinct.2 dropped.filed remain).mono fun s₂ others => ⟨others.filed, ?_, ?_⟩
    · rw [others.tree, dropped.tree]
      rfl
    · intro iface apart
      rw [others.records iface fun node later => apart node (List.mem_cons_of_mem _ later)]
      exact dropped.records iface (by simpa using apart first List.mem_cons_self)

/-- What a flush does. -/
structure Flushed (s s' : InterfaceTree) : Prop where
  filed : s'.Filed
  tree : s'.tree = s.tree.flush
  records : ∀ node ∈ s.tree.nodes, node.version = s.tree.version → s'.records.get? node.value = s.records.get? node.value

theorem post_flush (filed : s.Filed) :
    Post (fun _ => False) (s.tree.stale.foldlM (fun s node => s.interfacesUpdateCb ifNametoindex none (some node.value)) s)
      (Flushed s) := by
  have distinct : (s.tree.stale.map Vlist.Node.key).Nodup :=
    (Vlist.nodup_keys filed.ordered).sublist ((List.filter_sublist).map _)
  refine (post_drops s.tree.stale distinct filed fun node old => List.mem_of_mem_filter old).mono fun s' dropped => ?_
  refine ⟨dropped.filed, dropped.tree.trans (Vlist.delete_stale filed.ordered), fun node inside current => ?_⟩
  refine dropped.records node.value fun other old same => ?_
  obtain ⟨there, old⟩ := List.mem_filter.mp old
  rw [filed.distinct there inside same] at old
  exact of_decide_eq_true old current

/-- What new interfaces do: those listed have the index that the kernel gave, and the others
    are gone. -/
structure Replaced (ifNametoindex : CString → UInt32) (list : List CString) (s s' : InterfaceTree) : Prop where
  filed : s'.Filed
  index : ∀ k, s'.index k = if k ∈ list then some (ifNametoindex k) else none

theorem post_configSetInterfaces (list : List CString) (filed : s.Filed) :
    Post (fun _ => False) (s.configSetInterfaces ifNametoindex (some list)) (Replaced ifNametoindex list s) := by
  unfold configSetInterfaces
  dsimp only
  have begun : { s with tree := s.tree.update }.Filed := ⟨filed.ordered.update, filed.live, filed.filed⟩
  rw [post_bind]
  refine (post_additions list begun).mono fun s₁ refreshed => ?_
  refine (post_flush refreshed.filed).mono fun s₂ flushed => ?_
  have found : ∀ k, s₂.tree.find? k = if k ∈ list then s₁.tree.find? k else none := by
    intro k
    rw [flushed.tree, Vlist.find?_flush refreshed.filed.ordered]
    by_cases listed : k ∈ list
    · obtain ⟨node, here, current⟩ := refreshed.current k listed
      rw [if_pos listed, here, Option.filter_some, if_pos (by simpa [refreshed.version] using current)]
    · rw [if_neg listed, refreshed.others k listed]
      cases here : s.tree.update.find? k with
      | none => rfl
      | some node =>
        have old := Vlist.old_update filed.ordered here
        rw [Option.filter_some, if_neg (by simpa [refreshed.version] using old)]
  refine ⟨flushed.filed, fun k => ?_⟩
  by_cases listed : k ∈ list
  · have same := refreshed.index k
    rw [if_pos listed] at same
    rw [if_pos listed, ← same, index, found, if_pos listed, index]
    obtain ⟨node, here, current⟩ := refreshed.current k listed
    rw [here, Option.bind_some, Option.bind_some, flushed.records node
      ((Vlist.find?_eq_some_iff refreshed.filed.ordered).mp here).1 (current.trans refreshed.version.symm)]
  · rw [if_neg listed, index, found, if_neg listed]
    rfl

/-! ### Walks -/

/-- The search for an index finds whether an interface has it. -/
theorem find_index (filed : s.Filed) (i : UInt32) :
    ∃ r, s.interfaceFindByIfindex i = .ok r ∧ (r.isSome ↔ ∃ name ∈ s.names, s.index name = some i) := by
  have walk : ∀ nodes, (∀ node ∈ nodes, node ∈ s.tree.nodes) →
      ∃ r, s.findByIfindex i nodes = .ok r ∧ (r.isSome ↔ ∃ node ∈ nodes, s.index node.key = some i) := by
    intro nodes inside
    induction nodes with
    | nil => exact ⟨none, rfl, by simp⟩
    | cons first rest ih =>
      rw [List.forall_mem_cons] at inside
      obtain ⟨r, live, _⟩ := filed.live first inside.1
      have here := filed.index_of_mem inside.1 live
      unfold findByIfindex
      rw [record_ok live, ok_bind]
      by_cases same : r.ifindex = i
      · exact ⟨some first.value, by simp [same]; rfl, by simp [here, same]⟩
      · obtain ⟨found, walked, hit⟩ := ih inside.2
        exact ⟨found, by simpa [same] using walked, by simp [here, same, hit]⟩
  obtain ⟨r, walked, hit⟩ := walk s.tree.nodes fun _ inside => inside
  refine ⟨r, walked, hit.trans ?_⟩
  simp [names]

end InterfaceTree

end Usteer
