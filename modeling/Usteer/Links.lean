import Usteer.Model
import Usteer.Owners

/-!
The station table as a graph. A `Table` keeps of the daemon's state only who refers
to whom: the stations with their address and list of entries, the entries with their
owners, the nodes with their list of entries. `Linked` says that these references
agree with each other, `Registered` that the live nodes are the indexed ones. The
operations on a table mirror the daemon's (`addSta`, `addEntry`, `removeEntry`,
`addNode`, `removeNode`), and each keeps both.
-/
namespace Usteer
open Function Owners

/-- Who refers to whom; a node carries whether it is a local one. -/
@[ext] structure Table where
  stations : List StaId
  sta : StaId → Option (MacAddr × List SiId)
  entry : SiId → Option (StaId × NodeId)
  node : NodeId → Option (Bool × List SiId)
  locals : List NodeId
  remotes : List NodeId

/-- The references agree: stations are indexed once and by distinct addresses, every
    entry is in exactly the lists of its own live station and node, a pair of them
    has one entry at most, and only the station `vacant`, in the making, has none. -/
structure Linked (vacant : Option StaId) (t : Table) : Prop where
  indexed : ∀ s, s ∈ t.stations ↔ ∃ x, t.sta s = some x
  stations_nodup : t.stations.Nodup
  addr_unique : ∀ {s s' a l l'}, t.sta s = some (a, l) → t.sta s' = some (a, l') → s = s'
  bySta : Listed (Option.map Prod.fst ∘ t.entry) (Option.map Prod.snd ∘ t.sta)
  byNode : Listed (Option.map Prod.snd ∘ t.entry) (Option.map Prod.snd ∘ t.node)
  pair_unique : ∀ {si si' s n}, t.entry si = some (s, n) → t.entry si' = some (s, n) → si = si'
  occupied : ∀ {s a}, t.sta s = some (a, []) → vacant = some s

/-- The live nodes are those of the two indexes, each in the index of its kind. -/
structure Registered (t : Table) : Prop where
  locals_nodup : t.locals.Nodup
  remotes_nodup : t.remotes.Nodup
  inLocals : ∀ n, n ∈ t.locals ↔ (t.node n).map Prod.fst = some true
  inRemotes : ∀ n, n ∈ t.remotes ↔ (t.node n).map Prod.fst = some false

namespace Table

/-- A new station without entries. -/
def addSta (t : Table) (s : StaId) (addr : MacAddr) : Table :=
  { t with stations := s :: t.stations, sta := update t.sta s (some (addr, [])) }

/-- A new entry, first in both lists. -/
def addEntry (t : Table) (si : SiId) (s : StaId) (n : NodeId) : Table :=
  { t with
    entry := update t.entry si (some (s, n))
    sta := update t.sta s ((t.sta s).map (fun x => (x.1, si :: x.2)))
    node := update t.node n ((t.node n).map (fun x => (x.1, si :: x.2))) }

/-- An entry leaves both lists. -/
def unlink (t : Table) (si : SiId) (s : StaId) (n : NodeId) : Table :=
  { t with
    entry := update t.entry si none
    sta := update t.sta s ((t.sta s).map (fun x => (x.1, x.2.erase si)))
    node := update t.node n ((t.node n).map (fun x => (x.1, x.2.erase si))) }

/-- A station goes. -/
def removeSta (t : Table) (s : StaId) : Table :=
  { t with stations := t.stations.erase s, sta := update t.sta s none }

/-- An entry goes, and with the last one its station. -/
def removeEntry (t : Table) (si : SiId) (s : StaId) (n : NodeId) : Table :=
  if ((t.unlink si s n).sta s).any (fun x => x.2.isEmpty) then (t.unlink si s n).removeSta s else t.unlink si s n

/-- A new node without entries. -/
def addNode (t : Table) (n : NodeId) (isLocal : Bool) : Table :=
  { t with node := update t.node n (some (isLocal, [])) }

/-- A node goes. -/
def removeNode (t : Table) (n : NodeId) : Table := { t with node := update t.node n none }

end Table

open Table

variable {vacant : Option StaId} {t : Table}

namespace Linked

/-- The station of an entry is live and lists it. -/
theorem inSta {si : SiId} {s : StaId} {n : NodeId} (links : Linked vacant t) (entry : t.entry si = some (s, n)) :
    ∃ a l, t.sta s = some (a, l) ∧ si ∈ l := by
  obtain ⟨l, found, inside⟩ := links.bySta.inside (i := si) (k := s) (by simp [entry])
  obtain ⟨⟨a, l'⟩, at_s, rfl⟩ := Option.map_eq_some_iff.mp found
  exact ⟨a, l', at_s, inside⟩

/-- The node of an entry is live and lists it. -/
theorem inNode {si : SiId} {s : StaId} {n : NodeId} (links : Linked vacant t) (entry : t.entry si = some (s, n)) :
    ∃ b l, t.node n = some (b, l) ∧ si ∈ l := by
  obtain ⟨l, found, inside⟩ := links.byNode.inside (i := si) (k := n) (by simp [entry])
  obtain ⟨⟨b, l'⟩, at_n, rfl⟩ := Option.map_eq_some_iff.mp found
  exact ⟨b, l', at_n, inside⟩

/-- What a station lists are its own live entries. -/
theorem ofSta {s : StaId} {a : MacAddr} {l : List SiId} {si : SiId} (links : Linked vacant t)
    (sta : t.sta s = some (a, l)) (inside : si ∈ l) : ∃ n, t.entry si = some (s, n) := by
  have owns := links.bySta.owned (k := s) (l := l) (by simp [sta]) inside
  obtain ⟨⟨s', n⟩, found, rfl⟩ := Option.map_eq_some_iff.mp owns
  exact ⟨n, found⟩

/-- What a node lists are its own live entries. -/
theorem ofNode {n : NodeId} {b : Bool} {l : List SiId} {si : SiId} (links : Linked vacant t)
    (node : t.node n = some (b, l)) (inside : si ∈ l) : ∃ s, t.entry si = some (s, n) := by
  have owns := links.byNode.owned (k := n) (l := l) (by simp [node]) inside
  obtain ⟨⟨s, n'⟩, found, rfl⟩ := Option.map_eq_some_iff.mp owns
  exact ⟨s, found⟩

end Linked

/-- The indexes of nodes play no part in the links. -/
theorem linked_reindex (links : Linked vacant t) (locals remotes : List NodeId) :
    Linked vacant { t with locals := locals, remotes := remotes } :=
  ⟨links.indexed, links.stations_nodup, links.addr_unique, links.bySta, links.byNode, links.pair_unique, links.occupied⟩

theorem linked_addSta {s : StaId} {addr : MacAddr} (links : Linked none t) (unused : t.sta s = none)
    (fresh : ∀ s' l, t.sta s' ≠ some (addr, l)) : Linked (some s) (t.addSta s addr) where
  indexed s' := by
    by_cases same : s' = s
    · subst same; simp [addSta]
    · simp [addSta, same, links.indexed s']
  stations_nodup := by
    refine List.nodup_cons.mpr ⟨fun inside => ?_, links.stations_nodup⟩
    obtain ⟨x, found⟩ := (links.indexed s).mp inside
    rw [unused] at found
    cases found
  addr_unique := by
    intro s1 s2 a l l' at1 at2
    simp only [addSta, update_apply] at at1 at2
    split at at1 <;> split at at2
    · simp_all
    · cases at1
      exact absurd at2 (fresh _ _)
    · cases at2
      exact absurd at1 (fresh _ _)
    · exact links.addr_unique at1 at2
  bySta := by
    rw [addSta, comp_update]
    exact links.bySta.open (by simp [unused])
  byNode := links.byNode
  pair_unique e1 e2 := links.pair_unique e1 e2
  occupied := by
    intro s' a at'
    simp only [addSta, update_apply] at at'
    split at at'
    · rename_i same
      rw [same]
    · cases links.occupied at'

theorem linked_addEntry {si : SiId} {s : StaId} {n : NodeId} {a : MacAddr} {l : List SiId} {b : Bool} {m : List SiId}
    (links : Linked vacant t) (own : ∀ s', vacant = some s' → s' = s) (unused : t.entry si = none)
    (sta : t.sta s = some (a, l)) (node : t.node n = some (b, m)) (fresh : ∀ si', t.entry si' ≠ some (s, n)) :
    Linked none (t.addEntry si s n) where
  indexed s' := by
    by_cases same : s' = s
    · subst same; simp [addEntry, sta, links.indexed s']
    · simp [addEntry, same, links.indexed s']
  stations_nodup := links.stations_nodup
  addr_unique := by
    intro s1 s2 a' l1 l2 at1 at2
    simp only [addEntry, update_apply, sta, Option.map_some] at at1 at2
    split at at1 <;> split at at2
    · simp_all
    · rename_i same _
      cases at1
      rw [same]
      exact links.addr_unique sta at2
    · rename_i same
      cases at2
      rw [same]
      exact links.addr_unique at1 sta
    · exact links.addr_unique at1 at2
  bySta := by
    rw [addEntry, comp_update, comp_update]
    simp only [sta, Option.map_some]
    exact links.bySta.join (by simp [unused]) (by simp [sta])
  byNode := by
    rw [addEntry, comp_update, comp_update]
    simp only [node, Option.map_some]
    exact links.byNode.join (by simp [unused]) (by simp [node])
  pair_unique := by
    intro s1 s2 s' n' e1 e2
    simp only [addEntry, update_apply] at e1 e2
    split at e1 <;> split at e2
    · simp_all
    · cases e1
      exact absurd e2 (fresh _)
    · cases e2
      exact absurd e1 (fresh _)
    · exact links.pair_unique e1 e2
  occupied := by
    intro s' a' at'
    simp only [addEntry, update_apply, sta, Option.map_some] at at'
    split at at'
    · cases at'
    · rename_i ne
      exact absurd (own s' (links.occupied at')) ne

theorem linked_unlink {si : SiId} {s : StaId} {n : NodeId} (links : Linked none t)
    (entry : t.entry si = some (s, n)) : Linked (some s) (t.unlink si s n) := by
  obtain ⟨a, l, sta, _⟩ := links.inSta entry
  obtain ⟨b, m, node, _⟩ := links.inNode entry
  constructor
  · intro s'
    by_cases same : s' = s
    · subst same; simp [unlink, sta, links.indexed s']
    · simp [unlink, same, links.indexed s']
  · exact links.stations_nodup
  · intro s1 s2 a' l1 l2 at1 at2
    simp only [unlink, update_apply, sta, Option.map_some] at at1 at2
    split at at1 <;> split at at2
    · simp_all
    · rename_i same _
      cases at1
      rw [same]
      exact links.addr_unique sta at2
    · rename_i same
      cases at2
      rw [same]
      exact links.addr_unique at1 sta
    · exact links.addr_unique at1 at2
  · rw [unlink, comp_update, comp_update]
    simp only [sta, Option.map_some, Option.map_none]
    exact links.bySta.leave (by simp [entry]) (by simp [sta])
  · rw [unlink, comp_update, comp_update]
    simp only [node, Option.map_some, Option.map_none]
    exact links.byNode.leave (by simp [entry]) (by simp [node])
  · intro s1 s2 s' n' e1 e2
    simp only [unlink, update_apply] at e1 e2
    split at e1
    · cases e1
    · split at e2
      · cases e2
      · exact links.pair_unique e1 e2
  · intro s' a' at'
    simp only [unlink, update_apply] at at'
    split at at'
    · rename_i same
      rw [same]
    · cases links.occupied at'

theorem linked_removeSta {s : StaId} {a : MacAddr} (links : Linked (some s) t) (empty : t.sta s = some (a, [])) :
    Linked none (t.removeSta s) where
  indexed s' := by
    simp only [removeSta, links.stations_nodup.mem_erase_iff]
    by_cases same : s' = s
    · subst same; simp
    · simp [same, links.indexed s']
  stations_nodup := links.stations_nodup.erase s
  addr_unique := by
    intro s1 s2 a' l1 l2 at1 at2
    simp only [removeSta, update_apply] at at1 at2
    split at at1
    · cases at1
    · split at at2
      · cases at2
      · exact links.addr_unique at1 at2
  bySta := by
    rw [removeSta, comp_update]
    exact links.bySta.close (by simp [empty])
  byNode := links.byNode
  pair_unique e1 e2 := links.pair_unique e1 e2
  occupied := by
    intro s' a' at'
    simp only [removeSta, update_apply] at at'
    split at at'
    · cases at'
    · rename_i ne
      exact absurd (Option.some.inj (links.occupied at')).symm ne

theorem linked_removeEntry {si : SiId} {s : StaId} {n : NodeId} (links : Linked none t)
    (entry : t.entry si = some (s, n)) : Linked none (t.removeEntry si s n) := by
  have unlinked := linked_unlink links entry
  unfold removeEntry
  cases left : (t.unlink si s n).sta s with
  | none =>
    obtain ⟨a, l, sta, _⟩ := links.inSta entry
    simp [unlink, sta] at left
  | some x =>
    obtain ⟨a, l⟩ := x
    cases l with
    | nil => exact linked_removeSta unlinked left
    | cons first rest =>
      show Linked none (t.unlink si s n)
      refine { unlinked with occupied := ?_ }
      intro s' a' at'
      cases Option.some.inj (unlinked.occupied at')
      rw [left] at at'
      cases at'

theorem linked_addNode {n : NodeId} {isLocal : Bool} (links : Linked vacant t) (unused : t.node n = none) :
    Linked vacant (t.addNode n isLocal) := by
  refine { links with byNode := ?_ }
  rw [addNode, comp_update]
  exact links.byNode.open (by simp [unused])

theorem linked_removeNode {n : NodeId} {b : Bool} (links : Linked vacant t) (empty : t.node n = some (b, [])) :
    Linked vacant (t.removeNode n) := by
  refine { links with byNode := ?_ }
  rw [removeNode, comp_update]
  exact links.byNode.close (by simp [empty])

end Usteer
