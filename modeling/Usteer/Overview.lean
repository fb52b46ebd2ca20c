import Usteer.Mirror
import Usteer.Search

/-!
The replies that show everything: `get_clients` walks over the stations and their entries,
`local_info` and `remote_info` over the nodes. They follow references from list to list, and
`overview_complete` says that in every run these lead to all entries and all nodes, each
shown once, and never to one that was freed.
-/
namespace Usteer
open SearchTree Timeout Function Daemon

/-- What `get_clients` shows of an entry. -/
structure ClientNode where
  node : CString
  connected : Fin 4
  signal : Int32
  deriving DecidableEq

/-- What `usteer_dump_node_info` shows of a node. -/
structure NodeInfo where
  name : CString
  freq : Int32
  nAssoc : Int32
  noise : Int32
  load : Int32
  maxAssoc : Int32
  rrmNr : Option Blob
  deriving DecidableEq

namespace Daemon

/-- The inner loop body of `usteer_ubus_get_clients`. -/
def showClient (d : Daemon) (si : SiId) : Except Fault ClientNode := do
  let info ← d.info si
  let node ← d.node info.node
  return ⟨node.name, info.connected, info.signal⟩

/-- `usteer_ubus_get_clients` -/
def usteerUbusGetClients (d : Daemon) : Except Fault (List (MacAddr × List ClientNode)) :=
  d.stations.mapM fun s => do
    let sta ← d.sta s
    let nodes ← sta.nodes.mapM d.showClient
    return (sta.addr, nodes)

/-- `usteer_dump_node_info` -/
def usteerDumpNodeInfo (node : UsteerNode) : NodeInfo :=
  ⟨node.name, node.freq, node.nAssoc, node.noise, node.load, node.maxAssoc, node.rrmNr⟩

/-- `usteer_ubus_local_info` -/
def usteerUbusLocalInfo (d : Daemon) : Except Fault (List NodeInfo) :=
  d.localNodes.mapM fun n => usteerDumpNodeInfo <$> d.node n

/-- `usteer_ubus_remote_info` -/
def usteerUbusRemoteInfo (d : Daemon) : Except Fault (List NodeInfo) :=
  d.remoteList.mapM fun n => usteerDumpNodeInfo <$> d.node n

end Daemon

section Overview

variable {env : Platform} {meets : SystemInput → Prop} {s : System} {d : Daemon}

/-- The reply lists each station with its entries. -/
theorem shows_clients (sound : Sound none d) : ∃ reply, d.usteerUbusGetClients = .ok reply ∧
    List.Forall₂ (fun s shown => ∃ sta, d.stas.get? s = some sta ∧ shown.1 = sta.addr ∧
      List.Forall₂ (fun si entry => ∃ info node, d.infos.get? si = some info ∧ d.nodes.get? info.node = some node ∧
        entry = ⟨node.name, info.connected, info.signal⟩) sta.nodes shown.2) d.stations reply := by
  have linked := wellLinked_of_sound sound
  refine (post_mapM d.stations fun s inside => ?_).returns
  obtain ⟨sta, live⟩ := sta_of_stations sound.links inside
  rw [sta_ok live, ok_bind, post_bind]
  refine (post_mapM (Q := fun si entry => ∃ info node, d.infos.get? si = some info ∧
    d.nodes.get? info.node = some node ∧ entry = ⟨node.name, info.connected, info.signal⟩) sta.nodes fun si listed => ?_).mono
    fun nodes shown => ⟨sta, live, rfl, shown⟩
  obtain ⟨info, liveInfo, _⟩ := linked.inNoOtherSta live listed
  obtain ⟨node, liveNode, _⟩ := linked.inOwnNode liveInfo
  unfold showClient
  rw [info_ok liveInfo, ok_bind, node_ok liveNode]
  exact ⟨info, node, liveInfo, liveNode, rfl⟩

/-- The reply about nodes lists each of them. -/
theorem shows_nodes (nodes : List NodeId) (live : ∀ n ∈ nodes, ∃ node, d.nodes.get? n = some node) :
    ∃ reply, nodes.mapM (fun n => usteerDumpNodeInfo <$> d.node n) = .ok reply ∧
      List.Forall₂ (fun n shown => ∃ node, d.nodes.get? n = some node ∧ shown = usteerDumpNodeInfo node) nodes reply := by
  refine (post_mapM nodes fun n inside => ?_).returns
  obtain ⟨node, found⟩ := live n inside
  rw [node_ok found]
  exact ⟨node, found, rfl⟩

theorem nodup_shown {α β γ : Type} {R : α → β → Prop} {f : β → γ} {xs : List α} {ys : List β} (related : List.Forall₂ R xs ys)
    (once : xs.Nodup) (apart : ∀ {x x' y y'}, x ∈ xs → x' ∈ xs → R x y → R x' y' → f y = f y' → x = x') :
    (ys.map f).Nodup := by
  induction related with
  | nil => exact List.nodup_nil
  | @cons x y xs ys first others ih =>
    rw [List.nodup_cons] at once
    rw [List.map_cons, List.nodup_cons]
    refine ⟨fun again => ?_, ih once.2 fun inside inside' => apart (List.mem_cons_of_mem _ inside) (List.mem_cons_of_mem _ inside')⟩
    obtain ⟨y', inside, same⟩ := List.mem_map.mp again
    obtain ⟨x', inside', other⟩ := forall₂_right others y' inside
    rw [apart (List.mem_cons_of_mem _ inside') List.mem_cons_self other first same] at inside'
    exact once.1 inside'

theorem overview_clients (sound : Sound none d) : ∃ reply, d.usteerUbusGetClients = .ok reply ∧
    (reply.map Prod.fst).Nodup ∧ (∀ shown ∈ reply, shown.2 ≠ []) ∧
    ∀ addr entry, (∃ entries, (addr, entries) ∈ reply ∧ entry ∈ entries) ↔ ∃ n si info node, EntryOf d addr n si info ∧
      d.nodes.get? n = some node ∧ entry = ⟨node.name, info.connected, info.signal⟩ := by
  have linked := wellLinked_of_sound sound
  obtain ⟨reply, run, related⟩ := shows_clients sound
  refine ⟨reply, run, ?_, ?_, fun addr entry => ⟨?_, ?_⟩⟩
  · refine nodup_shown related sound.links.stations_nodup ?_
    rintro s s' shown shown' - - ⟨sta, live, named, -⟩ ⟨sta', live', named', -⟩ same
    exact linked.oneStaPerAddr live live' (by rw [← named, same, named'])
  · intro shown inside none
    obtain ⟨s, _, sta, live, _, entries⟩ := forall₂_right related shown inside
    rw [none] at entries
    exact linked.staOccupied live (List.forall₂_nil_right_iff.mp entries)
  · rintro ⟨entries, inside, listed⟩
    obtain ⟨s, _, sta, live, named, shown⟩ := forall₂_right related _ inside
    obtain ⟨si, here, info, node, liveInfo, liveNode, rfl⟩ := forall₂_right shown entry listed
    obtain ⟨info', liveInfo', owner⟩ := linked.inNoOtherSta live here
    rw [liveInfo] at liveInfo'
    cases liveInfo'
    exact ⟨info.node, si, info, node, ⟨liveInfo, rfl, sta, by rw [owner, live], named.symm⟩, liveNode, rfl⟩
  · rintro ⟨n, si, info, node, ⟨liveInfo, rfl, sta, live, rfl⟩, liveNode, rfl⟩
    have indexed := (linked.staIndexed info.sta).mp (Option.isSome_iff_exists.mpr ⟨sta, live⟩)
    obtain ⟨shown, inside, sta', live', named, entries⟩ := forall₂_left related info.sta indexed
    rw [live] at live'
    cases live'
    obtain ⟨sta', live', once⟩ := linked.inOwnSta liveInfo
    rw [live] at live'
    cases live'
    have listed : si ∈ sta.nodes := List.count_pos_iff.mp (by omega)
    obtain ⟨entry, here, info', node', liveInfo', liveNode', rfl⟩ := forall₂_left entries si listed
    rw [liveInfo] at liveInfo'
    cases liveInfo'
    rw [liveNode] at liveNode'
    cases liveNode'
    exact ⟨shown.2, by rw [← named]; exact inside, here⟩

theorem overview_nodes {nodes : List NodeId} {isLocal : Bool}
    (listed : ∀ n, n ∈ nodes ↔ ∃ node, d.nodes.get? n = some node ∧ node.isLocal = isLocal) :
    ∃ reply, nodes.mapM (fun n => usteerDumpNodeInfo <$> d.node n) = .ok reply ∧
      List.Forall₂ (fun n shown => ∃ node, d.nodes.get? n = some node ∧ shown = usteerDumpNodeInfo node) nodes reply ∧
      ∀ shown, shown ∈ reply ↔ ∃ n node, d.nodes.get? n = some node ∧ node.isLocal = isLocal ∧
        shown = usteerDumpNodeInfo node := by
  obtain ⟨reply, run, related⟩ := shows_nodes nodes fun n inside => ((listed n).mp inside).imp fun _ both => both.1
  refine ⟨reply, run, related, fun shown => ⟨fun inside => ?_, ?_⟩⟩
  · obtain ⟨n, here, node, live, rfl⟩ := forall₂_right related shown inside
    obtain ⟨node', live', kind⟩ := (listed n).mp here
    rw [live] at live'
    cases live'
    exact ⟨n, node, live, kind, rfl⟩
  · rintro ⟨n, node, live, kind, rfl⟩
    obtain ⟨shown, inside, node', live', rfl⟩ := forall₂_left related n ((listed n).mpr ⟨node, live, kind⟩)
    rw [live] at live'
    cases live'
    exact inside

theorem System.Reachable.namesUnique (reach : System.Reachable env meets s) : NamesUnique s.daemon := by
  refine (reach.daemon (P := NamesUnique) ?_ ?_ fun _ names => names).2
  · intro localId clock n n' node node' inside
    cases inside
  · intro cfg d d' input sound accepts run names
    rcases (post_handle sound accepts).of_ok run with ⟨ms, _, rfl⟩ | evolves
    · exact names
    · exact namesUnique_evolves names sound evolves

/-- In every run the replies return and are complete: `get_clients` shows every station
    once, none without entries, and exactly the entries that exist; `local_info` shows
    every local node under a name of its own, and `remote_info` every remote node. -/
theorem overview_complete (reach : System.Reachable env meets s) :
    (∃ reply, s.daemon.usteerUbusGetClients = .ok reply ∧ (reply.map Prod.fst).Nodup ∧ (∀ shown ∈ reply, shown.2 ≠ []) ∧
      ∀ addr entry, (∃ entries, (addr, entries) ∈ reply ∧ entry ∈ entries) ↔
        ∃ n si info node, EntryOf s.daemon addr n si info ∧ s.daemon.nodes.get? n = some node ∧
          entry = ⟨node.name, info.connected, info.signal⟩) ∧
    (∃ reply, s.daemon.usteerUbusLocalInfo = .ok reply ∧ (reply.map NodeInfo.name).Nodup ∧
      ∀ shown, shown ∈ reply ↔ ∃ n node, s.daemon.nodes.get? n = some node ∧ node.isLocal = true ∧
        shown = usteerDumpNodeInfo node) ∧
    (∃ reply, s.daemon.usteerUbusRemoteInfo = .ok reply ∧ reply.length = s.daemon.remoteList.length ∧
      ∀ shown, shown ∈ reply ↔ ∃ n node, s.daemon.nodes.get? n = some node ∧ node.isLocal = false ∧
        shown = usteerDumpNodeInfo node) := by
  have sound := reach.sound
  have locals : ∀ n, n ∈ s.daemon.localNodes ↔ ∃ node, s.daemon.nodes.get? n = some node ∧ node.isLocal = true := by
    intro n
    have kind := sound.registered.inLocals n
    simpa only [table, Option.map_map, Option.map_eq_some_iff, Function.comp_apply] using kind
  have remotes : ∀ n, n ∈ s.daemon.remoteList ↔ ∃ node, s.daemon.nodes.get? n = some node ∧ node.isLocal = false := by
    intro n
    have kind := sound.registered.inRemotes n
    simpa only [table, Option.map_map, Option.map_eq_some_iff, Function.comp_apply] using kind
  refine ⟨overview_clients sound, ?_, ?_⟩
  · obtain ⟨reply, run, related, complete⟩ := overview_nodes locals
    refine ⟨reply, run, nodup_shown related sound.registered.locals_nodup ?_, complete⟩
    rintro n n' shown shown' inside inside' ⟨node, live, rfl⟩ ⟨node', live', rfl⟩ same
    exact reach.namesUnique n n' node node' inside inside' live live' same
  · obtain ⟨reply, run, related, complete⟩ := overview_nodes remotes
    exact ⟨reply, run, related.length_eq.symm, complete⟩

end Overview

/-- A client that is heard and then associated is shown as connected. -/
theorem overview_complete_of_client : ∃ d reply entries, plainRun usteerInitDefaults associates = some d ∧
    d.usteerUbusGetClients = .ok reply ∧ (1, entries) ∈ reply ∧ ⟨hostapdDot, 1, -60⟩ ∈ entries := by
  have evaluates : ((plainRun usteerInitDefaults associates).any fun d =>
      (d.infos.get? 0).any fun info => (d.stas.get? info.sta).any fun sta => (d.nodes.get? info.node).any fun node =>
        decide (sta.addr = 1) && decide (node.name = hostapdDot) && decide (info.connected = 1) &&
          decide (info.signal = -60)) = true := by decide +kernel
  obtain ⟨d, run, evaluates⟩ := (Option.any_eq_true _ _).mp evaluates
  simp only [Bool.and_eq_true, decide_eq_true_eq, Option.any_eq_true] at evaluates
  obtain ⟨info, live, sta, liveSta, node, liveNode, ⟨⟨addr, named⟩, connected⟩, signal⟩ := evaluates
  obtain ⟨⟨reply, replies, -, -, shows⟩, -⟩ := overview_complete (reached_plainRun run)
  obtain ⟨entries, listed, shown⟩ := (shows 1 ⟨hostapdDot, 1, -60⟩).mpr
    ⟨info.node, 0, info, node, ⟨live, rfl, sta, liveSta, addr⟩, liveNode, by rw [named, connected, signal]⟩
  exact ⟨d, reply, entries, run, replies, listed, shown⟩

end Usteer
