import Usteer.Kicks
import Usteer.LoadDelay
import Usteer.Reconcile

/-!
How many clients a node has left when the load kick takes one. The kick is guarded by
`n_assoc`, the number of connected clients at the last `get_clients` reply, which a kick does
not decrease, nor does the deletion of an entry. `Backed` says how far the two may lie apart:
no further than the number of clients lost since the reply, which `AssocRun` counts.
-/
namespace Usteer
open SearchTree Timeout Function Daemon

/-- The connected entries of the node with a timer that is due. -/
def Daemon.expired (d : Daemon) (n : NodeId) : List SiId :=
  match d.nodes.get? n with
  | none => []
  | some node => node.staInfo.filter fun si => (d.infos.get? si).any (fun info => decide (info.connected = 1)) &&
      d.tq.items.any fun e => decide (e.2 = si ∧ ¬ usteerTimeoutDelta e.1 (ampgrTimeoutCurrentTime d.clock.toNat) > 0)

/-! ### Entries that stay connected -/

/-- The connected entries of the node stay so, but for those that are lost. -/
def Retains (n : NodeId) (lost : List SiId) (d d' : Daemon) : Prop :=
  ∀ si info, d.infos.get? si = some info → info.node = n → info.connected = 1 → si ∉ lost →
    ∃ info', d'.infos.get? si = some info' ∧ info'.node = n ∧ info'.connected = 1

section Retains

variable {env : Platform} {cfg : Config} {scope : Scope} {d d' d'' : Daemon} {n : NodeId} {lost : List SiId}
  {node node' : UsteerNode}

theorem Retains.refl (n : NodeId) (d : Daemon) : Retains n [] d d :=
  fun _ info live onNode connected _ => ⟨info, live, onNode, connected⟩

theorem Retains.trans (first : Retains n [] d d') (second : Retains n [] d' d'') : Retains n [] d d'' := by
  intro si info live onNode connected kept
  obtain ⟨info', live', onNode', connected'⟩ := first si info live onNode connected kept
  exact second si info' live' onNode' connected' kept

/-- As many connected entries are left, up to those that are lost. -/
theorem connectedCount_le (sound : Sound none d) (sound' : Sound none d') (live : d.nodes.get? n = some node)
    (live' : d'.nodes.get? n = some node') (retains : Retains n lost d d') :
    connectedCount d node ≤ connectedCount d' node' + lost.length := by
  have once : node.staInfo.Nodup := sound.links.byNode.nodup (k := n) (by simp [table, live])
  unfold connectedCount
  rw [List.countP_eq_length_filter, List.countP_eq_length_filter, ← List.length_append]
  refine (List.Nodup.subperm (once.filter _) fun si listed => ?_).length_le
  obtain ⟨listed, connected⟩ := List.mem_filter.mp listed
  obtain ⟨info, found, connected⟩ := (Option.any_eq_true _ _).mp connected
  rw [List.mem_append]
  by_cases gone : si ∈ lost
  · exact .inr gone
  · have onNode := onNode_of_listed sound.links live si listed info found
    obtain ⟨info', found', onNode', connected'⟩ := retains si info found onNode (of_decide_eq_true connected) gone
    obtain ⟨record, liveRecord, listed'⟩ := node_of_info sound'.links found'
    rw [onNode', live'] at liveRecord
    cases liveRecord
    refine .inl (List.mem_filter.mpr ⟨listed', ?_⟩)
    rw [found', Option.any_some, decide_eq_true connected']

/-- Steps other than kicks and replies of the node leave an entry as connected as it was. -/
theorem connected_moves {a b : Option StaId × Daemon} (quiet : scope.tick = false) (moves : Moves env cfg scope a b)
    {si : SiId} {info : StaInfo} (live : a.2.infos.get? si = some info) (isLocal : a.2.OnLocal info)
    (unread : scope.unread info.node) :
    ∃ info', b.2.infos.get? si = some info' ∧ info'.node = info.node ∧ info'.connected = info.connected := by
  induction moves with
  | refl => exact ⟨info, live, rfl, rfl⟩
  | tail before move ih =>
    obtain ⟨info1, live1, node1, connected1⟩ := ih
    have isLocal1 := (survives_moves before).onLocal node1 isLocal
    obtain ⟨info', live', -, node'⟩ := (survives_moves (.one move)).infos live1
    refine ⟨info', live', node'.trans node1, ?_⟩
    rcases info_move move live' with ⟨info2, live2, edited⟩ | ⟨dead, -⟩
    · cases live1.symm.trans live2
      exact (edited.connected quiet isLocal1 (node1 ▸ unread)).trans connected1
    · cases live1.symm.trans dead

theorem retains_moves (quiet : scope.tick = false) (unread : scope.unread n) (live : d.nodes.get? n = some node)
    (isLocal : node.isLocal = true) (moves : Moves env cfg scope (none, d) (none, d')) : Retains n [] d d' := by
  rintro si info found rfl connected -
  obtain ⟨info', found', onNode, same⟩ := connected_moves quiet moves found ⟨node, live, isLocal⟩ unread
  exact ⟨info', found', onNode, same.trans connected⟩

/-- A node that is still there has retained its entries. -/
theorem retains_change (quiet : scope.tick = false) (unread : scope.unread n) (unexpired : scope.unexpired)
    (live : d.nodes.get? n = some node) (isLocal : node.isLocal = true) (live' : d'.nodes.get? n = some node')
    (change : Change env cfg scope d d') : Retains n [] d d' := by
  cases change with
  | moves moves => exact retains_moves quiet unread live isLocal moves
  | shrink shrunk sound' tree gone =>
    rintro si info found rfl connected -
    cases found' : d'.infos.get? si with
    | none =>
      have freed := gone unexpired found found'
      cases live'.symm.trans freed
    | some info' =>
      cases found.symm.trans (shrunk.infos found')
      exact ⟨info, rfl, rfl, connected⟩
  | join joined =>
    rw [joined.rest]
    exact .refl n d

theorem retains_evolves (quiet : scope.tick = false) (unread : scope.unread n) (unexpired : scope.unexpired)
    (live : d.nodes.get? n = some node) (isLocal : node.isLocal = true) (evolves : Evolves env cfg scope d d') :
    ∀ {node'}, d'.nodes.get? n = some node' → Retains n [] d d' := by
  induction evolves with
  | refl => exact fun _ => .refl n d
  | tail before change ih =>
    intro node' live'
    have old := (record_evolves before (Heap.lt_next live)).1
    obtain ⟨node1, live1, -⟩ := (record_change change old).2 live'
    obtain ⟨node0, live0, recorded⟩ := (record_evolves before (Heap.lt_next live)).2 live1
    cases live.symm.trans live0
    exact (ih live1).trans (retains_change quiet unread unexpired live1 (recorded.isLocal.trans isLocal) live' change)

/-- The queue takes those that are due. -/
theorem retains_stationTimeouts (sound : Sound none d) (handled : d.stationTimeouts env cfg = .ok d') :
    Retains n (d.expired n) d d' := by
  obtain ⟨-, pruned, due⟩ := (post_stationTimeouts (F := AnyFault) sound.toIntact).of_ok handled
  rintro si info found rfl connected kept
  cases found' : d'.infos.get? si with
  | none =>
    obtain ⟨key, waiting, late⟩ := due si info found found'
    obtain ⟨node, live, listed⟩ := node_of_info sound.links found
    refine absurd ?_ kept
    unfold expired
    rw [live]
    refine List.mem_filter.mpr ⟨listed, ?_⟩
    rw [found, Option.any_some, decide_eq_true connected, Bool.true_and]
    exact List.any_eq_true.mpr ⟨(key, si), waiting, decide_eq_true ⟨rfl, late⟩⟩
  | some info' =>
    cases found.symm.trans (pruned.infos found')
    exact ⟨info, rfl, rfl, connected⟩

/-- A policy tick takes those that it kicks. -/
theorem retains_tally {m : NodeId} {kicks : List (SiId × KickReason)} (tally : Tally cfg m d d' kicks)
    (survives : Survives d d') : Retains n (kicks.map Prod.fst) d d' := by
  intro si info found onNode connected kept
  obtain ⟨info', found', -, same⟩ := survives.infos found
  refine ⟨info', found', same.trans onNode, ?_⟩
  rcases tally.spared kept found' with ⟨info0, found0, unkicked⟩ | ⟨dead, -⟩
  · cases found.symm.trans found0
    exact unkicked.connected.trans connected
  · cases found.symm.trans dead

/-- It kicks clients of its own node only. -/
theorem retains_tally_other {m : NodeId} {kicks : List (SiId × KickReason)} (other : n ≠ m)
    (tally : Tally cfg m d d' kicks) (survives : Survives d d') : Retains n [] d d' := by
  intro si info found onNode connected _
  refine retains_tally tally survives si info found onNode connected fun kicked => ?_
  obtain ⟨info0, found0, elsewhere, -⟩ := tally.hit kicked
  cases found.symm.trans found0
  exact other (onNode.symm.trans elsewhere)

end Retains

/-! ### Runs -/

/-- The three parts of `usteer_local_node_kick`. -/
def Daemon.kickPhase (cfg : Config) (d : Daemon) (n : NodeId) : KickReason → Except Fault Daemon
  | .roam => d.usteerLocalNodeRoamCheck cfg n
  | .snr => d.usteerLocalNodeSnrKick cfg n
  | .load => d.loadKick cfg n

/-- A number of these parts, one after the other. -/
def Daemon.kickPhases (n : NodeId) (parts : List (Config × KickReason)) (d : Daemon) : Except Fault Daemon :=
  parts.foldlM (fun d part => d.kickPhase part.1 n part.2) d

/-- `usteer_local_node_kick` is the three parts. -/
theorem usteerLocalNodeKick_phases (cfg : Config) (d : Daemon) (n : NodeId) :
    d.usteerLocalNodeKick cfg n = d.kickPhases n [(cfg, .roam), (cfg, .snr), (cfg, .load)] := by
  unfold usteerLocalNodeKick kickPhases
  simp only [List.foldlM_cons, List.foldlM_nil, bind_pure]
  rfl

/-- The load kick up to the kick: whom it chose, and the state just before the kick. -/
def Daemon.loadChoice (cfg : Config) (d : Daemon) (n : NodeId) : Except Fault (Option SiId × Daemon) := do
  let (passed, d) ← d.loadDelay cfg n
  if !passed then
    return (none, d)
  let node ← d.node n
  if node.nAssoc.toUInt32 < cfg.loadKickMinClients then
    return (none, d)
  match ← loadVictims cfg node.staInfo none none none d with
  | (none, _, _, d) => return (none, d)
  | (some kick1, kick2, _, d) => return (some (kick2.getD kick1), d)

/-- The kick of the client that was chosen. -/
def kickChosen (choice : Option SiId × Daemon) : Daemon :=
  match choice with
  | (none, d) => d
  | (some si, d) => d.countedKick si .load

/-- Whenever the load kick kicks a client, the node has at least `load_kick_min_clients`
    connected clients just before. -/
def EnoughClients (cfg : Config) (d : Daemon) (n : NodeId) : Prop :=
  ∀ si d', d.loadChoice cfg n = .ok (some si, d') →
    ∃ node, d'.nodes.get? n = some node ∧ cfg.loadKickMinClients.toNat ≤ connectedCount d' node

/-- A `get_clients` reply for the node that is read. -/
def Input.Read (n : NodeId) (input : Input) : Prop :=
  ∃ freq clients, input = .clients n ⟨some freq, some clients⟩

/-- A run from the creation of a node or from a `get_clients` reply, with the number of its
    clients that were lost since: kicked by a part of the policy tick, or dropped by the timeout
    queue while connected. The configuration may change between the steps. -/
inductive AssocRun (env : Platform) (n : NodeId) : Nat → Daemon → Prop
  | fresh {d name} (sound : Sound none d) (live : d.nodes.get? n = some (newLocalNode name)) : AssocRun env n 0 d
  | reply {d d' cfg freq clients} (sound : Sound none d) (inside : n ∈ d.localNodes)
      (positive : 1 ≤ cfg.localStaTimeout.toNat) (small : cfg.localStaTimeout.toNat < 2 ^ 31)
      (distinct : (clients.filterMap ClientEntry.addr).Nodup)
      (handled : d.handle env cfg (.clients n ⟨some freq, some clients⟩) = .ok d') : AssocRun env n 0 d'
  | phase {k d d' cfg why events} (run : AssocRun env n k d) (inside : n ∈ d.localNodes)
      (kicked : d.kickPhase cfg n why = .ok d') (trace : d'.trace = d.trace ++ events) :
      AssocRun env n (k + (kicksOf events).length) d'
  | timeouts {k d d' cfg} (run : AssocRun env n k d) (handled : d.handle env cfg .timeouts = .ok d') :
      AssocRun env n (k + (d.expired n).length) d'
  | other {k d d' cfg input} (run : AssocRun env n k d) (unread : ¬ input.Read n) (noTick : input ≠ .tick n)
      (noTimeout : input ≠ .timeouts) (accepts : d.Accepts input) (handled : d.handle env cfg input = .ok d') :
      AssocRun env n k d'

/-- What holds after a run: `n_assoc` exceeds the number of connected entries by no more than
    the clients lost. -/
structure Backed (n : NodeId) (k : Nat) (d : Daemon) : Prop where
  sound : Sound none d
  old : n < d.nodes.next
  backed : ∀ node, d.nodes.get? n = some node → node.isLocal = true ∧
    node.nAssoc.toUInt32.toNat ≤ connectedCount d node + k

section Backed

variable {env : Platform} {cfg : Config} {d d' : Daemon} {n : NodeId} {k : Nat}

/-- The node keeps its count and all clients but those lost. -/
theorem Backed.step {lost : List SiId} (backed : Backed n k d) (sound' : Sound none d') (old' : n < d'.nodes.next)
    (keeps : ∀ {node'}, d'.nodes.get? n = some node' → ∃ node, d.nodes.get? n = some node ∧
      (node.isLocal = true → node'.isLocal = true ∧ node'.nAssoc = node.nAssoc ∧ Retains n lost d d')) :
    Backed n (k + lost.length) d' := by
  refine ⟨sound', old', fun node' live' => ?_⟩
  obtain ⟨node, live, kept⟩ := keeps live'
  obtain ⟨isLocal, bound⟩ := backed.backed node live
  obtain ⟨isLocal', assoc, retains⟩ := kept isLocal
  have left := connectedCount_le backed.sound sound' live live' retains
  refine ⟨isLocal', ?_⟩
  rw [assoc]
  omega

theorem backed_fresh {name : CString} (sound : Sound none d) (live : d.nodes.get? n = some (newLocalNode name)) :
    Backed n 0 d := by
  refine ⟨sound, Heap.lt_next live, fun node live' => ?_⟩
  cases live.symm.trans live'
  exact ⟨rfl, Nat.zero_le _⟩

/-- The reply counts the clients. -/
theorem backed_reply {freq : Int32} {clients : List ClientEntry} (sound : Sound none d) (inside : n ∈ d.localNodes)
    (positive : 1 ≤ cfg.localStaTimeout.toNat) (small : cfg.localStaTimeout.toNat < 2 ^ 31)
    (distinct : (clients.filterMap ClientEntry.addr).Nodup)
    (handled : d.handle env cfg (.clients n ⟨some freq, some clients⟩) = .ok d') : Backed n 0 d' := by
  have accepts : d.Accepts (.clients n ⟨some freq, some clients⟩) := inside
  have moves : Moves env cfg .plain (none, d) (none, d.modifyNode n (fun node => { node with freq := freq })) :=
    .one (.editNode n (fun _ => ⟨rfl, rfl, rfl⟩) fun _ _ _ => ⟨fun _ => rfl, fun _ => rfl⟩)
  obtain ⟨d1, returns, reconciles⟩ := client_table_reconciled env cfg (sound_moves (a := (none, d)) sound moves)
    inside positive small clients distinct
  cases returns.symm.trans handled
  obtain ⟨node', live', count, -⟩ := reconciles.count
  refine ⟨sound_handle sound accepts handled, Heap.lt_next live', fun record found => ?_⟩
  cases live'.symm.trans found
  obtain ⟨node, live, isLocal⟩ := node_of_locals sound.registered inside
  obtain ⟨node0, live0, recorded⟩ := (record_handle sound accepts handled (Heap.lt_next live)).2 live'
  cases live.symm.trans live0
  refine ⟨recorded.isLocal.trans isLocal, ?_⟩
  rw [count, Int32.toUInt32_ofNat', UInt32.toNat_ofNat']
  exact Nat.mod_le _ _

theorem kickPhase_tally {why : KickReason} (sound : Sound none d) (inside : n ∈ d.localNodes)
    (kicked : d.kickPhase cfg n why = .ok d') :
    Moves plainPlatform cfg (.policy n) (none, d) (none, d') ∧ ∃ kicks, Tally cfg n d d' kicks := by
  have start := tally_start cfg n d
  suffices both : Moves plainPlatform cfg (.policy n) (none, d) (none, d') ∧ Adds cfg n d [] why d' by
    obtain ⟨moves, more, -, tally⟩ := both
    exact ⟨moves, _, tally⟩
  cases why with
  | roam =>
    exact ⟨(post_usteerLocalNodeRoamCheck plainPlatform cfg n sound inside).of_ok kicked,
      (adds_usteerLocalNodeRoamCheck sound inside).of_ok kicked⟩
  | snr =>
    exact ⟨((post_usteerLocalNodeSnrKick plainPlatform cfg (.policy n) sound inside).of_ok kicked).moves,
      (adds_usteerLocalNodeSnrKick start sound).of_ok kicked⟩
  | load =>
    exact ⟨((post_loadKick plainPlatform cfg (.policy n) (by simp [Scope.policy]) sound inside).of_ok kicked).moves,
      (adds_loadKick start sound inside).of_ok kicked⟩

/-- A part of the tick takes its node's clients as its kicks say. -/
theorem backed_phase {why : KickReason} {events : List Event} (backed : Backed n k d) (inside : n ∈ d.localNodes)
    (kicked : d.kickPhase cfg n why = .ok d') (trace : d'.trace = d.trace ++ events) :
    Backed n (k + (kicksOf events).length) d' := by
  have sound := backed.sound
  obtain ⟨moves, more, tally⟩ := kickPhase_tally sound inside kicked
  obtain ⟨events', trace', kicks⟩ := tally.trace
  obtain rfl : events = events' := List.append_cancel_left (trace.symm.trans trace')
  rw [kicks, ← List.length_map Prod.fst]
  have records := record_moves (n := n) moves
  refine backed.step (sound_moves (a := (none, d)) sound moves) (backed.old.trans_eq records.1.symm) fun live' => ?_
  obtain ⟨node, live, recorded⟩ := records.2 live'
  exact ⟨node, live, fun isLocal => ⟨recorded.isLocal.trans isLocal, (recorded.counts isLocal).assoc trivial,
    retains_tally tally (survives_moves moves)⟩⟩

/-- An input that keeps the count of the node. -/
theorem Backed.handle {input : Input} (lost : List SiId) (backed : Backed n k d) (accepts : d.Accepts input)
    (handled : d.handle env cfg input = .ok d') (unread : input.scope.unread n)
    (retains : ∀ {node node'}, d.nodes.get? n = some node → node.isLocal = true → d'.nodes.get? n = some node' →
      Retains n lost d d') : Backed n (k + lost.length) d' := by
  obtain ⟨old', records⟩ := record_handle backed.sound accepts handled backed.old
  refine backed.step (sound_handle backed.sound accepts handled) old' fun live' => ?_
  obtain ⟨node, live, recorded⟩ := records live'
  exact ⟨node, live, fun isLocal => ⟨recorded.isLocal.trans isLocal, (recorded.counts isLocal).assoc unread,
    retains live isLocal live'⟩⟩

theorem backed_timeouts (backed : Backed n k d) (handled : d.handle env cfg .timeouts = .ok d') :
    Backed n (k + (d.expired n).length) d' := by
  have accepts : d.Accepts .timeouts := trivial
  refine backed.handle (d.expired n) accepts handled trivial fun _ _ _ => ?_
  exact retains_stationTimeouts backed.sound handled

theorem backed_other {input : Input} (backed : Backed n k d) (unread : ¬ input.Read n) (noTick : input ≠ .tick n)
    (noTimeout : input ≠ .timeouts) (accepts : d.Accepts input) (handled : d.handle env cfg input = .ok d') :
    Backed n k d' := by
  -- nothing is lost, once the input is known not to read the node's clients
  have kept (quiet : input.scope.tick = false) (ignores : input.scope.unread n) (unexpired : input.scope.unexpired) :
      Backed n k d' := by
    refine backed.handle [] accepts handled ignores fun live isLocal live' => ?_
    rcases (post_handle backed.sound accepts).of_ok handled with ⟨ms, -, rfl⟩ | evolves
    · exact .refl n d
    · exact retains_evolves quiet ignores unexpired live isLocal evolves live'
  cases input with
  | timeouts => exact absurd rfl noTimeout
  | tick m =>
    have other : n ≠ m := fun same => noTick (by rw [same])
    refine backed.handle [] accepts handled trivial fun _ _ _ => ?_
    obtain ⟨kicks, tally, -⟩ := (adds_usteerLocalNodeKick backed.sound accepts).of_ok handled
    have moves := (post_usteerLocalNodeKick plainPlatform cfg backed.sound accepts).of_ok handled
    exact retains_tally_other other tally (survives_moves moves)
  | clients m msg =>
    by_cases same : m = n
    · subst same
      obtain ⟨freq, clients⟩ := msg
      cases freq with
      | none =>
        cases handled
        exact backed
      | some freq =>
        cases clients with
        | none =>
          cases handled
          exact backed
        | some clients => exact absurd ⟨freq, clients, rfl⟩ unread
    · exact kept rfl (Ne.symm same) trivial
  | _ => exact kept rfl trivial trivial

theorem backed_run (run : AssocRun env n k d) : Backed n k d := by
  induction run with
  | fresh sound live => exact backed_fresh sound live
  | reply sound inside positive small distinct handled =>
    exact backed_reply sound inside positive small distinct handled
  | phase _ inside kicked trace ih => exact backed_phase ih inside kicked trace
  | timeouts _ handled ih => exact backed_timeouts ih handled
  | other _ unread noTick noTimeout accepts handled ih =>
    exact backed_other ih unread noTick noTimeout accepts handled

end Backed

/-! ### The load kick -/

/-- Nothing happens but that calls are counted. -/
def Scope.counting : Scope := { Scope.quiet with uncounted := fun _ => False }

section Choice

variable {env : Platform} {cfg : Config} {d d' : Daemon} {n : NodeId} {k : Nat} {node : UsteerNode}

/-- The load kick is the choice of a client and its kick. -/
theorem loadKick_choice (live : d.nodes.get? n = some node) :
    d.loadKick cfg n = kickChosen <$> d.loadChoice cfg n := by
  rw [loadKick_eq live]
  unfold loadChoice
  cases d.loadDelay cfg n with
  | error e => rfl
  | ok r =>
    obtain ⟨passed, d3⟩ := r
    rw [ok_bind, ok_bind]
    cases passed with
    | false => rfl
    | true =>
      show d3.loadSearch cfg n = _
      unfold loadSearch
      simp only [Bool.not_true, Bool.false_eq_true, if_false]
      cases d3.node n with
      | error e => rfl
      | ok node3 =>
        rw [ok_bind, ok_bind]
        split
        · rfl
        · cases loadVictims cfg node3.staInfo none none none d3 with
          | error e => rfl
          | ok r =>
            obtain ⟨kick1, kick2, candidate, d4⟩ := r
            cases kick1 with
            | none => rfl
            | some kick1 => rfl

theorem moves_loadDelay {passed : Bool} (run : d.loadDelay cfg n = .ok (passed, d')) :
    Moves env cfg .counting (none, d) (none, d') := by
  have counts (d : Daemon) (count : Int32) : Moves env cfg .counting (none, d) (none, d.counted n count) :=
    .one (.editNode n (keepsNode_setLoadThrCount count) (keepsCounts_setLoadThrCount _ n count id))
  unfold loadDelay at run
  split at run
  · cases run
    exact .none _
  · obtain ⟨node, -, run⟩ := bind_ok run
    split at run
    · cases run
      exact counts d 0
    · obtain ⟨count, -, run⟩ := bind_ok run
      obtain ⟨periods, -, run⟩ := bind_ok run
      split at run
      · cases run
        exact counts d (count + 1)
      · cases run
        exact (counts d (count + 1)).then (counts _ 0)

/-- A client is chosen only if the guard lets the kick pass, and nobody is disconnected by
    the search. -/
theorem loadChoice_some {si : SiId} (sound : Sound none d) (inside : n ∈ d.localNodes)
    (run : d.loadChoice cfg n = .ok (some si, d')) :
    Moves plainPlatform cfg .counting (none, d) (none, d') ∧
      ∃ node, d.nodes.get? n = some node ∧ node.isLocal = true ∧
        cfg.loadKickMinClients.toNat ≤ node.nAssoc.toUInt32.toNat := by
  obtain ⟨⟨passed, d3⟩, delayed, run⟩ := bind_ok run
  have moves3 : Moves plainPlatform cfg .counting (none, d) (none, d3) := moves_loadDelay delayed
  have sound3 : Sound none d3 := sound_moves (a := (none, d)) sound moves3
  have inside3 : n ∈ d3.localNodes := moves3.locals inside
  obtain ⟨node3, live3, isLocal3⟩ := node_of_locals sound3.registered inside3
  obtain ⟨node, live, recorded⟩ := (record_moves moves3).2 live3
  have isLocal : node.isLocal = true := recorded.isLocal ▸ isLocal3
  cases passed with
  | false => cases run
  | true =>
    simp only [Bool.not_true, Bool.false_eq_true, if_false] at run
    rw [node_ok live3, ok_bind] at run
    split at run
    · cases run
    · rename_i guard
      obtain ⟨⟨kick1, kick2, candidate, d4⟩, searched, run⟩ := bind_ok run
      have found := (post_loadVictims plainPlatform cfg .counting node3.staInfo node3.staInfo sound3
        (localEntries sound3 inside3 live3) (fun _ listed => listed) (by simp [Picked]) (by simp [Picked])).of_ok searched
      have moves4 := found.2.2
      cases kick1 with
      | none => cases run
      | some kick1 =>
        cases run
        refine ⟨moves3.then moves4, node, live, isLocal, ?_⟩
        rw [(recorded.counts isLocal).assoc trivial, UInt32.lt_iff_toNat_lt] at guard
        exact Nat.not_lt.mp guard

/-- A number of parts of the tick in a run. -/
theorem AssocRun.phases {parts : List (Config × KickReason)} : ∀ {k : Nat} {d : Daemon}, AssocRun env n k d →
    n ∈ d.localNodes → d.kickPhases n parts = .ok d' →
    n ∈ d'.localNodes ∧ ∃ events, d'.trace = d.trace ++ events ∧ AssocRun env n (k + (kicksOf events).length) d' := by
  induction parts with
  | nil =>
    intro k d run inside done
    cases done
    exact ⟨inside, [], by simp, run⟩
  | cons part rest ih =>
    intro k d run inside done
    obtain ⟨d1, kicked, done⟩ := bind_ok done
    obtain ⟨moves, kicks, tally⟩ := kickPhase_tally (backed_run run).sound inside kicked
    obtain ⟨first, trace1, -⟩ := tally.trace
    have inside1 : n ∈ d1.localNodes := moves.locals inside
    obtain ⟨inside', later, trace', run'⟩ := ih (.phase run inside kicked trace1) inside1 done
    refine ⟨inside', first ++ later, by rw [trace', trace1, List.append_assoc], ?_⟩
    have both : kicksOf (first ++ later) = kicksOf first ++ kicksOf later := List.filterMap_append
    rw [both, List.length_append, ← Nat.add_assoc]
    exact run'

/-- Every tick of the node goes on with a run. -/
theorem AssocRun.tick (run : AssocRun env n k d) (inside : n ∈ d.localNodes)
    (handled : d.handle env cfg (.tick n) = .ok d') :
    ∃ events, d'.trace = d.trace ++ events ∧ AssocRun env n (k + (kicksOf events).length) d' :=
  (run.phases inside ((usteerLocalNodeKick_phases cfg d n).symm.trans handled)).2

end Choice

/-- In every state of a run, the load kick finds at least `load_kick_min_clients` connected
    clients if `n_assoc` passes the guard by the number of clients lost since the last
    `get_clients` reply. -/
theorem min_clients_left (env : Platform) (cfg : Config) (n : NodeId) (k : Nat) (d : Daemon) (node : UsteerNode)
    (run : AssocRun env n k d) (inside : n ∈ d.localNodes) (live : d.nodes.get? n = some node)
    (enough : cfg.loadKickMinClients.toNat ≤ node.nAssoc.toUInt32.toNat →
      cfg.loadKickMinClients.toNat + k ≤ node.nAssoc.toUInt32.toNat) : EnoughClients cfg d n := by
  intro si d' chosen
  have backed := backed_run run
  obtain ⟨moves, node', live', isLocal, guard⟩ := loadChoice_some backed.sound inside chosen
  cases live.symm.trans live'
  have sound' : Sound none d' := sound_moves (a := (none, d)) backed.sound moves
  have inside' : n ∈ d'.localNodes := moves.locals inside
  obtain ⟨node1, live1, -⟩ := node_of_locals sound'.registered inside'
  refine ⟨node1, live1, ?_⟩
  have kept := connectedCount_le backed.sound sound' live live1 (retains_moves rfl trivial live isLocal moves)
  have bound := (backed.backed node live).2
  have passes := enough guard
  rw [List.length_nil] at kept
  omega

/-- Clients with a weak signal are kicked, and others after one call with a high load. -/
def kicksWeakAndLoad (minClients : UInt32) : Config :=
  { usteerInitDefaults with
    minSnr := 40, loadKickEnabled := true, loadKickDelay := 1000, loadKickMinClients := minClients }

/-- A node with a high load. -/
def highLoad : NodeStatus := ⟨[], 10, 2412, 0, 0, 80, none, none, true⟩

/-- Three clients with a weak signal. -/
def threeWeak : List ClientEntry :=
  [⟨some 1, some (some (-60)), some true, none⟩, ⟨some 2, some (some (-60)), some true, none⟩,
    ⟨some 3, some (some (-60)), some true, none⟩]

/-- The third of three weak clients is kicked when the other two are, one in each tick, with
    a minimum of one. -/
theorem min_clients_left_of_three : ∃ d k si d', AssocRun plainPlatform 0 k d ∧ k = 2 ∧
    d.loadChoice (kicksWeakAndLoad 1) 0 = .ok (some si, d') ∧ EnoughClients (kicksWeakAndLoad 1) d 0 := by
  have evaluates : ((plainRun (kicksWeakAndLoad 1) [.register hostapdDot]).any fun d =>
      decide (d.nodes.get? 0 = some (newLocalNode hostapdDot) ∧ 0 ∈ d.localNodes) &&
      ((d.modifyNode 0 highLoad.apply).handle plainPlatform (kicksWeakAndLoad 1)
        (.clients 0 ⟨some 2412, some threeWeak⟩)).toOption.any fun d2 => decide (0 ∈ d2.localNodes) &&
      (d2.kickPhases 0 [(kicksWeakAndLoad 1, .roam), (kicksWeakAndLoad 1, .snr), (kicksWeakAndLoad 1, .load),
        (kicksWeakAndLoad 1, .roam), (kicksWeakAndLoad 1, .snr)]).toOption.any fun d3 =>
      decide ((kicksOf (d3.trace.drop d2.trace.length)).length = 2) &&
      (d3.nodes.get? 0).any (fun node => decide (node.nAssoc = 3)) &&
      (d3.loadChoice (kicksWeakAndLoad 1) 0).toOption.any fun choice => choice.1.isSome) = true := by decide +kernel
  obtain ⟨d, run, evaluates⟩ := (Option.any_eq_true _ _).mp evaluates
  simp only [Bool.and_eq_true, decide_eq_true_eq, Option.any_eq_true] at evaluates
  obtain ⟨⟨live, inside⟩, d2, read, inside2, d3, kicked, ⟨twice, node, live3, assoc⟩, ⟨chosen, d4⟩, choice, isSome⟩ :=
    evaluates
  obtain ⟨si, rfl⟩ := Option.isSome_iff_exists.mp isSome
  have fresh : AssocRun plainPlatform 0 0 d := .fresh (reachable_sound (reachable_plainRun run)) live
  have accepts : d.Accepts (.status 0 highLoad) := inside
  have handled : d.handle plainPlatform (kicksWeakAndLoad 1) (.status 0 highLoad) =
      .ok (d.modifyNode 0 highLoad.apply) := rfl
  have loaded : AssocRun plainPlatform 0 0 (d.modifyNode 0 highLoad.apply) :=
    fresh.other (by simp [Input.Read]) (by simp) (by simp) accepts handled
  have distinct : (threeWeak.filterMap ClientEntry.addr).Nodup := by decide
  have counted : AssocRun plainPlatform 0 0 d2 :=
    .reply (backed_run loaded).sound inside (by decide) (by decide) distinct (ok_of_toOption read)
  obtain ⟨inside3, events, trace, kicks⟩ := counted.phases inside2 (ok_of_toOption kicked)
  rw [trace, List.drop_left] at twice
  rw [twice] at kicks
  refine ⟨d3, 2, si, d4, kicks, rfl, ok_of_toOption choice, ?_⟩
  refine min_clients_left plainPlatform (kicksWeakAndLoad 1) 0 2 d3 node kicks inside3 live3 fun _ => ?_
  rw [assoc]
  decide

/-- The SNR kick takes a client in each of two ticks, and then the load kick takes the last of
    three clients although the minimum is three. -/
theorem min_clients_missed : ¬ ∀ cfg d n d1 d2, Reachable plainPlatform cfg d → n ∈ d.localNodes →
    d.usteerLocalNodeRoamCheck cfg n = .ok d1 → d1.usteerLocalNodeSnrKick cfg n = .ok d2 →
    EnoughClients cfg d2 n := by
  intro claim
  have evaluates : ((plainRun (kicksWeakAndLoad 3) [.register hostapdDot, .status 0 highLoad,
      .clients 0 ⟨some 2412, some threeWeak⟩, .tick 0]).any fun d => decide (0 ∈ d.localNodes) &&
      (d.usteerLocalNodeRoamCheck (kicksWeakAndLoad 3) 0).toOption.any fun d1 =>
      (d1.usteerLocalNodeSnrKick (kicksWeakAndLoad 3) 0).toOption.any fun d2 =>
      (d2.loadChoice (kicksWeakAndLoad 3) 0).toOption.any fun choice => choice.1.isSome &&
      (choice.2.nodes.get? 0).any fun node => decide (connectedCount choice.2 node < 3)) = true := by decide +kernel
  obtain ⟨d, run, evaluates⟩ := (Option.any_eq_true _ _).mp evaluates
  simp only [Bool.and_eq_true, decide_eq_true_eq, Option.any_eq_true] at evaluates
  obtain ⟨inside, d1, roamed, d2, kicked, ⟨chosen, d3⟩, choice, isSome, node, live, few⟩ := evaluates
  obtain ⟨si, rfl⟩ := Option.isSome_iff_exists.mp isSome
  obtain ⟨node', live', enough⟩ := claim (kicksWeakAndLoad 3) d 0 d1 d2 (reachable_plainRun run) inside
    (ok_of_toOption roamed) (ok_of_toOption kicked) si d3 (ok_of_toOption choice)
  cases live.symm.trans live'
  exact absurd few (Nat.not_lt.mpr enough)

end Usteer
