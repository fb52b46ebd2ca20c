import Usteer.Search
import Usteer.Selection
import Usteer.Wire

/-!
The neighbours that a client is told of before it is kicked (`usteer_ubus_notify_client_disassoc`).
Three of its beacon reports are selected, the nodes they resolve to are offered with the third
string of their neighbour report, and every known node is offered when no report resolves. The
selection keeps the three strongest reports as long as their two signal values rank them alike
(`strongest_throughout_iff`); nothing keeps the client's own node out, nor reports of nodes that
cannot be offered from crowding out those that can (`serves_iff`), while the
neighbour list for hostapd leaves the own node out (`mem_rrmSet`).
-/
namespace Usteer
open SearchTree Timeout Function Daemon Selection
namespace Daemon

/-! ### The notice -/

/-- What the first loop of `usteer_ubus_notify_client_disassoc` does with a report that
    resolves. -/
def keepReport (filteredLocal : List BeaconReport) (br : BeaconReport) : List BeaconReport :=
  match filteredLocal with
  | [a, b, c] =>
    -- the inner loop, for the places 1 and 2
    let (index, lowest) := if b.rcpi < a.rcpi then (1, b.rcpi) else (0, a.rcpi)
    let (index, lowest) := if c.rcpi < lowest then (2, c.rcpi) else (index, lowest)
    if br.rsni > lowest then filteredLocal.set index br else filteredLocal
  | _ => filteredLocal ++ [br]

/-- The body of the first loop of `usteer_ubus_notify_client_disassoc`. -/
def considerReport (d : Daemon) (filteredLocal : List BeaconReport) (br : BeaconReport) :
    Except Fault (List BeaconReport) := do
  match ← d.getUsteerNodeFromBssid br.bssid with
  | none => return filteredLocal
  | some _ => return keepReport filteredLocal br

/-- The first loop of `usteer_ubus_notify_client_disassoc`: the reports selected. -/
def filteredLocal (d : Daemon) (reports : List BeaconReport) : Except Fault (List BeaconReport) :=
  reports.foldlM d.considerReport []

section Notice

-- what `blobmsg_parse_array` leaves in the third place for a policy of three strings
variable (thirdString : Blob → Option Blob)

/-- `usteer_add_nr_entry`, with the node that an entry is of. -/
def usteerAddNrEntry (d : Daemon) (ln n : NodeId) (neighbors : List (NodeId × Blob)) :
    Except Fault (List (NodeId × Blob)) := do
  let node ← d.node n
  match node.rrmNr with
  | none => return neighbors
  | some rrmNr =>
    let own ← d.node ln
    if own.ssid ≠ node.ssid then
      return neighbors
    match thirdString rrmNr with
    | none => return neighbors
    | some text => return neighbors ++ [(n, text)]

/-- The arguments of `wnm_disassoc_imminent`. -/
structure DisassocImminent where
  addr : MacAddr
  duration : UInt32
  neighbors : List (NodeId × Blob)

/-- The message that `usteer_ubus_notify_client_disassoc` sends. -/
def disassocImminent (cfg : Config) (d : Daemon) (si : SiId) : Except Fault DisassocImminent := do
  let info ← d.info si
  let sta ← d.sta info.sta
  let filtered ← d.filteredLocal info.beaconReports
  let neighbors ← filtered.foldlM (fun neighbors br => do
    let n ← notNull (← d.getUsteerNodeFromBssid br.bssid)
    d.usteerAddNrEntry thirdString info.node n neighbors) []
  let neighbors ← if filtered.isEmpty then
      (d.localNodes ++ d.remoteList).foldlM (fun neighbors n => d.usteerAddNrEntry thirdString info.node n neighbors)
        neighbors
    else pure neighbors
  return ⟨sta.addr, cfg.roamKickDelay, neighbors⟩

end Notice

/-- `usteer_add_rrm_data`, with the node that an entry is of. -/
def usteerAddRrmData (d : Daemon) (ln n : NodeId) (list : List (NodeId × Blob)) :
    Except Fault (List (NodeId × Blob)) := do
  if n = ln then
    return list
  let node ← d.node n
  match node.rrmNr with
  | none => return list
  | some rrmNr =>
    let own ← d.node ln
    if own.ssid ≠ node.ssid then
      return list
    return list ++ [(n, rrmNr)]

/-- `usteer_local_node_prepare_rrm_set` -/
def usteerLocalNodePrepareRrmSet (d : Daemon) (ln : NodeId) : Except Fault (List (NodeId × Blob)) :=
  (d.localNodes ++ d.remoteList).foldlM (fun list n => d.usteerAddRrmData ln n list) []

/-- The reports that resolve to a known node. -/
def resolved (d : Daemon) (reports : List BeaconReport) : List BeaconReport :=
  reports.filter (fun br => (d.nodeFromBssid br.bssid).isSome)

end Daemon

/-- The received channel power of a report. -/
def strength (br : BeaconReport) : Nat := br.rcpi.toNat

/-- What is compared with the received channel power of the weakest report selected. -/
def compared (br : BeaconReport) : Nat := br.rsni.toNat

section Selected

variable {v : Option StaId} {d : Daemon}

theorem resolves_iff (sound : Sound v d) (br : BeaconReport) :
    (d.nodeFromBssid br.bssid).isSome = true ↔ ∃ n, Resolves d n br := by
  obtain ⟨found, returns, lives⟩ := (post_getUsteerNodeFromBssid (F := fun _ => False) br.bssid sound).returns
  cases found with
  | none => simp [nodeFromBssid, Resolves, returns]
  | some n =>
    obtain ⟨node, live⟩ := lives n rfl
    rw [nodeFromBssid_of_found returns live]
    exact iff_of_true rfl ⟨n, returns⟩

theorem mem_resolved (sound : Sound v d) {reports : List BeaconReport} {br : BeaconReport} :
    br ∈ d.resolved reports ↔ br ∈ reports ∧ ∃ n, Resolves d n br := by
  rw [resolved, List.mem_filter, resolves_iff sound]

/-- The loop over the reports keeps what the loop over those that resolve keeps. -/
theorem filteredLocal_eq (sound : Sound v d) (reports : List BeaconReport) :
    d.filteredLocal reports = .ok ((d.resolved reports).foldl keepReport []) := by
  have loop : ∀ filtered, reports.foldlM d.considerReport filtered =
      .ok ((d.resolved reports).foldl keepReport filtered) := by
    induction reports with
    | nil => exact fun _ => rfl
    | cons br rest ih =>
      intro filtered
      obtain ⟨found, returns, -⟩ := (post_getUsteerNodeFromBssid (F := fun _ => False) br.bssid sound).returns
      rw [List.foldlM_cons, considerReport, returns, resolved, List.filter_cons]
      cases found with
      | none =>
        rw [if_neg]
        · exact ih filtered
        · rw [resolves_iff sound br]
          rintro ⟨n, resolves⟩
          cases returns.symm.trans resolves
      | some n =>
        rw [if_pos ((resolves_iff sound br).mpr ⟨n, returns⟩)]
        exact ih (keepReport filtered br)
  exact loop []

theorem keepReport_replaces : Replaces strength compared 3 keepReport := by
  constructor
  · intro filtered br free
    match filtered, free with
    | [], _ => rfl
    | [_], _ => rfl
    | [_, _], _ => rfl
  · intro filtered br full
    obtain ⟨a, b, c, rfl⟩ := List.length_eq_three.mp full
    have second : [a, b, c].Perm [b, a, c] := List.Perm.swap b a [c]
    have third : [a, b, c].Perm [c, a, b] := @List.perm_append_comm _ [a, b] [c]
    simp only [keepReport, strength, compared, Weakest, List.mem_cons, List.not_mem_nil, or_false, forall_eq_or_imp,
      forall_eq, UInt16.lt_iff_toNat_lt, gt_iff_lt]
    by_cases lower : b.rcpi.toNat < a.rcpi.toNat
    · rw [if_pos lower]
      by_cases lowest : c.rcpi.toNat < b.rcpi.toNat
      · refine ⟨c, [a, b], third, ⟨by simp, by omega⟩, fun passes => ?_, fun fails => ?_⟩
        · simp only [lowest, if_true, if_pos passes]
          exact @List.perm_append_comm _ [a, b] [br]
        · simp only [lowest, if_true, if_neg fails]
      · refine ⟨b, [a, c], second, ⟨by simp, by omega⟩, fun passes => ?_, fun fails => ?_⟩
        · simp only [lowest, if_false, if_pos passes]
          exact List.Perm.swap br a [c]
        · simp only [lowest, if_false, if_neg fails]
    · rw [if_neg lower]
      by_cases lowest : c.rcpi.toNat < a.rcpi.toNat
      · refine ⟨c, [a, b], third, ⟨by simp, by omega⟩, fun passes => ?_, fun fails => ?_⟩
        · simp only [lowest, if_true, if_pos passes]
          exact @List.perm_append_comm _ [a, b] [br]
        · simp only [lowest, if_true, if_neg fails]
      · refine ⟨a, [b, c], List.Perm.refl _, ⟨by simp, by omega⟩, fun passes => ?_, fun fails => ?_⟩
        · simp only [lowest, if_false, if_pos passes]
          exact List.Perm.refl _
        · simp only [lowest, if_false, if_neg fails]

/-- Among those before it that resolve, each report is ranked alike by its two values. -/
def RankedThroughout (d : Daemon) (reports : List BeaconReport) : Prop :=
  ∀ before br after, d.resolved reports = before ++ br :: after → RankedAlike strength compared 3 before br

theorem strongest_throughout_iff (sound : Sound v d) (reports : List BeaconReport) :
    (∀ read rest, reports = read ++ rest → ∃ filtered, d.filteredLocal read = .ok filtered ∧
      Strongest strength 3 (d.resolved read) filtered) ↔ RankedThroughout d reports := by
  rw [RankedThroughout, ← strongest_iff strength compared keepReport_replaces]
  constructor
  · intro strongest known others split
    obtain ⟨read, rest, same, rfl, -⟩ := List.filter_eq_append_iff.mp split
    obtain ⟨filtered, returns, strongest⟩ := strongest read rest same
    cases (filteredLocal_eq sound read).symm.trans returns
    exact strongest
  · rintro strongest read rest rfl
    refine ⟨_, filteredLocal_eq sound read, strongest (d.resolved read) (d.resolved rest) ?_⟩
    exact List.filter_append read rest

end Selected

/-- The reports selected are the three strongest of those that resolve, when these are ranked
    alike; and they are at every point of the list exactly then. -/
theorem strongest_selected (env : Platform) {s : System} (reach : System.Reached env s)
    (reports : List BeaconReport) :
    (RankedThroughout s.daemon reports → ∃ filtered, s.daemon.filteredLocal reports = .ok filtered ∧
      Strongest strength 3 (s.daemon.resolved reports) filtered) ∧
    ((∀ read rest, reports = read ++ rest → ∃ filtered, s.daemon.filteredLocal read = .ok filtered ∧
      Strongest strength 3 (s.daemon.resolved read) filtered) ↔ RankedThroughout s.daemon reports) := by
  have throughout := strongest_throughout_iff reach.sound reports
  refine ⟨fun alike => ?_, throughout⟩
  exact throughout.mpr alike reports [] (List.append_nil reports).symm

/-- A client of the first of four nodes. -/
def fourNodes : List Input :=
  associates ++ [.register (hostapdDot ++ [49]), .register (hostapdDot ++ [50]), .register (hostapdDot ++ [51]),
    .status 0 (plainStatus 10), .status 1 (plainStatus 11), .status 2 (plainStatus 12), .status 3 (plainStatus 13)]

/-- The client hears all of them, the weakest first, so that its report is read last. -/
def hearsWeakestFirst : List Input :=
  fourNodes ++ [.beaconReport 0 (reportOf 10 10), .beaconReport 0 (reportOf 11 20), .beaconReport 0 (reportOf 12 30),
    .beaconReport 0 (reportOf 13 40)]

/-- The client hears all of them, the strongest first. -/
def hearsStrongestFirst : List Input :=
  fourNodes ++ [.beaconReport 0 (reportOf 10 40), .beaconReport 0 (reportOf 11 30), .beaconReport 0 (reportOf 12 20),
    .beaconReport 0 (reportOf 13 10)]

/-- The weakest report is left out. -/
theorem strongest_selected_of_four : ∃ s info filtered, System.Reached plainPlatform s ∧
    s.daemon.infos.get? 0 = some info ∧ (s.daemon.resolved info.beaconReports).length = 4 ∧
    s.daemon.filteredLocal info.beaconReports = .ok filtered ∧
    Strongest strength 3 (s.daemon.resolved info.beaconReports) filtered := by
  have evaluates : ((plainRun usteerInitDefaults hearsWeakestFirst).any fun d => (d.infos.get? 0).any fun info =>
      decide ((d.resolved info.beaconReports).map (fun br => (strength br, compared br)) =
        [(40, 0), (30, 0), (20, 0), (10, 0)])) = true := by
    decide +kernel
  obtain ⟨d, run, evaluates⟩ := (Option.any_eq_true _ _).mp evaluates
  obtain ⟨info, live, evaluates⟩ := (Option.any_eq_true _ _).mp evaluates
  have known := of_decide_eq_true evaluates
  have length : (d.resolved info.beaconReports).length = 4 := by
    have lengths := congrArg List.length known
    simpa using lengths
  have alike : RankedThroughout d info.beaconReports := by
    intro before br after split
    by_cases free : before.length < 3
    · exact rankedAlike_of_free strength compared free
    rw [split] at known length
    rw [List.length_append, List.length_cons] at length
    obtain ⟨a, b, c, rfl⟩ : ∃ a b c, before = [a, b, c] := List.length_eq_three.mp (by omega)
    simp only [List.cons_append, List.nil_append, List.map_cons, List.cons.injEq, Prod.mk.injEq] at known
    simp [RankedAlike, known]
  have reach := reached_plainRun run
  obtain ⟨filtered, returns, strongest⟩ := (strongest_selected plainPlatform reach info.beaconReports).1 alike
  exact ⟨_, info, filtered, reach, live, length, returns, strongest⟩

/-- The strongest report is read last, and what is compared is not its strength. -/
theorem strongest_report_left_out : ∃ s info filtered, System.Reached plainPlatform s ∧
    s.daemon.infos.get? 0 = some info ∧ s.daemon.filteredLocal info.beaconReports = .ok filtered ∧
    ¬ Strongest strength 3 (s.daemon.resolved info.beaconReports) filtered := by
  have evaluates : ((plainRun usteerInitDefaults hearsStrongestFirst).any fun d => (d.infos.get? 0).any fun info =>
      (d.filteredLocal info.beaconReports).toOption.any fun filtered =>
        decide ((d.resolved info.beaconReports).map strength = [10, 20, 30, 40] ∧
          filtered.map strength = [10, 20, 30])) = true := by
    decide +kernel
  obtain ⟨d, run, evaluates⟩ := (Option.any_eq_true _ _).mp evaluates
  obtain ⟨info, live, evaluates⟩ := (Option.any_eq_true _ _).mp evaluates
  obtain ⟨filtered, returns, evaluates⟩ := (Option.any_eq_true _ _).mp evaluates
  obtain ⟨known, selected⟩ := of_decide_eq_true evaluates
  refine ⟨_, info, filtered, reached_plainRun run, live, ok_of_toOption returns, fun strongest => ?_⟩
  have heard : 40 ∈ (d.resolved info.beaconReports).map strength := by simp [known]
  obtain ⟨br, inside, best⟩ := List.mem_map.mp heard
  have chosen : br ∈ filtered := by
    refine (mem_strongest_iff strength strongest (by rw [known]; decide) inside).mpr ?_
    have count : (d.resolved info.beaconReports).countP (fun a => decide (strength br < strength a)) =
        ((d.resolved info.beaconReports).map strength).countP (fun a => decide (40 < a)) := by
      rw [List.countP_map, best]
      rfl
    rw [count, known]
    decide
  have among : strength br ∈ filtered.map strength := List.mem_map_of_mem chosen
  rw [best, selected] at among
  simp at among

/-! ### What is offered -/

section Offered

variable (thirdString : Blob → Option Blob) (d : Daemon)

/-- The neighbour report of the node has the string that is offered. -/
def Reportable (n : NodeId) (text : Blob) : Prop :=
  ∃ node, d.nodes.get? n = some node ∧ node.rrmNr.bind thirdString = some text

/-- A node that a client of another one may be sent to. -/
def Target (own n : NodeId) : Prop := n ≠ own ∧ SameSsid d n own ∧ ∃ text, Reportable thirdString d n text

/-- A report that leads to such a node. -/
def LeadsAway (own : NodeId) (br : BeaconReport) : Prop := ∃ n, Resolves d n br ∧ Target thirdString d own n

/-- Only other nodes with the same SSID are offered, and some node is if a report leads to
    one. -/
def Serves (info : StaInfo) (neighbors : List (NodeId × Blob)) : Prop :=
  (∀ offer ∈ neighbors, offer.1 ≠ info.node ∧ SameSsid d offer.1 info.node) ∧
    ((∃ br ∈ info.beaconReports, LeadsAway thirdString d info.node br) → neighbors ≠ [])

variable {thirdString} {d} {v : Option StaId} {F : Fault → Prop} {own : NodeId} {nodeOwn : UsteerNode}

theorem mem_usteerAddNrEntry {n : NodeId} {node : UsteerNode} (liveOwn : d.nodes.get? own = some nodeOwn)
    (live : d.nodes.get? n = some node) (neighbors : List (NodeId × Blob)) :
    Post F (d.usteerAddNrEntry thirdString own n neighbors) (fun r => ∀ m text, (m, text) ∈ r ↔
      (m, text) ∈ neighbors ∨ (m = n ∧ SameSsid d m own ∧ Reportable thirdString d m text)) := by
  have keeps (none : ¬ ∃ text, SameSsid d n own ∧ Reportable thirdString d n text) :
      ∀ m text, (m, text) ∈ neighbors ↔
        (m, text) ∈ neighbors ∨ (m = n ∧ SameSsid d m own ∧ Reportable thirdString d m text) := by
    intro m text
    refine (or_iff_left ?_).symm
    rintro ⟨rfl, offered⟩
    exact none ⟨text, offered⟩
  rw [usteerAddNrEntry, node_ok live, ok_bind]
  cases stored : node.rrmNr with
  | none =>
    refine keeps ?_
    rintro ⟨text, -, node', live', complete⟩
    cases live.symm.trans live'
    simp [stored] at complete
  | some rrmNr =>
    simp only [node_ok liveOwn, ok_bind]
    by_cases differ : nodeOwn.ssid ≠ node.ssid
    · rw [if_pos differ]
      refine keeps ?_
      rintro ⟨text, ⟨node', own', live', liveOwn', same⟩, -⟩
      cases live.symm.trans live'
      cases liveOwn.symm.trans liveOwn'
      exact differ same.symm
    · rw [if_neg differ]
      rw [not_not] at differ
      cases third : thirdString rrmNr with
      | none =>
        refine keeps ?_
        rintro ⟨text, -, node', live', complete⟩
        cases live.symm.trans live'
        simp [stored, third] at complete
      | some text =>
        intro m text'
        rw [List.mem_append, List.mem_singleton, Prod.mk.injEq]
        refine or_congr_right ?_
        constructor
        · rintro ⟨rfl, rfl⟩
          exact ⟨rfl, ⟨node, nodeOwn, live, liveOwn, differ.symm⟩, node, live, by simp [stored, third]⟩
        · rintro ⟨rfl, -, node', live', complete⟩
          cases live.symm.trans live'
          simp only [stored, Option.bind_some, third, Option.some.injEq] at complete
          exact ⟨rfl, complete.symm⟩

/-- A loop over nodes offers what its body does. -/
theorem mem_offers {α : Type} {call : List (NodeId × Blob) → α → Except Fault (List (NodeId × Blob))}
    (leads : α → NodeId → Prop) {P : NodeId → Blob → Prop} (items : List α)
    (step : ∀ neighbors, ∀ x ∈ items, Post F (call neighbors x) (fun r => ∀ m text, (m, text) ∈ r ↔
      (m, text) ∈ neighbors ∨ (leads x m ∧ P m text))) :
    ∀ neighbors, Post F (items.foldlM call neighbors) (fun r => ∀ m text, (m, text) ∈ r ↔
      (m, text) ∈ neighbors ∨ ((∃ x ∈ items, leads x m) ∧ P m text)) := by
  induction items with
  | nil =>
    intro neighbors m text
    simp
  | cons x rest ih =>
    intro neighbors
    rw [List.foldlM_cons, post_bind]
    refine (step neighbors x List.mem_cons_self).mono fun middle first => ?_
    refine (ih (fun neighbors y inside => step neighbors y (List.mem_cons_of_mem _ inside)) middle).mono ?_
    intro r others m text
    rw [others, first]
    simp only [List.mem_cons, exists_eq_or_imp]
    tauto

/-- For another node, a neighbour list differs from a notice only in what it takes from the
    neighbour report. -/
theorem usteerAddRrmData_eq {n : NodeId} (other : n ≠ own) (list : List (NodeId × Blob)) :
    d.usteerAddRrmData own n list = d.usteerAddNrEntry some own n list := by
  rw [usteerAddRrmData, if_neg other]
  rfl

theorem mem_usteerAddRrmData {n : NodeId} {node : UsteerNode} (liveOwn : d.nodes.get? own = some nodeOwn)
    (live : d.nodes.get? n = some node) (list : List (NodeId × Blob)) :
    Post F (d.usteerAddRrmData own n list) (fun r => ∀ m rrmNr, (m, rrmNr) ∈ r ↔ (m, rrmNr) ∈ list ∨
      (m = n ∧ m ≠ own ∧ SameSsid d m own ∧ Reportable some d m rrmNr)) := by
  by_cases itself : n = own
  · rw [usteerAddRrmData, if_pos itself]
    intro m rrmNr
    refine (or_iff_left ?_).symm
    rintro ⟨rfl, other, -⟩
    exact other itself
  · rw [usteerAddRrmData_eq itself]
    refine (mem_usteerAddNrEntry liveOwn live list).mono fun r offered m rrmNr => ?_
    rw [offered]
    refine or_congr_right ?_
    constructor
    · rintro ⟨rfl, offer⟩
      exact ⟨rfl, itself, offer⟩
    · rintro ⟨rfl, -, offer⟩
      exact ⟨rfl, offer⟩

/-- The neighbour list for hostapd has the neighbour reports of the other known nodes with the
    same SSID. -/
theorem mem_rrmSet (sound : Sound v d) (liveOwn : d.nodes.get? own = some nodeOwn) :
    Post F (d.usteerLocalNodePrepareRrmSet own) (fun r => ∀ n rrmNr, (n, rrmNr) ∈ r ↔
      n ∈ d.localNodes ++ d.remoteList ∧ n ≠ own ∧ SameSsid d n own ∧ Reportable some d n rrmNr) := by
  refine (mem_offers (P := fun m rrmNr => m ≠ own ∧ SameSsid d m own ∧ Reportable some d m rrmNr)
    (fun n m => m = n) _ ?_ []).mono fun r offered n rrmNr => ?_
  · intro list n inside
    obtain ⟨node, live⟩ := node_of_index sound.registered inside
    exact mem_usteerAddRrmData liveOwn live list
  · rw [offered]
    simp

/-- The nodes offered are those that the selected reports resolve to, or all that are known if
    none is selected, as far as they can be offered. -/
theorem mem_neighbors (cfg : Config) {si : SiId} {info : StaInfo} (sound : Sound v d)
    (live : d.infos.get? si = some info) :
    Post F (d.disassocImminent thirdString cfg si) (fun notice => ∀ n text, (n, text) ∈ notice.neighbors ↔
      (((∃ br ∈ (d.resolved info.beaconReports).foldl keepReport [], Resolves d n br) ∨
          d.resolved info.beaconReports = [] ∧ n ∈ d.localNodes ++ d.remoteList) ∧
        SameSsid d n info.node ∧ Reportable thirdString d n text)) := by
  obtain ⟨sta, liveSta, -⟩ := sta_of_info sound.links live
  obtain ⟨nodeOwn, liveOwn, -⟩ := node_of_info sound.links live
  obtain ⟨subperm, length⟩ := foldl_subperm strength compared keepReport_replaces (d.resolved info.beaconReports)
  rw [disassocImminent, info_ok live, ok_bind, sta_ok liveSta, ok_bind, filteredLocal_eq sound, ok_bind, post_bind]
  refine (mem_offers (P := fun m text => SameSsid d m info.node ∧ Reportable thirdString d m text)
    (fun br n => Resolves d n br) _ ?_ []).mono ?_
  · intro neighbors br selected
    obtain ⟨-, n, resolves⟩ := (mem_resolved sound).mp (subperm.subset selected)
    obtain ⟨found, returns, lives⟩ := (post_getUsteerNodeFromBssid (F := fun _ => False) br.bssid sound).returns
    cases returns.symm.trans resolves
    obtain ⟨node, liveNode⟩ := lives n rfl
    rw [returns]
    refine (mem_usteerAddNrEntry liveOwn liveNode neighbors).mono fun r offered m text => ?_
    rw [offered]
    have only : m = n ↔ Resolves d m br := by
      rw [Resolves, returns, Except.ok.injEq, Option.some.injEq, eq_comm]
    rw [only]
  intro offered first
  simp only [List.not_mem_nil, false_or] at first
  dsimp only
  by_cases none : d.resolved info.beaconReports = []
  · rw [none, List.foldl_nil, List.isEmpty_nil, if_pos rfl, post_bind]
    refine (mem_offers (P := fun m text => SameSsid d m info.node ∧ Reportable thirdString d m text)
      (fun n m => m = n) _ ?_ offered).mono fun r second m text => ?_
    · intro neighbors n inside
      obtain ⟨node, liveNode⟩ := node_of_index sound.registered inside
      exact mem_usteerAddNrEntry liveOwn liveNode neighbors
    · rw [second, first, none]
      simp
  · have some : ((d.resolved info.beaconReports).foldl keepReport []).isEmpty = false := by
      have positive := List.length_pos_iff.mpr none
      rw [List.isEmpty_eq_false_iff, ← List.length_pos_iff]
      omega
    rw [some, if_neg Bool.false_ne_true]
    intro m text
    simp only [first, none, false_and, or_false]

/-- Whether a notice serves the client, by the reports selected for it. -/
theorem serves_iff {info : StaInfo} {neighbors : List (NodeId × Blob)} {kept : List BeaconReport}
    (sound : Sound none d) (liveOwn : d.nodes.get? info.node = some nodeOwn)
    (offered : ∀ n text, (n, text) ∈ neighbors ↔
      (((∃ br ∈ kept, Resolves d n br) ∨ d.resolved info.beaconReports = [] ∧ n ∈ d.localNodes ++ d.remoteList) ∧
        SameSsid d n info.node ∧ Reportable thirdString d n text)) :
    Serves thirdString d info neighbors ↔
      ((∃ text, Reportable thirdString d info.node text) →
        d.resolved info.beaconReports ≠ [] ∧ ∀ br ∈ kept, ¬ Resolves d info.node br) ∧
      ((∃ br ∈ info.beaconReports, LeadsAway thirdString d info.node br) →
        ∃ br ∈ kept, LeadsAway thirdString d info.node br) := by
  have known : (∃ br ∈ info.beaconReports, LeadsAway thirdString d info.node br) →
      d.resolved info.beaconReports ≠ [] := by
    rintro ⟨br, inside, n, resolves, -⟩
    exact List.ne_nil_of_mem ((mem_resolved sound).mpr ⟨inside, n, resolves⟩)
  constructor
  · rintro ⟨others, some⟩
    refine ⟨?_, fun leads => ?_⟩
    · rintro ⟨text, complete⟩
      have own : SameSsid d info.node info.node := ⟨nodeOwn, nodeOwn, liveOwn, liveOwn, rfl⟩
      constructor
      · intro none
        have present : (d.nodes.get? info.node).isSome := Option.isSome_iff_exists.mpr ⟨nodeOwn, liveOwn⟩
        have indexed : info.node ∈ d.localNodes ++ d.remoteList :=
          List.mem_append.mpr ((wellLinked_of_sound sound).nodeIndexed present)
        have inside := (offered info.node text).mpr ⟨.inr ⟨none, indexed⟩, own, complete⟩
        exact (others _ inside).1 rfl
      · intro br selected resolves
        have inside := (offered info.node text).mpr ⟨.inl ⟨br, selected, resolves⟩, own, complete⟩
        exact (others _ inside).1 rfl
    · obtain ⟨⟨n, text⟩, inside⟩ := List.exists_mem_of_ne_nil _ (some leads)
      obtain ⟨away, same⟩ := others _ inside
      obtain ⟨heard | ⟨none, -⟩, -, complete⟩ := (offered n text).mp inside
      · obtain ⟨br, selected, resolves⟩ := heard
        exact ⟨br, selected, n, resolves, away, same, text, complete⟩
      · exact absurd none (known leads)
  · rintro ⟨hidden, some⟩
    constructor
    · rintro ⟨n, text⟩ inside
      obtain ⟨heard, same, complete⟩ := (offered n text).mp inside
      refine ⟨?_, same⟩
      rintro rfl
      obtain ⟨nonempty, unheard⟩ := hidden ⟨text, complete⟩
      rcases heard with ⟨br, selected, resolves⟩ | ⟨none, -⟩
      · exact unheard br selected resolves
      · exact nonempty none
    · intro leads
      obtain ⟨br, selected, n, resolves, -, same, text, complete⟩ := some leads
      exact List.ne_nil_of_mem ((offered n text).mpr ⟨.inl ⟨br, selected, resolves⟩, same, complete⟩)

end Offered

/-! ### When the notice serves the client -/

/-- The client's own node cannot be offered, or reports resolve and none of them to it. -/
def OwnHidden (thirdString : Blob → Option Blob) (d : Daemon) (info : StaInfo) : Prop :=
  (∀ text, ¬ Reportable thirdString d info.node text) ∨
    d.resolved info.beaconReports ≠ [] ∧ ∀ br ∈ info.beaconReports, ¬ Resolves d info.node br

/-- If a report leads to another node, one of any three that resolve does. -/
def Uncrowded (thirdString : Blob → Option Blob) (d : Daemon) (info : StaInfo) : Prop :=
  (∃ br ∈ info.beaconReports, LeadsAway thirdString d info.node br) →
    ∀ three : List BeaconReport, three.Subperm (d.resolved info.beaconReports) → three.length = 3 →
      ∃ br ∈ three, LeadsAway thirdString d info.node br

/-- A report that resolves and that at most two others are stronger than. -/
def Foremost (d : Daemon) (info : StaInfo) (br : BeaconReport) : Prop :=
  br ∈ d.resolved info.beaconReports ∧
    (d.resolved info.beaconReports).countP (fun other => decide (strength br < strength other)) < 3

/-- The order of the reports leaves no doubt about the three strongest. -/
def Decisive (d : Daemon) (info : StaInfo) : Prop :=
  (d.resolved info.beaconReports).length ≤ 3 ∨
    ((d.resolved info.beaconReports).map strength).Nodup ∧ RankedThroughout d info.beaconReports

section Serving

variable {v : Option StaId} {d : Daemon} {info : StaInfo} {thirdString : Blob → Option Blob}

theorem selected_iff_foremost (sound : Sound v d) (decisive : Decisive d info) (br : BeaconReport) :
    br ∈ (d.resolved info.beaconReports).foldl keepReport [] ↔ Foremost d info br := by
  obtain ⟨subperm, length⟩ := foldl_subperm strength compared keepReport_replaces (d.resolved info.beaconReports)
  rcases decisive with few | ⟨distinct, alike⟩
  · have all : ((d.resolved info.beaconReports).foldl keepReport []).Perm (d.resolved info.beaconReports) :=
      subperm.perm_of_length_le (by omega)
    rw [all.mem_iff]
    refine ⟨fun inside => ⟨inside, ?_⟩, And.left⟩
    have notAll : (d.resolved info.beaconReports).countP (fun other => decide (strength br < strength other)) ≠
        (d.resolved info.beaconReports).length := by
      intro each
      have above := List.countP_eq_length.mp each br inside
      simp at above
    have most : (d.resolved info.beaconReports).countP (fun other => decide (strength br < strength other)) ≤
        (d.resolved info.beaconReports).length := List.countP_le_length
    omega
  · have strongest := (strongest_throughout_iff sound info.beaconReports).mpr alike info.beaconReports []
      (List.append_nil _).symm
    obtain ⟨filtered, returns, strongest⟩ := strongest
    cases (filteredLocal_eq sound info.beaconReports).symm.trans returns
    constructor
    · intro selected
      have inside := subperm.subset selected
      exact ⟨inside, (mem_strongest_iff strength strongest distinct inside).mp selected⟩
    · rintro ⟨inside, few⟩
      exact (mem_strongest_iff strength strongest distinct inside).mpr few

/-- Three reports are selected, or all of them. -/
theorem selected_leads_away (sound : Sound v d) (uncrowded : Uncrowded thirdString d info)
    (leads : ∃ br ∈ info.beaconReports, LeadsAway thirdString d info.node br) :
    ∃ br ∈ (d.resolved info.beaconReports).foldl keepReport [], LeadsAway thirdString d info.node br := by
  obtain ⟨subperm, length⟩ := foldl_subperm strength compared keepReport_replaces (d.resolved info.beaconReports)
  by_cases full : ((d.resolved info.beaconReports).foldl keepReport []).length = 3
  · exact uncrowded leads _ subperm full
  · have all : ((d.resolved info.beaconReports).foldl keepReport []).Perm (d.resolved info.beaconReports) :=
      subperm.perm_of_length_le (by omega)
    obtain ⟨br, inside, n, resolves, target⟩ := leads
    exact ⟨br, all.mem_iff.mpr ((mem_resolved sound).mpr ⟨inside, n, resolves⟩), n, resolves, target⟩

end Serving

/-- The notice offers only other nodes with the same SSID, and one that a report leads to,
    when the own node is hidden and the reports are not crowded; when the order of the reports
    is decisive, exactly if the own node is not among the three strongest and a node to go to
    is. -/
theorem notice_serves (env : Platform) (cfg : Config) (thirdString : Blob → Option Blob) {s : System}
    (reach : System.Reached env s) {si : SiId} {info : StaInfo} (live : s.daemon.infos.get? si = some info) :
    ∃ notice, s.daemon.disassocImminent thirdString cfg si = .ok notice ∧
      (OwnHidden thirdString s.daemon info → Uncrowded thirdString s.daemon info →
        Serves thirdString s.daemon info notice.neighbors) ∧
      (Decisive s.daemon info → (Serves thirdString s.daemon info notice.neighbors ↔
        ((∃ text, Reportable thirdString s.daemon info.node text) → s.daemon.resolved info.beaconReports ≠ [] ∧
          ∀ br, Foremost s.daemon info br → ¬ Resolves s.daemon info.node br) ∧
        ((∃ br ∈ info.beaconReports, LeadsAway thirdString s.daemon info.node br) →
          ∃ br, Foremost s.daemon info br ∧ LeadsAway thirdString s.daemon info.node br))) := by
  obtain ⟨nodeOwn, liveOwn, -⟩ := node_of_info reach.sound.links live
  obtain ⟨notice, returns, offered⟩ := (mem_neighbors (F := fun _ => False) cfg reach.sound live).returns
  refine ⟨notice, returns, fun hidden uncrowded => ?_, fun decisive => ?_⟩
  · refine (serves_iff reach.sound liveOwn offered).mpr ⟨?_, selected_leads_away reach.sound uncrowded⟩
    rintro ⟨text, complete⟩
    rcases hidden with none | ⟨nonempty, unheard⟩
    · exact absurd complete (none text)
    · refine ⟨nonempty, fun br selected => ?_⟩
      obtain ⟨subperm, -⟩ :=
        foldl_subperm strength compared keepReport_replaces (s.daemon.resolved info.beaconReports)
      exact unheard br ((mem_resolved reach.sound).mp (subperm.subset selected)).1
  · rw [serves_iff reach.sound liveOwn offered]
    simp only [selected_iff_foremost reach.sound decisive]

/-- The third string of an array, as `blobmsg_parse_array` finds it in one that is well formed. -/
def thirdField (rrmNr : Blob) : Option Blob :=
  (((Tree.fieldsIn rrmNr.length rrmNr).filter (fun field => field.type = .string))[2]?).map Tree.data

/-- The strings "a", "b" and "c". -/
def threeStrings : Blob := [97, 98, 99].flatMap (fun c => [131, 0, 0, 10, 0, 0, 0, 0, c, 0, 0, 0])

/-- The status of a node with a neighbour report. -/
def reportingStatus (bssid : MacAddr) : NodeStatus := { plainStatus bssid with rrmNr := some threeStrings }

/-- A client of the first of two nodes reports both. -/
def hearsBoth (own : NodeStatus) : List Input :=
  associates ++ [.register (hostapdDot ++ [49]), .status 0 own, .status 1 (reportingStatus 11),
    .beaconReport 0 (reportOf 10 50), .beaconReport 0 (reportOf 11 100)]

/-- The own node has no neighbour report, and the client is sent to the other. -/
theorem notice_serves_between_two : ∃ s info notice, System.Reached plainPlatform s ∧
    s.daemon.infos.get? 0 = some info ∧ s.daemon.disassocImminent thirdField usteerInitDefaults 0 = .ok notice ∧
    Serves thirdField s.daemon info notice.neighbors ∧ notice.neighbors = [(1, [99, 0])] := by
  have evaluates : ((plainRun usteerInitDefaults (hearsBoth (plainStatus 10))).any fun d =>
      (d.infos.get? 0).any fun info => (d.disassocImminent thirdField usteerInitDefaults 0).toOption.any fun notice =>
        decide (info.node = 0 ∧ (d.resolved info.beaconReports).length = 2 ∧ notice.neighbors = [(1, [99, 0])] ∧
          (d.nodes.get? 0).bind (fun node => node.rrmNr) = none)) = true := by
    decide +kernel
  obtain ⟨d, run, evaluates⟩ := (Option.any_eq_true _ _).mp evaluates
  obtain ⟨info, live, evaluates⟩ := (Option.any_eq_true _ _).mp evaluates
  obtain ⟨notice, returns, evaluates⟩ := (Option.any_eq_true _ _).mp evaluates
  obtain ⟨own, two, offered, none⟩ := of_decide_eq_true evaluates
  have reach := reached_plainRun run
  obtain ⟨notice', returns', serves, -⟩ := notice_serves plainPlatform usteerInitDefaults thirdField reach live
  cases (ok_of_toOption returns).symm.trans returns'
  refine ⟨_, info, notice, reach, live, returns', serves (.inl ?_) ?_, offered⟩
  · rintro text ⟨node, liveNode, complete⟩
    rw [own] at liveNode
    rw [liveNode, Option.bind_some] at none
    simp [none] at complete
  · intro _ three subperm length
    have most : three.length ≤ (d.resolved info.beaconReports).length := subperm.length_le
    omega

/-- The own node is offered once it has a neighbour report, also when another one is. -/
theorem own_node_offered : ∃ s info notice, System.Reached plainPlatform s ∧ s.daemon.infos.get? 0 = some info ∧
    s.daemon.disassocImminent thirdField usteerInitDefaults 0 = .ok notice ∧
    notice.neighbors = [(1, [99, 0]), (info.node, [99, 0])] ∧ ¬ Serves thirdField s.daemon info notice.neighbors := by
  have evaluates : ((plainRun usteerInitDefaults (hearsBoth (reportingStatus 10))).any fun d =>
      (d.infos.get? 0).any fun info => (d.disassocImminent thirdField usteerInitDefaults 0).toOption.any fun notice =>
        decide (notice.neighbors = [(1, [99, 0]), (info.node, [99, 0])])) = true := by
    decide +kernel
  obtain ⟨d, run, evaluates⟩ := (Option.any_eq_true _ _).mp evaluates
  obtain ⟨info, live, evaluates⟩ := (Option.any_eq_true _ _).mp evaluates
  obtain ⟨notice, returns, evaluates⟩ := (Option.any_eq_true _ _).mp evaluates
  have offered := of_decide_eq_true evaluates
  refine ⟨_, info, notice, reached_plainRun run, live, ok_of_toOption returns, offered, fun serves => ?_⟩
  exact (serves.1 (info.node, [99, 0]) (by rw [offered]; simp)).1 rfl

end Usteer
