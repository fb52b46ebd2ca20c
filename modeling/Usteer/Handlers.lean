import Usteer.Moves

/-!
Every function that deletes nothing follows no freed reference and is a sequence of
moves: lookups, updates, the hearing map, the policy tick, incoming stations and
client tables, one lemma per function.
-/
namespace Usteer
open SearchTree Timeout Function Daemon

variable {env : Platform} {cfg : Config} {scope : Scope} {v : Option StaId} {d : Daemon}

theorem Moves.one {a b : Option StaId × Daemon} (move : Move env cfg scope a b) : Moves env cfg scope a b :=
  Relation.ReflTransGen.single move

theorem Moves.none (a : Option StaId × Daemon) : Moves env cfg scope a a := Relation.ReflTransGen.refl

theorem Moves.then {a b c : Option StaId × Daemon} (first : Moves env cfg scope a b) (second : Moves env cfg scope b c) :
    Moves env cfg scope a c :=
  Relation.ReflTransGen.trans first second

/-- What no reference, timer or roam decision depends on is edited. -/
structure Detail (info info' : StaInfo) : Prop where
  sta : info'.sta = info.sta
  node : info'.node = info.node
  roamState : info'.roamState = info.roamState
  roamEvent : info'.roamEvent = info.roamEvent
  roamKick : info'.roamKick = info.roamKick
  roamTries : info'.roamTries = info.roamTries
  connected : info'.connected = info.connected
  seen : info'.seen = info.seen
  stats : info'.stats = info.stats
  signal : info'.signal = info.signal
  reports : info'.beaconReports.Sublist info.beaconReports

theorem Moves.edit (si : SiId) {f : StaInfo → StaInfo} (detail : ∀ info, Detail info (f info))
    (heard : ∀ info, (f info).roamScanDone = info.roamScanDone) : Moves env cfg scope (v, d) (v, d.modifyInfo si f) :=
  .one (.editInfo si fun info _ =>
    ⟨⟨(detail info).sta, (detail info).node, fun _ inside => .inl ((detail info).reports.subset inside)⟩,
      ⟨(detail info).roamState, (detail info).roamEvent, (detail info).roamKick, (detail info).roamTries⟩,
      (detail info).connected, (detail info).seen, .inl (heard info), fun type => .inl (by rw [(detail info).stats]),
      (detail info).signal, .inl (detail info).reports⟩)

/-- The statistics in scope are edited as well. -/
theorem Moves.count {si : SiId} {info : StaInfo} {addr : MacAddr} {n : NodeId} {type : EventType}
    {f : StaInfo → StaInfo} (g : StaInfoStats → StaInfoStats) (request : scope.request = some (addr, n, type))
    (entry : EntryOf d addr n si info) (detail : ∀ info, Detail info (f info))
    (heard : ∀ info, (f info).roamScanDone = info.roamScanDone ∨ (f info).roamScanDone = d.currentTime) :
    Moves env cfg scope (v, d) (v, d.modifyInfo si (fun info => setStats type g (f info))) := by
  refine .one (.editInfo si fun info' live => ?_)
  rw [entry.1] at live
  cases live
  have same := detail info
  refine ⟨⟨same.sta, same.node, fun _ inside => .inl (same.reports.subset inside)⟩,
    ⟨same.roamState, same.roamEvent, same.roamKick, same.roamTries⟩, same.connected, same.seen,
    (heard info).imp_right fun now => ⟨now, addr, n, type, request, entry⟩, fun other => ?_, same.signal,
    .inl same.reports⟩
  by_cases counted : other = type
  · subst counted
    exact .inr ⟨addr, n, request, entry⟩
  · refine .inl ?_
    show Function.update (f info).stats type _ other = _
    rw [Function.update_of_ne counted, same.stats]

variable (env cfg scope)

/-! ### Lookup and creation -/

theorem post_usteerStaGet {F : Fault → Prop} (addr : MacAddr) (sound : Sound none d) :
    Post F (d.usteerStaGet addr true) (fun r => ∃ s sta w, r.1 = some s ∧ r.2.stas.get? s = some sta ∧ sta.addr = addr ∧
      (∀ s', w = some s' → s' = s ∧ sta.nodes = []) ∧ Moves env cfg scope (none, d) (w, r.2)) := by
  have live : ∀ s ∈ d.stations, ∃ sta, d.sta s = .ok sta := fun s inside => by
    obtain ⟨sta, found⟩ := sta_of_stations sound.links inside
    exact ⟨sta, sta_ok found⟩
  unfold usteerStaGet
  rw [post_bind]
  refine (post_search d.stations live).mono ?_
  rintro r ⟨hit, miss⟩
  cases r with
  | some s =>
    obtain ⟨inside, sta, found, fits⟩ := hit s rfl
    obtain ⟨sta', live'⟩ := sta_of_stations sound.links inside
    rw [sta_ok live'] at found
    cases found
    exact ⟨s, sta, Option.none, rfl, live', by simpa using fits, by simp, .none _⟩
  | none =>
    have fresh : ∀ s sta, d.stas.get? s = some sta → sta.addr ≠ addr := by
      intro s sta found same
      have inside : s ∈ d.stations := (sound.links.indexed s).mpr ⟨(sta.addr, sta.nodes), by simp [table, found]⟩
      have unfit := miss rfl s inside sta (sta_ok found)
      simp [same] at unfit
    refine ⟨d.stas.next, ⟨addr, [], false, false⟩, some d.stas.next, rfl, ?_, rfl, by simp, .one (.newSta fresh)⟩
    simp [newSta, Heap.get?_alloc]

theorem post_usteerStaFind {F : Fault → Prop} (addr : MacAddr) (sound : Sound none d) :
    Post F (d.usteerStaGet addr false) (fun r => r.2 = d ∧
      (∀ s, r.1 = some s → ∃ sta, d.stas.get? s = some sta ∧ sta.addr = addr) ∧
      (r.1 = none → ∀ s sta, d.stas.get? s = some sta → sta.addr ≠ addr)) := by
  have live : ∀ s ∈ d.stations, ∃ sta, d.sta s = .ok sta := fun s inside => by
    obtain ⟨sta, found⟩ := sta_of_stations sound.links inside
    exact ⟨sta, sta_ok found⟩
  unfold usteerStaGet
  rw [post_bind]
  refine (post_search d.stations live).mono ?_
  rintro r ⟨hit, miss⟩
  cases r with
  | none =>
    refine ⟨rfl, fun s same => (by cases same), fun _ s sta found same => ?_⟩
    have inside : s ∈ d.stations := (sound.links.indexed s).mpr ⟨(sta.addr, sta.nodes), by simp [table, found]⟩
    have unfit := miss rfl s inside sta (sta_ok found)
    simp [same] at unfit
  | some s =>
    refine ⟨rfl, fun s' same => ?_, fun none => (by cases none)⟩
    cases same
    obtain ⟨inside, sta, found, fits⟩ := hit s rfl
    obtain ⟨sta', live'⟩ := sta_of_stations sound.links inside
    rw [sta_ok live'] at found
    cases found
    exact ⟨sta, live', by simpa using fits⟩

/-- The search of a station's list for the entry of a node. -/
theorem post_searchNode {F : Fault → Prop} {s : StaId} {sta : Sta} (n : NodeId) (sound : Sound v d)
    (live : d.stas.get? s = some sta) :
    Post F (search d.info (fun info => info.node = n) sta.nodes) (fun r =>
      (∀ si, r = some si → si ∈ sta.nodes ∧ ∃ info, d.infos.get? si = some info ∧ info.sta = s ∧ info.node = n) ∧
      (r = none → ∀ si info, d.infos.get? si = some info → ¬ (info.sta = s ∧ info.node = n))) := by
  have lives : ∀ si ∈ sta.nodes, ∃ info, d.info si = .ok info := fun si inside => by
    obtain ⟨info, found, _⟩ := info_of_sta sound.links live inside
    exact ⟨info, info_ok found⟩
  refine (post_search sta.nodes lives).mono ?_
  rintro r ⟨hit, miss⟩
  constructor
  · intro si same
    obtain ⟨inside, info, found, fits⟩ := hit si same
    obtain ⟨info', live', owner⟩ := info_of_sta sound.links live inside
    rw [info_ok live'] at found
    cases found
    exact ⟨inside, info, live', owner, by simpa using fits⟩
  · rintro none si info found ⟨owner, node⟩
    obtain ⟨sta', live', inside⟩ := sta_of_info sound.links found
    rw [owner, live] at live'
    cases live'
    have unfit := miss none si inside info (info_ok found)
    simp [node] at unfit

theorem post_usteerStaInfoGet {F : Fault → Prop} {s : StaId} {n : NodeId} {sta : Sta} {node : UsteerNode} (sound : Sound v d)
    (liveSta : d.stas.get? s = some sta) (liveNode : d.nodes.get? n = some node)
    (own : ∀ s', v = some s' → s' = s ∧ sta.nodes = []) :
    Post F (d.usteerStaInfoGet s n) (fun r =>
      (∃ info, r.2.2.infos.get? r.1 = some info ∧ info.sta = s ∧ info.node = n) ∧
      Moves env cfg scope (v, d) (none, r.2.2)) := by
  unfold usteerStaInfoGet
  rw [sta_ok liveSta, ok_bind, post_bind]
  refine (post_searchNode n sound liveSta).mono ?_
  rintro r ⟨hit, miss⟩
  cases r with
  | some si =>
    obtain ⟨inside, found⟩ := hit si rfl
    have filled : v = Option.none := by
      cases v with
      | none => rfl
      | some s' =>
        rw [(own s' rfl).2] at inside
        cases inside
    rw [filled]
    exact ⟨found, .none _⟩
  | none =>
    show Post F (d.node n >>= _) _
    rw [node_ok liveNode, ok_bind, post_pure]
    refine ⟨⟨.zeroed n s node.freq d.currentTime, ?_, rfl, rfl⟩, .one ?_⟩
    · simp [newInfo, modifySta, modifyNode, Heap.get?_alloc]
    · exact .newInfo node.freq liveSta liveNode (fun s' same => (own s' same).1) (miss rfl)

/-! ### Updates -/

/-- An edit of an entry followed by the update of its timer settles it. -/
theorem settle_eq {si : SiId} {info : StaInfo} {f : StaInfo → StaInfo} {timeout : Int32}
    (live : d.infos.get? si = some info) (positive : (f info).connected = 1 ∨ 0 < timeout) :
    (d.modifyInfo si f).usteerStaInfoUpdateTimeout env cfg si timeout = .ok (d.settled env si (f info) timeout) := by
  have edited : (d.modifyInfo si f).infos.get? si = some (f info) := by simp [modifyInfo, Heap.get?_modify, live]
  unfold usteerStaInfoUpdateTimeout
  rw [info_ok edited, ok_bind]
  unfold settled
  split
  · show Except.ok _ = _
    simp only [modifyInfo, Heap.modify_const f live]
  · rename_i unconnected
    rw [if_pos (positive.resolve_left unconnected)]
    show Except.ok _ = _
    simp only [modifyInfo, Heap.modify_const f live]

/-- With a timeout out of range an entry that is not connected is freed instead. -/
theorem post_updateTimeout {F : Fault → Prop} {si : SiId} {info : StaInfo} {f : StaInfo → StaInfo} {timeout : Int32}
    (sound : Sound none d) (live : d.infos.get? si = some info)
    (owners : ∀ info, (f info).sta = info.sta ∧ (f info).node = info.node) :
    Post F ((d.modifyInfo si f).usteerStaInfoUpdateTimeout env cfg si timeout) (fun d' =>
      (((f info).connected = 1 ∨ 0 < timeout) ∧ d' = d.settled env si (f info) timeout) ∨
      (¬ 0 < timeout ∧ (f info).connected ≠ 1 ∧ d'.infos.get? si = none)) := by
  by_cases positive : (f info).connected = 1 ∨ 0 < timeout
  · rw [settle_eq env cfg live positive]
    exact .inl ⟨positive, rfl⟩
  · obtain ⟨unconnected, expired⟩ := not_or.mp positive
    have edited : (d.modifyInfo si f).infos.get? si = some (f info) := by simp [modifyInfo, Heap.get?_modify, live]
    have links : Linked none (d.modifyInfo si f).table := by
      rw [table_modifyInfo fun info _ => owners info]
      exact sound.links
    unfold usteerStaInfoUpdateTimeout
    rw [info_ok edited, ok_bind, if_neg unconnected, if_neg expired]
    refine (staInfoDel_spec links edited).mono fun d' deleted => .inr ⟨expired, unconnected, ?_⟩
    rw [deleted.infos, if_pos rfl]

theorem post_usteerStaInfoUpdate {F : Fault → Prop} {si : SiId} {info : StaInfo} {signal : Int32} (avg : Bool)
    (supplied : signal = noSignal ∨ ¬ Unheard scope d info) (sound : Sound none d) (live : d.infos.get? si = some info) :
    Post F (d.usteerStaInfoUpdate env cfg si signal avg) (fun d' =>
      ((info.connected = 1 ∨ cfg.InRange) ∧ Moves env cfg scope (none, d) (none, d')) ∨
      (¬ cfg.InRange ∧ info.connected ≠ 1 ∧ d'.infos.get? si = none)) := by
  unfold usteerStaInfoUpdate
  rw [info_ok live, ok_bind]
  dsimp only
  refine (post_updateTimeout env cfg sound live ?_).mono fun d' => ?_
  · exact fun _ => ⟨rfl, rfl⟩
  rintro (⟨positive, rfl⟩ | freed)
  · refine .inl ⟨positive, .one (.settle _ live ⟨rfl, rfl, fun br inside => .inl inside⟩ ⟨rfl, rfl, rfl, rfl⟩ rfl rfl
      positive ?_ (fun _ _ => rfl) (fun unheard => ?_) rfl)⟩
    · exact fun _ => ⟨rfl, .inl rfl⟩
    · rw [supplied.resolve_right (not_not.mpr unheard)]
      simp
  · exact .inr freed

/-! ### The hearing map -/

theorem moves_cleanup (si : SiId) (bssid : Option MacAddr) :
    Moves env cfg scope (v, d) (v, d.usteerBeaconReportCleanup cfg si bssid) := by
  refine Moves.edit si (fun info => ⟨rfl, rfl, rfl, rfl, rfl, rfl, rfl, rfl, rfl, rfl, ?_⟩) fun _ => rfl
  cases bssid with
  | none => exact List.nil_sublist _
  | some bssid => exact List.filter_sublist

theorem node_of_index {n : NodeId} (registered : Registered d.table) (inside : n ∈ d.localNodes ++ d.remoteList) :
    ∃ node, d.nodes.get? n = some node := by
  rcases List.mem_append.mp inside with isLocal | isRemote
  · obtain ⟨node, live, _⟩ := node_of_locals registered isLocal
    exact ⟨node, live⟩
  · obtain ⟨node, live, _⟩ := node_of_remotes registered isRemote
    exact ⟨node, live⟩

theorem post_getUsteerNodeFromBssid {F : Fault → Prop} (bssid : MacAddr) (sound : Sound v d) :
    Post F (d.getUsteerNodeFromBssid bssid) (fun r => ∀ n, r = some n → ∃ node, d.nodes.get? n = some node) := by
  refine (post_search _ fun n inside => ?_).mono ?_
  · obtain ⟨node, live⟩ := node_of_index sound.registered inside
    exact ⟨node, node_ok live⟩
  · rintro r ⟨hit, _⟩ n same
    exact node_of_index sound.registered (hit n same).1

theorem post_usteerBeaconRequestNextBand {F : Fault → Prop} (freq : Int32) (sound : Sound v d) (registered : d.localNodes ≠ []) :
    Post F (d.usteerBeaconRequestNextBand freq) (fun _ => True) := by
  unfold usteerBeaconRequestNextBand
  rw [post_bind]
  refine (post_mapM (Q := fun _ _ => True) d.localNodes fun n inside => ?_).mono fun freqs listed => ?_
  · obtain ⟨node, live, _⟩ := node_of_locals sound.registered inside
    rw [node_ok live]
    trivial
  · cases bandAfter freq true freqs with
    | some next => trivial
    | none =>
      cases freqs with
      | nil => exact absurd (List.forall₂_nil_right_iff.mp listed) registered
      | cons first rest => trivial

theorem locals_of_onLocal {info : StaInfo} (sound : Sound v d) (isLocal : d.OnLocal info) : d.localNodes ≠ [] := by
  obtain ⟨node, live, kind⟩ := isLocal
  refine List.ne_nil_of_mem (a := info.node) ((sound.registered.inLocals info.node).mpr ?_)
  simp [table, live, kind]

theorem post_usteerBeaconRequestCheck {F : Fault → Prop} {si : SiId} {info : StaInfo} (sound : Sound none d)
    (live : d.infos.get? si = some info) (isLocal : d.OnLocal info) :
    Post F (d.usteerBeaconRequestCheck env cfg si) (fun d' => Moves env cfg scope (none, d) (none, d')) := by
  obtain ⟨node, liveNode, _⟩ := node_of_info sound.links live
  unfold usteerBeaconRequestCheck
  rw [info_ok live, ok_bind, node_ok liveNode, ok_bind]
  dsimp only
  split
  · exact .none _
  · generalize countFailedRequests info.beaconRequest node.freq info.beaconRequest.band = failed
    generalize hd1 : (d.modifyInfo si (fun info =>
      { info with beaconRequest := { info.beaconRequest with failedRequests := failed } })) = d1
    have moves1 : Moves env cfg scope (none, d) (none, d1) := by
      rw [← hd1]
      exact Moves.edit si (fun _ => ⟨rfl, rfl, rfl, rfl, rfl, rfl, rfl, rfl, rfl, rfl, .refl _⟩) fun _ => rfl
    generalize hd2 : usteerBeaconRequestSend d1 si info.beaconRequest.band
      (requestMode info.beaconRequest.band failed) = d2
    have moves2 : Moves env cfg scope (none, d) (none, d2) := by
      rw [← hd2]
      exact moves1.then (.one (.log _ trivial))
    generalize hd3 : (if info.beaconRequest.band = node.freq then _ else d2) = d3
    have moves3 : Moves env cfg scope (none, d) (none, d3) := by
      rw [← hd3]
      split
      · refine (moves2.then ?_).then (moves_cleanup env cfg scope si _)
        exact Moves.edit si (fun _ => ⟨rfl, rfl, rfl, rfl, rfl, rfl, rfl, rfl, rfl, rfl, .refl _⟩) fun _ => rfl
      · exact moves2
    rw [post_bind]
    have locals3 : d3.localNodes ≠ [] := by
      rw [(survives_moves moves3).localNodes]
      exact locals_of_onLocal sound isLocal
    refine (post_usteerBeaconRequestNextBand _ (sound_moves (a := (none, d)) sound moves3) locals3).mono fun next _ => ?_
    rw [post_pure]
    refine moves3.then ?_
    exact Moves.edit si (fun _ => ⟨rfl, rfl, rfl, rfl, rfl, rfl, rfl, rfl, rfl, rfl, .refl _⟩) fun _ => rfl

/-- A cleanup for a BSSID leaves no report of it. -/
theorem cleanup_bssid {si : SiId} {info : StaInfo} {bssid : MacAddr} {br : BeaconReport}
    (live : (d.usteerBeaconReportCleanup cfg si (some bssid)).infos.get? si = some info)
    (inside : br ∈ info.beaconReports) : br.bssid ≠ bssid := by
  obtain ⟨before, -, shape⟩ := Heap.get?_modify_some live
  rw [if_pos rfl] at shape
  subst shape
  have kept := (List.mem_filter.mp inside).2
  simp only [usteerBeaconReportDelete, Bool.not_or, Bool.and_eq_true, Bool.not_eq_true', decide_eq_false_iff_not] at kept
  exact kept.1

theorem moves_storeBeaconReport {si : SiId} {br : BeaconReport} (own : br.address = si)
    (now : br.usteerTime = d.currentTime) (updated : d.currentTime = d.clock) :
    Moves env cfg scope (v, d) (v, d.storeBeaconReport cfg si br) := by
  unfold storeBeaconReport
  refine (Moves.edit si (fun _ => ?_) (fun _ => ?_)).then
    ((moves_cleanup env cfg scope si _).then (.one (.editInfo si fun info live => ?_)))
  · exact ⟨rfl, rfl, rfl, rfl, rfl, rfl, rfl, rfl, rfl, rfl, .refl _⟩
  · rfl
  · refine ⟨⟨rfl, rfl, fun br' inside => ?_⟩, ⟨rfl, rfl, rfl, rfl⟩, rfl, rfl, .inl rfl, fun _ => .inl rfl, rfl,
      .inr ⟨br, rfl, now, updated, fun old inside => cleanup_bssid cfg live inside⟩⟩
    rcases List.mem_cons.mp inside with rfl | inside
    · exact .inr own
    · exact .inl inside

/-- Every attribute is there, and both addresses are addresses. -/
structure Daemon.BeaconReportMsg.Complete (msg : BeaconReportMsg) : Prop where
  address : msg.address.join.isSome = true
  bssid : msg.bssid.join.isSome = true
  rcpi : msg.rcpi.isSome = true
  rsni : msg.rsni.isSome = true
  opClass : msg.opClass.isSome = true
  channel : msg.channel.isSome = true

theorem post_usteerHandleEventBeaconReport (n : NodeId) (msg : BeaconReportMsg) (updated : d.currentTime = d.clock)
    (sound : Sound none d) :
    Post (fun e => e = .nullPointer ∧ ¬ msg.Complete) (d.usteerHandleEventBeaconReport cfg n msg) (fun d' =>
      Moves env cfg scope (none, d) (none, d')) := by
  unfold usteerHandleEventBeaconReport
  split
  · rename_i bssid address atBssid atAddress
    rw [post_bind, post_notNull]
    refine ⟨fun addrSta _ => ?_, fun unread => ⟨rfl, fun complete => ?_⟩⟩
    swap
    · have present := complete.address
      rw [atAddress, unread] at present
      cases present
    rw [post_bind]
    refine (post_usteerStaFind addrSta sound).mono ?_
    rintro ⟨found, d'⟩ ⟨same, live, _⟩
    dsimp only at same
    subst same
    cases found with
    | none => exact .none _
    | some s =>
      obtain ⟨sta, liveSta, _⟩ := live s rfl
      show Post _ (d'.usteerStaInfoFind s n >>= _) _
      unfold usteerStaInfoFind
      rw [sta_ok liveSta, ok_bind, post_bind]
      refine (post_searchNode n sound liveSta).mono ?_
      rintro r ⟨hit, _⟩
      cases r with
      | none => exact .none _
      | some si =>
        show Post _ (notNull bssid >>= _) _
        rw [post_bind, post_notNull]
        refine ⟨fun addr _ => ?_, fun unread => ⟨rfl, fun complete => ?_⟩⟩
        swap
        · have present := complete.bssid
          rw [atBssid, unread] at present
          cases present
        rw [post_bind]
        refine (post_getUsteerNodeFromBssid addr sound).mono fun known _ => ?_
        cases known with
        | none => exact .none _
        | some m =>
          have absent : ∀ {α : Type} {o : Option α}, (msg.Complete → o.isSome = true) → o = none →
              True ∧ ¬ msg.Complete := by
            intro α o needed absent
            refine ⟨trivial, fun complete => ?_⟩
            have present := needed complete
            rw [absent] at present
            cases present
          simp only [post_bind, post_notNull, post_pure]
          refine ⟨fun rcpi _ => ⟨fun rsni _ => ⟨fun opClass _ => ⟨fun channel _ => ?_, absent (·.channel)⟩,
            absent (·.opClass)⟩, absent (·.rsni)⟩, absent (·.rcpi)⟩
          exact moves_storeBeaconReport env cfg scope rfl rfl updated
  · exact .none _

/-! ### The search for a better candidate -/

/-- What the pointer to the node of a BSSID points to, once it is found. -/
theorem nodeFromBssid_of_found {bssid : MacAddr} {n : NodeId} {node : UsteerNode}
    (found : d.getUsteerNodeFromBssid bssid = .ok (some n)) (live : d.nodes.get? n = some node) :
    d.nodeFromBssid bssid = some node := by
  unfold nodeFromBssid
  rw [found]
  exact live

theorem post_ownReport {F : Fault → Prop} (own : NodeId) (sound : Sound v d) (reports : List BeaconReport) :
    Post F (d.ownReport own reports) (fun r => ∀ br, r = some br →
      br ∈ reports ∧ ∃ node, d.nodeFromBssid br.bssid = some node) := by
  induction reports with
  | nil => simp [ownReport]
  | cons br rest ih =>
    have skip : Post F (d.ownReport own rest) (fun r => ∀ br', r = some br' →
        br' ∈ br :: rest ∧ ∃ node, d.nodeFromBssid br'.bssid = some node) :=
      ih.mono fun r inside br' same => ⟨List.mem_cons_of_mem _ (inside br' same).1, (inside br' same).2⟩
    rw [ownReport, post_bind]
    refine ((post_getUsteerNodeFromBssid br.bssid sound).and (post_of_ok fun _ found => found)).mono ?_
    rintro known ⟨lives, found⟩
    cases known with
    | none => exact skip
    | some n =>
      obtain ⟨node, live⟩ := lives n rfl
      show Post F (if n = own then _ else _) _
      split
      · intro br' same
        cases same
        exact ⟨List.mem_cons_self, node, nodeFromBssid_of_found found live⟩
      · exact skip

theorem post_betterReport {F : Fault → Prop} {own : NodeId} {nodeRef nodeCur : UsteerNode} {brCur : BeaconReport}
    (sound : Sound v d) (live : d.nodes.get? own = some nodeRef) (atCur : d.nodeFromBssid brCur.bssid = some nodeCur)
    (reports : List BeaconReport) :
    Post F (d.betterReport cfg own brCur reports) (fun r =>
      ∀ br n, r = some (br, n) → br ∈ reports ∧ ∃ node, d.nodes.get? n = some node) := by
  induction reports with
  | nil => simp [betterReport]
  | cons br rest ih =>
    have skip : Post F (d.betterReport cfg own brCur rest) (fun r =>
        ∀ br' n, r = some (br', n) → br' ∈ br :: rest ∧ ∃ node, d.nodes.get? n = some node) :=
      ih.mono fun r inside br' n same => ⟨List.mem_cons_of_mem _ (inside br' n same).1, (inside br' n same).2⟩
    rw [betterReport, post_bind]
    refine ((post_getUsteerNodeFromBssid br.bssid sound).and (post_of_ok fun _ found => found)).mono ?_
    rintro known ⟨lives, found⟩
    cases known with
    | none => exact skip
    | some n =>
      obtain ⟨node, liveNode⟩ := lives n rfl
      have atNew := nodeFromBssid_of_found found liveNode
      show Post F (if n = own then _ else _) _
      split
      · exact skip
      · rw [node_ok liveNode, ok_bind, node_ok live, ok_bind]
        split
        · exact skip
        · rw [isBetterCandidateHearingMap_ok atCur atNew, ok_bind, isBetterCandidateHearingMap_ok atNew atCur, ok_bind]
          split
          · intro br' n' same
            cases same
            exact ⟨List.mem_cons_self, node, liveNode⟩
          · exact skip

theorem post_betterEntry {F : Fault → Prop} (siRef : SiId) (ref : Candidate) (sound : Sound v d) (list : List SiId)
    (live : ∀ si ∈ list, ∃ info, d.infos.get? si = some info) :
    Post F (d.betterEntry cfg siRef ref list) (fun _ => True) := by
  induction list with
  | nil => trivial
  | cons si rest ih =>
    have skip := ih fun si' inside => live si' (List.mem_cons_of_mem _ inside)
    obtain ⟨info, liveInfo⟩ := live si List.mem_cons_self
    obtain ⟨node, liveNode, _⟩ := node_of_info sound.links liveInfo
    rw [betterEntry]
    split
    · exact skip
    · rw [info_ok liveInfo, ok_bind]
      split
      · exact skip
      · rw [node_ok liveNode, ok_bind]
        split
        · exact skip
        · split
          · trivial
          · exact skip

theorem post_betterHeard {F : Fault → Prop} {si : SiId} {ref : StaInfo} (sound : Sound v d)
    (live : d.infos.get? si = some ref) :
    Post F (d.betterHeard cfg ref) (fun r =>
      ∀ br n, r = some (br, n) → br.address = si ∧ ∃ node, d.nodes.get? n = some node) := by
  obtain ⟨nodeRef, liveRef, _⟩ := node_of_info sound.links live
  unfold betterHeard
  rw [post_bind]
  refine (post_ownReport ref.node sound ref.beaconReports).mono fun own facts => ?_
  cases own with
  | none => simp
  | some brCur =>
    obtain ⟨_, nodeCur, atCur⟩ := facts brCur rfl
    refine (post_betterReport cfg sound liveRef atCur ref.beaconReports).mono fun r inside br n same => ?_
    obtain ⟨inside, liveNode⟩ := inside br n same
    exact ⟨sound.reports live inside, liveNode⟩

theorem post_findBetterCandidate {F : Fault → Prop} {siRef : SiId} {ref : StaInfo} (sound : Sound none d)
    (live : d.infos.get? siRef = some ref) :
    Post F (d.findBetterCandidate cfg siRef) (fun r => Moves env cfg scope (none, d) (none, r.2)) := by
  obtain ⟨sta, liveSta, _⟩ := sta_of_info sound.links live
  obtain ⟨node, liveNode, _⟩ := node_of_info sound.links live
  unfold findBetterCandidate
  rw [info_ok live, ok_bind, post_bind]
  refine (post_betterHeard cfg sound live).mono fun heard facts => ?_
  cases heard with
  | some found =>
    obtain ⟨br, n⟩ := found
    obtain ⟨own, node', liveNode'⟩ := facts br n rfl
    show Post F (d.info br.address >>= _) _
    rw [own, info_ok live, ok_bind, post_bind]
    refine (post_usteerStaInfoGet env cfg scope sound liveSta liveNode' (by simp)).mono ?_
    rintro ⟨si, created, d'⟩ ⟨_, moves⟩
    exact moves
  | none =>
    show Post F (d.sta ref.sta >>= _) _
    rw [sta_ok liveSta, ok_bind, node_ok liveNode, ok_bind, post_bind]
    refine (post_betterEntry cfg siRef ⟨ref, node⟩ sound sta.nodes ?_).mono fun _ _ => .none _
    intro si inside
    obtain ⟨info, liveInfo, _⟩ := info_of_sta sound.links liveSta inside
    exact ⟨info, liveInfo⟩

theorem post_usteerCheckRequest {F : Fault → Prop} {si : SiId} {info : StaInfo} (type : EventType) (sound : Sound none d)
    (live : d.infos.get? si = some info) :
    Post F (d.usteerCheckRequest cfg si type) (fun r => Moves env cfg scope (none, d) (none, r.2)) := by
  obtain ⟨node, liveNode, _⟩ := node_of_info sound.links live
  unfold usteerCheckRequest
  rw [info_ok live, ok_bind]
  split
  · exact .none _
  · split
    · exact .none _
    · rw [node_ok liveNode, ok_bind]
      split
      · exact .none _
      · split
        · exact .none _
        · rw [post_bind]
          refine (post_findBetterCandidate env cfg scope sound live).mono ?_
          rintro ⟨siNew, d'⟩ moves
          exact moves

/-! ### The policy tick -/

theorem post_isActiveClient (info : StaInfo) : Post (Divides cfg) (isActiveClient cfg info) (fun _ => True) := by
  unfold isActiveClient usteerGetClientActiveBits
  dsimp only
  rw [post_bind]
  split
  · rename_i zero
    exact ⟨rfl, .inl zero⟩
  · trivial

theorem post_roamEligible (now : UInt64) (minSignal : Int32) (info : StaInfo) :
    Post (Divides cfg) (roamEligible cfg now minSignal info) (fun _ => True) := by
  unfold roamEligible
  split
  · trivial
  · rw [post_bind]
    refine (post_isActiveClient cfg info).mono fun active _ => ?_
    split <;> trivial

theorem post_usteerUbusTriggerClientScan (n : NodeId) {si : SiId} {info : StaInfo} (live : d.infos.get? si = some info) :
    Post (Divides cfg) (d.usteerUbusTriggerClientScan si) (fun d' => Moves env cfg (.policy n) (none, d) (none, d')) := by
  unfold usteerUbusTriggerClientScan
  rw [info_ok live, ok_bind]
  refine Moves.then (.edit si (fun _ => ?_) (fun _ => ?_)) (.one (.log _ rfl))
  · exact ⟨rfl, rfl, rfl, rfl, rfl, rfl, rfl, rfl, rfl, rfl, .refl _⟩
  · rfl

theorem post_usteerRoamTriggerSm (n : NodeId) {si : SiId} {info : StaInfo} (sound : Sound none d)
    (live : d.infos.get? si = some info) (isLocal : d.OnLocal info) :
    Post (Divides cfg) (d.usteerRoamTriggerSm cfg si) (fun r => Moves env cfg (.policy n) (none, d) (none, r.2)) := by
  obtain ⟨node, liveNode, _⟩ := node_of_info sound.links live
  have found := post_findBetterCandidate (F := Divides cfg) env cfg (.policy n) sound live
  unfold usteerRoamTriggerSm
  rw [info_ok live, ok_bind, node_ok liveNode, ok_bind]
  dsimp only
  cases info.roamState with
  | scan =>
    dsimp only
    split
    · exact .none _
    · rw [post_bind]
      refine found.mono ?_
      rintro ⟨siNew, d'⟩ moves
      dsimp only at moves ⊢
      split
      · exact moves.then (.one (.roam si _ rfl))
      · split
        · exact moves.then (.one (.roam si _ rfl))
        · obtain ⟨info', live', _⟩ := (survives_moves moves).infos live
          rw [post_bind]
          refine (post_usteerUbusTriggerClientScan env cfg n live').mono fun d'' scan => ?_
          exact moves.then (scan.then (.one (.roam si _ rfl)))
  | idle =>
    dsimp only
    rw [post_bind]
    refine found.mono ?_
    rintro ⟨siNew, d'⟩ moves
    dsimp only at moves ⊢
    split
    · exact moves.then (.one (.roam si _ rfl))
    · exact moves.then (.one (.roam si _ rfl))
  | scanDone =>
    dsimp only
    split
    · exact .one (.roam si _ rfl)
    · rw [post_bind]
      refine found.mono ?_
      rintro ⟨siNew, d'⟩ moves
      dsimp only at moves ⊢
      split
      · exact moves
      · exact moves.then (.one (.roam si _ rfl))
  | waitKick =>
    dsimp only
    split
    · exact .none _
    · exact Moves.then (.one (.roam si _ rfl)) (.one (.log _ rfl))
  | notifyKick =>
    dsimp only
    split
    · exact .none _
    · exact .one (.roam si _ rfl)
  | kick => exact Moves.then (.one (.kick .roam live isLocal rfl)) (.one (.roam si _ rfl))

/-- Entries of a local node, all of them live. -/
def LocalEntries (d : Daemon) (list : List SiId) : Prop :=
  ∀ si ∈ list, ∃ info, d.infos.get? si = some info ∧ d.OnLocal info

theorem LocalEntries.survive {d' : Daemon} {list : List SiId} (entries : LocalEntries d list)
    (survives : Survives d d') : LocalEntries d' list := by
  intro si inside
  obtain ⟨info, live, isLocal⟩ := entries si inside
  obtain ⟨info', live', _, same⟩ := survives.infos live
  exact ⟨info', live', survives.onLocal same isLocal⟩

theorem LocalEntries.rest {si : SiId} {rest : List SiId} (entries : LocalEntries d (si :: rest)) : LocalEntries d rest :=
  fun si' inside => entries si' (List.mem_cons_of_mem _ inside)

theorem localEntries {n : NodeId} {node : UsteerNode} (sound : Sound v d) (inside : n ∈ d.localNodes)
    (live : d.nodes.get? n = some node) : LocalEntries d node.staInfo := by
  intro si listed
  obtain ⟨info, liveInfo, same⟩ := info_of_node sound.links live listed
  obtain ⟨node', live', isLocal⟩ := node_of_locals sound.registered inside
  exact ⟨info, liveInfo, node', by rw [same]; exact live', isLocal⟩

theorem post_roamVisits (n : NodeId) (minSignal : Int32) (list : List SiId) :
    ∀ {d : Daemon}, Sound none d → LocalEntries d list →
      Post (Divides cfg) (roamVisits cfg minSignal list d) (fun d' => Moves env cfg (.policy n) (none, d) (none, d')) := by
  induction list with
  | nil => intro d _ _; exact .none _
  | cons si rest ih =>
    intro d sound entries
    obtain ⟨info, live, isLocal⟩ := entries si List.mem_cons_self
    obtain ⟨node, liveNode, _⟩ := node_of_info sound.links live
    have looked : Moves env cfg (.policy n) (none, d) (none, d.log (.visit d.currentTime si info node)) :=
      .one (.log _ rfl)
    -- what is left of the loop, from any state reached so far
    have later : ∀ d', Moves env cfg (.policy n) (none, d) (none, d') →
        Post (Divides cfg) (roamVisits cfg minSignal rest d') (fun d'' => Moves env cfg (.policy n) (none, d) (none, d'')) := by
      intro d' moves
      refine (ih (sound_moves (a := (none, d)) sound moves) (entries.rest.survive (survives_moves moves))).mono ?_
      exact fun d'' more => moves.then more
    rw [roamVisits, info_ok live, ok_bind, node_ok liveNode, ok_bind]
    dsimp only
    rw [post_bind]
    refine (post_roamEligible cfg _ minSignal info).mono fun eligible _ => ?_
    split
    · rw [post_bind]
      have sound' := sound_moves (a := (none, d)) sound looked
      refine (post_usteerRoamTriggerSm env cfg n sound' live isLocal).mono ?_
      rintro ⟨kicked, d'⟩ moves
      dsimp only at moves ⊢
      split
      · exact looked.then moves
      · exact later d' (looked.then moves)
    · exact later _ (looked.then (.one (.roam si _ rfl)))

theorem post_usteerLocalNodeRoamCheck (m : NodeId) {n : NodeId} (sound : Sound none d) (inside : n ∈ d.localNodes) :
    Post (Divides cfg) (d.usteerLocalNodeRoamCheck cfg n) (fun d' => Moves env cfg (.policy m) (none, d) (none, d')) := by
  unfold usteerLocalNodeRoamCheck
  split
  · exact .none _
  · have timed : Moves env cfg (.policy m) (none, d) (none, d.usteerUpdateTime) := .one .time
    have sound' := sound_moves (a := (none, d)) sound timed
    obtain ⟨node, live, _⟩ := node_of_locals sound.registered inside
    dsimp only
    rw [show d.usteerUpdateTime.node n = .ok node from node_ok live, ok_bind]
    refine (post_roamVisits env cfg m _ node.staInfo sound' (localEntries sound' inside live)).mono ?_
    exact fun d' moves => timed.then moves

theorem post_snrVictim (minSignal : Int32) (list : List SiId) (entries : LocalEntries d list) :
    Post (Divides cfg) (d.snrVictim cfg minSignal list) (fun r => ∀ si, r = some si → si ∈ list) := by
  induction list with
  | nil => simp [snrVictim]
  | cons si rest ih =>
    obtain ⟨info, live, _⟩ := entries si List.mem_cons_self
    have skip : Post (Divides cfg) (d.snrVictim cfg minSignal rest) (fun r => ∀ si', r = some si' → si' ∈ si :: rest) :=
      (ih entries.rest).mono fun r inside si' same => List.mem_cons_of_mem _ (inside si' same)
    rw [snrVictim, info_ok live, ok_bind]
    split
    · exact skip
    · rw [post_bind]
      refine (post_isActiveClient cfg info).mono fun active _ => ?_
      split
      · exact skip
      · split
        · exact skip
        · intro si' same
          cases same
          exact List.mem_cons_self

theorem moves_countedKick (n : NodeId) {si : SiId} {info : StaInfo} (why : KickReason) (live : d.infos.get? si = some info)
    (isLocal : d.OnLocal info) : Moves env cfg (.policy n) (v, d) (v, d.countedKick si why) := by
  have counted : Moves env cfg (.policy n) (v, d)
      (v, d.modifyInfo si (fun info => { info with kickCount := info.kickCount + 1 })) :=
    .edit si (fun _ => ⟨rfl, rfl, rfl, rfl, rfl, rfl, rfl, rfl, rfl, rfl, .refl _⟩) fun _ => rfl
  obtain ⟨info', live', _, same⟩ := (survives_moves counted).infos live
  exact counted.then (.one (.kick why live' ((survives_moves counted).onLocal same isLocal) rfl))

/-- Moves, and then at most one kick that is not the roam machine's. -/
def KicksOne (env : Platform) (cfg : Config) (scope : Scope) (d d' : Daemon) : Prop :=
  ∃ d1, Moves env cfg scope (none, d) (none, d1) ∧ (d' = d1 ∨ ∃ si info why,
    d1.infos.get? si = some info ∧ d1.OnLocal info ∧ why ≠ .roam ∧ d' = d1.countedKick si why)

variable {env cfg scope} in
theorem KicksOne.spare {d' : Daemon} (moves : Moves env cfg scope (none, d) (none, d')) : KicksOne env cfg scope d d' :=
  ⟨d', moves, .inl rfl⟩

variable {env cfg} in
theorem KicksOne.moves {n : NodeId} {d' : Daemon} (kicks : KicksOne env cfg (.policy n) d d') : Moves env cfg (.policy n) (none, d) (none, d') := by
  obtain ⟨d1, moves, rfl | ⟨si, info, why, live, isLocal, _, rfl⟩⟩ := kicks
  · exact moves
  · exact moves.then (moves_countedKick env cfg n why live isLocal)

theorem post_usteerLocalNodeSnrKick {n : NodeId} (sound : Sound none d) (inside : n ∈ d.localNodes) :
    Post (Divides cfg) (d.usteerLocalNodeSnrKick cfg n) (KicksOne env cfg scope d) := by
  obtain ⟨node, live, _⟩ := node_of_locals sound.registered inside
  have entries := localEntries sound inside live
  unfold usteerLocalNodeSnrKick
  split
  · exact .spare (.none _)
  · rw [node_ok live, ok_bind, post_bind]
    refine (post_snrVictim cfg _ node.staInfo entries).mono fun victim listed => ?_
    cases victim with
    | none => exact .spare (.none _)
    | some si =>
      obtain ⟨info, liveInfo, isLocal⟩ := entries si (listed si rfl)
      exact ⟨d, .none _, .inr ⟨si, info, .snr, liveInfo, isLocal, by simp, rfl⟩⟩

theorem post_isMoreKickable {F : Fault → Prop} {siCur : Option SiId} {siNew : SiId} {new : StaInfo}
    (cur : ∀ si, siCur = some si → ∃ info, d.infos.get? si = some info) (live : d.infos.get? siNew = some new) :
    Post F (d.isMoreKickable siCur siNew) (fun _ => True) := by
  unfold isMoreKickable
  cases siCur with
  | none => trivial
  | some si =>
    obtain ⟨info, liveCur⟩ := cur si rfl
    dsimp only
    rw [info_ok liveCur, ok_bind, info_ok live, ok_bind]
    split <;> trivial

/-- The victims that the loop has picked so far are entries of the node. -/
def Picked (list : List SiId) (kick : Option SiId) : Prop := ∀ si, kick = some si → si ∈ list

theorem post_loadVictims (all list : List SiId) :
    ∀ {d : Daemon} {kick1 kick2 candidate : Option SiId}, Sound none d → LocalEntries d all →
      (∀ si ∈ list, si ∈ all) → Picked all kick1 → Picked all kick2 →
      Post (Divides cfg) (loadVictims cfg list kick1 kick2 candidate d) (fun r =>
        Picked all r.1 ∧ Picked all r.2.1 ∧ Moves env cfg scope (none, d) (none, r.2.2.2)) := by
  induction list with
  | nil =>
    intro d kick1 kick2 candidate _ _ _ picked1 picked2
    exact ⟨picked1, picked2, .none _⟩
  | cons si rest ih =>
    intro d kick1 kick2 candidate sound entries inside picked1 picked2
    obtain ⟨info, live, _⟩ := entries si (inside si List.mem_cons_self)
    have inside' : ∀ si' ∈ rest, si' ∈ all := fun si' listed => inside si' (List.mem_cons_of_mem _ listed)
    have later : ∀ d' {k1 k2 candidate}, Moves env cfg scope (none, d) (none, d') → Picked all k1 → Picked all k2 →
        Post (Divides cfg) (loadVictims cfg rest k1 k2 candidate d') (fun r =>
          Picked all r.1 ∧ Picked all r.2.1 ∧ Moves env cfg scope (none, d) (none, r.2.2.2)) := by
      intro d' k1 k2 candidate moves p1 p2
      refine (ih (sound_moves (a := (none, d)) sound moves) (entries.survive (survives_moves moves)) inside' p1 p2).mono ?_
      exact fun r facts => ⟨facts.1, facts.2.1, moves.then facts.2.2⟩
    have livePick : ∀ {d' k}, Moves env cfg scope (none, d) (none, d') → Picked all k →
        ∀ si', k = some si' → ∃ info', d'.infos.get? si' = some info' := by
      intro d' k moves picked si' same
      obtain ⟨info', live', _⟩ := entries.survive (survives_moves moves) si' (picked si' same)
      exact ⟨info', live'⟩
    have pick : ∀ {k} (better : Bool), Picked all k → Picked all (if better = true then some si else k) := by
      intro k better picked si' same
      split at same
      · cases same
        exact inside _ List.mem_cons_self
      · exact picked si' same
    rw [loadVictims, info_ok live, ok_bind]
    split
    · exact later d (.none _) picked1 picked2
    · rw [post_bind]
      refine (post_isActiveClient cfg info).mono fun active _ => ?_
      split
      · exact later d (.none _) picked1 picked2
      · rw [post_bind]
        refine (post_isMoreKickable (livePick (.none _) picked1) live).mono fun more1 _ => ?_
        rw [post_bind]
        refine (post_findBetterCandidate env cfg scope sound live).mono ?_
        rintro ⟨tmp, d'⟩ moves
        dsimp only at moves ⊢
        split
        · exact later d' moves (pick more1 picked1) picked2
        · obtain ⟨info', live', _⟩ := (survives_moves moves).infos live
          rw [post_bind]
          refine (post_isMoreKickable (livePick moves picked2) live').mono fun more2 _ => ?_
          split
          · exact later d' moves (pick more1 picked1) (pick true picked2)
          · exact later d' moves (pick more1 picked1) picked2

theorem keepsNode_setLoadThrCount (count : Int32) (node : UsteerNode) : KeepsNode node (node.setLoadThrCount count) := by
  unfold UsteerNode.setLoadThrCount
  cases kind : node.kind with
  | loc ln => exact ⟨by simp [remoteKey, kind], rfl, rfl⟩
  | remote rn => exact ⟨rfl, rfl, rfl⟩

theorem keepsCounts_setLoadThrCount (n : NodeId) (count : Int32) (counted : ¬ scope.uncounted n) (node : UsteerNode)
    (_ : d.nodes.get? n = some node) (_ : node.isLocal = true) : KeepsCounts scope n node (node.setLoadThrCount count) where
  load uncounted := absurd uncounted counted
  assoc _ := by
    unfold UsteerNode.setLoadThrCount
    cases node.kind with
    | loc ln => rfl
    | remote rn => rfl

theorem post_loadKick {n : NodeId} (counts : ¬ scope.uncounted n) (sound : Sound none d) (inside : n ∈ d.localNodes) :
    Post (Divides cfg) (d.loadKick cfg n) (KicksOne env cfg scope d) := by
  obtain ⟨node, live, isLocal⟩ := node_of_locals sound.registered inside
  have entries := localEntries sound inside live
  have counted : ∀ (d' : Daemon) count, Moves env cfg scope (none, d) (none, d') →
      Moves env cfg scope (none, d) (none, d'.modifyNode n (fun node => node.setLoadThrCount count)) :=
    fun d' count moves => moves.then (.one (.editNode n (keepsNode_setLoadThrCount count)
      (keepsCounts_setLoadThrCount scope n count counts)))
  unfold loadKick
  split
  · exact .spare (.none _)
  · rw [node_ok live, ok_bind]
    split
    · exact .spare (counted d 0 (.none _))
    · rw [post_bind]
      have count : Post (Divides cfg) node.loadThrCount (fun _ => True) := by
        unfold UsteerNode.loadThrCount
        unfold UsteerNode.isLocal at isLocal
        split
        · trivial
        · rename_i kind
          rw [kind] at isLocal
          cases isLocal
      refine count.mono fun count _ => ?_
      dsimp only
      rw [post_bind]
      have periods : Post (Divides cfg) (divRoundUp cfg.loadKickDelay cfg.localStaUpdate) (fun _ => True) := by
        unfold divRoundUp
        split
        · rename_i zero
          exact ⟨rfl, .inr zero⟩
        · trivial
      refine periods.mono fun periods _ => ?_
      have moves1 := counted d (count + 1) (.none _)
      split
      · exact .spare moves1
      · have moves2 := counted _ 0 moves1
        split
        · exact .spare moves2
        · rw [post_bind]
          refine (post_loadVictims env cfg scope node.staInfo node.staInfo (sound_moves (a := (none, d)) sound moves2)
            (entries.survive (survives_moves moves2)) (fun _ listed => listed) (by simp [Picked]) (by simp [Picked])).mono ?_
          rintro ⟨kick1, kick2, candidate, d'⟩ ⟨picked1, picked2, moves⟩
          dsimp only at picked1 picked2 moves
          cases kick1 with
          | none => exact .spare (moves2.then moves)
          | some kick1 =>
            have listed : kick2.getD kick1 ∈ node.staInfo := by
              cases kick2 with
              | none => exact picked1 kick1 rfl
              | some kick2 => exact picked2 kick2 rfl
            have moves' := moves2.then moves
            obtain ⟨info, liveInfo, isLocal⟩ := entries.survive (survives_moves moves') _ listed
            exact ⟨d', moves', .inr ⟨_, info, .load, liveInfo, isLocal, by simp, rfl⟩⟩

theorem post_usteerLocalNodeKick {n : NodeId} (sound : Sound none d) (inside : n ∈ d.localNodes) :
    Post (Divides cfg) (d.usteerLocalNodeKick cfg n) (fun d' => Moves env cfg (.policy n) (none, d) (none, d')) := by
  unfold usteerLocalNodeKick
  rw [post_bind]
  refine (post_usteerLocalNodeRoamCheck env cfg n sound inside).mono fun d1 moves1 => ?_
  have sound1 : Sound none d1 := sound_moves (a := (none, d)) sound moves1
  have inside1 : n ∈ d1.localNodes := moves1.locals inside
  rw [post_bind]
  refine (post_usteerLocalNodeSnrKick env cfg (.policy n) sound1 inside1).mono fun d2 kicks2 => ?_
  have moves2 := kicks2.moves
  have sound2 : Sound none d2 := sound_moves (a := (none, d1)) sound1 moves2
  have inside2 : n ∈ d2.localNodes := moves2.locals inside1
  refine (post_loadKick env cfg (.policy n) (not_not_intro rfl) sound2 inside2).mono fun d3 kicks3 => ?_
  have moves3 := kicks3.moves
  exact moves1.then (moves2.then moves3)

/-- The three parts of a policy tick, with the states between them. -/
structure TickParts (n : NodeId) (d d1 d2 d' : Daemon) : Prop where
  roamed : d.usteerLocalNodeRoamCheck cfg n = .ok d1
  moves1 : Moves env cfg (.policy n) (none, d) (none, d1)
  sound1 : Sound none d1
  inside1 : n ∈ d1.localNodes
  kicked : d1.usteerLocalNodeSnrKick cfg n = .ok d2
  moves2 : Moves env cfg (.policy n) (none, d1) (none, d2)
  sound2 : Sound none d2
  inside2 : n ∈ d2.localNodes
  loaded : d2.loadKick cfg n = .ok d'

theorem tickParts {n : NodeId} {d' : Daemon} (sound : Sound none d) (inside : n ∈ d.localNodes)
    (run : d.usteerLocalNodeKick cfg n = .ok d') : ∃ d1 d2, TickParts env cfg n d d1 d2 d' := by
  obtain ⟨d1, roamed, run⟩ := bind_ok run
  obtain ⟨d2, kicked, loaded⟩ := bind_ok run
  have moves1 := (post_usteerLocalNodeRoamCheck env cfg n sound inside).of_ok roamed
  have sound1 : Sound none d1 := sound_moves (a := (none, d)) sound moves1
  have inside1 : n ∈ d1.localNodes := moves1.locals inside
  have moves2 := ((post_usteerLocalNodeSnrKick env cfg (.policy n) sound1 inside1).of_ok kicked).moves
  exact ⟨d1, d2, roamed, moves1, sound1, inside1, kicked, moves2, sound_moves (a := (none, d1)) sound1 moves2,
    moves2.locals inside1, loaded⟩

/-! ### Messages sent -/

theorem post_usteerSendStaInfo {F : Fault → Prop} {si : SiId} {info : StaInfo} (sound : Sound v d)
    (live : d.infos.get? si = some info) : Post F (d.usteerSendStaInfo cfg si) (fun _ => True) := by
  obtain ⟨sta, liveSta, _⟩ := sta_of_info sound.links live
  unfold usteerSendStaInfo
  rw [info_ok live, ok_bind, sta_ok liveSta, ok_bind]
  trivial

theorem post_usteerSendNode {F : Fault → Prop} {n : NodeId} {node : UsteerNode} {sta : Option SiId} (sound : Sound v d)
    (live : d.nodes.get? n = some node) (one : ∀ si, sta = some si → ∃ info, d.infos.get? si = some info) :
    Post F (d.usteerSendNode cfg n sta) (fun _ => True) := by
  have sent : ∀ si ∈ sta.elim node.staInfo (fun si => [si]), Post F (d.usteerSendStaInfo cfg si) (fun _ => True) := by
    intro si inside
    cases sta with
    | none =>
      obtain ⟨info, liveInfo, _⟩ := info_of_node sound.links live inside
      exact post_usteerSendStaInfo cfg sound liveInfo
    | some si' =>
      obtain ⟨info, liveInfo⟩ := one si' rfl
      rw [List.mem_singleton.mp inside]
      exact post_usteerSendStaInfo cfg sound liveInfo
  unfold usteerSendNode
  rw [node_ok live, ok_bind]
  dsimp only
  split
  · trivial
  · rw [post_bind]
    exact (post_mapM _ sent).mono fun _ _ => trivial

theorem moves_usteerUpdateSend (nodes : List ApmsgNode) :
    Moves env cfg scope (v, d) (v, d.usteerUpdateSend cfg nodes) := by
  unfold usteerUpdateSend
  have counted : Moves env cfg scope (v, d) (v, { d with msgSeq := d.msgSeq + 1 }) := .one (.sequence _)
  dsimp only
  split
  · exact counted
  · exact counted.then (.one (.log _ rfl))

theorem post_usteerSendStaUpdate {F : Fault → Prop} {si : SiId} {info : StaInfo} (sound : Sound none d)
    (live : d.infos.get? si = some info) :
    Post F (d.usteerSendStaUpdate cfg si) (fun d' => Moves env cfg scope (none, d) (none, d')) := by
  obtain ⟨node, liveNode, _⟩ := node_of_info sound.links live
  unfold usteerSendStaUpdate
  rw [info_ok live, ok_bind, post_bind]
  refine (post_usteerSendNode cfg sound liveNode ?_).mono fun msg _ => moves_usteerUpdateSend env cfg scope _
  intro si' same
  cases same
  exact ⟨info, live⟩

/-! ### Requests and client tables -/

theorem keeps_markBand (freq : Int32) (sta : Sta) :
    (markBand freq sta).addr = sta.addr ∧ (markBand freq sta).nodes = sta.nodes := by
  unfold markBand
  split
  · exact ⟨rfl, rfl⟩
  · exact ⟨rfl, rfl⟩

/-- What `usteer_handle_sta_event` does once the entry's timer follows the request. -/
def answerRequest (cfg : Config) (d : Daemon) (si : SiId) (create : Bool) (type : EventType) :
    Except Fault (Bool × Daemon) := do
  let _ ← d.info si
  let d := d.modifyInfo si (fun info =>
    setStats type (countRequest cfg d.currentTime) { info with roamScanDone := d.currentTime })
  let (ret, d) ← d.usteerCheckRequest cfg si type
  let d := d.modifyInfo si (setStats type (countAnswer d.currentTime ret))
  let d ← if create then d.usteerSendStaUpdate cfg si else pure d
  return (ret, d)

/-- The two lookups that begin a request and a row of a client table, with the station
    marked in between or not. -/
def fetchEntry (d : Daemon) (n : NodeId) (addr : MacAddr) (mark : Sta → Sta) : Except Fault (SiId × Bool × Daemon) := do
  let (sta, d) ← d.usteerStaGet addr true
  let sta ← notNull sta
  (d.modifySta sta mark).usteerStaInfoGet sta n

theorem usteerHandleStaEvent_eq (n : NodeId) (addr : MacAddr) (type : EventType) (freq signal : Int32) :
    d.usteerHandleStaEvent env cfg n addr type freq signal =
      fetchEntry d n addr (markBand freq) >>= fun r =>
        r.2.2.usteerStaInfoUpdate env cfg r.1 signal false >>= fun d => answerRequest cfg d r.1 r.2.1 type := by
  unfold usteerHandleStaEvent fetchEntry
  cases d.usteerStaGet addr true with
  | error e => rfl
  | ok found =>
    obtain ⟨sta, d1⟩ := found
    cases sta with
    | none => rfl
    | some s => rfl

theorem post_answerRequest {F : Fault → Prop} {n : NodeId} {addr : MacAddr} {type : EventType} {si : SiId} {info : StaInfo}
    (create : Bool) (request : scope.request = some (addr, n, type)) (sound : Sound none d)
    (entry : EntryOf d addr n si info) :
    Post F (answerRequest cfg d si create type) (fun r => Moves env cfg scope (none, d) (none, r.2)) := by
  unfold answerRequest
  rw [info_ok entry.1, ok_bind]
  have counted : Moves env cfg scope (none, d) (none, d.modifyInfo si (fun info =>
      setStats type (countRequest cfg d.currentTime) { info with roamScanDone := d.currentTime })) := by
    refine .count _ request entry (fun _ => ?_) fun _ => .inr rfl
    exact ⟨rfl, rfl, rfl, rfl, rfl, rfl, rfl, rfl, rfl, rfl, .refl _⟩
  obtain ⟨info1, entry1⟩ := (survives_moves counted).entryOf entry
  rw [post_bind]
  refine (post_usteerCheckRequest env cfg scope type (sound_moves (a := (none, d)) sound counted) entry1.1).mono ?_
  rintro ⟨ret, d2⟩ moves2
  obtain ⟨info2, entry2⟩ := (survives_moves moves2).entryOf entry1
  dsimp only at moves2 entry2 ⊢
  have answered : Moves env cfg scope (none, d2) (none, d2.modifyInfo si (setStats type (countAnswer d2.currentTime ret))) := by
    refine Moves.count (f := fun info => info) _ request entry2 (fun _ => ?_) fun _ => .inl rfl
    exact ⟨rfl, rfl, rfl, rfl, rfl, rfl, rfl, rfl, rfl, rfl, .refl _⟩
  obtain ⟨info3, live3, _⟩ := (survives_moves answered).infos entry2.1
  have moves3 := counted.then (moves2.then answered)
  split
  · rw [post_bind]
    refine (post_usteerSendStaUpdate env cfg scope (sound_moves (a := (none, d)) sound moves3) live3).mono ?_
    exact fun d4 sent => moves3.then sent
  · exact moves3

/-- On an entry that is freed it ends in a fault. -/
theorem answerRequest_freed {si : SiId} (create : Bool) (type : EventType) (freed : d.infos.get? si = none) :
    answerRequest cfg d si create type = .error .useAfterFree := by
  unfold answerRequest
  rw [Daemon.info, freed]
  rfl

theorem post_fetchEntry {F : Fault → Prop} {n : NodeId} {node : UsteerNode} {mark : Sta → Sta} (addr : MacAddr)
    (keeps : ∀ sta, (mark sta).addr = sta.addr ∧ (mark sta).nodes = sta.nodes) (sound : Sound none d)
    (liveNode : d.nodes.get? n = some node) :
    Post F (fetchEntry d n addr mark) (fun r => (∃ info, EntryOf r.2.2 addr n r.1 info) ∧
      Moves env cfg scope (none, d) (none, r.2.2)) := by
  unfold fetchEntry
  rw [post_bind]
  refine (post_usteerStaGet env cfg scope addr sound).mono ?_
  rintro ⟨found, d1⟩ ⟨s, sta, w, rfl, liveSta, sameAddr, own, moves1⟩
  dsimp only at liveSta moves1
  show Post F (notNull (some s) >>= _) _
  rw [show notNull (some s) = .ok s from rfl, ok_bind]
  have moves2 : Moves env cfg scope (none, d) (w, d1.modifySta s mark) := moves1.then (.one (.editSta s keeps))
  have liveSta2 : (d1.modifySta s mark).stas.get? s = some (mark sta) := by
    simp [modifySta, Heap.get?_modify, liveSta]
  obtain ⟨node2, liveNode2, _⟩ := (survives_moves moves2).node liveNode
  have own2 : ∀ s', w = some s' → s' = s ∧ (mark sta).nodes = [] := fun s' same =>
    ⟨(own s' same).1, by rw [(keeps sta).2]; exact (own s' same).2⟩
  refine (post_usteerStaInfoGet env cfg scope (sound_moves (a := (none, d)) sound moves2) liveSta2 liveNode2 own2).mono ?_
  rintro ⟨si, create, d3⟩ ⟨⟨info3, live3, owner, onNode⟩, moves3⟩
  obtain ⟨sta3, liveSta3, sameAddr3⟩ := (survives_moves moves3).stas liveSta2
  refine ⟨⟨info3, live3, onNode, sta3, by rw [owner]; exact liveSta3, ?_⟩, moves2.then moves3⟩
  rw [sameAddr3, (keeps sta).1, sameAddr]

/-- An entry of a station whose signal is learned. -/
theorem heard_entry {addr : MacAddr} {n : NodeId} {si : SiId} {info : StaInfo} (entry : EntryOf d addr n si info)
    (supplied : ∀ key, ¬ scope.unheard addr n key) : ¬ Unheard scope d info := by
  rintro ⟨sta, node, liveSta, liveNode, unheard⟩
  obtain ⟨-, onNode, sta', liveSta', same⟩ := entry
  rw [liveSta] at liveSta'
  cases liveSta'
  rw [onNode, same] at unheard
  exact supplied _ unheard

theorem post_usteerHandleStaEvent {n : NodeId} {node : UsteerNode} {addr : MacAddr} {type : EventType}
    (freq : Int32) {signal : Int32} (request : scope.request = some (addr, n, type))
    (supplied : signal = noSignal ∨ ∀ key, ¬ scope.unheard addr n key) (sound : Sound none d)
    (liveNode : d.nodes.get? n = some node) :
    Post (Dangles cfg) (d.usteerHandleStaEvent env cfg n addr type freq signal) (fun r =>
      Moves env cfg scope (none, d) (none, r.2)) := by
  rw [usteerHandleStaEvent_eq, post_bind]
  refine (post_fetchEntry env cfg scope addr (keeps_markBand freq) sound liveNode).mono ?_
  rintro ⟨si, create, d1⟩ ⟨⟨info1, entry1⟩, moves1⟩
  dsimp only at entry1 moves1 ⊢
  rw [post_bind]
  refine (post_usteerStaInfoUpdate env cfg scope false (supplied.imp_right (heard_entry scope entry1))
    (sound_moves (a := (none, d)) sound moves1) entry1.1).mono fun d2 => ?_
  rintro (⟨_, moves2⟩ | ⟨outOfRange, _, freed⟩)
  · obtain ⟨info2, entry2⟩ := (survives_moves moves2).entryOf entry1
    have moves2 := moves1.then moves2
    refine (post_answerRequest env cfg scope create request (sound_moves (a := (none, d)) sound moves2) entry2).mono ?_
    exact fun r answered => moves2.then answered
  · rw [answerRequest_freed cfg create type freed]
    exact ⟨rfl, outOfRange⟩

theorem post_awaitConfirmation {F : Fault → Prop} {si : SiId} {info : StaInfo} (live : d.infos.get? si = some info)
    (isLocal : d.OnLocal info) (read : ¬ scope.unread info.node) :
    Post F (d.awaitConfirmation si) (fun d' => Moves env cfg scope (none, d) (none, d')) := by
  unfold awaitConfirmation
  rw [info_ok live, ok_bind]
  split
  · rename_i connected
    exact .one (.mark 2 live isLocal (.inr ⟨rfl, connected⟩) read)
  · exact .none _

theorem post_dropUnconfirmed {si : SiId} {info : StaInfo} (sound : Sound none d)
    (live : d.infos.get? si = some info) (read : ¬ scope.unread info.node) :
    Post (Dangles cfg) (d.dropUnconfirmed env cfg si) (fun d' => Moves env cfg scope (none, d) (none, d')) := by
  unfold dropUnconfirmed
  rw [info_ok live, ok_bind]
  split
  · exact .none _
  · dsimp only
    rw [post_bind]
    refine (post_updateTimeout env cfg sound live ?_).mono fun d' => ?_
    · exact fun _ => ⟨rfl, rfl⟩
    rw [post_bind, post_info]
    rintro (⟨positive, rfl⟩ | ⟨outOfRange, _, freed⟩)
    · refine ⟨fun _ _ => ?_, fun freed => ?_⟩
      · refine .one (.settle _ live ⟨rfl, rfl, fun br inside => .inl inside⟩ ⟨rfl, rfl, rfl, rfl⟩ rfl rfl positive ?_
          (fun _ unread => absurd unread read) (fun _ => rfl) rfl)
        exact fun _ => ⟨rfl, .inr rfl⟩
      · simp [settled, modifyInfo, Heap.get?_modify, live] at freed
    · refine ⟨fun info live => ?_, fun _ => ⟨rfl, outOfRange⟩⟩
      rw [freed] at live
      cases live

/-- A loop over the entries of a local node whose body is a sequence of moves. -/
theorem post_eachEntry {F : Fault → Prop} {n : NodeId} {node : UsteerNode} {f : Daemon → SiId → Except Fault Daemon}
    (body : ∀ d si info, Sound none d → d.infos.get? si = some info → info.node = n → d.OnLocal info →
      Post F (f d si) (fun d' => Moves env cfg scope (none, d) (none, d')))
    (sound : Sound none d) (inside : n ∈ d.localNodes) (liveNode : d.nodes.get? n = some node) :
    Post F (node.staInfo.foldlM f d) (fun d' => Moves env cfg scope (none, d) (none, d')) := by
  refine post_foldlM (I := fun d' => Moves env cfg scope (none, d) (none, d')) node.staInfo ?_ d (.none _)
  intro d' moves si listed
  obtain ⟨info0, live0, onNode⟩ := info_of_node sound.links liveNode listed
  obtain ⟨info, live, -, same⟩ := (survives_moves moves).infos live0
  obtain ⟨info', live', isLocal⟩ := (localEntries sound inside liveNode).survive (survives_moves moves) si listed
  rw [live] at live'
  cases live'
  exact (body d' si info (sound_moves (a := (none, d)) sound moves) live (same.trans onNode) isLocal).mono
    fun d'' more => moves.then more

theorem post_nl80211UpdateSta {n : NodeId} {node : UsteerNode} {si : SiId} {info : StaInfo} {station : Option (Option Int8)}
    (supplied : ∀ average, station = some (some average) → ¬ Unheard scope d info) (sound : Sound none d)
    (liveNode : d.nodes.get? n = some node) (live : d.infos.get? si = some info) :
    Post (Dangles cfg) (d.nl80211UpdateSta env cfg n si station) (fun d' =>
      Moves env cfg scope (none, d) (none, d') ∨ (¬ cfg.InRange ∧ d'.infos.get? si = none)) := by
  unfold nl80211UpdateSta
  rw [node_ok liveNode, ok_bind]
  split
  · rename_i average _
    have heard : average.elim noSignal Int8.toInt32 = noSignal ∨ ¬ Unheard scope d info := by
      cases average with
      | none => exact .inl rfl
      | some average => exact .inr (supplied average rfl)
    exact (post_usteerStaInfoUpdate env cfg scope true heard sound live).mono fun d' => Or.imp And.right fun freed =>
      ⟨freed.1, freed.2.2⟩
  · exact .inl (.none _)

theorem post_usteerLocalNodeAssocUpdate {F : Fault → Prop} {si : SiId} {info : StaInfo} (assoc : Option Bool)
    (sound : Sound none d) (live : d.infos.get? si = some info) (isLocal : d.OnLocal info)
    (read : ¬ scope.unread info.node) : Post F (d.usteerLocalNodeAssocUpdate si assoc) (fun d' => Moves env cfg scope (none, d) (none, d')) := by
  unfold usteerLocalNodeAssocUpdate
  dsimp only
  generalize hd1 : (if assoc = some true then d.modifyInfo si (fun info => { info with connected := 1 }) else d) = d1
  have moves1 : Moves env cfg scope (none, d) (none, d1) := by
    rw [← hd1]
    split
    · exact .one (.mark 1 live isLocal (.inl rfl) read)
    · exact .none _
  have sound1 : Sound none d1 := sound_moves (a := (none, d)) sound moves1
  obtain ⟨info1, live1, _⟩ := (survives_moves moves1).infos live
  obtain ⟨node1, liveNode1, _⟩ := node_of_info sound1.links live1
  obtain ⟨sta1, liveSta1, _⟩ := sta_of_info sound1.links live1
  dsimp only at live1 liveNode1 liveSta1
  rw [info_ok live1, ok_bind, node_ok liveNode1, ok_bind, sta_ok liveSta1, ok_bind]
  exact moves1.then (.one (.editSta _ (keeps_markBand _)))

/-- What the loop over the client table does once the kernel has answered about a client. -/
def confirmClient (env : Platform) (cfg : Config) (d : Daemon) (si : SiId) (nAssoc : Int32) (client : ClientEntry) :
    Except Fault (Int32 × Daemon) := do
  let d ← d.usteerLocalNodeAssocUpdate si client.assoc
  let info ← d.info si
  let nAssoc := if info.connected = 1 then nAssoc + 1 else nAssoc
  let d := d.usteerUpdateClientActiveBytes cfg si client.bytes
  let d ← d.usteerBeaconRequestCheck env cfg si
  return (nAssoc, d)

theorem unmarked (d : Daemon) (s : StaId) : d.modifySta s id = d := by
  rw [modifySta, Heap.modify_id]

theorem listClient_eq {n : NodeId} {nAssoc : Int32} {client : ClientEntry} {addr : MacAddr} (named : client.addr = some addr) :
    listClient env cfg n (nAssoc, d) client =
      fetchEntry d n addr id >>= fun r =>
        r.2.2.nl80211UpdateSta env cfg n r.1 client.station >>= fun d => confirmClient env cfg d r.1 nAssoc client := by
  unfold listClient fetchEntry
  simp only [named, unmarked]
  cases d.usteerStaGet addr true with
  | error e => rfl
  | ok found =>
    obtain ⟨sta, d1⟩ := found
    cases sta with
    | none => rfl
    | some s => rfl

theorem post_confirmClient {F : Fault → Prop} {si : SiId} {info : StaInfo} {nAssoc : Int32} (client : ClientEntry)
    (sound : Sound none d) (live : d.infos.get? si = some info) (isLocal : d.OnLocal info)
    (read : ¬ scope.unread info.node) :
    Post F (confirmClient env cfg d si nAssoc client) (fun r => Moves env cfg scope (none, d) (none, r.2)) := by
  unfold confirmClient
  rw [post_bind]
  refine (post_usteerLocalNodeAssocUpdate env cfg scope client.assoc sound live isLocal read).mono fun d1 moves1 => ?_
  obtain ⟨info1, live1, _⟩ := (survives_moves moves1).infos live
  have sampled : Moves env cfg scope (none, d1) (none, d1.usteerUpdateClientActiveBytes cfg si client.bytes) :=
    .edit si (fun _ => ⟨rfl, rfl, rfl, rfl, rfl, rfl, rfl, rfl, rfl, rfl, .refl _⟩) fun _ => rfl
  have moves2 := moves1.then sampled
  obtain ⟨info2, live2, _, same2⟩ := (survives_moves moves2).infos live
  have isLocal2 := (survives_moves moves2).onLocal same2 isLocal
  dsimp only at live1
  rw [info_ok live1, ok_bind, post_bind]
  refine (post_usteerBeaconRequestCheck env cfg scope (sound_moves (a := (none, d)) sound moves2) live2 isLocal2).mono ?_
  exact fun d3 checked => moves2.then checked

/-- On an entry that is freed it ends in a fault. -/
theorem confirmClient_freed {si : SiId} {nAssoc : Int32} (client : ClientEntry) (freed : d.infos.get? si = none) :
    confirmClient env cfg d si nAssoc client = .error .useAfterFree := by
  unfold confirmClient usteerLocalNodeAssocUpdate
  have gone : (if client.assoc = some true then d.modifyInfo si (fun info => { info with connected := 1 })
      else d).infos.get? si = none := by
    split
    · rw [modifyInfo, Heap.get?_modify, if_pos rfl, freed]
      rfl
    · exact freed
  dsimp only
  rw [Daemon.info, gone]
  rfl

/-- The client table of a node may be read: its clients may be connected, and the signals
    that the kernel has of them learned. -/
def Scope.Reads (scope : Scope) (n : NodeId) (clients : List ClientEntry) : Prop :=
  ¬ scope.unread n ∧ ∀ client ∈ clients, ∀ addr average, client.addr = some addr →
    client.station = some (some average) → ∀ key, ¬ scope.unheard addr n key

theorem reads_plain (n : NodeId) (clients : List ClientEntry) : Scope.plain.Reads n clients :=
  ⟨id, fun _ _ _ _ _ _ _ => id⟩

theorem post_listClient {n : NodeId} {node : UsteerNode} {nAssoc : Int32} {clients : List ClientEntry}
    {client : ClientEntry} (reads : scope.Reads n clients) (listed : client ∈ clients)
    (sound : Sound none d) (liveNode : d.nodes.get? n = some node) (isLocal : node.isLocal = true) :
    Post (Dangles cfg) (listClient env cfg n (nAssoc, d) client) (fun r => Moves env cfg scope (none, d) (none, r.2)) := by
  cases named : client.addr with
  | none =>
    unfold listClient
    rw [named]
    exact .none _
  | some addr =>
    rw [listClient_eq env cfg named, post_bind]
    refine (post_fetchEntry env cfg scope addr (fun _ => ⟨rfl, rfl⟩) sound liveNode).mono ?_
    rintro ⟨si, create, d1⟩ ⟨⟨info1, entry1⟩, moves1⟩
    dsimp only at entry1 moves1 ⊢
    obtain ⟨live1, onNode, -⟩ := id entry1
    have heard : ∀ average, client.station = some (some average) → ¬ Unheard scope d1 info1 :=
      fun average answers => heard_entry scope entry1 (reads.2 client listed addr average named answers)
    obtain ⟨node1, liveNode1, _⟩ := (survives_moves moves1).node liveNode
    have before : d.OnLocal info1 := ⟨node, by rw [onNode]; exact liveNode, isLocal⟩
    have isLocal1 : d1.OnLocal info1 := (survives_moves moves1).onLocal rfl before
    rw [post_bind]
    refine (post_nl80211UpdateSta env cfg scope heard (sound_moves (a := (none, d)) sound moves1) liveNode1
      live1).mono fun d2 => ?_
    rintro (moves2 | ⟨outOfRange, freed⟩)
    · obtain ⟨info2, live2, _, same2⟩ := (survives_moves moves2).infos live1
      have isLocal2 : d2.OnLocal info2 := (survives_moves moves2).onLocal same2 isLocal1
      have moves2 := moves1.then moves2
      have read2 : ¬ scope.unread info2.node := by rw [same2, onNode]; exact reads.1
      refine (post_confirmClient env cfg scope client (sound_moves (a := (none, d)) sound moves2) live2 isLocal2
        read2).mono ?_
      exact fun r confirmed => moves2.then confirmed
    · rw [confirmClient_freed env cfg client freed]
      exact ⟨rfl, outOfRange⟩

theorem post_usteerLocalNodeSetAssoc {n : NodeId} {clients : List ClientEntry} (reads : scope.Reads n clients)
    (sound : Sound none d) (inside : n ∈ d.localNodes) :
    Post (Dangles cfg) (d.usteerLocalNodeSetAssoc env cfg n clients) (fun d' => Moves env cfg scope (none, d) (none, d')) := by
  obtain ⟨node, live, _⟩ := node_of_locals sound.registered inside
  unfold usteerLocalNodeSetAssoc
  rw [node_ok live, ok_bind, post_bind]
  refine (post_eachEntry env cfg scope (fun d si info _ live onNode isLocal =>
    post_awaitConfirmation env cfg scope live isLocal (by rw [onNode]; exact reads.1)) sound inside live).mono
      fun d1 moves1 => ?_
  rw [post_bind]
  have listed : ∀ acc : Int32 × Daemon, Moves env cfg scope (none, d) (none, acc.2) → ∀ client ∈ clients,
      Post (Dangles cfg) (listClient env cfg n acc client) (fun r => Moves env cfg scope (none, d) (none, r.2)) := by
    rintro ⟨nAssoc, d'⟩ moves client listed
    have sound' : Sound none d' := sound_moves (a := (none, d)) sound moves
    have inside' : n ∈ d'.localNodes := moves.locals inside
    obtain ⟨node', live', isLocal'⟩ := node_of_locals sound'.registered inside'
    exact (post_listClient env cfg scope reads listed sound' live' isLocal').mono fun r more => moves.then more
  refine (post_foldlM clients listed (0, d1) moves1).mono ?_
  rintro ⟨nAssoc, d2⟩ moves2
  dsimp only at moves2 ⊢
  have moves3 : Moves env cfg scope (none, d) (none, d2.modifyNode n (fun node => { node with nAssoc := nAssoc })) :=
    moves2.then (.one (.editNode n (fun node => ⟨rfl, rfl, rfl⟩) fun _ _ _ =>
      ⟨fun _ => rfl, fun unread => absurd unread reads.1⟩))
  have sound3 := sound_moves (a := (none, d)) sound moves3
  have inside3 : n ∈ (d2.modifyNode n (fun node => { node with nAssoc := nAssoc })).localNodes := moves3.locals inside
  obtain ⟨node3, live3, _⟩ := node_of_locals sound3.registered inside3
  dsimp only at live3
  rw [node_ok live3, ok_bind]
  refine (post_eachEntry env cfg scope (fun d si info sound live onNode _ =>
    post_dropUnconfirmed env cfg scope sound live (by rw [onNode]; exact reads.1)) sound3 inside3 live3).mono ?_
  exact fun d4 moves4 => moves3.then moves4

theorem post_usteerLocalNodeListCb {n : NodeId} {msg : ClientsReply}
    (reads : ∀ clients, msg.clients = some clients → scope.Reads n clients) (sound : Sound none d)
    (inside : n ∈ d.localNodes) :
    Post (Dangles cfg) (d.usteerLocalNodeListCb env cfg n msg) (fun d' => Moves env cfg scope (none, d) (none, d')) := by
  unfold usteerLocalNodeListCb
  split
  · rename_i freq clients _ table
    have moves1 : Moves env cfg scope (none, d) (none, d.modifyNode n (fun node => { node with freq := freq })) :=
      .one (.editNode n (fun node => ⟨rfl, rfl, rfl⟩) fun _ _ _ => ⟨fun _ => rfl, fun _ => rfl⟩)
    refine (post_usteerLocalNodeSetAssoc env cfg scope (reads clients table) (sound_moves (a := (none, d)) sound moves1)
      inside).mono ?_
    exact fun d' moves => moves1.then moves
  · exact .none _

/-! ### Stations of remote nodes -/

theorem interfaceAddStation_eq (n : NodeId) (msg : ApmsgSta) :
    d.interfaceAddStation env cfg n msg =
      if msg.timeout ≤ 0 then pure d else
        fetchEntry d n msg.addr id >>= fun r =>
          (r.2.2.modifyInfo r.1 (fun info => { info with
            connected := if msg.connected then 1 else 0
            signal := msg.signal
            seen := r.2.2.currentTime - msg.seen.toInt64.toUInt64 })).usteerStaInfoUpdateTimeout env cfg r.1 msg.timeout := by
  unfold interfaceAddStation fetchEntry usteerStaGet
  split
  · rfl
  · cases search d.sta (fun sta => sta.addr = msg.addr) d.stations with
    | error e => rfl
    | ok found =>
      cases found with
      | none => simp only [unmarked]; rfl
      | some s => simp only [unmarked]; rfl

theorem post_interfaceAddStation {F : Fault → Prop} {n : NodeId} {node : UsteerNode} {msg : ApmsgSta} (sound : Sound none d)
    (liveNode : d.nodes.get? n = some node) (isRemote : node.isLocal = false)
    (supplied : ∀ key, remoteKey node = some key → ¬ scope.unheard msg.addr n (some key)) :
    Post F (d.interfaceAddStation env cfg n msg) (fun d' => Moves env cfg scope (none, d) (none, d')) := by
  rw [interfaceAddStation_eq]
  split
  · exact .none _
  · rename_i unexpired
    have positive : 0 < msg.timeout := Int32.not_le.mp unexpired
    rw [post_bind]
    refine (post_fetchEntry env cfg scope msg.addr (fun _ => ⟨rfl, rfl⟩) sound liveNode).mono ?_
    rintro ⟨si, create, d1⟩ ⟨⟨info1, live1, onNode, sta1, liveSta1, named⟩, moves1⟩
    dsimp only at live1 liveSta1 moves1 ⊢
    obtain ⟨node1, liveNode1, identity⟩ := (survives_moves moves1).node liveNode
    have key : remoteKey node1 = remoteKey node := congrArg Prod.fst identity
    dsimp only at liveNode1
    have remote : ¬ d1.OnLocal info1 := by
      rintro ⟨node1', liveNode1', isLocal⟩
      rw [onNode, liveNode1] at liveNode1'
      cases liveNode1'
      rw [isLocal_eq, key, ← isLocal_eq, isRemote] at isLocal
      cases isLocal
    rw [settle_eq env cfg live1 (.inr positive)]
    refine moves1.then (.one (.settle _ live1 ⟨rfl, rfl, fun br inside => .inl inside⟩ ⟨rfl, rfl, rfl, rfl⟩ rfl rfl
      (.inr positive) (fun isLocal => absurd isLocal remote) (fun isLocal => absurd isLocal remote) (fun unheard => ?_) rfl))
    obtain ⟨sta', node', liveSta', liveNode', unheard⟩ := unheard
    rw [liveSta1] at liveSta'
    rw [onNode, liveNode1] at liveNode'
    cases liveSta'
    cases liveNode'
    rw [isLocal_eq] at isRemote
    obtain ⟨key', isKey⟩ := Option.isSome_iff_exists.mp (Option.isNone_eq_false_iff.mp isRemote)
    rw [named, onNode, key, isKey] at unheard
    exact absurd unheard (supplied key' isKey)

end Usteer
