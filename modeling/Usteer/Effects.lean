import Usteer.Handlers

/-!
What the functions that look up, create and judge entries return, exactly: the state
they were given, or that state with one new station or entry. The results below speak
of the value returned and leave faults aside (`AnyFault`), which `Handlers` excludes.
-/
namespace Usteer
open SearchTree Timeout Function Daemon

variable {env : Platform} {cfg : Config} {scope : Scope} {v : Option StaId} {d : Daemon}

/-! ### A new entry -/

theorem infos_newInfo (s : StaId) (n : NodeId) (freq : Int32) (j : SiId) :
    (d.newInfo s n freq).infos.get? j =
      if j = d.infos.next then some (.zeroed n s freq d.currentTime) else d.infos.get? j := rfl

/-- What was live before is as it was. -/
theorem infos_newInfo_of_live (s : StaId) (n : NodeId) (freq : Int32) {j : SiId} {info : StaInfo}
    (live : d.infos.get? j = some info) : (d.newInfo s n freq).infos.get? j = some info := by
  rw [infos_newInfo, if_neg (Heap.ne_next live)]
  exact live

theorem infos_modifyInfo_self {si : SiId} {f : StaInfo → StaInfo} {info : StaInfo} (live : d.infos.get? si = some info) :
    (d.modifyInfo si f).infos.get? si = some (f info) := by
  rw [modifyInfo, Heap.get?_modify, if_pos rfl, live]
  rfl

theorem infos_modifyInfo_other {si j : SiId} {f : StaInfo → StaInfo} (other : j ≠ si) :
    (d.modifyInfo si f).infos.get? j = d.infos.get? j := by
  rw [modifyInfo, Heap.get?_modify, if_neg other]

/-! ### Lookup and creation -/

theorem returns_usteerStaGet (addr : MacAddr) (sound : Sound none d) :
    Post AnyFault (d.usteerStaGet addr true) (fun r => ∃ s, r.1 = some s ∧
      ((r.2 = d ∧ ∃ sta, d.stas.get? s = some sta ∧ sta.addr = addr) ∨
        (s = d.stas.next ∧ r.2 = d.newSta addr ∧ ∀ s' sta, d.stas.get? s' = some sta → sta.addr ≠ addr))) := by
  have lives : ∀ s ∈ d.stations, ∃ sta, d.sta s = .ok sta := fun s inside => by
    obtain ⟨sta, found⟩ := sta_of_stations sound.links inside
    exact ⟨sta, sta_ok found⟩
  unfold usteerStaGet
  rw [post_bind]
  refine (post_search d.stations lives).mono ?_
  rintro r ⟨hit, miss⟩
  cases r with
  | some s =>
    obtain ⟨inside, sta, found, fits⟩ := hit s rfl
    obtain ⟨sta', live⟩ := sta_of_stations sound.links inside
    rw [sta_ok live] at found
    cases found
    exact ⟨s, rfl, .inl ⟨rfl, sta, live, by simpa using fits⟩⟩
  | none =>
    refine ⟨d.stas.next, rfl, .inr ⟨rfl, rfl, ?_⟩⟩
    intro s sta live same
    have inside : s ∈ d.stations := (sound.links.indexed s).mpr ⟨(sta.addr, sta.nodes), by simp [table, live]⟩
    have unfit := miss rfl s inside sta (sta_ok live)
    simp [same] at unfit

theorem returns_usteerStaInfoGet (s : StaId) (n : NodeId) (sound : Sound v d) :
    Post AnyFault (d.usteerStaInfoGet s n) (fun r =>
      (r.2.1 = false ∧ r.2.2 = d ∧ ∃ info, d.infos.get? r.1 = some info ∧ info.sta = s ∧ info.node = n) ∨
      (r.2.1 = true ∧ r.1 = d.infos.next ∧ (∃ freq, r.2.2 = d.newInfo s n freq) ∧
        ∀ si info, d.infos.get? si = some info → ¬ (info.sta = s ∧ info.node = n))) := by
  unfold usteerStaInfoGet
  rw [post_bind, post_sta]
  refine ⟨fun sta live => ?_, fun _ => trivial⟩
  rw [post_bind]
  refine (post_searchNode n sound live).mono ?_
  rintro r ⟨hit, miss⟩
  cases r with
  | some si => exact .inl ⟨rfl, rfl, (hit si rfl).2⟩
  | none =>
    show Post AnyFault (d.node n >>= _) _
    rw [post_bind, post_node]
    exact ⟨fun node _ => .inr ⟨rfl, rfl, ⟨node.freq, rfl⟩, miss rfl⟩, fun _ => trivial⟩

/-- What the lookup of a station's entry on a node does, when both are created on demand. -/
structure Fetched (d : Daemon) (addr : MacAddr) (n : NodeId) (si : SiId) (create : Bool) (d' : Daemon) : Prop where
  entry : ∃ info, EntryOf d' addr n si info
  found : create = false → d'.infos = d.infos ∧ ∃ info, EntryOf d addr n si info
  fresh : create = true → si = d.infos.next ∧ (∀ j info, ¬ EntryOf d addr n j info) ∧
    ∃ s freq, ∀ j, d'.infos.get? j = if j = si then some (.zeroed n s freq d.currentTime) else d.infos.get? j
  nodes : ∀ m, ∃ list, d'.nodes.get? m = (d.nodes.get? m).map (fun node => { node with staInfo := list })
  rest : d' = { d with stations := d'.stations, stas := d'.stas, infos := d'.infos, nodes := d'.nodes }

theorem nodes_newInfo (s : StaId) (n : NodeId) (freq : Int32) (m : NodeId) :
    ∃ list, (d.newInfo s n freq).nodes.get? m = (d.nodes.get? m).map (fun node => { node with staInfo := list }) := by
  cases found : d.nodes.get? m with
  | none =>
    refine ⟨[], ?_⟩
    simp only [newInfo, modifySta, modifyNode, Heap.get?_modify]
    split
    · rename_i same
      subst same
      rw [found]
      rfl
    · exact found
  | some node =>
    simp only [newInfo, modifySta, modifyNode, Heap.get?_modify]
    split
    · rename_i same
      subst same
      rw [found]
      exact ⟨d.infos.next :: node.staInfo, rfl⟩
    · exact ⟨node.staInfo, found⟩

/-- The station is looked up and marked, and then its entry. -/
theorem fetched {addr : MacAddr} {n : NodeId} {s : StaId} {si : SiId} {create : Bool} {d1 d2 d3 : Daemon} {w : Option StaId}
    {mark : Sta → Sta} (keeps : ∀ sta, (mark sta).addr = sta.addr ∧ (mark sta).nodes = sta.nodes) (sound : Sound none d)
    (sound2 : Sound w d2) (got : d.usteerStaGet addr true = .ok (some s, d1)) (marked : d2 = d1.modifySta s mark)
    (gotInfo : d2.usteerStaInfoGet s n = .ok (si, create, d3)) : Fetched d addr n si create d3 := by
  obtain ⟨s', same, gotSta⟩ := (returns_usteerStaGet addr sound).of_ok got
  cases same
  dsimp only at gotSta
  -- marking a station changes nothing that is looked at here
  obtain ⟨sta2, liveSta2, addr2⟩ : ∃ sta, d2.stas.get? s = some sta ∧ sta.addr = addr := by
    obtain ⟨sta, live, same⟩ : ∃ sta, d1.stas.get? s = some sta ∧ sta.addr = addr := by
      rcases gotSta with ⟨here, live⟩ | ⟨next, new, _⟩
      · rw [here]
        exact live
      · exact ⟨⟨addr, [], false, false⟩, by simp [new, next, newSta, Heap.get?_alloc], rfl⟩
    refine ⟨mark sta, by simp [marked, modifySta, Heap.get?_modify, live], ?_⟩
    rw [(keeps sta).1, same]
  obtain ⟨infos, nodes, rest⟩ : d2.infos = d.infos ∧ d2.nodes = d.nodes ∧
      d2 = { d with stations := d2.stations, stas := d2.stas } := by
    have looked : d1 = d ∨ d1 = d.newSta addr := gotSta.imp And.left fun new => new.2.1
    subst marked
    rcases looked with rfl | rfl
    · exact ⟨rfl, rfl, rfl⟩
    · exact ⟨rfl, rfl, rfl⟩
  have known : ∀ j info, EntryOf d addr n j info → info.sta = s := by
    rintro j info ⟨_, _, sta, liveSta, same⟩
    rcases gotSta with ⟨_, sta', live', addr'⟩ | ⟨_, _, none⟩
    · have shape : d.table.sta info.sta = some (addr, sta.nodes) := by simp [table, liveSta, same]
      have shape' : d.table.sta s = some (addr, sta'.nodes) := by simp [table, live', addr']
      exact sound.links.addr_unique shape shape'
    · exact absurd same (none _ _ liveSta)
  rcases (returns_usteerStaInfoGet s n sound2).of_ok gotInfo with ⟨existing, same, info, live, owner, onNode⟩ |
    ⟨created, next, ⟨freq, shape⟩, none⟩
  · dsimp only at existing same live
    subst same existing
    have entry : EntryOf d3 addr n si info := ⟨live, onNode, sta2, by rw [owner]; exact liveSta2, addr2⟩
    refine ⟨⟨info, entry⟩, fun _ => ⟨infos, info, ?_⟩, fun created => (by cases created), fun m => ?_, ?_⟩
    · refine ⟨by rw [← infos]; exact live, onNode, ?_⟩
      rw [infos] at live
      obtain ⟨sta, liveSta, _⟩ := sta_of_info sound.links live
      rw [owner] at liveSta ⊢
      rcases gotSta with ⟨_, live'⟩ | ⟨next, _, _⟩
      · exact live'
      · exact absurd next (Heap.ne_next liveSta)
    · rw [nodes]
      cases found : d.nodes.get? m with
      | none => exact ⟨[], rfl⟩
      | some node => exact ⟨node.staInfo, rfl⟩
    · rw [rest]
  · dsimp only at created next shape
    subst created next shape
    have liveNew : (d2.newInfo s n freq).infos.get? d2.infos.next = some (.zeroed n s freq d2.currentTime) := by
      rw [infos_newInfo, if_pos rfl]
    have time : d2.currentTime = d.currentTime := by rw [rest]
    refine ⟨⟨_, liveNew, rfl, ⟨{ sta2 with nodes := d2.infos.next :: sta2.nodes }, ?_, addr2⟩⟩, fun existing => (by cases existing),
      fun _ => ⟨by rw [infos], fun j info entry => ?_, s, freq, fun j => ?_⟩, fun m => ?_, ?_⟩
    · simp [newInfo, modifySta, modifyNode, Heap.get?_modify, StaInfo.zeroed, liveSta2]
    · refine none j info (by rw [infos]; exact entry.1) ⟨known j info entry, entry.2.1⟩
    · rw [infos_newInfo, time, infos]
    · rw [← nodes]
      exact nodes_newInfo s n freq m
    · rw [rest]
      rfl

/-- The two lookups find or create the entry. -/
theorem post_fetched (env : Platform) (cfg : Config) (scope : Scope) {F : Fault → Prop} {addr : MacAddr} {n : NodeId}
    {node : UsteerNode} {mark : Sta → Sta} (keeps : ∀ sta, (mark sta).addr = sta.addr ∧ (mark sta).nodes = sta.nodes)
    (sound : Sound none d) (liveNode : d.nodes.get? n = some node) :
    Post F (fetchEntry d n addr mark) (fun r => Fetched d addr n r.1 r.2.1 r.2.2 ∧
      Moves env cfg scope (none, d) (none, r.2.2)) := by
  have shape : Post AnyFault (fetchEntry d n addr mark) (fun r => Fetched d addr n r.1 r.2.1 r.2.2) := by
    unfold fetchEntry
    rw [post_bind]
    refine ((post_usteerStaGet env cfg scope addr sound).and (post_of_ok fun _ run => run)).mono ?_
    rintro ⟨found, d1⟩ ⟨⟨s, sta, w, rfl, _, _, _, moves⟩, gotSta⟩
    have marked := moves.then (.one (.editSta s keeps))
    show Post AnyFault (notNull (some s) >>= _) _
    rw [show notNull (some s) = .ok s from rfl, ok_bind]
    refine post_of_ok fun r gotInfo => ?_
    exact fetched keeps sound (sound_moves (a := (none, d)) sound marked) gotSta rfl gotInfo
  exact ((post_fetchEntry env cfg scope addr keeps sound liveNode).and shape).mono fun r facts => ⟨facts.2, facts.1.2⟩

theorem returns_usteerStaInfoUpdate {si : SiId} {info : StaInfo} (signal : Int32) (avg : Bool) (sound : Sound none d)
    (live : d.infos.get? si = some info) :
    Post AnyFault (d.usteerStaInfoUpdate env cfg si signal avg) (fun d' =>
      (∃ heard, d' = d.settled env si { info with signal := heard, seen := d.currentTime } cfg.localStaTimeout.toInt32) ∨
      (¬ cfg.InRange ∧ d'.infos.get? si = none)) := by
  unfold usteerStaInfoUpdate
  rw [info_ok live, ok_bind]
  dsimp only
  refine (post_updateTimeout env cfg sound live ?_).mono fun d' => ?_
  · exact fun _ => ⟨rfl, rfl⟩
  · rintro (⟨_, same⟩ | freed)
    · exact .inl ⟨_, same⟩
    · exact .inr ⟨freed.1, freed.2.2⟩

theorem infos_settled_self {si : SiId} {info info' : StaInfo} {timeout : Int32} (live : d.infos.get? si = some info) :
    (d.settled env si info' timeout).infos.get? si = some info' :=
  infos_modifyInfo_self (f := fun _ => info') live

theorem infos_settled_other {si j : SiId} {info' : StaInfo} {timeout : Int32} (other : j ≠ si) :
    (d.settled env si info' timeout).infos.get? j = d.infos.get? j :=
  infos_modifyInfo_other (f := fun _ => info') other

/-! ### The search for a better candidate -/

/-- The search leaves the state alone unless the hearing map names a node; then it looks
    up the station's entry there. -/
theorem returns_findBetterCandidate {siRef : SiId} {ref : StaInfo} (sound : Sound none d)
    (live : d.infos.get? siRef = some ref) :
    Post AnyFault (d.findBetterCandidate cfg siRef) (fun r => r.2 = d ∨
      ∃ br n si create, d.betterHeard cfg ref = .ok (some (br, n)) ∧
        d.usteerStaInfoGet ref.sta n = .ok (si, create, r.2)) := by
  unfold findBetterCandidate
  rw [info_ok live, ok_bind, post_bind]
  refine post_of_ok fun found heard => ?_
  cases found with
  | none =>
    show Post AnyFault (d.sta ref.sta >>= _) _
    rw [post_bind]
    refine post_of_ok fun sta _ => ?_
    rw [post_bind]
    refine post_of_ok fun node _ => ?_
    rw [post_bind]
    exact post_of_ok fun _ _ => .inl rfl
  | some found =>
    obtain ⟨br, n⟩ := found
    have own : br.address = siRef := ((post_betterHeard (F := AnyFault) cfg sound live).of_ok heard br n rfl).1
    show Post AnyFault (d.info br.address >>= _) _
    rw [own, info_ok live, ok_bind, post_bind]
    refine post_of_ok fun r got => ?_
    obtain ⟨si, create, d'⟩ := r
    exact .inr ⟨br, n, si, create, heard, got⟩

theorem returns_usteerCheckRequest {si : SiId} {info : StaInfo} (type : EventType) (sound : Sound none d)
    (live : d.infos.get? si = some info) :
    Post AnyFault (d.usteerCheckRequest cfg si type) (fun r => r.2 = d ∨
      (type ≠ .assoc ∧ ∃ br n other create, d.betterHeard cfg info = .ok (some (br, n)) ∧
        d.usteerStaInfoGet info.sta n = .ok (other, create, r.2))) := by
  unfold usteerCheckRequest
  rw [info_ok live, ok_bind]
  split
  · exact .inl rfl
  · rename_i type
    split
    · exact .inl rfl
    · rw [post_bind]
      refine post_of_ok fun node _ => ?_
      split
      · exact .inl rfl
      · split
        · exact .inl rfl
        · rw [post_bind]
          refine (returns_findBetterCandidate sound live).mono fun r result => ?_
          rcases result with same | created
          · exact .inl same
          · exact .inr ⟨type, created⟩

/-! ### A request of a station -/

/-- The state in which `usteer_handle_sta_event` decides on its answer. -/
def requested (env : Platform) (cfg : Config) (d : Daemon) (si : SiId) (info : StaInfo) (heard : Int32) (type : EventType) :
    Daemon :=
  (d.settled env si { info with signal := heard, seen := d.currentTime } cfg.localStaTimeout.toInt32).modifyInfo si
    (fun info => setStats type (countRequest cfg d.currentTime) { info with roamScanDone := d.currentTime })

/-- What `usteer_handle_sta_event` returns: the entry is fetched, its timer and statistics
    follow the request, the answer is decided and counted, and a new entry is announced. -/
inductive Answered (env : Platform) (cfg : Config) (d : Daemon) (n : NodeId) (addr : MacAddr) (type : EventType) :
    Bool × Daemon → Prop
  | intro {si create d1 info d2 ret d'} (heard : Int32) (got : Fetched d addr n si create d1)
      (live : d1.infos.get? si = some info) (sound : Sound none (requested env cfg d1 si info heard type))
      (check : (requested env cfg d1 si info heard type).usteerCheckRequest cfg si type = .ok (ret, d2))
      (sent : d' = d2.modifyInfo si (setStats type (countAnswer d2.currentTime ret)) ∨
        ∃ nodes, d' = (d2.modifyInfo si (setStats type (countAnswer d2.currentTime ret))).usteerUpdateSend cfg nodes) :
      Answered env cfg d n addr type (ret, d')

theorem infos_requested (env : Platform) (cfg : Config) {si : SiId} {info : StaInfo} (heard : Int32) (type : EventType)
    (live : d.infos.get? si = some info) :
    (requested env cfg d si info heard type).infos.get? si =
      some (setStats type (countRequest cfg d.currentTime)
        { info with signal := heard, seen := d.currentTime, roamScanDone := d.currentTime }) := by
  unfold requested
  rw [infos_modifyInfo_self (infos_settled_self live)]

theorem returns_usteerHandleStaEvent {n : NodeId} {node : UsteerNode} (addr : MacAddr) (type : EventType)
    (freq signal : Int32) (sound : Sound none d) (liveNode : d.nodes.get? n = some node) :
    Post AnyFault (d.usteerHandleStaEvent env cfg n addr type freq signal) (Answered env cfg d n addr type) := by
  let scope : Scope := .asked (addr, n, type)
  rw [usteerHandleStaEvent_eq, post_bind]
  refine (post_fetched env cfg scope (keeps_markBand freq) sound liveNode).mono ?_
  rintro ⟨si, create, d3⟩ ⟨got, moves3⟩
  dsimp only at got moves3 ⊢
  obtain ⟨info, entry⟩ := got.entry
  have live := entry.1
  have sound3 : Sound none d3 := sound_moves (a := (none, d)) sound moves3
  have heardHere : ¬ Unheard scope d3 info := heard_entry scope entry fun _ => id
  rw [post_bind]
  refine ((returns_usteerStaInfoUpdate signal false sound3 live).and
    (post_usteerStaInfoUpdate (F := AnyFault) env cfg scope false (.inr heardHere) sound3 live)).mono ?_
  rintro d4 ⟨⟨heard, rfl⟩ | ⟨_, freed⟩, moves4⟩
  swap
  · rw [answerRequest_freed cfg create type freed]
    trivial
  have live4 : (d3.settled env si { info with signal := heard, seen := d3.currentTime }
      cfg.localStaTimeout.toInt32).infos.get? si = _ := infos_settled_self live
  have moves4 := (moves4.resolve_right fun gone => by
    rw [gone.2.2] at live4
    cases live4).2
  unfold answerRequest
  rw [info_ok live4, ok_bind]
  have counted : Moves env cfg scope (none, d3) (none, requested env cfg d3 si info heard type) := by
    obtain ⟨info4, entry4⟩ := (survives_moves moves4).entryOf entry
    refine moves4.then (.count _ rfl entry4 (fun _ => ?_) fun _ => .inr rfl)
    exact ⟨rfl, rfl, rfl, rfl, rfl, rfl, rfl, rfl, rfl, rfl, .refl _⟩
  have sound5 : Sound none (requested env cfg d3 si info heard type) := sound_moves (a := (none, d3)) sound3 counted
  rw [post_bind]
  refine post_of_ok fun r check => ?_
  obtain ⟨ret, d6⟩ := r
  dsimp only
  split
  · rw [post_bind]
    refine post_of_ok fun d8 sent => ?_
    refine .intro heard got live sound5 check (.inr ?_)
    unfold usteerSendStaUpdate at sent
    cases found : (d6.modifyInfo si (setStats type (countAnswer d6.currentTime ret))).info si with
    | error fault =>
      rw [found] at sent
      cases sent
    | ok info8 =>
      rw [found, ok_bind] at sent
      cases built : (d6.modifyInfo si (setStats type (countAnswer d6.currentTime ret))).usteerSendNode cfg info8.node
          (some si) with
      | error fault =>
        rw [built] at sent
        cases sent
      | ok node8 =>
        rw [built] at sent
        cases sent
        exact ⟨[node8], rfl⟩
  · exact .intro heard got live sound5 check (.inl rfl)

/-! ### A station of a message -/

/-- `interface_add_station` passes over a station without time left, and settles the entry
    of any other. -/
theorem returns_interfaceAddStation {n : NodeId} {node : UsteerNode} (msg : ApmsgSta) (sound : Sound none d)
    (liveNode : d.nodes.get? n = some node) :
    Post AnyFault (d.interfaceAddStation env cfg n msg) (fun d' =>
      (¬ 0 < msg.timeout ∧ d' = d) ∨
      (0 < msg.timeout ∧ ∃ si create d1 info, Fetched d msg.addr n si create d1 ∧ Survives d d1 ∧
        d1.infos.get? si = some info ∧
        d' = d1.settled env si { info with
          connected := if msg.connected then 1 else 0
          signal := msg.signal
          seen := d1.currentTime - msg.seen.toInt64.toUInt64 } msg.timeout)) := by
  rw [interfaceAddStation_eq]
  split
  · rename_i expired
    exact .inl ⟨Int32.not_lt.mpr expired, rfl⟩
  · rename_i unexpired
    have positive : 0 < msg.timeout := Int32.not_le.mp unexpired
    rw [post_bind]
    refine (post_fetched env cfg .plain (fun _ => ⟨rfl, rfl⟩) sound liveNode).mono ?_
    rintro ⟨si, create, d2⟩ ⟨got, moves⟩
    obtain ⟨info, live, _⟩ := got.entry
    dsimp only at live ⊢
    rw [settle_eq env cfg live (.inr positive)]
    exact .inr ⟨positive, si, create, d2, info, got, survives_moves moves, live, rfl⟩

/-! ### A step of the roam machine -/

/-- The state after a search for a better candidate that may have been made. -/
def Looked (cfg : Config) (d : Daemon) (si : SiId) (d1 : Daemon) : Prop :=
  d1 = d ∨ ∃ siNew, d.findBetterCandidate cfg si = .ok (siNew, d1)

/-- What the roam machine does to an entry of a node, and whether it kicks the client. -/
inductive RoamStep (cfg : Config) (d : Daemon) (si : SiId) (info : StaInfo) (minSignal : Int32) : Bool × Daemon → Prop
  | stay {d1} (looked : Looked cfg d si d1) (state : info.roamState ≠ .kick) : RoamStep cfg d si info minSignal (false, d1)
  | early {d1} (state : RoamTriggerState) (looked : Looked cfg d si d1)
      (early : state = .scan ∨ state = .scanDone ∨ state = .waitKick) :
      RoamStep cfg d si info minSignal (false, d1.usteerRoamSetState si state)
  | trigger {d1 d2} (looked : Looked cfg d si d1) (scanned : d1.usteerUbusTriggerClientScan si = .ok d2) :
      RoamStep cfg d si info minSignal (false, d2.usteerRoamSetState si .scan)
  | notify (state : info.roamState = .waitKick) (low : ¬ info.signal > minSignal) :
      RoamStep cfg d si info minSignal (false, (d.usteerRoamSetState si .notifyKick).usteerUbusNotifyClientDisassoc si)
  | ready (state : info.roamState = .notifyKick)
      (waited : ¬ d.currentTime - info.roamEvent < (cfg.roamKickDelay * 100).toUInt64) :
      RoamStep cfg d si info minSignal (false, d.usteerRoamSetState si .kick)
  | kick (state : info.roamState = .kick) :
      RoamStep cfg d si info minSignal (true, (d.usteerUbusKickClient si .roam).usteerRoamSetState si .idle)

theorem isActiveClient_congr {info info' : StaInfo} (same : info'.activeBytes = info.activeBytes) :
    isActiveClient cfg info' = isActiveClient cfg info := by
  unfold isActiveClient usteerGetClientActiveBits
  rw [same]

/-- The test of `usteer_local_node_roam_check`. -/
theorem roamEligible_true {now : UInt64} {minSignal : Int32} {info : StaInfo}
    (eligible : roamEligible cfg now minSignal info = .ok true) :
    info.connected ≠ 0 ∧ ¬ info.signal ≥ minSignal ∧ isActiveClient cfg info = .ok false ∧
      ¬ now - info.roamKick < cfg.roamTriggerInterval.toUInt64 := by
  unfold roamEligible at eligible
  split at eligible
  · cases eligible
  · rename_i passes
    simp only [Bool.or_eq_true, decide_eq_true_eq, not_or] at passes
    cases active : isActiveClient cfg info with
    | error fault =>
      rw [active] at eligible
      cases eligible
    | ok busy =>
      rw [active, ok_bind] at eligible
      cases busy with
      | true => cases eligible
      | false =>
        refine ⟨passes.1, passes.2, rfl, fun recent => ?_⟩
        simp [recent, pure, Except.pure] at eligible

theorem triggerClientScan_eq {si : SiId} {d' : Daemon} (scanned : d.usteerUbusTriggerClientScan si = .ok d') :
    ∃ scanBand opClass, d' =
      (d.modifyInfo si (fun info => { info with scanBand := scanBand })).log (.clientScan d.currentTime si opClass) := by
  unfold usteerUbusTriggerClientScan at scanned
  cases found : d.info si with
  | error fault =>
    rw [found] at scanned
    cases scanned
  | ok info =>
    rw [found, ok_bind] at scanned
    cases scanned
    exact ⟨_, _, rfl⟩

theorem returns_usteerRoamTriggerSm {si : SiId} {info : StaInfo} {node : UsteerNode} (live : d.infos.get? si = some info)
    (liveNode : d.nodes.get? info.node = some node) :
    Post AnyFault (d.usteerRoamTriggerSm cfg si) (RoamStep cfg d si info (snrToSignal node cfg.roamTriggerSnr)) := by
  unfold usteerRoamTriggerSm
  rw [info_ok live, ok_bind, node_ok liveNode, ok_bind]
  dsimp only
  split
  case h_1 state =>
    split
    · exact .stay (.inl rfl) (by rw [state]; simp)
    · rw [post_bind]
      refine post_of_ok fun r found => ?_
      obtain ⟨siNew, d1⟩ := r
      have looked : Looked cfg d si d1 := .inr ⟨siNew, found⟩
      dsimp only
      split
      · exact .early .scanDone looked (.inr (.inl rfl))
      · split
        · exact .early .waitKick looked (.inr (.inr rfl))
        · rw [post_bind]
          exact post_of_ok fun d2 scanned => .trigger looked scanned
  case h_2 state =>
    rw [post_bind]
    refine post_of_ok fun r found => ?_
    obtain ⟨siNew, d1⟩ := r
    have looked : Looked cfg d si d1 := .inr ⟨siNew, found⟩
    dsimp only
    split
    · exact .early .scanDone looked (.inr (.inl rfl))
    · exact .early .scan looked (.inl rfl)
  case h_3 state =>
    split
    · exact .early .scan (.inl rfl) (.inl rfl)
    · rw [post_bind]
      refine post_of_ok fun r found => ?_
      obtain ⟨siNew, d1⟩ := r
      have looked : Looked cfg d si d1 := .inr ⟨siNew, found⟩
      dsimp only
      split
      · exact .stay looked (by rw [state]; simp)
      · exact .early .waitKick looked (.inr (.inr rfl))
  case h_4 state =>
    split
    · exact .stay (.inl rfl) (by rw [state]; simp)
    · rename_i low
      exact .notify state low
  case h_5 state =>
    split
    · exact .stay (.inl rfl) (by rw [state]; simp)
    · rename_i waited
      exact .ready state waited
  case h_6 state => exact .kick state

/-! ### The SNR kick -/

theorem returns_snrVictim (minSignal : Int32) (list : List SiId) :
    Post AnyFault (d.snrVictim cfg minSignal list) (fun r => ∀ si, r = some si → si ∈ list ∧ ∃ info,
      d.infos.get? si = some info ∧ info.connected ≠ 0 ∧ isActiveClient cfg info = .ok false ∧ info.signal < minSignal) := by
  induction list with
  | nil => simp [snrVictim]
  | cons si rest ih =>
    have skip : Post AnyFault (d.snrVictim cfg minSignal rest) (fun r => ∀ si', r = some si' → si' ∈ si :: rest ∧ ∃ info,
        d.infos.get? si' = some info ∧ info.connected ≠ 0 ∧ isActiveClient cfg info = .ok false ∧ info.signal < minSignal) :=
      ih.mono fun r found si' same => ⟨List.mem_cons_of_mem _ (found si' same).1, (found si' same).2⟩
    unfold snrVictim
    rw [post_bind, post_info]
    refine ⟨fun info live => ?_, fun _ => trivial⟩
    split
    · exact skip
    · rename_i connected
      rw [post_bind]
      refine post_of_ok fun active judged => ?_
      cases active with
      | true => exact skip
      | false =>
        simp only [Bool.false_eq_true, if_false]
        split
        · exact skip
        · rename_i low
          intro si' same
          cases same
          refine ⟨List.mem_cons_self, info, live, connected, judged, ?_⟩
          rw [Int32.lt_iff_toInt_lt]
          simp only [ge_iff_le, Int32.le_iff_toInt_le] at low
          omega

/-! ### The load kick -/

/-- The last part of the tick on a node kicks someone. -/
def LoadKicks (cfg : Config) (node : UsteerNode) : Prop :=
  (!cfg.loadKickEnabled || cfg.loadKickThreshold = 0 || cfg.loadKickDelay = 0) = false ∧
    ¬ node.load.toUInt32 < cfg.loadKickThreshold ∧
    (∃ count limit, node.loadThrCount = .ok count ∧ divRoundUp cfg.loadKickDelay cfg.localStaUpdate = .ok limit ∧
      ¬ (count + 1).toUInt32 ≤ limit) ∧
    ¬ node.nAssoc.toUInt32 < cfg.loadKickMinClients

/-- What one round of the search for a victim makes of the two clients picked so far: nothing,
    or the client of the round takes their place, in whatever combination. -/
inductive LoadVisit (cfg : Config) (d : Daemon) (si : SiId) (kick1 kick2 : Option SiId) :
    Option SiId → Option SiId → Daemon → Prop
  | skip : LoadVisit cfg d si kick1 kick2 kick1 kick2 d
  | pick {info tmp d'} (first second : Bool) (live : d.infos.get? si = some info) (connected : info.connected ≠ 0)
      (inactive : isActiveClient cfg info = .ok false) (found : d.findBetterCandidate cfg si = .ok (tmp, d')) :
      LoadVisit cfg d si kick1 kick2 (if first = true then some si else kick1) (if second = true then some si else kick2) d'

/-- What every round keeps, the search keeps. -/
theorem loadVictims_rule (holds : List SiId → Option SiId → Option SiId → Daemon → Prop)
    (visit : ∀ {si rest kick1 kick2 d kick1' kick2' d'}, holds (si :: rest) kick1 kick2 d →
      LoadVisit cfg d si kick1 kick2 kick1' kick2' d' → holds rest kick1' kick2' d') (list : List SiId) :
    ∀ {kick1 kick2 candidate : Option SiId} {d : Daemon}, holds list kick1 kick2 d →
      Post AnyFault (loadVictims cfg list kick1 kick2 candidate d) (fun r => holds [] r.1 r.2.1 r.2.2.2) := by
  induction list with
  | nil => exact fun start => start
  | cons si rest ih =>
    intro kick1 kick2 candidate d start
    unfold loadVictims
    rw [post_bind, post_info]
    refine ⟨fun info live => ?_, fun _ => trivial⟩
    split
    · exact ih (visit start .skip)
    · rename_i connected
      rw [post_bind]
      refine post_of_ok fun active judged => ?_
      cases active with
      | true => exact ih (visit start .skip)
      | false =>
        simp only [Bool.false_eq_true, if_false]
        rw [post_bind]
        refine post_of_ok fun first _ => ?_
        rw [post_bind]
        refine post_of_ok fun r found => ?_
        obtain ⟨tmp, d'⟩ := r
        have picks (second : Bool) := visit start (.pick first second live connected judged found)
        dsimp only
        split
        · exact ih (picks false)
        · rw [post_bind]
          refine post_of_ok fun second _ => ?_
          cases second with
          | true => exact ih (picks true)
          | false => exact ih (picks false)

/-- The end of the load kick, after the search for a victim. -/
def loadKicked : Option SiId × Option SiId × Option SiId × Daemon → Daemon
  | (none, _, _, d) => d
  | (some kick1, kick2, _, d) => d.countedKick (kick2.getD kick1) .load

theorem setLoadThrCount_twice (n : NodeId) (first second : Int32) :
    (d.modifyNode n (fun node => node.setLoadThrCount first)).modifyNode n (fun node => node.setLoadThrCount second) =
      d.modifyNode n (fun node => node.setLoadThrCount second) := by
  have same : (fun node : UsteerNode => node.setLoadThrCount second) ∘
      (fun node : UsteerNode => node.setLoadThrCount first) =
      fun node : UsteerNode => node.setLoadThrCount second := by
    funext node
    simp only [Function.comp_apply, UsteerNode.setLoadThrCount]
    cases kind : node.kind with
    | loc ln => rfl
    | remote rn => simp [kind]
  simp only [modifyNode, Heap.modify_modify, same]

/-- What the load kick returns: a state that differs in `load_thr_count` at most, or what comes
    of the search for a victim. -/
theorem returns_loadKick {n : NodeId} {node : UsteerNode} {holds : Daemon → Prop} (live : d.nodes.get? n = some node)
    (same : holds d) (counted : ∀ count, holds (d.modifyNode n (fun node => node.setLoadThrCount count)))
    (search : LoadKicks cfg node → Post AnyFault (loadVictims cfg node.staInfo none none none
      (d.modifyNode n (fun node => node.setLoadThrCount 0))) (fun r => holds (loadKicked r))) :
    Post AnyFault (d.loadKick cfg n) holds := by
  unfold loadKick
  split
  · exact same
  · rename_i enabled
    rw [node_ok live, ok_bind]
    split
    · exact counted 0
    · rename_i loaded
      rw [post_bind]
      refine post_of_ok fun count counts => ?_
      dsimp only
      rw [post_bind]
      refine post_of_ok fun limit limits => ?_
      split
      · exact counted (count + 1)
      · rename_i exceeds
        rw [setLoadThrCount_twice]
        split
        · exact counted 0
        · rename_i many
          rw [post_bind]
          refine (search ⟨by simpa using enabled, loaded, ⟨count, limit, counts, limits, exceeds⟩, many⟩).mono ?_
          rintro ⟨kick1, kick2, candidate, d'⟩ facts
          cases kick1 with
          | none => exact facts
          | some kick1 => exact facts

end Usteer
