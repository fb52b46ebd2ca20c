import Usteer.Effects
import Usteer.Runs

/-!
Who is kicked by one call of `usteer_local_node_kick`. The roam check, the SNR kick and
the load kick run one after the other over the same entries, and the later ones see a
client that was kicked as disconnected. `Tally` accounts for the kicks since the start of
the call: each hit a client that was connected and inactive then, and everyone else is as
before. Every part of the call extends the tally by at most one kick of its own, so a call
kicks at most three clients, one for each reason (`one_kick_each`).
-/
namespace Usteer
open SearchTree Timeout Function Daemon

/-- Whom an event kicks, and why. -/
def Event.kicked : Event → Option (SiId × KickReason)
  | .kick _ si why => some (si, why)
  | _ => none

/-- The kicks among the events. -/
def kicksOf (events : List Event) : List (SiId × KickReason) := events.filterMap Event.kicked

/-- A client of the node that may be kicked: connected and inactive. -/
def Inactive (cfg : Config) (n : NodeId) (d : Daemon) (si : SiId) : Prop :=
  ∃ info, d.infos.get? si = some info ∧ info.node = n ∧ info.connected ≠ 0 ∧ isActiveClient cfg info = .ok false

/-- An entry as far as kicks are concerned. -/
structure Unkicked (info info' : StaInfo) : Prop where
  node : info'.node = info.node
  connected : info'.connected = info.connected
  roamKick : info'.roamKick = info.roamKick
  kickCount : info'.kickCount = info.kickCount
  activeBytes : info'.activeBytes = info.activeBytes

/-- The kicks since a state: whom they hit, and that they touched nobody else. -/
structure Tally (cfg : Config) (n : NodeId) (d0 d : Daemon) (kicks : List (SiId × KickReason)) : Prop where
  trace : ∃ events, d.trace = d0.trace ++ events ∧ kicksOf events = kicks
  next : d0.infos.next ≤ d.infos.next
  once : (kicks.map Prod.fst).Nodup
  hit : ∀ {si}, si ∈ kicks.map Prod.fst → Inactive cfg n d0 si
  gone : ∀ {si info}, si ∈ kicks.map Prod.fst → d.infos.get? si = some info → info.connected = 0
  spared : ∀ {si info}, si ∉ kicks.map Prod.fst → d.infos.get? si = some info →
    (∃ info0, d0.infos.get? si = some info0 ∧ Unkicked info0 info) ∨ (d0.infos.get? si = none ∧ info.connected = 0)

section Tally

variable {env : Platform} {cfg : Config} {n : NodeId} {d0 d d' : Daemon} {kicks : List (SiId × KickReason)}

theorem Unkicked.trans {a b c : StaInfo} (first : Unkicked a b) (second : Unkicked b c) : Unkicked a c :=
  ⟨second.node.trans first.node, second.connected.trans first.connected, second.roamKick.trans first.roamKick,
    second.kickCount.trans first.kickCount, second.activeBytes.trans first.activeBytes⟩

theorem tally_start (cfg : Config) (n : NodeId) (d : Daemon) : Tally cfg n d d [] where
  trace := ⟨[], by simp, rfl⟩
  next := le_rfl
  once := by simp
  hit := by simp
  gone := by simp
  spared := fun _ live => .inl ⟨_, live, rfl, rfl, rfl, rfl, rfl⟩

/-- A step that kicks nobody: entries are edited in other respects or new and not
    connected. -/
theorem Tally.step (tally : Tally cfg n d0 d kicks) {e : List Event} (trace : d'.trace = d.trace ++ e)
    (quiet : kicksOf e = []) (next : d.infos.next ≤ d'.infos.next)
    (infos : ∀ {si info'}, d'.infos.get? si = some info' →
      (∃ info, d.infos.get? si = some info ∧ Unkicked info info') ∨ (si = d.infos.next ∧ info'.connected = 0)) : Tally cfg n d0 d' kicks where
  trace := by
    obtain ⟨events, earlier, same⟩ := tally.trace
    refine ⟨events ++ e, by rw [trace, earlier, List.append_assoc], ?_⟩
    rw [kicksOf, List.filterMap_append]
    change kicksOf events ++ kicksOf e = kicks
    simp [same, quiet]
  next := tally.next.trans next
  once := tally.once
  hit := tally.hit
  gone := by
    intro si info' listed live'
    rcases infos live' with ⟨info, live, same⟩ | ⟨_, unconnected⟩
    · rw [same.connected]
      exact tally.gone listed live
    · exact unconnected
  spared := by
    intro si info' unlisted live'
    rcases infos live' with ⟨info, live, same⟩ | ⟨next, unconnected⟩
    · rcases tally.spared unlisted live with ⟨info0, live0, same0⟩ | ⟨new, unconnected⟩
      · exact .inl ⟨info0, live0, same0.trans same⟩
      · exact .inr ⟨new, by rw [same.connected]; exact unconnected⟩
    · refine .inr ⟨d0.infos.unused si ?_, unconnected⟩
      have := tally.next
      omega

theorem Tally.same (tally : Tally cfg n d0 d kicks) (infos : d'.infos = d.infos) (trace : d'.trace = d.trace) :
    Tally cfg n d0 d' kicks := by
  refine tally.step (e := []) (by simp [trace]) rfl (by rw [infos]) fun {si info'} live => ?_
  rw [infos] at live
  exact .inl ⟨info', live, rfl, rfl, rfl, rfl, rfl⟩

theorem Tally.log (tally : Tally cfg n d0 d kicks) {e : Event} (quiet : e.kicked = none) :
    Tally cfg n d0 (d.log e) kicks := by
  refine tally.step (e := [e]) rfl (by simp [kicksOf, quiet]) le_rfl fun {si info'} live => ?_
  exact .inl ⟨info', live, rfl, rfl, rfl, rfl, rfl⟩

theorem Tally.edit (tally : Tally cfg n d0 d kicks) (si : SiId) {f : StaInfo → StaInfo}
    (detail : ∀ info, Unkicked info (f info)) : Tally cfg n d0 (d.modifyInfo si f) kicks := by
  refine tally.step (e := []) (by simp [modifyInfo]) rfl le_rfl fun {j info'} live' => .inl ?_
  obtain ⟨info, live, shape⟩ := Heap.get?_modify_some live'
  refine ⟨info, live, ?_⟩
  subst shape
  split
  · exact detail info
  · exact ⟨rfl, rfl, rfl, rfl, rfl⟩

theorem Tally.roamSetState (tally : Tally cfg n d0 d kicks) (si : SiId) (state : RoamTriggerState) :
    Tally cfg n d0 (d.usteerRoamSetState si state) kicks :=
  tally.edit si fun _ => ⟨rfl, rfl, rfl, rfl, rfl⟩

theorem Tally.newInfo (tally : Tally cfg n d0 d kicks) (s : StaId) (m : NodeId) (freq : Int32) :
    Tally cfg n d0 (d.newInfo s m freq) kicks := by
  refine tally.step (e := []) (by simp [Daemon.newInfo, modifySta, modifyNode]) rfl (Nat.le_succ _) ?_
  intro si info' live'
  rw [infos_newInfo] at live'
  by_cases new : si = d.infos.next
  · rw [if_pos new] at live'
    cases live'
    exact .inr ⟨new, rfl⟩
  · rw [if_neg new] at live'
    exact .inl ⟨info', live', rfl, rfl, rfl, rfl, rfl⟩

/-- A search for a better candidate leaves every entry as it is and may add one. -/
theorem looked_cases {si : SiId} {info : StaInfo} (sound : Sound none d) (live : d.infos.get? si = some info)
    (looked : Looked cfg d si d') : d' = d ∨ ∃ s m freq, d' = d.newInfo s m freq := by
  rcases looked with same | ⟨siNew, found⟩
  · exact .inl same
  · rcases (returns_findBetterCandidate sound live).of_ok found with same | ⟨br, m, other, create, _, got⟩
    · exact .inl same
    · rcases (returns_usteerStaInfoGet info.sta m sound).of_ok got with ⟨_, same, _⟩ | ⟨_, _, ⟨freq, new⟩, _⟩
      · exact .inl same
      · exact .inr ⟨info.sta, m, freq, new⟩

theorem Tally.looked {si : SiId} {info : StaInfo} (tally : Tally cfg n d0 d kicks) (sound : Sound none d)
    (live : d.infos.get? si = some info) (looked : Looked cfg d si d') : Tally cfg n d0 d' kicks := by
  rcases looked_cases sound live looked with rfl | ⟨s, m, freq, rfl⟩
  · exact tally
  · exact tally.newInfo s m freq

theorem Inactive.looked {si j : SiId} {info : StaInfo} (inactive : Inactive cfg n d j) (sound : Sound none d)
    (live : d.infos.get? si = some info) (looked : Looked cfg d si d') : Inactive cfg n d' j := by
  rcases looked_cases sound live looked with rfl | ⟨s, m, freq, rfl⟩
  · exact inactive
  · obtain ⟨info', live', facts⟩ := inactive
    exact ⟨info', infos_newInfo_of_live s m freq live', facts⟩

/-- Only a client that was connected and inactive from the start is so now. -/
theorem Tally.before {si : SiId} (tally : Tally cfg n d0 d kicks) (inactive : Inactive cfg n d si) :
    si ∉ kicks.map Prod.fst ∧ Inactive cfg n d0 si := by
  obtain ⟨info, live, onNode, connected, inactive⟩ := inactive
  have unlisted : si ∉ kicks.map Prod.fst := fun listed => connected (tally.gone listed live)
  refine ⟨unlisted, ?_⟩
  rcases tally.spared unlisted live with ⟨info0, live0, same⟩ | ⟨_, unconnected⟩
  · refine ⟨info0, live0, same.node ▸ onNode, same.connected ▸ connected, ?_⟩
    rw [← isActiveClient_congr same.activeBytes]
    exact inactive
  · exact absurd unconnected connected

theorem mem_victims {si j : SiId} {why : KickReason} :
    j ∈ (kicks ++ [(si, why)]).map Prod.fst ↔ j ∈ kicks.map Prod.fst ∨ j = si := by
  rw [List.map_append, List.mem_append]
  simp only [List.map_cons, List.map_nil, List.mem_singleton]

/-- A kick of such a client is added to the tally. -/
theorem Tally.kick {si : SiId} (tally : Tally cfg n d0 d kicks) (why : KickReason) (inactive : Inactive cfg n d si)
    {f : StaInfo → StaInfo} (unconnected : ∀ info, (f info).connected = 0) :
    Tally cfg n d0 ((d.log (.kick d.currentTime si why)).modifyInfo si f) (kicks ++ [(si, why)]) := by
  obtain ⟨unlisted, before⟩ := tally.before inactive
  obtain ⟨events, earlier, same⟩ := tally.trace
  refine ⟨⟨events ++ [.kick d.currentTime si why], ?_, ?_⟩, tally.next, ?_, ?_, ?_, ?_⟩
  · simp [modifyInfo, Daemon.log, earlier]
  · simp [kicksOf, Event.kicked, ← same]
  · rw [List.map_append, List.nodup_append]
    refine ⟨tally.once, by simp, ?_⟩
    rintro j listed _ now rfl
    obtain rfl : j = si := by simpa using now
    exact unlisted listed
  · intro j listed
    rcases mem_victims.mp listed with earlier | rfl
    · exact tally.hit earlier
    · exact before
  · intro j info' listed live'
    obtain ⟨info, live, shape⟩ := Heap.get?_modify_some live'
    subst shape
    by_cases here : j = si
    · rw [if_pos here]
      exact unconnected info
    · rw [if_neg here]
      exact tally.gone ((mem_victims.mp listed).resolve_right here) live
  · intro j info' unlisted live'
    obtain ⟨info, live, shape⟩ := Heap.get?_modify_some live'
    have here : j ≠ si := fun same => unlisted (mem_victims.mpr (.inr same))
    rw [if_neg here] at shape
    subst shape
    exact tally.spared (fun listed => unlisted (mem_victims.mpr (.inl listed))) live

/-- The tally after at most one more kick, for the given reason. -/
def Adds (cfg : Config) (n : NodeId) (d0 : Daemon) (kicks : List (SiId × KickReason)) (why : KickReason) (d' : Daemon) : Prop :=
  ∃ more, (more = [] ∨ ∃ si, more = [(si, why)]) ∧ Tally cfg n d0 d' (kicks ++ more)

theorem Adds.none {why : KickReason} (tally : Tally cfg n d0 d kicks) : Adds cfg n d0 kicks why d :=
  ⟨[], .inl rfl, by simpa using tally⟩

theorem Adds.one {why : KickReason} {si : SiId} (tally : Tally cfg n d0 d (kicks ++ [(si, why)])) : Adds cfg n d0 kicks why d :=
  ⟨[(si, why)], .inr ⟨si, rfl⟩, tally⟩

/-! ### The roam check -/

theorem adds_roamStep {si : SiId} {info : StaInfo} {minSignal : Int32} {r : Bool × Daemon}
    (step : RoamStep cfg d si info minSignal r) (tally : Tally cfg n d0 d kicks) (sound : Sound none d)
    (live : d.infos.get? si = some info) (inactive : Inactive cfg n d si) :
    if r.1 then Tally cfg n d0 r.2 (kicks ++ [(si, .roam)]) else Tally cfg n d0 r.2 kicks := by
  cases step with
  | stay looked state => exact tally.looked sound live looked
  | early state looked early => exact (tally.looked sound live looked).roamSetState si state
  | trigger looked scanned =>
    obtain ⟨scanBand, opClass, rfl⟩ := triggerClientScan_eq scanned
    have edited := (tally.looked sound live looked).edit (f := fun info => { info with scanBand := scanBand }) si
      fun _ => ⟨rfl, rfl, rfl, rfl, rfl⟩
    exact (edited.log rfl).roamSetState si .scan
  | notify state low => exact (tally.roamSetState si .notifyKick).log rfl
  | ready state waited => exact tally.roamSetState si .kick
  | kick state => exact (tally.kick .roam inactive fun _ => rfl).roamSetState si .idle

theorem adds_roamVisits (minSignal : Int32) (list : List SiId) :
    ∀ {d : Daemon}, Sound none d → LocalEntries d list → (∀ si ∈ list, ∀ info, d.infos.get? si = some info → info.node = n) →
      Tally cfg n d0 d [] → Post AnyFault (roamVisits cfg minSignal list d) (Adds cfg n d0 [] .roam) := by
  induction list with
  | nil => intro d _ _ _ tally; exact .none tally
  | cons si rest ih =>
    intro d sound entries onNode tally
    obtain ⟨info, live, isLocal⟩ := entries si List.mem_cons_self
    -- the rest of the loop, from a state that the visit of `si` leads to
    have later : ∀ d', Moves plainPlatform cfg (.policy n) (none, d) (none, d') → Tally cfg n d0 d' [] →
        Post AnyFault (roamVisits cfg minSignal rest d') (Adds cfg n d0 [] .roam) := by
      intro d' moves tally'
      refine ih (sound_moves (a := (none, d)) sound moves) (entries.rest.survive (survives_moves moves)) ?_ tally'
      intro j inside info' live'
      obtain ⟨infoJ, liveJ, _⟩ := entries j (List.mem_cons_of_mem _ inside)
      obtain ⟨info'', live'', _, same⟩ := (survives_moves moves).infos liveJ
      rw [live'] at live''
      cases live''
      rw [same]
      exact onNode j (List.mem_cons_of_mem _ inside) infoJ liveJ
    rw [roamVisits, info_ok live, ok_bind, post_bind]
    refine post_of_ok fun node found => ?_
    dsimp only
    have looked : Moves plainPlatform cfg (.policy n) (none, d) (none, d.log (.visit d.currentTime si info node)) :=
      .one (.log _ rfl)
    have sound1 : Sound none (d.log (.visit d.currentTime si info node)) := sound_moves (a := (none, d)) sound looked
    have tally1 : Tally cfg n d0 (d.log (.visit d.currentTime si info node)) [] := tally.log rfl
    have live1 : (d.log (.visit d.currentTime si info node)).infos.get? si = some info := live
    rw [post_bind]
    refine post_of_ok fun eligible judged => ?_
    cases eligible with
    | false => exact later _ (looked.then (.one (.roam si .idle rfl))) (tally1.roamSetState si .idle)
    | true =>
      obtain ⟨connected, _, inactive, _⟩ := roamEligible_true judged
      have inactive : Inactive cfg n (d.log (.visit d.currentTime si info node)) si :=
        ⟨info, live, onNode si List.mem_cons_self info live, connected, inactive⟩
      simp only [if_true]
      rw [post_bind]
      refine post_of_ok fun r stepped => ?_
      have moves := (post_usteerRoamTriggerSm plainPlatform cfg n sound1 live1 isLocal).of_ok stepped
      obtain ⟨node1, liveNode1, _⟩ := node_of_info sound1.links live1
      have adds := adds_roamStep ((returns_usteerRoamTriggerSm live1 liveNode1).of_ok stepped) tally1 sound1 live1 inactive
      obtain ⟨kicked, d2⟩ := r
      cases kicked with
      | true => exact .one adds
      | false => exact later d2 (looked.then moves) adds

theorem adds_usteerLocalNodeRoamCheck (sound : Sound none d) (inside : n ∈ d.localNodes) :
    Post AnyFault (d.usteerLocalNodeRoamCheck cfg n) (Adds cfg n d [] .roam) := by
  unfold usteerLocalNodeRoamCheck
  split
  · exact .none (tally_start cfg n d)
  · have timed : Moves plainPlatform cfg (.policy n) (none, d) (none, d.usteerUpdateTime) := .one .time
    have sound1 : Sound none d.usteerUpdateTime := sound_moves (a := (none, d)) sound timed
    obtain ⟨node, live, _⟩ := node_of_locals sound.registered inside
    have live1 : d.usteerUpdateTime.nodes.get? n = some node := live
    dsimp only
    rw [node_ok live1, ok_bind]
    exact adds_roamVisits _ node.staInfo sound1 (localEntries sound1 inside live1) (onNode_of_listed sound1.links live1)
      ((tally_start cfg n d).same rfl rfl)

/-! ### The SNR kick and the load kick -/

theorem Tally.countedKick {si : SiId} (tally : Tally cfg n d0 d kicks) (why : KickReason) (inactive : Inactive cfg n d si) :
    Tally cfg n d0 (d.countedKick si why) (kicks ++ [(si, why)]) := by
  have shape : d.countedKick si why = (d.log (.kick d.currentTime si why)).modifyInfo si
      (fun info => { info with kickCount := info.kickCount + 1, connected := 0, roamKick := d.currentTime }) := by
    unfold Daemon.countedKick usteerUbusKickClient modifyInfo Daemon.log
    simp only [Heap.modify_modify]
    rfl
  rw [shape]
  exact tally.kick why inactive fun _ => rfl

theorem adds_usteerLocalNodeSnrKick (tally : Tally cfg n d0 d kicks) (sound : Sound none d) :
    Post AnyFault (d.usteerLocalNodeSnrKick cfg n) (Adds cfg n d0 kicks .snr) := by
  unfold usteerLocalNodeSnrKick
  split
  · exact .none tally
  · rw [post_bind, post_node]
    refine ⟨fun node live => ?_, fun _ => trivial⟩
    rw [post_bind]
    refine (returns_snrVictim _ node.staInfo).mono fun victim facts => ?_
    cases victim with
    | none => exact .none tally
    | some si =>
      obtain ⟨listed, info, liveInfo, connected, inactive, _⟩ := facts si rfl
      refine .one (tally.countedKick .snr ⟨info, liveInfo, ?_, connected, inactive⟩)
      exact onNode_of_listed sound.links live si listed info liveInfo

theorem adds_loadVictims (list : List SiId) (sound : Sound none d) (entries : LocalEntries d list)
    (onNode : ∀ si ∈ list, ∀ info, d.infos.get? si = some info → info.node = n) (tally : Tally cfg n d0 d kicks)
    {kick1 kick2 candidate : Option SiId} (victim1 : ∀ si ∈ kick1, Inactive cfg n d si)
    (victim2 : ∀ si ∈ kick2, Inactive cfg n d si) :
    Post AnyFault (loadVictims cfg list kick1 kick2 candidate d) (fun r => Tally cfg n d0 r.2.2.2 kicks ∧
      (∀ si ∈ r.1, Inactive cfg n r.2.2.2 si) ∧ ∀ si ∈ r.2.1, Inactive cfg n r.2.2.2 si) := by
  refine (loadVictims_rule (fun list kick1 kick2 d => Sound none d ∧ LocalEntries d list ∧
    (∀ si ∈ list, ∀ info, d.infos.get? si = some info → info.node = n) ∧ Tally cfg n d0 d kicks ∧
    (∀ si ∈ kick1, Inactive cfg n d si) ∧ ∀ si ∈ kick2, Inactive cfg n d si) ?_ list
      ⟨sound, entries, onNode, tally, victim1, victim2⟩).mono fun _ picked => picked.2.2.2
  rintro si rest kick1 kick2 d kick1' kick2' d' ⟨sound, entries, onNode, tally, victim1, victim2⟩ visit
  have onNode' := fun j inside => onNode j (List.mem_cons_of_mem _ inside)
  cases visit with
  | skip => exact ⟨sound, entries.rest, onNode', tally, victim1, victim2⟩
  | @pick info tmp d' first second live connected idle found =>
    have inactive : Inactive cfg n d si := ⟨info, live, onNode si List.mem_cons_self info live, connected, idle⟩
    have looked : Looked cfg d si d' := .inr ⟨tmp, found⟩
    have moves := (post_findBetterCandidate (F := AnyFault) plainPlatform cfg .plain sound live).of_ok found
    have sound' : Sound none d' := sound_moves (a := (none, d)) sound moves
    have entries' : LocalEntries d' rest := entries.rest.survive (survives_moves moves)
    have onNode'' : ∀ j ∈ rest, ∀ info, d'.infos.get? j = some info → info.node = n := by
      intro j inside info' live'
      obtain ⟨infoJ, liveJ, _⟩ := entries.rest j inside
      obtain ⟨info'', live'', _, same⟩ := (survives_moves moves).infos liveJ
      rw [live'] at live''
      cases live''
      rw [same]
      exact onNode' j inside infoJ liveJ
    have pick : ∀ (better : Bool) (kick : Option SiId), (∀ j ∈ kick, Inactive cfg n d j) →
        ∀ j ∈ (if better = true then some si else kick), Inactive cfg n d' j := by
      intro better kick victim j picked
      split at picked
      · cases picked
        exact inactive.looked sound live looked
      · exact (victim j picked).looked sound live looked
    exact ⟨sound', entries', onNode'', tally.looked sound live looked, pick first kick1 victim1, pick second kick2 victim2⟩

theorem adds_loadKick (tally : Tally cfg n d0 d kicks) (sound : Sound none d) (inside : n ∈ d.localNodes) :
    Post AnyFault (d.loadKick cfg n) (Adds cfg n d0 kicks .load) := by
  have counted (count : Int32) : Tally cfg n d0 (d.modifyNode n (fun node => node.setLoadThrCount count)) kicks :=
    tally.same rfl rfl
  obtain ⟨node, live, _⟩ := node_of_locals sound.registered inside
  refine returns_loadKick live (.none tally) (fun count => .none (counted count)) fun _ => ?_
  have reset : Moves plainPlatform cfg .plain (none, d) (none, d.modifyNode n (fun node => node.setLoadThrCount 0)) :=
    .one (.editNode n (keepsNode_setLoadThrCount 0) (keepsCounts_setLoadThrCount .plain n 0 id))
  refine (adds_loadVictims node.staInfo (sound_moves (a := (none, d)) sound reset)
    ((localEntries sound inside live).survive (survives_moves reset))
    (fun si listed info liveInfo => onNode_of_listed sound.links live si listed info liveInfo)
    (counted 0) (by simp) (by simp)).mono ?_
  rintro ⟨kick1, kick2, candidate, d'⟩ ⟨tally', victim1, victim2⟩
  cases kick1 with
  | none => exact .none tally'
  | some kick1 =>
    cases kick2 with
    | none => exact .one (tally'.countedKick .load (victim1 kick1 rfl))
    | some kick2 => exact .one (tally'.countedKick .load (victim2 kick2 rfl))

theorem adds_usteerLocalNodeKick (sound : Sound none d) (inside : n ∈ d.localNodes) :
    Post AnyFault (d.usteerLocalNodeKick cfg n) (fun d' => ∃ kicks, Tally cfg n d d' kicks ∧ (kicks.map Prod.snd).Nodup) := by
  refine post_of_ok fun d' run => ?_
  obtain ⟨d1, d2, parts⟩ := tickParts plainPlatform cfg sound inside run
  obtain ⟨roamed, roam, tally1⟩ := (adds_usteerLocalNodeRoamCheck sound inside).of_ok parts.roamed
  obtain ⟨weak, snr, tally2⟩ := (adds_usteerLocalNodeSnrKick tally1 parts.sound1).of_ok parts.kicked
  obtain ⟨surplus, load, tally3⟩ := (adds_loadKick tally2 parts.sound2 parts.inside2).of_ok parts.loaded
  refine ⟨_, tally3, ?_⟩
  rcases roam with rfl | ⟨_, rfl⟩ <;> rcases snr with rfl | ⟨_, rfl⟩ <;> rcases load with rfl | ⟨_, rfl⟩ <;> simp

end Tally

/-- One call of `usteer_local_node_kick` returns. It kicks at most one client for each
    reason and no client twice, every client it kicks was connected and inactive at the
    start of the call, and every other client is as connected and as often kicked as
    before. -/
theorem one_kick_each {cfg : Config} {d : Daemon} {n : NodeId} (active : 0 < cfg.kickClientActiveSec)
    (update : 0 < cfg.localStaUpdate) (sound : Sound none d) (inside : n ∈ d.localNodes) :
    ∃ d' events, d.usteerLocalNodeKick cfg n = .ok d' ∧ d'.trace = d.trace ++ events ∧
      ((kicksOf events).map Prod.snd).Nodup ∧ ((kicksOf events).map Prod.fst).Nodup ∧
      (∀ si ∈ (kicksOf events).map Prod.fst, Inactive cfg n d si) ∧
      ∀ si info, d.infos.get? si = some info → si ∉ (kicksOf events).map Prod.fst →
        ∃ info', d'.infos.get? si = some info' ∧ info'.connected = info.connected ∧ info'.roamKick = info.roamKick ∧
          info'.kickCount = info.kickCount := by
  have safe := (post_usteerLocalNodeKick plainPlatform cfg sound inside).and (adds_usteerLocalNodeKick sound inside)
  cases run : d.usteerLocalNodeKick cfg n with
  | error e =>
    rw [run] at safe
    obtain ⟨_, zero | zero⟩ := safe
    · rw [zero] at active
      exact absurd active (by decide)
    · rw [zero] at update
      exact absurd update (by decide)
  | ok d' =>
    obtain ⟨moves, kicks, tally, reasons⟩ := safe.of_ok run
    obtain ⟨events, trace, rfl⟩ := tally.trace
    refine ⟨d', events, rfl, trace, reasons, tally.once, fun si => tally.hit, fun si info live unkicked => ?_⟩
    obtain ⟨info', live', _⟩ := (survives_moves moves).infos live
    rcases tally.spared unkicked live' with ⟨info0, live0, same⟩ | ⟨new, _⟩
    · rw [live] at live0
      cases live0
      exact ⟨info', live', same.connected, same.roamKick, same.kickCount⟩
    · rw [live] at new
      cases new

/-- A configuration that kicks clients with a weak signal. -/
def minimalSignal : Config := { usteerInitDefaults with minSnr := 40 }

theorem one_kick_each_of_weak_client : ∃ d d' events, plainRun minimalSignal associates = some d ∧
    d.usteerLocalNodeKick minimalSignal 0 = .ok d' ∧ d'.trace = d.trace ++ events ∧ kicksOf events = [(0, .snr)] ∧
    Inactive minimalSignal 0 d 0 := by
  have evaluates : ((plainRun minimalSignal associates).any fun d => decide (0 ∈ d.localNodes) &&
      (d.usteerLocalNodeKick minimalSignal 0).toOption.any fun d' =>
        decide (kicksOf (d'.trace.drop d.trace.length) = [(0, .snr)])) = true := by decide +kernel
  obtain ⟨d, run, evaluates⟩ := (Option.any_eq_true _ _).mp evaluates
  obtain ⟨inside, evaluates⟩ := (Bool.and_eq_true _ _).mp evaluates
  obtain ⟨d', kicked, evaluates⟩ := (Option.any_eq_true _ _).mp evaluates
  have sound := reachable_sound (reachable_plainRun run)
  have active : 0 < minimalSignal.kickClientActiveSec := by decide
  have update : 0 < minimalSignal.localStaUpdate := by decide
  obtain ⟨d'', events, kick, trace, _, _, hit, _⟩ := one_kick_each active update sound (of_decide_eq_true inside)
  rw [ok_of_toOption kicked] at kick
  cases kick
  have victims : kicksOf events = [(0, .snr)] := by
    simpa [trace] using of_decide_eq_true evaluates
  exact ⟨d, d', events, run, ok_of_toOption kicked, trace, victims, hit 0 (by simp [victims])⟩

end Usteer
