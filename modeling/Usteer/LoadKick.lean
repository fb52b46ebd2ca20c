import Usteer.Arming
import Usteer.Kicks
import Usteer.Search
import Usteer.Selection

/-!
Whom the load kick picks. Its loop keeps two choices, the most kickable client and the most
kickable one with a better candidate. `is_more_kickable` is not a total order, but it is a
strict one, so neither choice is ever beaten by a client that was read before
(`Selection.Unbeaten`). The searches within the loop may add entries; they belong to the
clients read so far, and the search for the next client does not see them (`Beside`).
-/
namespace Usteer
open SearchTree Timeout Function Daemon Selection

/-! ### What the victim is chosen among -/

/-- `find_better_candidate` finds an entry for the client, on the node. -/
def BetterOn (cfg : Config) (d : Daemon) (si : SiId) (m : NodeId) : Prop :=
  ∃ found d' info, d.findBetterCandidate cfg si = .ok (some found, d') ∧ d'.infos.get? found = some info ∧
    info.node = m

/-- A client that may be kicked and for which `find_better_candidate` finds an entry. -/
def Movable (cfg : Config) (n : NodeId) (d : Daemon) (si : SiId) : Prop :=
  Inactive cfg n d si ∧ ∃ found d', d.findBetterCandidate cfg si = .ok (some found, d')

/-- A client was kicked no more often than another and has the weaker signal. -/
def MoreKickable (d : Daemon) (si other : SiId) : Prop :=
  ∃ info info', d.infos.get? si = some info ∧ d.infos.get? other = some info' ∧
    info.kickCount ≤ info'.kickCount ∧ info.signal < info'.signal

section Choice

variable {cfg : Config} {n : NodeId} {d0 d d' : Daemon} {si : SiId} {info : StaInfo} {met : StaId → Prop}

instance (d : Daemon) : IsStrictOrder SiId (MoreKickable d) where
  irrefl := by
    rintro si ⟨info, info', live, live', -, weaker⟩
    rw [live] at live'
    cases live'
    exact Int32.lt_irrefl weaker
  trans := by
    rintro a b c ⟨infoA, infoB, liveA, liveB, fewer, weaker⟩ ⟨infoB', infoC, liveB', liveC, fewer', weaker'⟩
    rw [liveB] at liveB'
    cases liveB'
    exact ⟨infoA, infoC, liveA, liveC, Int32.le_trans fewer fewer', Int32.lt_trans weaker weaker'⟩

/-- `is_more_kickable` by that order. -/
theorem isMoreKickable_spec {F : Fault → Prop} {kick : Option SiId}
    (lives : ∀ cur, kick = some cur → ∃ info, d.infos.get? cur = some info) (live : d.infos.get? si = some info) :
    Post F (d.isMoreKickable kick si) (fun more => more = true ↔ ∀ cur, kick = some cur → MoreKickable d si cur) := by
  unfold isMoreKickable
  cases kick with
  | none => exact iff_of_true rfl (by simp)
  | some cur =>
    obtain ⟨infoCur, liveCur⟩ := lives cur rfl
    dsimp only
    rw [info_ok liveCur, ok_bind, info_ok live, ok_bind]
    have only : MoreKickable d si cur ↔ info.kickCount ≤ infoCur.kickCount ∧ info.signal < infoCur.signal := by
      constructor
      · rintro ⟨info', infoCur', live', liveCur', facts⟩
        rw [live] at live'
        rw [liveCur] at liveCur'
        cases live'
        cases liveCur'
        exact facts
      · exact fun facts => ⟨info, infoCur, live, liveCur, facts⟩
    have each : (∀ cur', some cur = some cur' → MoreKickable d si cur') ↔ MoreKickable d si cur :=
      ⟨fun all => all cur rfl, fun holds cur' same => Option.some.inj same ▸ holds⟩
    rw [each, only]
    split
    · rename_i oftener
      refine iff_of_false Bool.false_ne_true fun facts => ?_
      exact Int32.not_le.mpr oftener facts.1
    · rename_i notOftener
      show decide (info.signal < infoCur.signal) = true ↔ _
      rw [decide_eq_true_iff]
      exact ⟨fun weaker => ⟨Int32.not_lt.mp notOftener, weaker⟩, And.right⟩

/-! ### The searches within the loop -/

/-- What the searches for the clients of some stations leave to those for the others. -/
structure Beside (met : StaId → Prop) (d0 d : Daemon) : Prop where
  view : SameView d0 d
  time : d.currentTime = d0.currentTime
  stas : ∀ s, ¬ met s → d.stas.get? s = d0.stas.get? s
  kept : ∀ {si info}, d0.infos.get? si = some info → d.infos.get? si = some info

theorem beside_refl (d : Daemon) : Beside met d d := ⟨.refl d, rfl, fun _ _ => rfl, fun live => live⟩

theorem Beside.more {met' : StaId → Prop} (beside : Beside met d0 d) (more : ∀ s, met s → met' s) :
    Beside met' d0 d :=
  ⟨beside.view, beside.time, fun s unmet => beside.stas s fun before => unmet (more s before), beside.kept⟩

theorem Beside.newInfo {s : StaId} (beside : Beside met d0 d) (known : met s) (m : NodeId) (freq : Int32) :
    Beside met d0 (d.newInfo s m freq) where
  view := by
    refine ⟨beside.view.localNodes, beside.view.remoteNodes, fun k => ?_⟩
    obtain ⟨list, shape⟩ := nodes_newInfo (d := d) s m freq k
    rw [shape, Option.map_map]
    exact beside.view.nodes k
  time := beside.time
  stas := by
    intro s' unmet
    have other : s' ≠ s := fun same => unmet (same ▸ known)
    rw [← beside.stas s' unmet]
    simp [Daemon.newInfo, modifySta, modifyNode, Heap.get?_modify, other]
  kept := fun live => infos_newInfo_of_live s m freq (beside.kept live)

/-- What the comparison of two entries reads of the nodes. -/
theorem isBetterCandidate_look {cur new : StaInfo} {node node' other other' : UsteerNode}
    (looks : look node' = look node)
    (looks' : look other' = look other) :
    isBetterCandidate cfg ⟨cur, node'⟩ ⟨new, other'⟩ = isBetterCandidate cfg ⟨cur, node⟩ ⟨new, other⟩ := by
  have reads : ∀ node other, isBetterCandidate cfg ⟨cur, node⟩ ⟨new, other⟩ =
      isBetterCandidate cfg ⟨cur, look node⟩ ⟨new, look other⟩ := fun _ _ => rfl
  rw [reads, looks, looks', ← reads]

theorem Beside.betterEntry {ref : StaInfo} {node node' : UsteerNode} (beside : Beside met d0 d)
    (looks : look node' = look node) (list : List SiId) (lives : ∀ si ∈ list, ∃ info, d0.infos.get? si = some info) :
    d.betterEntry cfg si ⟨ref, node'⟩ list = d0.betterEntry cfg si ⟨ref, node⟩ list := by
  induction list with
  | nil => rfl
  | cons other rest ih =>
    obtain ⟨info, live⟩ := lives other List.mem_cons_self
    have ih := ih fun si' inside => lives si' (List.mem_cons_of_mem _ inside)
    rw [Daemon.betterEntry, Daemon.betterEntry, info_ok live, info_ok (beside.kept live), ih, beside.time]
    dsimp only
    rw [ok_bind, ok_bind]
    rcases beside.view.node_cases info.node with ⟨dead, dead'⟩ | ⟨m, m', liveM, liveM', looksM⟩
    · rw [dead, dead']
      simp only [bind, Except.bind]
    · rw [liveM, liveM', ok_bind, ok_bind, SameView.ssid_look looksM, SameView.ssid_look looks,
        isBetterCandidate_look looks looksM, isBetterCandidate_look looksM looks]

/-- A search beside earlier ones ends as it would have before them. -/
theorem Beside.search {found : Option SiId} (beside : Beside met d0 d) (sound0 : Sound none d0) (sound : Sound none d)
    (live : d0.infos.get? si = some info) (unmet : ¬ met info.sta)
    (returns : d.findBetterCandidate cfg si = .ok (found, d')) :
    (found = none → ∀ found0 d0', d0.findBetterCandidate cfg si ≠ .ok (some found0, d0')) ∧
    ∀ c, found = some c → ∃ entry, d'.infos.get? c = some entry ∧ BetterOn cfg d0 si entry.node := by
  obtain ⟨sta, liveSta, _⟩ := sta_of_info sound0.links live
  obtain ⟨node, liveNode, _⟩ := node_of_info sound0.links live
  have liveSta' : d.stas.get? info.sta = some sta := by rw [beside.stas _ unmet]; exact liveSta
  obtain ⟨node', liveNode', -⟩ := node_of_info sound.links (beside.kept live)
  have looks : look node' = look node := by
    have same := beside.view.nodes info.node
    rw [liveNode, liveNode'] at same
    exact Option.some.inj same
  have heardAlike : d.betterHeard cfg info = d0.betterHeard cfg info := beside.view.betterHeard rfl rfl
  obtain ⟨heard, heard0, facts⟩ := (post_betterHeard (F := fun _ => False) cfg sound0 live).returns
  have facts' := (post_betterHeard (F := AnyFault) cfg sound (beside.kept live)).of_ok (heardAlike.trans heard0)
  unfold BetterOn
  unfold findBetterCandidate at returns ⊢
  rw [info_ok (beside.kept live), ok_bind, heardAlike, heard0, ok_bind] at returns
  rw [info_ok live, ok_bind, heard0, ok_bind]
  cases heard with
  | some better =>
    obtain ⟨br, m⟩ := better
    obtain ⟨own, nodeM, liveM⟩ := facts br m rfl
    obtain ⟨-, nodeM', liveM'⟩ := facts' br m rfl
    dsimp only at returns ⊢
    rw [own, info_ok (beside.kept live), ok_bind] at returns
    rw [own, info_ok live, ok_bind]
    obtain ⟨⟨c0, create0, d0'⟩, got0, ⟨entry0, entered0, -, at0⟩, -⟩ :=
      (post_usteerStaInfoGet (F := fun _ => False) plainPlatform cfg .plain sound0 liveSta liveM (by simp)).returns
    obtain ⟨⟨c, create, d1⟩, got, ⟨entry, entered, -, atM⟩, -⟩ :=
      (post_usteerStaInfoGet (F := fun _ => False) plainPlatform cfg .plain sound liveSta' liveM' (by simp)).returns
    rw [got, ok_bind] at returns
    cases returns
    rw [got0, ok_bind]
    refine ⟨fun impossible => ?_, ?_⟩
    · cases impossible
    · rintro c' same
      cases same
      exact ⟨entry, entered, c0, d0', entry0, rfl, entered0, at0.trans atM.symm⟩
  | none =>
    dsimp only at returns ⊢
    rw [sta_ok liveSta', ok_bind, node_ok liveNode', ok_bind] at returns
    rw [sta_ok liveSta, ok_bind, node_ok liveNode, ok_bind]
    have lives : ∀ si' ∈ sta.nodes, ∃ info', d0.infos.get? si' = some info' := by
      intro si' inside
      obtain ⟨info', live', -⟩ := info_of_sta sound0.links liveSta inside
      exact ⟨info', live'⟩
    rw [beside.betterEntry looks sta.nodes lives] at returns
    obtain ⟨best, entries, finds⟩ := (betterEntry_find (F := fun _ => False) cfg si ⟨info, node⟩ sound0 sta.nodes
      fun si' inside => info_of_sta sound0.links liveSta inside).returns
    rw [entries, ok_bind] at returns ⊢
    cases returns
    refine ⟨?_, ?_⟩
    · rintro rfl found0 d0' found
      cases found
    · rintro c rfl
      obtain ⟨entry, entered⟩ := lives c (FirstWith.mem finds)
      exact ⟨entry, beside.kept entered, c, d0, entry, rfl, entered, rfl⟩

/-- The search for a client adds at most an entry of its own station. -/
theorem Beside.looked {tmp : Option SiId} (beside : Beside met d0 d) (sound : Sound none d)
    (live : d.infos.get? si = some info) (known : met info.sta)
    (returns : d.findBetterCandidate cfg si = .ok (tmp, d')) : Beside met d0 d' := by
  obtain ⟨-, -, result⟩ := (found_spec (F := AnyFault) cfg sound live).of_ok returns
  rcases result with ⟨rfl, -⟩ | ⟨br, m, freq, -, rfl, -⟩
  · exact beside
  · exact beside.newInfo known m freq

/-! ### The loop -/

/-- The candidate that is shown with the second choice: an entry on the better node of the
    client itself. -/
def ShownWith (cfg : Config) (d0 d : Daemon) (candidate : Option SiId) : Option SiId → Prop
  | none => candidate = none
  | some kick2 => ∃ c entry, candidate = some c ∧ d.infos.get? c = some entry ∧ BetterOn cfg d0 kick2 entry.node

/-- The stations of the clients read so far. -/
def Met (d0 : Daemon) (read : List SiId) (s : StaId) : Prop :=
  ∃ si ∈ read, ∃ info, d0.infos.get? si = some info ∧ info.sta = s

/-- Before each round of the loop: what was chosen among the clients read so far. -/
structure Chosen (cfg : Config) (n : NodeId) (d0 : Daemon) (read : List SiId) (kick1 kick2 candidate : Option SiId)
    (d : Daemon) : Prop where
  sound : Sound none d
  beside : Beside (Met d0 read) d0 d
  first : Unbeaten (MoreKickable d0) (fun si => si ∈ read ∧ Inactive cfg n d0 si) kick1
  second : Unbeaten (MoreKickable d0) (fun si => si ∈ read ∧ Movable cfg n d0 si) kick2
  shown : ShownWith cfg d0 d candidate kick2

variable {read : List SiId} {kick1 kick2 candidate : Option SiId}

theorem met_more {s : StaId} (met : Met d0 read s) : Met d0 (read ++ [si]) s := by
  obtain ⟨j, inside, facts⟩ := met
  exact ⟨j, List.mem_append_left _ inside, facts⟩

/-- A client that is not among those chosen from. -/
theorem unbeaten_skip {P : SiId → Prop} {kick : Option SiId} (fails : ¬ P si)
    (unbeaten : Unbeaten (MoreKickable d0) (fun j => j ∈ read ∧ P j) kick) :
    Unbeaten (MoreKickable d0) (fun j => j ∈ read ++ [si] ∧ P j) kick := by
  refine unbeaten.congr fun j => ?_
  rw [List.mem_append, List.mem_singleton]
  exact ⟨fun facts => ⟨.inl facts.1, facts.2⟩, fun facts =>
    ⟨facts.1.resolve_right fun same => fails (same ▸ facts.2), facts.2⟩⟩

/-- A client that is. -/
theorem unbeaten_read {P : SiId → Prop} {kick : Option SiId} {more : Bool} (holds : P si)
    (unbeaten : Unbeaten (MoreKickable d0) (fun j => j ∈ read ∧ P j) kick)
    (judged : more = true ↔ ∀ cur, kick = some cur → MoreKickable d0 si cur) :
    Unbeaten (MoreKickable d0) (fun j => j ∈ read ++ [si] ∧ P j) (if more = true then some si else kick) := by
  refine (unbeaten.choose judged).congr fun j => ?_
  rw [List.mem_append, List.mem_singleton]
  constructor
  · rintro (⟨inside, holds'⟩ | rfl)
    · exact ⟨.inl inside, holds'⟩
    · exact ⟨.inr rfl, holds⟩
  · rintro ⟨inside | same, holds'⟩
    · exact .inl ⟨inside, holds'⟩
    · exact .inr same

theorem Chosen.skip (chosen : Chosen cfg n d0 read kick1 kick2 candidate d) (busy : ¬ Inactive cfg n d0 si) :
    Chosen cfg n d0 (read ++ [si]) kick1 kick2 candidate d :=
  ⟨chosen.sound, chosen.beside.more fun _ => met_more, unbeaten_skip busy chosen.first,
    unbeaten_skip (fun movable => busy movable.1) chosen.second, chosen.shown⟩

/-- A choice is an entry of the state before the loop. -/
theorem live_choice {P : SiId → Prop} {kick : Option SiId} {cur : SiId}
    (unbeaten : Unbeaten (MoreKickable d0) (fun j => j ∈ read ∧ P j) kick) (inactive : ∀ j, P j → Inactive cfg n d0 j)
    (same : kick = some cur) : ∃ info, d0.infos.get? cur = some info := by
  subst same
  obtain ⟨info, live, -⟩ := inactive cur unbeaten.1.2
  exact ⟨info, live⟩

theorem Beside.judged {P : SiId → Prop} {kick : Option SiId} {F : Fault → Prop} (beside : Beside met d0 d)
    (unbeaten : Unbeaten (MoreKickable d0) (fun j => j ∈ read ∧ P j) kick) (inactive : ∀ j, P j → Inactive cfg n d0 j)
    (live : d0.infos.get? si = some info) :
    Post F (d.isMoreKickable kick si)
      (fun more => more = true ↔ ∀ cur, kick = some cur → MoreKickable d0 si cur) := by
  have lives : ∀ cur, kick = some cur → ∃ info, d.infos.get? cur = some info := by
    intro cur same
    obtain ⟨infoCur, liveCur⟩ := live_choice unbeaten inactive same
    exact ⟨infoCur, beside.kept liveCur⟩
  refine (isMoreKickable_spec lives (beside.kept live)).mono fun more judged => judged.trans ?_
  refine forall_congr' fun cur => imp_congr_right fun same => ?_
  obtain ⟨infoCur, liveCur⟩ := live_choice unbeaten inactive same
  constructor
  · rintro ⟨info', infoCur', live', liveCur', facts⟩
    rw [beside.kept live] at live'
    rw [beside.kept liveCur] at liveCur'
    cases live'
    cases liveCur'
    exact ⟨info, infoCur, live, liveCur, facts⟩
  · rintro ⟨info', infoCur', live', liveCur', facts⟩
    exact ⟨info', infoCur', beside.kept live', beside.kept liveCur', facts⟩

theorem ShownWith.kept {d1 : Daemon} (shown : ShownWith cfg d0 d candidate kick2)
    (kept : ∀ {si info}, d.infos.get? si = some info → d1.infos.get? si = some info) :
    ShownWith cfg d0 d1 candidate kick2 := by
  cases kick2 with
  | none => exact shown
  | some kick2 =>
    obtain ⟨c, entry, same, entered, better⟩ := shown
    exact ⟨c, entry, same, kept entered, better⟩

theorem chosen_loadVictims (sound0 : Sound none d0) (list : List SiId) :
    ∀ {read : List SiId} {kick1 kick2 candidate : Option SiId} {d : Daemon}, (read ++ list).Nodup →
      (∀ si ∈ read ++ list, ∃ info, d0.infos.get? si = some info ∧ info.node = n) →
      Chosen cfg n d0 read kick1 kick2 candidate d →
      Post (Divides cfg) (loadVictims cfg list kick1 kick2 candidate d) (fun r =>
        Chosen cfg n d0 (read ++ list) r.1 r.2.1 r.2.2.1 r.2.2.2) := by
  induction list with
  | nil =>
    intro read kick1 kick2 candidate d _ _ chosen
    rw [List.append_nil]
    exact chosen
  | cons si rest ih =>
    intro read kick1 kick2 candidate d distinct lives chosen
    have inside : si ∈ read ++ si :: rest := by simp
    obtain ⟨info, live, onNode⟩ := lives si inside
    have live' := chosen.beside.kept live
    have append : read ++ si :: rest = (read ++ [si]) ++ rest := by simp
    rw [append] at distinct lives ⊢
    -- no client read before has the station of this one
    have unmet : ¬ Met d0 read info.sta := by
      rintro ⟨j, isRead, infoJ, liveJ, sameSta⟩
      obtain ⟨infoJ', liveJ', onNodeJ⟩ := lives j (by simp [isRead])
      rw [liveJ] at liveJ'
      cases liveJ'
      have entry : d0.table.entry si = some (info.sta, n) := by simp [table, live, onNode]
      have entryJ : d0.table.entry j = some (info.sta, n) := by simp [table, liveJ, onNodeJ, sameSta]
      obtain rfl := sound0.links.pair_unique entry entryJ
      have apart := (List.nodup_append.mp (List.nodup_append.mp distinct).1).2.2 si isRead si List.mem_cons_self
      exact apart rfl
    have busy {facts : Prop} (only : facts → info.connected = 0 ∨ isActiveClient cfg info = .ok true)
      (holds : facts) :
        ¬ Inactive cfg n d0 si := by
      rintro ⟨info', live', -, connected, inactive⟩
      rw [live] at live'
      cases live'
      rcases only holds with gone | active
      · exact connected gone
      · rw [active] at inactive
        cases inactive
    rw [loadVictims, info_ok live', ok_bind]
    split
    · rename_i gone
      exact ih distinct lives (chosen.skip (busy .inl gone))
    · rename_i connected
      rw [post_bind]
      refine ((post_isActiveClient cfg info).and (post_of_ok fun _ judged => judged)).mono ?_
      rintro active ⟨-, judged⟩
      cases active with
      | true => exact ih distinct lives (chosen.skip (busy .inr judged))
      | false =>
        have inactive : Inactive cfg n d0 si := ⟨info, live, onNode, connected, judged⟩
        simp only [Bool.false_eq_true, if_false]
        rw [post_bind]
        refine (chosen.beside.judged chosen.first (fun _ holds => holds) live).mono fun more judged1 => ?_
        have first := unbeaten_read inactive chosen.first judged1
        rw [post_bind]
        refine ((post_findBetterCandidate plainPlatform cfg .plain chosen.sound live').and
          (post_of_ok fun _ found => found)).mono ?_
        rintro ⟨tmp, d'⟩ ⟨moves, found⟩
        have sound' : Sound none d' := sound_moves (a := (none, d)) chosen.sound moves
        obtain ⟨missed, finds⟩ := chosen.beside.search sound0 chosen.sound live unmet found
        have known : Met d0 (read ++ [si]) info.sta := ⟨si, by simp, info, live, rfl⟩
        have beside' : Beside (Met d0 (read ++ [si])) d0 d' :=
          (chosen.beside.more fun _ => met_more).looked chosen.sound live' known found
        have unread : Beside (fun _ => True) d d := beside_refl d
        have shown' : ShownWith cfg d0 d' candidate kick2 :=
          chosen.shown.kept (unread.looked chosen.sound live' trivial found).kept
        dsimp only
        cases tmp with
        | none =>
          have unmovable : ¬ Movable cfg n d0 si := by
            rintro ⟨-, found0, d0', returns⟩
            exact missed rfl found0 d0' returns
          exact ih distinct lives ⟨sound', beside', first, unbeaten_skip unmovable chosen.second, shown'⟩
        | some c =>
          obtain ⟨entry, entered, better⟩ := finds c rfl
          have movable : Movable cfg n d0 si := by
            obtain ⟨found0, d0', -, returns, -⟩ := id better
            exact ⟨inactive, found0, d0', returns⟩
          simp only [Option.isNone_some, Bool.false_eq_true, if_false]
          rw [post_bind]
          refine (beside'.judged chosen.second (fun _ movable => movable.1) live).mono fun more' judged2 => ?_
          have second := unbeaten_read movable chosen.second judged2
          cases more' with
          | true => exact ih distinct lives ⟨sound', beside', first, second, c, entry, rfl, entered, better⟩
          | false => exact ih distinct lives ⟨sound', beside', first, second, shown'⟩

end Choice

/-- The client that `usteer_local_node_kick` kicks after the loop. -/
def loadVictim (kick1 kick2 : Option SiId) : Option SiId := kick1.map kick2.getD

/-- The victim of the load kick, whatever the order of the node's clients: among those with
    a better candidate if there are any and among all inactive clients otherwise, none of
    which was kicked no more often and has a weaker signal. The candidate that is shown is
    an entry on the node that the search finds for the victim. -/
theorem load_victim_unbeaten (cfg : Config) {n : NodeId} {d : Daemon} {node : UsteerNode} {list : List SiId}
    (sound : Sound none d) (live : d.nodes.get? n = some node) (order : list.Perm node.staInfo) :
    Post (Divides cfg) (loadVictims cfg list none none none d) (fun (kick1, kick2, candidate, d') =>
      (loadVictim kick1 kick2 = none ↔ ∀ si, ¬ Inactive cfg n d si) ∧
      ∀ victim, loadVictim kick1 kick2 = some victim →
        ((∃ si, Movable cfg n d si) → Movable cfg n d victim ∧ (∀ si, Movable cfg n d si → ¬ MoreKickable d si victim) ∧
          ∃ c entry, candidate = some c ∧ d'.infos.get? c = some entry ∧ BetterOn cfg d victim entry.node) ∧
        ((∀ si, ¬ Movable cfg n d si) → Inactive cfg n d victim ∧
          (∀ si, Inactive cfg n d si → ¬ MoreKickable d si victim) ∧ candidate = none)) := by
  have distinct : ([] ++ list).Nodup :=
    order.nodup_iff.mpr (sound.links.byNode.nodup (k := n) (by simp [table, live]))
  have lives : ∀ si ∈ [] ++ list, ∃ info, d.infos.get? si = some info ∧ info.node = n :=
    fun si inside => info_of_node sound.links live (order.mem_iff.mp inside)
  have start : Chosen cfg n d [] none none none d :=
    ⟨sound, beside_refl d, fun _ holds => (List.not_mem_nil holds.1).elim, fun _ holds =>
      (List.not_mem_nil holds.1).elim, rfl⟩
  refine (chosen_loadVictims sound list distinct lives start).mono ?_
  rintro ⟨kick1, kick2, candidate, d'⟩ chosen
  -- every client of the node is in the list
  have listed : ∀ si, Inactive cfg n d si → si ∈ [] ++ list := by
    rintro si ⟨info, liveInfo, rfl, -⟩
    obtain ⟨node', liveNode, inside⟩ := node_of_info sound.links liveInfo
    rw [live] at liveNode
    cases liveNode
    exact order.mem_iff.mpr inside
  have first := chosen.first.congr (Q := Inactive cfg n d) fun si => ⟨And.right, fun holds => ⟨listed si holds, holds⟩⟩
  have second := chosen.second.congr (Q := Movable cfg n d) fun si =>
    ⟨And.right, fun holds => ⟨listed si holds.1, holds⟩⟩
  have shown := chosen.shown
  refine ⟨?_, ?_⟩
  · rw [← first.none_iff]
    simp [loadVictim]
  · intro victim same
    obtain ⟨kick1, rfl, rfl⟩ := Option.map_eq_some_iff.mp same
    cases kick2 with
    | none =>
      refine ⟨?_, fun _ => ⟨first.1, first.2, shown⟩⟩
      rintro ⟨si, movable⟩
      exact absurd movable (second si)
    | some kick2 => exact ⟨fun _ => ⟨second.1, second.2, shown⟩, fun none => absurd second.1 (none kick2)⟩

/-- The clients 1 and 2 associate with a node; the second is weaker, but only the first
    reports a better node. -/
def oneMovable : List Input :=
  associates ++ [.staEvent 0 2 .probe 2412 (-80),
    .clients 0 ⟨some 2412, some [⟨some 1, none, some true, none⟩, ⟨some 2, none, some true, none⟩]⟩,
    .register (hostapdDot ++ [49]), .status 0 (plainStatus 10), .status 1 (plainStatus 11),
    .beaconReport 0 (reportOf 10 50), .beaconReport 0 (reportOf 11 100)]

/-- The weaker client is the first choice, the one with a better candidate the second. -/
theorem load_victim_unbeaten_of_two : ∃ d d' entry, plainRun usteerInitDefaults oneMovable = some d ∧
    loadVictims comparesSignals [1, 0] none none none d = .ok (some 1, some 0, some 2, d') ∧
    Movable comparesSignals 0 d 0 ∧ d'.infos.get? 2 = some entry ∧ BetterOn comparesSignals d 0 entry.node := by
  have evaluates : ((plainRun usteerInitDefaults oneMovable).any fun d => (d.nodes.get? 0).any fun node =>
      decide (node.staInfo = [1, 0]) && (loadVictims comparesSignals [1, 0] none none none d).toOption.any fun r =>
        decide (r.1 = some 1 ∧ r.2.1 = some 0 ∧ r.2.2.1 = some 2)) = true := by decide +kernel
  obtain ⟨d, run, evaluates⟩ := (Option.any_eq_true _ _).mp evaluates
  obtain ⟨node, live, evaluates⟩ := (Option.any_eq_true _ _).mp evaluates
  obtain ⟨listed, evaluates⟩ := (Bool.and_eq_true _ _).mp evaluates
  obtain ⟨⟨kick1, kick2, candidate, d'⟩, returns, evaluates⟩ := (Option.any_eq_true _ _).mp evaluates
  obtain ⟨rfl, rfl, rfl⟩ := of_decide_eq_true evaluates
  have sound := reachable_sound (reachable_plainRun run)
  have order : [1, 0].Perm node.staInfo := by rw [of_decide_eq_true listed]
  obtain ⟨-, chosen⟩ := (load_victim_unbeaten comparesSignals sound live order).of_ok (ok_of_toOption returns)
  obtain ⟨among, none⟩ := chosen 0 rfl
  have movable : ∃ si, Movable comparesSignals 0 d si := by
    by_contra absent
    obtain ⟨-, -, impossible⟩ := none fun si movable => absent ⟨si, movable⟩
    cases impossible
  obtain ⟨movable, -, c, entry, same, entered, better⟩ := among movable
  cases same
  exact ⟨d, d', entry, run, ok_of_toOption returns, movable, entered, better⟩

end Usteer
