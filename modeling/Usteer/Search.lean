import Usteer.Effects
import Usteer.Settings

/-!
What `find_better_candidate` finds and what it leaves behind. Each of its loops stops at the
first member of a list with a property that can be read off the state (`ownReport_find`,
`betterReport_find`, `betterEntry_find`), so an entry is found exactly when the hearing map
or the table of stations has a better one (`found_iff`). An entry that the hearing map led to
is created if the station has none on that node (`untouched_search_iff`).
-/
namespace Usteer
open SearchTree Timeout Function Daemon

/-! ### What is looked for -/

/-- A report resolves to the node. -/
def Resolves (d : Daemon) (n : NodeId) (br : BeaconReport) : Prop :=
  d.getUsteerNodeFromBssid br.bssid = .ok (some n)

/-- Two nodes with the same SSID. -/
def SameSsid (d : Daemon) (n m : NodeId) : Prop :=
  ∃ node other, d.nodes.get? n = some node ∧ d.nodes.get? m = some other ∧ node.ssid = other.ssid

/-- A report of another node with the same SSID that is strictly better than the own one. -/
def Preferable (cfg : Config) (d : Daemon) (own : NodeId) (brCur br : BeaconReport) : Prop :=
  ∃ n, Resolves d n br ∧ n ≠ own ∧ SameSsid d n own ∧ StrictlyBetterReport cfg d.nodeFromBssid brCur br

/-- The first member of a list with a property. -/
def FirstWith {α : Type} (P : α → Prop) (list : List α) (x : α) : Prop :=
  ∃ before after, list = before ++ x :: after ∧ P x ∧ ∀ y ∈ before, ¬ P y

/-- What a search for the first such member ends with. -/
def Finds {α : Type} (P : α → Prop) (list : List α) : Option α → Prop
  | none => ∀ x ∈ list, ¬ P x
  | some x => FirstWith P list x

/-- The hearing map of an entry has a better node: measured against the first report of the
    own node, some report is preferable. -/
def HeardBetter (cfg : Config) (d : Daemon) (ref : StaInfo) : Prop :=
  ∃ brCur, FirstWith (Resolves d ref.node) ref.beaconReports brCur ∧
    ∃ br ∈ ref.beaconReports, Preferable cfg d ref.node brCur br

/-- Another entry of the station, seen recently on a node with the same SSID, is strictly
    better. -/
def BetterEntry (cfg : Config) (d : Daemon) (siRef : SiId) (ref : Candidate) (si : SiId) : Prop :=
  si ≠ siRef ∧ ∃ info node, d.infos.get? si = some info ∧ info.sta = ref.info.sta ∧
    d.currentTime - info.seen ≤ cfg.seenPolicyTimeout.toUInt64 ∧ d.nodes.get? info.node = some node ∧
    node.ssid = ref.node.ssid ∧ StrictlyBetter cfg ref ⟨info, node⟩

/-- The station has a better entry. -/
def SeenBetter (cfg : Config) (d : Daemon) (siRef : SiId) (ref : StaInfo) : Prop :=
  ∃ nodeRef si, d.nodes.get? ref.node = some nodeRef ∧ BetterEntry cfg d siRef ⟨ref, nodeRef⟩ si

section Search

variable {F : Fault → Prop} {v : Option StaId} {cfg : Config} {d d' : Daemon}

theorem finds_here {α : Type} {P : α → Prop} {x : α} (holds : P x) (rest : List α) : Finds P (x :: rest) (some x) :=
  ⟨[], rest, rfl, holds, fun _ earlier => (List.not_mem_nil earlier).elim⟩

theorem finds_skip {α : Type} {P : α → Prop} {x : α} {rest : List α} (fails : ¬ P x) {found : Option α}
    (finds : Finds P rest found) : Finds P (x :: rest) found := by
  cases found with
  | none => exact List.forall_mem_cons.mpr ⟨fails, finds⟩
  | some y =>
    obtain ⟨before, after, split, holds, none⟩ := finds
    exact ⟨x :: before, after, by rw [split, List.cons_append], holds, List.forall_mem_cons.mpr ⟨fails, none⟩⟩

theorem FirstWith.mem {α : Type} {P : α → Prop} {list : List α} {x : α} (first : FirstWith P list x) : x ∈ list := by
  obtain ⟨before, after, split, -, -⟩ := first
  simp [split]

theorem FirstWith.holds {α : Type} {P : α → Prop} {list : List α} {x : α} (first : FirstWith P list x) : P x := by
  obtain ⟨-, -, -, holds, -⟩ := first
  exact holds

theorem FirstWith.unique {α : Type} {P : α → Prop} {list : List α} {x y : α} (first : FirstWith P list x)
    (other : FirstWith P list y) : x = y := by
  classical
  have found : ∀ {z}, FirstWith P list z → list.find? (fun z => decide (P z)) = some z := by
    rintro z ⟨before, after, split, holds, none⟩
    refine List.find?_eq_some_iff_append.mpr ⟨decide_eq_true holds, before, after, split, fun y earlier => ?_⟩
    simpa using none y earlier
  exact Option.some.inj ((found first).symm.trans (found other))

/-! ### The loops -/

theorem ownReport_find (own : NodeId) (sound : Sound v d) (reports : List BeaconReport) :
    Post F (d.ownReport own reports) (Finds (Resolves d own) reports) := by
  induction reports with
  | nil => exact fun _ absent => (List.not_mem_nil absent).elim
  | cons br rest ih =>
    have skip (differs : ¬ Resolves d own br) : Post F (d.ownReport own rest)
        (Finds (Resolves d own) (br :: rest)) := ih.mono fun _ finds => finds_skip differs finds
    rw [ownReport, post_bind]
    refine ((post_getUsteerNodeFromBssid br.bssid sound).and (post_of_ok fun _ found => found)).mono ?_
    rintro known ⟨-, found⟩
    cases known with
    | none =>
      refine skip fun resolves => ?_
      cases found.symm.trans resolves
    | some n =>
      show Post F (if n = own then _ else _) _
      split
      · rename_i same
        subst same
        exact finds_here (P := Resolves d n) found rest
      · rename_i other
        refine skip fun resolves => ?_
        cases found.symm.trans resolves
        exact other rfl

theorem betterReport_find {own : NodeId} {nodeRef : UsteerNode} {brCur : BeaconReport} (sound : Sound v d)
    (live : d.nodes.get? own = some nodeRef) (resolvesCur : Resolves d own brCur) (reports : List BeaconReport) :
    Post F (d.betterReport cfg own brCur reports) (fun r =>
      Finds (Preferable cfg d own brCur) reports (r.map Prod.fst) ∧ ∀ br n, r = some (br, n) → Resolves d n br) := by
  have atCur := nodeFromBssid_of_found resolvesCur live
  induction reports with
  | nil =>
    refine ⟨fun _ absent => (List.not_mem_nil absent).elim, ?_⟩
    intro br n impossible
    cases impossible
  | cons br rest ih =>
    have skip (worse : ¬ Preferable cfg d own brCur br) : Post F (d.betterReport cfg own brCur rest)
        (fun r => Finds (Preferable cfg d own brCur) (br :: rest) (r.map Prod.fst) ∧
          ∀ br n, r = some (br, n) → Resolves d n br) :=
      ih.mono fun _ facts => ⟨finds_skip worse facts.1, facts.2⟩
    rw [betterReport, post_bind]
    refine ((post_getUsteerNodeFromBssid br.bssid sound).and (post_of_ok fun _ found => found)).mono ?_
    rintro known ⟨lives, found⟩
    cases known with
    | none =>
      refine skip ?_
      rintro ⟨n, resolves, -⟩
      cases found.symm.trans resolves
    | some n =>
      obtain ⟨node, liveNode⟩ := lives n rfl
      have atNew := nodeFromBssid_of_found found liveNode
      have only : ∀ m, Resolves d m br → m = n := by
        intro m resolves
        cases found.symm.trans resolves
        rfl
      show Post F (if n = own then _ else _) _
      split
      · rename_i same
        refine skip ?_
        rintro ⟨m, resolves, other, -⟩
        exact other ((only m resolves).trans same)
      · rename_i other
        rw [node_ok liveNode, ok_bind, node_ok live, ok_bind]
        split
        · rename_i differs
          refine skip ?_
          rintro ⟨m, resolves, -, ⟨node', nodeRef', live', liveRef', same⟩, -⟩
          rw [only m resolves, liveNode] at live'
          rw [live] at liveRef'
          cases live'
          cases liveRef'
          exact differs same
        · rename_i alike
          have there : isBetterCandidateHearingMap cfg d.nodeFromBssid brCur br = _ :=
            isBetterCandidateHearingMap_ok atCur atNew
          have back : isBetterCandidateHearingMap cfg d.nodeFromBssid br brCur = _ :=
            isBetterCandidateHearingMap_ok atNew atCur
          rw [there, ok_bind, back, ok_bind]
          split
          · rename_i better
            rw [Bool.and_eq_true, Bool.not_eq_true'] at better
            have preferable : Preferable cfg d own brCur br := by
              refine ⟨n, found, other, ⟨node, nodeRef, liveNode, live, not_not.mp alike⟩, ?_, ?_⟩
              · rw [there, better.1]
              · rw [back, better.2]
            refine ⟨finds_here preferable rest, ?_⟩
            intro br' n' same
            cases same
            exact found
          · rename_i worse
            refine skip ?_
            rintro ⟨-, -, -, -, better, notWorse⟩
            rw [there] at better
            rw [back] at notWorse
            rw [Except.ok.inj better, Except.ok.inj notWorse] at worse
            exact worse rfl

theorem betterEntry_find (cfg : Config) (siRef : SiId) (ref : Candidate) (sound : Sound v d) (list : List SiId)
    (live : ∀ si ∈ list, ∃ info, d.infos.get? si = some info ∧ info.sta = ref.info.sta) :
    Post F (d.betterEntry cfg siRef ref list)
      (Finds (BetterEntry cfg d siRef ref) list) := by
  induction list with
  | nil => exact fun _ absent => (List.not_mem_nil absent).elim
  | cons si rest ih =>
    have skip (worse : ¬ BetterEntry cfg d siRef ref si) : Post F (d.betterEntry cfg siRef ref rest)
        (Finds (BetterEntry cfg d siRef ref) (si :: rest)) :=
      (ih fun si' later => live si' (List.mem_cons_of_mem _ later)).mono fun _ finds => finds_skip worse finds
    obtain ⟨info, liveInfo, owner⟩ := live si List.mem_cons_self
    obtain ⟨node, liveNode, _⟩ := node_of_info sound.links liveInfo
    have only : BetterEntry cfg d siRef ref si → d.currentTime - info.seen ≤ cfg.seenPolicyTimeout.toUInt64 ∧
        node.ssid = ref.node.ssid ∧ StrictlyBetter cfg ref ⟨info, node⟩ := by
      rintro ⟨-, info', node', live', -, recent, liveNode', ssid, better⟩
      rw [liveInfo] at live'
      cases live'
      rw [liveNode] at liveNode'
      cases liveNode'
      exact ⟨recent, ssid, better⟩
    rw [betterEntry]
    split
    · rename_i same
      exact skip fun better => better.1 same
    · rename_i other
      rw [info_ok liveInfo, ok_bind]
      split
      · rename_i old
        exact skip fun better => absurd (only better).1 (UInt64.not_le.mpr old)
      · rename_i recent
        rw [node_ok liveNode, ok_bind]
        split
        · rename_i differs
          exact skip fun better => differs (only better).2.1
        · rename_i alike
          split
          · rename_i better
            rw [Bool.and_eq_true, Bool.not_eq_true'] at better
            have holds : BetterEntry cfg d siRef ref si := ⟨other, info, node, liveInfo, owner,
              UInt64.not_lt.mp recent, liveNode, not_not.mp alike, better.1, better.2⟩
            exact finds_here holds rest
          · rename_i worse
            refine skip fun holds => worse ?_
            obtain ⟨-, -, better, notWorse⟩ := only holds
            rw [better, notWorse]
            rfl

/-! ### The search as a whole -/

/-- What the hearing map leads to: against the first report of the own node, the first
    preferable report and its node. -/
def LeadsTo (cfg : Config) (d : Daemon) (ref : StaInfo) (br : BeaconReport) (n : NodeId) : Prop :=
  ∃ brCur, FirstWith (Resolves d ref.node) ref.beaconReports brCur ∧
    FirstWith (Preferable cfg d ref.node brCur) ref.beaconReports br ∧ Resolves d n br

theorem betterHeard_spec (cfg : Config) {ref : StaInfo} {nodeRef : UsteerNode} (sound : Sound v d)
    (live : d.nodes.get? ref.node = some nodeRef) : Post F (d.betterHeard cfg ref) (fun r =>
      (r = none → ¬ HeardBetter cfg d ref) ∧ ∀ br n, r = some (br, n) → LeadsTo cfg d ref br n) := by
  unfold betterHeard
  rw [post_bind]
  refine (ownReport_find ref.node sound ref.beaconReports).mono fun own first => ?_
  cases own with
  | none =>
    refine ⟨fun _ => ?_, ?_⟩
    · rintro ⟨brCur, firstCur, -⟩
      exact first brCur firstCur.mem firstCur.holds
    · intro br n impossible
      cases impossible
  | some brCur =>
    refine (betterReport_find sound live (FirstWith.holds first) ref.beaconReports).mono ?_
    rintro r ⟨better, node⟩
    refine ⟨?_, ?_⟩
    · rintro rfl ⟨brCur', first', br, inside, preferable⟩
      cases FirstWith.unique first first'
      exact better br inside preferable
    · rintro br n rfl
      exact ⟨brCur, first, better, node br n rfl⟩

theorem LeadsTo.heard {ref : StaInfo} {br : BeaconReport} {n : NodeId} (leads : LeadsTo cfg d ref br n) :
    HeardBetter cfg d ref := by
  obtain ⟨brCur, firstCur, first, -⟩ := leads
  exact ⟨brCur, firstCur, br, first.mem, first.holds⟩

theorem LeadsTo.unique {ref : StaInfo} {br br' : BeaconReport} {n n' : NodeId} (leads : LeadsTo cfg d ref br n)
    (other : LeadsTo cfg d ref br' n') : br = br' ∧ n = n' := by
  obtain ⟨brCur, firstCur, first, resolves⟩ := leads
  obtain ⟨brCur', firstCur', first', resolves'⟩ := other
  cases firstCur.unique firstCur'
  cases first.unique first'
  cases resolves.symm.trans resolves'
  exact ⟨rfl, rfl⟩

/-- What is returned: another entry of the station, on another node with the same SSID that
    takes clients. -/
def Suitable (d : Daemon) (ref : StaInfo) (si : SiId) : Prop :=
  ∃ info node, d.infos.get? si = some info ∧ info.sta = ref.sta ∧ info.node ≠ ref.node ∧
    SameSsid d info.node ref.node ∧ d.nodes.get? info.node = some node ∧ belowMaxAssoc node = true

/-- The node that the hearing map leads to takes clients. -/
theorem LeadsTo.admissible {ref : StaInfo} {br : BeaconReport} {n : NodeId} (sound : Sound v d)
    (leads : LeadsTo cfg d ref br n) (live : ∃ nodeRef, d.nodes.get? ref.node = some nodeRef) :
    n ≠ ref.node ∧ SameSsid d n ref.node ∧ ∃ node, d.nodes.get? n = some node ∧ belowMaxAssoc node = true := by
  obtain ⟨brCur, firstCur, first, resolves⟩ := leads
  obtain ⟨m, resolves', other, ssid, better, -⟩ := first.holds
  cases resolves.symm.trans resolves'
  obtain ⟨nodeRef, liveRef⟩ := live
  obtain ⟨node, liveNode⟩ := (post_getUsteerNodeFromBssid (F := AnyFault) br.bssid sound).of_ok resolves n rfl
  rw [isBetterCandidateHearingMap_ok (nodeFromBssid_of_found firstCur.holds liveRef)
    (nodeFromBssid_of_found resolves liveNode), Except.ok.injEq, Bool.and_eq_true] at better
  exact ⟨other, ssid, node, liveNode, better.1⟩

/-- The lookup of an entry keeps what the comparisons read of the nodes. -/
theorem sameSsid_fetched {n m : NodeId} (nodes : ∀ k, ∃ list,
    d'.nodes.get? k = (d.nodes.get? k).map (fun node => { node with staInfo := list })) (same : SameSsid d n m) :
    SameSsid d' n m := by
  obtain ⟨node, other, liveNode, liveOther, ssid⟩ := same
  obtain ⟨list, shape⟩ := nodes n
  obtain ⟨list', shape'⟩ := nodes m
  rw [liveNode] at shape
  rw [liveOther] at shape'
  exact ⟨_, _, shape, shape', ssid⟩

/-- An entry that is better in the table of stations is on another node that takes clients. -/
theorem suitable_of_betterEntry {siRef si : SiId} {ref : StaInfo} {nodeRef : UsteerNode} (sound : Sound v d)
    (live : d.infos.get? siRef = some ref) (liveRef : d.nodes.get? ref.node = some nodeRef)
    (better : BetterEntry cfg d siRef ⟨ref, nodeRef⟩ si) : Suitable d ref si := by
  obtain ⟨other, info, node, liveInfo, owner, -, liveNode, ssid, strictly, -⟩ := better
  refine ⟨info, node, liveInfo, owner, ?_, ⟨node, nodeRef, liveNode, liveRef, ssid⟩, liveNode, ?_⟩
  · intro sameNode
    have entry : d.table.entry si = some (ref.sta, ref.node) := by simp [table, liveInfo, owner, sameNode]
    have entryRef : d.table.entry siRef = some (ref.sta, ref.node) := by simp [table, live]
    exact other (sound.links.pair_unique entry entryRef)
  · unfold isBetterCandidate at strictly
    by_contra full
    simp [full] at strictly

/-- The station already has an entry on the node that the hearing map leads to. -/
def LeadsToKnown (cfg : Config) (d : Daemon) (ref : StaInfo) : Prop :=
  ∀ br n, LeadsTo cfg d ref br n → ∃ si info, d.infos.get? si = some info ∧ info.sta = ref.sta ∧ info.node = n

/-- What `find_better_candidate` returns. -/
theorem found_spec (cfg : Config) {siRef : SiId} {ref : StaInfo} (sound : Sound none d) (live : d.infos.get? siRef = some ref) :
    Post F (d.findBetterCandidate cfg siRef) (fun r =>
      (r.1.isSome ↔ HeardBetter cfg d ref ∨ SeenBetter cfg d siRef ref) ∧
      (∀ si, r.1 = some si → Suitable r.2 ref si) ∧
      (r.2 = d ∧ LeadsToKnown cfg d ref ∨ ∃ br n freq, LeadsTo cfg d ref br n ∧ r.2 = d.newInfo ref.sta n freq ∧
        ∀ si info, d.infos.get? si = some info → ¬ (info.sta = ref.sta ∧ info.node = n))) := by
  obtain ⟨sta, liveSta, _⟩ := sta_of_info sound.links live
  obtain ⟨nodeRef, liveRef, _⟩ := node_of_info sound.links live
  unfold findBetterCandidate
  rw [info_ok live, ok_bind, post_bind]
  refine ((betterHeard_spec cfg sound liveRef).and (post_betterHeard (F := AnyFault) cfg sound live)).mono ?_
  rintro heard ⟨⟨unheard, leads⟩, facts⟩
  cases heard with
  | some found =>
    obtain ⟨br, n⟩ := found
    obtain ⟨own, node', liveNode'⟩ := facts br n rfl
    have leads := leads br n rfl
    obtain ⟨other, ssid, node, liveNode, room⟩ := leads.admissible sound ⟨nodeRef, liveRef⟩
    show Post F (d.info br.address >>= _) _
    rw [own, info_ok live, ok_bind, post_bind]
    refine ((post_usteerStaInfoGet plainPlatform cfg .plain sound liveSta liveNode' (by simp)).and
      (returns_usteerStaInfoGet ref.sta n sound)).mono ?_
    rintro ⟨si, create, d'⟩ ⟨⟨⟨info, liveInfo, owner, atNode⟩, -⟩, shape⟩
    have nodes : ∀ k, ∃ list, d'.nodes.get? k = (d.nodes.get? k).map (fun node => { node with staInfo := list }) := by
      intro k
      rcases shape with ⟨-, same, -⟩ | ⟨-, -, ⟨freq, same⟩, -⟩
      · change d' = d at same
        rw [same]
        cases d.nodes.get? k with
        | none => exact ⟨[], rfl⟩
        | some node => exact ⟨node.staInfo, rfl⟩
      · change d' = d.newInfo ref.sta n freq at same
        rw [same]
        exact nodes_newInfo ref.sta n freq k
    refine ⟨⟨fun _ => .inl leads.heard, fun _ => rfl⟩, ?_, ?_⟩
    · intro si' same
      cases same
      subst atNode
      obtain ⟨list, kept⟩ := nodes info.node
      rw [liveNode] at kept
      exact ⟨info, { node with staInfo := list }, liveInfo, owner, other, sameSsid_fetched nodes ssid, kept, room⟩
    · rcases shape with ⟨-, same, info', live', owner', node'⟩ | ⟨-, -, ⟨freq, same⟩, fresh⟩
      · refine .inl ⟨same, fun br' n' leads' => ⟨si, info', live', owner', ?_⟩⟩
        rw [node', (leads.unique leads').2]
      · exact .inr ⟨br, n, freq, leads, same, fresh⟩
  | none =>
    show Post F (d.sta ref.sta >>= _) _
    rw [sta_ok liveSta, ok_bind, node_ok liveRef, ok_bind, post_bind]
    have lives : ∀ si ∈ sta.nodes, ∃ info, d.infos.get? si = some info ∧ info.sta = ref.sta :=
      fun si inside => info_of_sta sound.links liveSta inside
    refine (betterEntry_find cfg siRef ⟨ref, nodeRef⟩ sound sta.nodes lives).mono ?_
    intro found finds
    refine ⟨?_, ?_, .inl ⟨rfl, fun br n leads => absurd leads.heard (unheard rfl)⟩⟩
    · constructor
      · intro isSome
        obtain ⟨si, rfl⟩ := Option.isSome_iff_exists.mp isSome
        exact .inr ⟨nodeRef, si, liveRef, FirstWith.holds finds⟩
      · rintro (heard | ⟨nodeRef', si, liveRef', better⟩)
        · exact absurd heard (unheard rfl)
        · rw [liveRef] at liveRef'
          cases liveRef'
          cases found with
          | some _ => rfl
          | none =>
            obtain ⟨-, info, -, liveInfo, owner, -⟩ := id better
            obtain ⟨sta', liveSta', inside⟩ := sta_of_info sound.links liveInfo
            rw [owner, liveSta] at liveSta'
            cases liveSta'
            exact absurd better (finds si inside)
    · rintro si rfl
      exact suitable_of_betterEntry sound live liveRef (FirstWith.holds finds)

end Search

/-- The search returns an entry exactly when the hearing map or the station's other entries
    have a better one, and what it returns is an entry of the same station on another node
    with the same SSID that takes clients. -/
theorem better_candidate_found (env : Platform) (cfg : Config) {s : System} (reach : System.Reached env s)
    {siRef : SiId} {ref : StaInfo} (live : s.daemon.infos.get? siRef = some ref) :
    ∃ found d', s.daemon.findBetterCandidate cfg siRef = .ok (found, d') ∧
      (found.isSome ↔ HeardBetter cfg s.daemon ref ∨ SeenBetter cfg s.daemon siRef ref) ∧
      ∀ si, found = some si → Suitable d' ref si := by
  obtain ⟨⟨found, d'⟩, returns, exact, suitable, -⟩ := (found_spec cfg reach.sound live).returns
  exact ⟨found, d', returns, exact, suitable⟩

/-- What a new daemon becomes is a state of a system that keeps the defaults. -/
theorem reached_plainRun {inputs : List Input} {d : Daemon} (run : plainRun usteerInitDefaults inputs = some d) :
    System.Reached plainPlatform ⟨usteerInitDefaults, [], none, d⟩ := by
  have start : System.ReachableWhen plainPlatform (fun _ _ _ => True) newSystem := .start 0 false [] 1 0
  exact (start.runs run fun _ _ _ _ => trivial).reachable

/-- The status of a 2.4 GHz node. -/
def plainStatus (bssid : MacAddr) : NodeStatus := ⟨[], bssid, 2412, 0, 0, 0, none, none, false⟩

/-- A report of the client 1 about a node. -/
def reportOf (bssid : MacAddr) (rcpi : UInt16) : BeaconReportMsg :=
  ⟨some (some 1), some 81, some 1, some rcpi, some 0, some (some bssid)⟩

/-- A client of the first of two nodes reports the second one as stronger. -/
def hearsAnother : List Input :=
  associates ++ [.register (hostapdDot ++ [49]), .status 0 (plainStatus 10), .status 1 (plainStatus 11),
    .beaconReport 0 (reportOf 10 50), .beaconReport 0 (reportOf 11 100)]

/-- A configuration that compares signals. -/
def comparesSignals : Config := { usteerInitDefaults with signalDiffThreshold := 1 }

/-- The entry on the stronger node is found. -/
theorem better_candidate_found_by_hearing : ∃ s ref d', System.Reached plainPlatform s ∧
    s.daemon.infos.get? 0 = some ref ∧ s.daemon.findBetterCandidate comparesSignals 0 = .ok (some 1, d') ∧
    (HeardBetter comparesSignals s.daemon ref ∨ SeenBetter comparesSignals s.daemon 0 ref) ∧ Suitable d' ref 1 := by
  have evaluates : ((plainRun usteerInitDefaults hearsAnother).any fun d => (d.infos.get? 0).any fun _ =>
      (d.findBetterCandidate comparesSignals 0).toOption.any fun r => decide (r.1 = some 1)) = true := by
    decide +kernel
  obtain ⟨d, run, evaluates⟩ := (Option.any_eq_true _ _).mp evaluates
  obtain ⟨ref, live, evaluates⟩ := (Option.any_eq_true _ _).mp evaluates
  obtain ⟨⟨found, d'⟩, returns, evaluates⟩ := (Option.any_eq_true _ _).mp evaluates
  obtain rfl : found = some 1 := of_decide_eq_true evaluates
  have reach := reached_plainRun run
  obtain ⟨found', d'', returns', exact, suitable⟩ := better_candidate_found plainPlatform comparesSignals reach live
  cases (ok_of_toOption returns).symm.trans returns'
  exact ⟨_, ref, d', reach, live, returns', exact.mp rfl, suitable 1 rfl⟩

/-! ### Deciding without a trace -/

/-- Stations, entries with their beacon reports and timers are as they were. -/
def Untouched (d d' : Daemon) : Prop :=
  d'.stations = d.stations ∧ d'.stas = d.stas ∧ d'.infos = d.infos ∧ d'.tq = d.tq

/-- `usteer_check_request` gets as far as the search. -/
def Searches (cfg : Config) (d : Daemon) (info : StaInfo) (node : UsteerNode) (type : EventType) : Prop :=
  type ≠ .assoc ∧ (info.stats type).blockedCur < cfg.maxRetryBand ∧
    ¬ info.signal < snrToSignal node cfg.minConnectSnr ∧ ¬ d.currentTime - info.created < cfg.initialConnectDelay.toUInt64

section Untouched

variable {cfg : Config} {d : Daemon} {si : SiId} {info : StaInfo}

theorem untouched_search_iff (sound : Sound none d) (live : d.infos.get? si = some info) :
    (∃ r, d.findBetterCandidate cfg si = .ok r ∧ Untouched d r.2) ↔ LeadsToKnown cfg d info := by
  obtain ⟨r, returns, -, -, result⟩ := (found_spec cfg sound live).returns
  rcases result with ⟨same, known⟩ | ⟨br, n, freq, leads, created, fresh⟩
  · exact ⟨fun _ => known, fun _ => ⟨r, returns, by rw [same]; exact ⟨rfl, rfl, rfl, rfl⟩⟩⟩
  · constructor
    · rintro ⟨r', returns', -, -, infos, -⟩
      cases returns.symm.trans returns'
      rw [created] at infos
      have next : d.infos.next + 1 = d.infos.next := congrArg Heap.next infos
      omega
    · intro known
      obtain ⟨si', info', live', owners⟩ := known br n leads
      exact absurd owners (fresh si' info' live')

theorem untouched_check_iff {node : UsteerNode} (sound : Sound none d) (live : d.infos.get? si = some info)
    (liveNode : d.nodes.get? info.node = some node) (type : EventType) :
    (∃ r, d.usteerCheckRequest cfg si type = .ok r ∧ Untouched d r.2) ↔
      (Searches cfg d info node type → LeadsToKnown cfg d info) := by
  have stops (ret : Bool) (early : d.usteerCheckRequest cfg si type = .ok (ret, d))
      (not : ¬ Searches cfg d info node type) :
      (∃ r, d.usteerCheckRequest cfg si type = .ok r ∧ Untouched d r.2) ↔
        (Searches cfg d info node type → LeadsToKnown cfg d info) :=
    ⟨fun _ searches => absurd searches not, fun _ => ⟨_, early, rfl, rfl, rfl, rfl⟩⟩
  unfold usteerCheckRequest at *
  rw [info_ok live, ok_bind] at *
  by_cases assoc : type = .assoc
  · refine stops true ?_ fun searches => searches.1 assoc
    rw [if_pos assoc]
    rfl
  rw [if_neg assoc] at *
  by_cases retried : (info.stats type).blockedCur ≥ cfg.maxRetryBand
  · refine stops true ?_ fun searches => UInt32.not_lt.mpr retried searches.2.1
    rw [if_pos retried]
    rfl
  rw [if_neg retried, node_ok liveNode, ok_bind] at *
  by_cases weak : info.signal < snrToSignal node cfg.minConnectSnr
  · refine stops false ?_ fun searches => searches.2.2.1 weak
    rw [if_pos weak]
    rfl
  rw [if_neg weak] at *
  by_cases early : d.currentTime - info.created < cfg.initialConnectDelay.toUInt64
  · refine stops false ?_ fun searches => searches.2.2.2 early
    rw [if_pos early]
    rfl
  rw [if_neg early, ← untouched_search_iff sound live]
  have searches : Searches cfg d info node type := ⟨assoc, UInt32.not_le.mp retried, weak, early⟩
  constructor
  · rintro ⟨r, run, untouched⟩ _
    cases found : d.findBetterCandidate cfg si with
    | error e =>
      rw [found] at run
      cases run
    | ok result =>
      rw [found] at run
      cases run
      exact ⟨result, rfl, untouched⟩
  · intro holds
    obtain ⟨r, found, untouched⟩ := holds searches
    rw [found]
    exact ⟨_, rfl, untouched⟩

end Untouched

/-- A call of the search or of `usteer_check_request` leaves the table of stations and the
    timers alone exactly when the station already has an entry on the node that the hearing
    map leads to, or the search is not reached. -/
theorem deciding_untouched_iff (env : Platform) (cfg : Config) {s : System} (reach : System.Reached env s) {si : SiId}
    {info : StaInfo} {node : UsteerNode} (live : s.daemon.infos.get? si = some info)
    (liveNode : s.daemon.nodes.get? info.node = some node) (type : EventType) :
    ((∃ r, s.daemon.findBetterCandidate cfg si = .ok r ∧ Untouched s.daemon r.2) ↔ LeadsToKnown cfg s.daemon info) ∧
    ((∃ r, s.daemon.usteerCheckRequest cfg si type = .ok r ∧ Untouched s.daemon r.2) ↔
      (Searches cfg s.daemon info node type → LeadsToKnown cfg s.daemon info)) :=
  ⟨untouched_search_iff reach.sound live, untouched_check_iff reach.sound live liveNode type⟩

theorem deciding_untouched_unheard : ∃ s info, System.Reached plainPlatform s ∧ s.daemon.infos.get? 0 = some info ∧
    (∃ r, s.daemon.findBetterCandidate usteerInitDefaults 0 = .ok r ∧ Untouched s.daemon r.2) ∧
    ∃ r, s.daemon.usteerCheckRequest usteerInitDefaults 0 .probe = .ok r ∧ Untouched s.daemon r.2 := by
  have evaluates : ((plainRun usteerInitDefaults associates).any fun d => (d.infos.get? 0).any fun info =>
      (d.nodes.get? info.node).any fun _ => decide (info.beaconReports = [])) = true := by decide +kernel
  obtain ⟨d, run, evaluates⟩ := (Option.any_eq_true _ _).mp evaluates
  obtain ⟨info, live, evaluates⟩ := (Option.any_eq_true _ _).mp evaluates
  obtain ⟨node, liveNode, evaluates⟩ := (Option.any_eq_true _ _).mp evaluates
  have unheard : info.beaconReports = [] := of_decide_eq_true evaluates
  have known : LeadsToKnown usteerInitDefaults d info := by
    rintro br n ⟨brCur, first, -⟩
    have inside := first.mem
    rw [unheard] at inside
    cases inside
  have reach := reached_plainRun run
  have both := deciding_untouched_iff plainPlatform usteerInitDefaults reach live liveNode .probe
  exact ⟨_, info, reach, live, both.1.mpr known, both.2.mpr fun _ => known⟩

/-- The search for a better candidate gives the client an entry on the node it reported. -/
theorem search_creates_entry : ∃ s info, System.Reached plainPlatform s ∧ s.daemon.infos.get? 0 = some info ∧
    ¬ ∃ r, s.daemon.findBetterCandidate comparesSignals 0 = .ok r ∧ Untouched s.daemon r.2 := by
  have evaluates : ((plainRun usteerInitDefaults hearsAnother).any fun d => (d.infos.get? 0).any fun _ =>
      (d.findBetterCandidate comparesSignals 0).toOption.any fun r =>
        decide (r.2.infos.next ≠ d.infos.next)) = true := by decide +kernel
  obtain ⟨d, run, evaluates⟩ := (Option.any_eq_true _ _).mp evaluates
  obtain ⟨info, live, evaluates⟩ := (Option.any_eq_true _ _).mp evaluates
  obtain ⟨r, returns, evaluates⟩ := (Option.any_eq_true _ _).mp evaluates
  refine ⟨_, info, reached_plainRun run, live, ?_⟩
  rintro ⟨r', returns', -, -, infos, -⟩
  cases (ok_of_toOption returns).symm.trans returns'
  exact of_decide_eq_true evaluates (congrArg Heap.next infos)

end Usteer
