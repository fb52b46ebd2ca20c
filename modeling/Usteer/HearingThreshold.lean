import Usteer.Reports

/-!
The threshold of the hearing map. `signal_diff_threshold` is meant as a percentage of the RCPI
range, but it is divided by 100 before it is multiplied by 255 and cut to 16 bits; so all
that is below a multiple of 100 is lost (`scaled_iff`), and for a usual threshold any
stronger report counts as better.
-/
namespace Usteer
open SearchTree Timeout Function Daemon

/-- The threshold in steps of RCPI keeps the percentage: it is a multiple of 100 that fits 16
    bits, or no RCPI exceeds it. -/
def KeepsPercentage (threshold : UInt32) : Prop :=
  threshold.toNat % 100 = 0 ∧ threshold.toNat / 100 ≤ 256 ∨ threshold.toNat / 100 % 65536 = 257

/-- Whenever the hearing map leads to a node that neither has the fewer clients nor the better
    load, its report exceeds the own one by more than the threshold's percentage of 255. -/
def HonoursThreshold (threshold : UInt32) : Prop :=
  ∀ env s, System.Reached env s → s.config.signalDiffThreshold = threshold →
    ∀ si ref brCur br n nodeCur node, s.daemon.infos.get? si = some ref →
      FirstWith (Resolves s.daemon ref.node) ref.beaconReports brCur →
      s.daemon.betterHeard s.config ref = .ok (some (br, n)) →
      s.daemon.nodes.get? ref.node = some nodeCur → s.daemon.nodes.get? n = some node →
      belowAssocThreshold s.config nodeCur node = false → hasBetterLoad s.config nodeCur node = false →
      255 * (threshold.toNat : ℤ) < 100 * ((br.rcpi.toNat : ℤ) - brCur.rcpi.toNat)

section Threshold

variable {cfg : Config}

theorem toNat_rcpiThreshold (cfg : Config) :
    (rcpiThreshold cfg).toNat = cfg.signalDiffThreshold.toNat / 100 * 255 % 65536 := by
  unfold rcpiThreshold
  rw [UInt32.toNat_toUInt16, UInt32.toNat_mul, UInt32.toNat_div]
  exact Nat.mod_mod_of_dvd _ (by decide)

theorem betterSignal_iff (cfg : Config) (brCur br : BeaconReport) :
    betterSignalStrengthHearingMap cfg brCur br = true ↔ cfg.signalDiffThreshold ≠ 0 ∧
      cfg.signalDiffThreshold.toNat / 100 * 255 % 65536 + brCur.rcpi.toNat < br.rcpi.toNat := by
  unfold betterSignalStrengthHearingMap
  rw [toNat_rcpiThreshold]
  by_cases off : cfg.signalDiffThreshold = 0
  · simp [off]
  · simp only [off, if_false, decide_eq_true_eq, ne_eq, not_false_iff, true_and]
    omega

/-- What the scaled threshold means for all pairs of RCPI. -/
theorem scaled_iff (threshold : Nat) :
    (∀ cur new, cur < 65536 → new < 65536 → threshold / 100 * 255 % 65536 + cur < new →
        255 * threshold + 100 * cur < 100 * new) ↔
      threshold % 100 = 0 ∧ threshold / 100 ≤ 256 ∨ threshold / 100 % 65536 = 257 := by
  constructor
  · intro exceeds
    by_contra lost
    have room : threshold / 100 * 255 % 65536 ≠ 65535 := by omega
    -- the report that is one step above the scaled threshold
    have least := exceeds 0 (threshold / 100 * 255 % 65536 + 1) (by omega) (by omega) (by omega)
    omega
  · rintro kept cur new curFits newFits above
    omega

/-- The report that the hearing map leads to is stronger by the scaled threshold, if nothing
    else speaks for it. -/
theorem heard_above {d : Daemon} {ref : StaInfo} {brCur br : BeaconReport} {n : NodeId} {nodeCur node : UsteerNode}
    (sound : Sound none d) (first : FirstWith (Resolves d ref.node) ref.beaconReports brCur)
    (heard : d.betterHeard cfg ref = .ok (some (br, n))) (liveCur : d.nodes.get? ref.node = some nodeCur)
    (live : d.nodes.get? n = some node) (count : belowAssocThreshold cfg nodeCur node = false)
    (load : hasBetterLoad cfg nodeCur node = false) : betterSignalStrengthHearingMap cfg brCur br = true := by
  have leads := ((betterHeard_spec (F := AnyFault) cfg sound liveCur).of_ok heard).2 br n rfl
  obtain ⟨brCur', first', preferable, resolves⟩ := leads
  cases first.unique first'
  obtain ⟨m, -, -, -, better, -⟩ := preferable.holds
  rw [isBetterCandidateHearingMap_ok (nodeFromBssid_of_found first.holds liveCur) (nodeFromBssid_of_found resolves live),
    count, load] at better
  simp only [Bool.false_or, Bool.or_false, Except.ok.injEq, Bool.and_eq_true] at better
  exact better.2

theorem honours_of_keeps {threshold : UInt32} (keeps : KeepsPercentage threshold) : HonoursThreshold threshold := by
  intro env s reach isThreshold si ref brCur br n nodeCur node live first heard liveCur liveNode count load
  obtain ⟨-, above⟩ := (betterSignal_iff _ _ _).mp (heard_above reach.sound first heard liveCur liveNode count load)
  rw [isThreshold] at above
  have exceeds := (scaled_iff _).mpr keeps brCur.rcpi.toNat br.rcpi.toNat brCur.rcpi.toNat_lt br.rcpi.toNat_lt above
  omega

end Threshold

/-! ### A client that reports two nodes -/

/-- A new daemon serves the client 1 on the first of two nodes, with these reports. -/
structure Reporting (first second : UsteerNode) (d : Daemon) (reports : List BeaconReport) : Prop where
  reach : System.Reached plainPlatform ⟨usteerInitDefaults, [], none, d⟩
  client : ∃ ref sta, d.infos.get? 0 = some ref ∧ ref.node = 0 ∧ ref.beaconReports = reports ∧
    d.stas.get? ref.sta = some sta ∧ sta.addr = 1
  locals : d.localNodes = [0, 1]
  liveFirst : d.nodes.get? 0 = some first
  liveSecond : d.nodes.get? 1 = some second
  clock : d.clock = 0

/-- The nodes of the BSSIDs 10 and 11 are equal in clients and load. -/
structure Equals (first second : UsteerNode) : Prop where
  bssid : first.bssid = 10
  other : second.bssid = 11
  ssid : second.ssid = first.ssid
  free : belowMaxAssoc first = true ∧ belowMaxAssoc second = true
  count : belowAssocThreshold usteerInitDefaults first second = false ∧
    belowAssocThreshold usteerInitDefaults second first = false
  load : hasBetterLoad usteerInitDefaults first second = false ∧ hasBetterLoad usteerInitDefaults second first = false

section Reporting

variable {first second : UsteerNode} {d : Daemon} {reports : List BeaconReport}

theorem reporting_start : ∃ first second d, Equals first second ∧ Reporting first second d [] := by
  have evaluates : ((plainRun usteerInitDefaults (reportsBoth.take 6)).any fun d =>
      (d.nodes.get? 0).any fun first => (d.nodes.get? 1).any fun second => (d.infos.get? 0).any fun ref =>
        (d.stas.get? ref.sta).any fun sta => decide ((first.bssid = 10 ∧ second.bssid = 11 ∧ second.ssid = first.ssid ∧
          (belowMaxAssoc first = true ∧ belowMaxAssoc second = true) ∧
          (belowAssocThreshold usteerInitDefaults first second = false ∧
            belowAssocThreshold usteerInitDefaults second first = false) ∧
          hasBetterLoad usteerInitDefaults first second = false ∧
          hasBetterLoad usteerInitDefaults second first = false) ∧
          (ref.node = 0 ∧ ref.beaconReports = [] ∧ sta.addr = 1 ∧ d.localNodes = [0, 1] ∧ d.clock = 0))) = true := by
    decide +kernel
  obtain ⟨d, run, evaluates⟩ := (Option.any_eq_true _ _).mp evaluates
  obtain ⟨first, liveFirst, evaluates⟩ := (Option.any_eq_true _ _).mp evaluates
  obtain ⟨second, liveSecond, evaluates⟩ := (Option.any_eq_true _ _).mp evaluates
  obtain ⟨ref, live, evaluates⟩ := (Option.any_eq_true _ _).mp evaluates
  obtain ⟨sta, liveSta, evaluates⟩ := (Option.any_eq_true _ _).mp evaluates
  obtain ⟨⟨bssid, other, ssid, free, count, load⟩, onNode, none, named, locals, clock⟩ := of_decide_eq_true evaluates
  exact ⟨first, second, d, ⟨bssid, other, ssid, free, count, load⟩, reached_plainRun run,
    ⟨ref, sta, live, onNode, none, liveSta, named⟩, locals, liveFirst, liveSecond, clock⟩

theorem resolves_equal (equals : Equals first second) (reporting : Reporting first second d reports) {br : BeaconReport} :
    (br.bssid = 10 → Resolves d 0 br) ∧ (br.bssid = 11 → Resolves d 1 br) := by
  constructor
  · intro here
    simp [Resolves, getUsteerNodeFromBssid, reporting.locals, search, node_ok reporting.liveFirst, ok_bind, equals.bssid,
      here]
    rfl
  · intro here
    simp [Resolves, getUsteerNodeFromBssid, reporting.locals, search, node_ok reporting.liveFirst,
      node_ok reporting.liveSecond, ok_bind, equals.bssid, equals.other, here]
    rfl

/-- The client reports one of the two nodes. -/
theorem reporting_step (equals : Equals first second) (reporting : Reporting first second d reports) (bssid : MacAddr)
    (rcpi : UInt16) (known : bssid = 10 ∨ bssid = 11) : ∃ d', Reporting first second d'
      (⟨0, bssid, rcpi, 0, 81, 1, 0⟩ :: reports.filter fun old => !usteerBeaconReportDelete usteerInitDefaults 0 bssid old) := by
  obtain ⟨ref, sta, live, onNode, isReports, liveSta, named⟩ := reporting.client
  have timed : Moves plainPlatform usteerInitDefaults .plain (none, d) (none, d.usteerUpdateTime) := .one .time
  have sound : Sound none d.usteerUpdateTime := sound_moves (a := (none, d)) reporting.reach.sound timed
  have known' : ∃ m node, d.usteerUpdateTime.nodes.get? m = some node ∧ node.bssid = bssid := by
    rcases known with rfl | rfl
    · exact ⟨0, first, reporting.liveFirst, equals.bssid⟩
    · exact ⟨1, second, reporting.liveSecond, equals.other⟩
  have valid : ValidReport d.usteerUpdateTime 0 (reportOf bssid rcpi) 0 ref ⟨0, bssid, rcpi, 0, 81, 1, 0⟩ :=
    ⟨⟨1, rfl, live, onNode, sta, liveSta, named⟩, known', rfl, rfl, rfl, rfl, rfl, rfl, reporting.clock.symm⟩
  have handled : d.usteerUpdateTime.usteerHandleEventBeaconReport usteerInitDefaults 0 (reportOf bssid rcpi) = .ok _ :=
    usteerHandleEventBeaconReport_valid sound valid
  have stored : (d.usteerUpdateTime.storeBeaconReport usteerInitDefaults 0 ⟨0, bssid, rcpi, 0, 81, 1, 0⟩).infos.get? 0 =
      some _ := infos_storeBeaconReport usteerInitDefaults live
  refine ⟨d.usteerUpdateTime.storeBeaconReport usteerInitDefaults 0 ⟨0, bssid, rcpi, 0, 81, 1, 0⟩, ?_,
    ⟨_, sta, stored, onNode, ?_, liveSta, named⟩, reporting.locals, reporting.liveFirst, reporting.liveSecond,
    reporting.clock⟩
  · refine .step (s := ⟨usteerInitDefaults, [], none, d⟩) (.daemon (.beaconReport 0 (reportOf bssid rcpi)))
      reporting.reach ?_ trivial (System.handle_daemon handled)
    show 0 ∈ d.localNodes
    rw [reporting.locals]
    exact List.mem_cons_self
  · rw [isReports]
    show _ :: List.filter (fun old => !usteerBeaconReportDelete usteerInitDefaults d.clock bssid old) reports = _
    rw [reporting.clock]

/-- Both nodes are reported. -/
theorem reporting_both (cur new : UInt16) : ∃ first second d, Equals first second ∧
    Reporting first second d [⟨0, 11, new, 0, 81, 1, 0⟩, ⟨0, 10, cur, 0, 81, 1, 0⟩] := by
  obtain ⟨first, second, d0, equals, start⟩ := reporting_start
  obtain ⟨d1, one⟩ := reporting_step equals start 10 cur (.inl rfl)
  obtain ⟨d2, two⟩ := reporting_step equals one 11 new (.inr rfl)
  have kept : usteerBeaconReportDelete usteerInitDefaults 0 11 ⟨0, 10, cur, 0, 81, 1, 0⟩ = false := by
    exact (by decide : (decide ((10 : MacAddr) = 11) || decide ((usteerInitDefaults.beaconReportInvalideTimeout * 1000).toUInt64 <
      (0 : UInt64) - 0)) = false)
  rw [List.filter_nil, List.filter_cons_of_pos (by rw [kept]; rfl), List.filter_nil] at two
  exact ⟨first, second, d2, equals, two⟩

/-- A report of the second node that is above the threshold leads there. -/
theorem reporting_heard (cfg : Config) (threshold : UInt32) {ref : StaInfo} {brCur br : BeaconReport}
    (isCfg : cfg = { usteerInitDefaults with signalDiffThreshold := threshold })
    (equals : Equals first second) (reporting : Reporting first second d [br, brCur]) (cur : brCur.bssid = 10)
    (new : br.bssid = 11) (live : d.infos.get? 0 = some ref) (above : betterSignalStrengthHearingMap cfg brCur br = true) :
    FirstWith (Resolves d ref.node) ref.beaconReports brCur ∧ d.betterHeard cfg ref = .ok (some (br, 1)) := by
  obtain ⟨ref', sta, live', onNode, isReports, -⟩ := reporting.client
  cases live.symm.trans live'
  have atCur : Resolves d 0 brCur := (resolves_equal equals reporting).1 cur
  have atNew : Resolves d 1 br := (resolves_equal equals reporting).2 new
  have firstCur : FirstWith (Resolves d ref.node) ref.beaconReports brCur := by
    rw [onNode, isReports]
    refine ⟨[br], [], rfl, atCur, fun other inside resolves => ?_⟩
    rw [List.mem_singleton.mp inside] at resolves
    cases atNew.symm.trans resolves
  -- the reverse comparison fails for the same reason
  have below : betterSignalStrengthHearingMap cfg br brCur = false := by
    obtain ⟨-, more⟩ := (betterSignal_iff cfg brCur br).mp above
    rw [← Bool.not_eq_true, betterSignal_iff]
    omega
  have preferable : Preferable cfg d ref.node brCur br := by
    refine ⟨1, atNew, by rw [onNode]; decide, ⟨second, first, reporting.liveSecond, ?_, equals.ssid⟩, ?_, ?_⟩
    · rw [onNode]
      exact reporting.liveFirst
    · rw [isBetterCandidateHearingMap_ok (nodeFromBssid_of_found atCur reporting.liveFirst)
        (nodeFromBssid_of_found atNew reporting.liveSecond), above, equals.free.2]
      simp
    · rw [isBetterCandidateHearingMap_ok (nodeFromBssid_of_found atNew reporting.liveSecond)
        (nodeFromBssid_of_found atCur reporting.liveFirst), below, isCfg]
      have count : belowAssocThreshold { usteerInitDefaults with signalDiffThreshold := threshold } second first = false :=
        equals.count.2
      have load : hasBetterLoad { usteerInitDefaults with signalDiffThreshold := threshold } second first = false :=
        equals.load.2
      simp [count, load]
  have firstNew : FirstWith (Preferable cfg d ref.node brCur) ref.beaconReports br := by
    rw [isReports]
    exact ⟨[], [brCur], rfl, preferable, by simp⟩
  refine ⟨firstCur, ?_⟩
  have own : d.nodes.get? ref.node = some first := by
    rw [onNode]
    exact reporting.liveFirst
  obtain ⟨r, returns, unheard, leads⟩ := (betterHeard_spec (F := fun _ => False) cfg reporting.reach.sound own).returns
  cases r with
  | none => exact absurd ⟨brCur, firstCur, br, firstNew.mem, preferable⟩ (unheard rfl)
  | some found =>
    obtain ⟨br', n⟩ := found
    obtain ⟨rfl, rfl⟩ := (leads br' n rfl).unique ⟨brCur, firstCur, firstNew, atNew⟩
    exact returns

/-- A report that is stronger by the scaled threshold alone is enough. -/
theorem heard_by_threshold (threshold : UInt32) (cur new : UInt16) (nonzero : threshold ≠ 0)
    (above : threshold.toNat / 100 * 255 % 65536 + cur.toNat < new.toNat) (honours : HonoursThreshold threshold) :
    255 * threshold.toNat + 100 * cur.toNat < 100 * new.toNat := by
  obtain ⟨first, second, d, equals, reporting⟩ := reporting_both cur new
  obtain ⟨ref, sta, live, onNode, -⟩ := reporting.client
  obtain ⟨firstCur, heard⟩ := reporting_heard { usteerInitDefaults with signalDiffThreshold := threshold } threshold rfl
    equals reporting rfl rfl live ((betterSignal_iff _ _ _).mpr ⟨nonzero, above⟩)
  have set : System.Reached plainPlatform ⟨{ usteerInitDefaults with signalDiffThreshold := threshold }, [], none, d⟩ :=
    .step (.config .updateConfig (oneOption .signalDiffThreshold threshold)) reporting.reach trivial trivial rfl
  have exceeds := honours plainPlatform _ set rfl 0 ref _ _ 1 first second live firstCur heard
    (by rw [onNode]; exact reporting.liveFirst) reporting.liveSecond equals.count.1 equals.load.1
  dsimp only at exceeds
  omega

end Reporting

/-- The hearing map honours the threshold as a percentage exactly for those thresholds that
    lose nothing when they are scaled: multiples of 100 up to 25600, and those that are scaled
    to an RCPI that no report exceeds. -/
theorem hearing_threshold_honoured (threshold : UInt32) : HonoursThreshold threshold ↔ KeepsPercentage threshold := by
  refine ⟨fun honours => ?_, honours_of_keeps⟩
  by_cases off : threshold = 0
  · subst off
    exact .inl (by decide)
  · refine (scaled_iff threshold.toNat).mp fun cur new curFits newFits above => ?_
    have curSame : (UInt16.ofNat cur).toNat = cur := UInt16.toNat_ofNat_of_lt' curFits
    have newSame : (UInt16.ofNat new).toNat = new := UInt16.toNat_ofNat_of_lt' newFits
    rw [← curSame, ← newSame] at above ⊢
    exact heard_by_threshold _ _ _ off above honours

/-- With a threshold of 30 any stronger report is enough. -/
theorem hearing_threshold_lost : ¬ HonoursThreshold 30 := by
  intro honours
  have exceeds := heard_by_threshold 30 100 101 (by decide) (by decide) honours
  revert exceeds
  decide

end Usteer
