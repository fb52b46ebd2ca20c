import Usteer.Model
import Usteer.Margins

/-!
How two candidates for a client are compared (the first part of `policy.c`). An
entry is better by its node's client count, by signal or by load class, unless
its node is full (`isBetterCandidate`, `isBetterCandidateHearingMap`). The search
takes a candidate that is better and not conversely. As long as the sums and
differences stay in range, both comparisons are preferences with margins
(`candidateCriteria`, `reportCriteria`), so that relation has no cycle of any
length (`strictly_better_acyclic`).
-/
namespace Usteer
open Words Margins

/-- `below_assoc_threshold` -/
def belowAssocThreshold (cfg : Config) (nodeCur nodeNew : UsteerNode) : Bool :=
  let ref5g := decide (nodeCur.freq > 4000)
  let node5g := decide (nodeNew.freq > 4000)
  let nAssocNew := if ref5g && !node5g then nodeNew.nAssoc + cfg.bandSteeringThreshold.toInt32 else nodeNew.nAssoc
  let nAssocCur := if !ref5g && node5g then nodeCur.nAssoc + cfg.bandSteeringThreshold.toInt32 else nodeCur.nAssoc
  let nAssocNew := nAssocNew + cfg.loadBalancingThreshold.toInt32
  nAssocNew ≤ nAssocCur

/-- `better_signal_strength` -/
def betterSignalStrength (cfg : Config) (siCur siNew : StaInfo) : Bool :=
  let isBetter := decide (siNew.signal - siCur.signal > cfg.signalDiffThreshold.toInt32)
  if cfg.signalDiffThreshold = 0 then false else isBetter

/-- The threshold of `better_signal_strength_hearing_map`, in steps of RCPI. -/
def rcpiThreshold (cfg : Config) : UInt16 := ((cfg.signalDiffThreshold / 100) * 255).toUInt16

/-- `better_signal_strength_hearing_map` -/
def betterSignalStrengthHearingMap (cfg : Config) (brCur brNew : BeaconReport) : Bool :=
  let isBetter := decide ((brNew.rcpi.toNat : ℤ) - brCur.rcpi.toNat > (rcpiThreshold cfg).toNat)
  if cfg.signalDiffThreshold = 0 then false else isBetter

/-- `below_load_threshold`, whose comparisons are unsigned. -/
def belowLoadThreshold (cfg : Config) (node : UsteerNode) : Bool :=
  decide (node.nAssoc.toUInt32 ≥ cfg.loadKickMinClients) && decide (node.load.toUInt32 > cfg.loadKickThreshold)

/-- `has_better_load` -/
def hasBetterLoad (cfg : Config) (nodeCur nodeNew : UsteerNode) : Bool :=
  !belowLoadThreshold cfg nodeCur && belowLoadThreshold cfg nodeNew

/-- `below_max_assoc` -/
def belowMaxAssoc (node : UsteerNode) : Bool := node.maxAssoc = 0 || decide (node.nAssoc < node.maxAssoc)

/-- An entry with the node it points to. -/
structure Candidate where
  info : StaInfo
  node : UsteerNode

/-- `is_better_candidate` -/
def isBetterCandidate (cfg : Config) (cur new : Candidate) : Bool :=
  if !belowMaxAssoc new.node then false
  else belowAssocThreshold cfg cur.node new.node || betterSignalStrength cfg cur.info new.info ||
    hasBetterLoad cfg cur.node new.node

/-- `is_better_candidate_hearing_map`, for the lookup of nodes by BSSID in effect. -/
def isBetterCandidateHearingMap (cfg : Config) (getUsteerNodeFromBssid : MacAddr → Option UsteerNode)
    (brCur brNew : BeaconReport) : Except Fault Bool := do
  let nodeNew ← Daemon.notNull (getUsteerNodeFromBssid brNew.bssid)
  if !belowMaxAssoc nodeNew then
    return false
  let nodeCur ← Daemon.notNull (getUsteerNodeFromBssid brCur.bssid)
  return belowAssocThreshold cfg nodeCur nodeNew || betterSignalStrengthHearingMap cfg brCur brNew ||
    hasBetterLoad cfg nodeCur nodeNew

/-- The test of `find_better_candidate` on entries. -/
def StrictlyBetter (cfg : Config) (cur new : Candidate) : Prop :=
  isBetterCandidate cfg cur new = true ∧ isBetterCandidate cfg new cur = false

/-- The test of `find_better_candidate` on beacon reports. -/
def StrictlyBetterReport (cfg : Config) (nodeOf : MacAddr → Option UsteerNode) (cur new : BeaconReport) : Prop :=
  isBetterCandidateHearingMap cfg nodeOf cur new = .ok true ∧
    isBetterCandidateHearingMap cfg nodeOf new cur = .ok false

/-! ### The comparisons as preferences with margins -/

/-- The client count with the penalty of the 2.4 GHz band. -/
def weightedAssoc (cfg : Config) (node : UsteerNode) : ℤ :=
  node.nAssoc.toInt + if node.freq > 4000 then 0 else (cfg.bandSteeringThreshold.toNat : ℤ)

/-- The largest sum that `below_assoc_threshold` forms for a node is in range. -/
def AssocInRange (cfg : Config) (node : UsteerNode) : Prop :=
  node.nAssoc.toInt + cfg.bandSteeringThreshold.toNat + cfg.loadBalancingThreshold.toNat < 2 ^ 31

instance (cfg : Config) (node : UsteerNode) : Decidable (AssocInRange cfg node) :=
  inferInstanceAs (Decidable (_ < _))

theorem belowAssocThreshold_iff {cfg : Config} {cur new : UsteerNode} (curRange : AssocInRange cfg cur)
    (newRange : AssocInRange cfg new) :
    belowAssocThreshold cfg cur new = true ↔
      weightedAssoc cfg new + cfg.loadBalancingThreshold.toNat ≤ weightedAssoc cfg cur := by
  unfold AssocInRange at curRange newRange
  have curBand := toInt_add_unsigned (a := cur.nAssoc) (b := cfg.bandSteeringThreshold) (by omega)
  have newBand := toInt_add_unsigned (a := new.nAssoc) (b := cfg.bandSteeringThreshold) (by omega)
  have newLoad := toInt_add_unsigned (a := new.nAssoc) (b := cfg.loadBalancingThreshold) (by omega)
  have newBoth := toInt_add_unsigned (a := new.nAssoc + cfg.bandSteeringThreshold.toInt32)
    (b := cfg.loadBalancingThreshold) (by omega)
  unfold belowAssocThreshold weightedAssoc
  rw [decide_eq_true_eq, Int32.le_iff_toInt_le]
  by_cases cur5 : cur.freq > 4000
  · by_cases new5 : new.freq > 4000
    · simp only [cur5, new5, decide_true, Bool.not_true, Bool.and_false, Bool.false_and, Bool.false_eq_true,
        if_true, if_false]
      omega
    · simp only [cur5, new5, decide_true, decide_false, Bool.not_true, Bool.not_false, Bool.and_true,
        Bool.false_and, Bool.false_eq_true, if_true, if_false]
      omega
  · by_cases new5 : new.freq > 4000
    · simp only [cur5, new5, decide_true, decide_false, Bool.not_true, Bool.not_false, Bool.and_true,
        Bool.false_and, Bool.false_eq_true, if_true, if_false]
      omega
    · simp only [cur5, new5, decide_false, Bool.not_false, Bool.and_false, Bool.false_and, Bool.false_eq_true,
        if_false]
      omega

theorem betterSignalStrength_iff {cfg : Config} {cur new : StaInfo} (small : cfg.signalDiffThreshold.toNat < 2 ^ 31)
    (range : new.signal.toInt - cur.signal.toInt ∈ Set.Ico (-2 ^ 31) (2 ^ 31)) :
    betterSignalStrength cfg cur new = true ↔ cfg.signalDiffThreshold ≠ 0 ∧
      (cfg.signalDiffThreshold.toNat : ℤ) < new.signal.toInt - cur.signal.toInt := by
  unfold betterSignalStrength
  have difference := toInt_sub_exact range.1 range.2
  have threshold := toInt_toInt32_of_lt small
  by_cases zero : cfg.signalDiffThreshold = 0
  · simp [zero]
  · simp only [zero, if_false, decide_eq_true_eq, gt_iff_lt, Int32.lt_iff_toInt_lt, ne_eq, not_false_eq_true,
      true_and]
    rw [difference, threshold]

theorem betterSignalStrengthHearingMap_iff {cfg : Config} {cur new : BeaconReport} :
    betterSignalStrengthHearingMap cfg cur new = true ↔ cfg.signalDiffThreshold ≠ 0 ∧
      ((rcpiThreshold cfg).toNat : ℤ) < (new.rcpi.toNat : ℤ) - cur.rcpi.toNat := by
  unfold betterSignalStrengthHearingMap
  by_cases zero : cfg.signalDiffThreshold = 0
  · simp [zero]
  · simp [zero]

theorem hasBetterLoad_iff {cfg : Config} {cur new : UsteerNode} :
    hasBetterLoad cfg cur new = true ↔
      ¬ belowLoadThreshold cfg cur = true ∧ belowLoadThreshold cfg new = true := by
  simp [hasBetterLoad]

/-- What `is_better_candidate` compares. -/
def candidateCriteria (cfg : Config) : Criteria Candidate where
  admissible c := belowMaxAssoc c.node = true
  weight c := weightedAssoc cfg c.node
  weightMargin := cfg.loadBalancingThreshold.toNat
  score c := c.info.signal.toInt
  scoreMargin := cfg.signalDiffThreshold.toNat
  scored := cfg.signalDiffThreshold ≠ 0
  preferred c := belowLoadThreshold cfg c.node = true
  weightMargin_nonneg := Int.natCast_nonneg _
  scoreMargin_nonneg := Int.natCast_nonneg _

/-- What `is_better_candidate_hearing_map` compares, for the reports that resolve. -/
def reportCriteria (cfg : Config) (nodeOf : MacAddr → Option UsteerNode) : Criteria BeaconReport where
  admissible br := ((nodeOf br.bssid).elim false belowMaxAssoc) = true
  weight br := (nodeOf br.bssid).elim 0 (weightedAssoc cfg)
  weightMargin := cfg.loadBalancingThreshold.toNat
  score br := br.rcpi.toNat
  scoreMargin := (rcpiThreshold cfg).toNat
  scored := cfg.signalDiffThreshold ≠ 0
  preferred br := ((nodeOf br.bssid).elim false (belowLoadThreshold cfg)) = true
  weightMargin_nonneg := Int.natCast_nonneg _
  scoreMargin_nonneg := Int.natCast_nonneg _

theorem isBetterCandidate_iff {cfg : Config} {cur new : Candidate} (small : cfg.signalDiffThreshold.toNat < 2 ^ 31)
    (curRange : AssocInRange cfg cur.node) (newRange : AssocInRange cfg new.node)
    (signals : new.info.signal.toInt - cur.info.signal.toInt ∈ Set.Ico (-2 ^ 31) (2 ^ 31)) :
    isBetterCandidate cfg cur new = true ↔ Better (candidateCriteria cfg) cur new := by
  unfold isBetterCandidate Better candidateCriteria
  by_cases free : belowMaxAssoc new.node = true
  · simp only [free, Bool.not_true, Bool.false_eq_true, if_false, Bool.or_eq_true, true_and,
      belowAssocThreshold_iff curRange newRange, betterSignalStrength_iff small signals, hasBetterLoad_iff, or_assoc]
  · simp [free]

theorem isBetterCandidateHearingMap_ok {cfg : Config} {nodeOf : MacAddr → Option UsteerNode} {cur new : BeaconReport}
    {nodeCur nodeNew : UsteerNode} (atCur : nodeOf cur.bssid = some nodeCur) (atNew : nodeOf new.bssid = some nodeNew) :
    isBetterCandidateHearingMap cfg nodeOf cur new = .ok (belowMaxAssoc nodeNew &&
      (belowAssocThreshold cfg nodeCur nodeNew || betterSignalStrengthHearingMap cfg cur new ||
        hasBetterLoad cfg nodeCur nodeNew)) := by
  unfold isBetterCandidateHearingMap
  simp only [atCur, atNew, Daemon.notNull]
  by_cases free : belowMaxAssoc nodeNew = true
  · simp [free, bind, Except.bind, pure, Except.pure]
  · simp [free, bind, Except.bind, pure, Except.pure]

theorem isBetterCandidateHearingMap_iff {cfg : Config} {nodeOf : MacAddr → Option UsteerNode}
    {cur new : BeaconReport} {nodeCur nodeNew : UsteerNode} (atCur : nodeOf cur.bssid = some nodeCur)
    (atNew : nodeOf new.bssid = some nodeNew) (curRange : AssocInRange cfg nodeCur)
    (newRange : AssocInRange cfg nodeNew) :
    isBetterCandidateHearingMap cfg nodeOf cur new = .ok true ↔ Better (reportCriteria cfg nodeOf) cur new := by
  rw [isBetterCandidateHearingMap_ok atCur atNew]
  unfold Better reportCriteria
  simp only [atCur, atNew, Option.elim_some, Except.ok.injEq, Bool.and_eq_true, Bool.or_eq_true,
    belowAssocThreshold_iff curRange newRange, betterSignalStrengthHearingMap_iff, hasBetterLoad_iff, or_assoc]

/-! ### No cycles -/

/-- The test of `find_better_candidate` has no cycle, on entries and on beacon reports
    of known nodes, and so leaves some member of every non-empty set unbeaten. -/
theorem strictly_better_acyclic (cfg : Config) (small : cfg.signalDiffThreshold.toNat < 2 ^ 31) :
    (∀ (ι : Type) (entries : Finset ι) (entry : ι → Candidate),
      (∀ i ∈ entries, AssocInRange cfg (entry i).node) →
      (∀ i ∈ entries, ∀ j ∈ entries,
        (entry i).info.signal.toInt - (entry j).info.signal.toInt ∈ Set.Ico (-2 ^ 31) (2 ^ 31)) →
      (∀ i, ¬ Relation.TransGen
        (fun i j => i ∈ entries ∧ j ∈ entries ∧ StrictlyBetter cfg (entry i) (entry j)) i i) ∧
      (entries.Nonempty → ∃ i ∈ entries, ∀ j ∈ entries, ¬ StrictlyBetter cfg (entry i) (entry j))) ∧
    (∀ (ι : Type) (reports : Finset ι) (report : ι → BeaconReport) (nodeOf : MacAddr → Option UsteerNode),
      (∀ i ∈ reports, ∃ node, nodeOf (report i).bssid = some node ∧ AssocInRange cfg node) →
      (∀ i, ¬ Relation.TransGen
        (fun i j => i ∈ reports ∧ j ∈ reports ∧ StrictlyBetterReport cfg nodeOf (report i) (report j)) i i) ∧
      (reports.Nonempty →
        ∃ i ∈ reports, ∀ j ∈ reports, ¬ StrictlyBetterReport cfg nodeOf (report i) (report j))) := by
  constructor
  · intro ι entries entry ranges signals
    refine family_acyclic (candidateCriteria cfg) entry ?_
    intro i inI j inJ better
    have there := isBetterCandidate_iff small (ranges i inI) (ranges j inJ) (signals j inJ i inI)
    have back := isBetterCandidate_iff small (ranges j inJ) (ranges i inI) (signals i inI j inJ)
    refine ⟨there.mp better.1, fun converse => ?_⟩
    have both := better.2
    rw [back.mpr converse] at both
    cases both
  · intro ι reports report nodeOf known
    refine family_acyclic (reportCriteria cfg nodeOf) report ?_
    intro i inI j inJ better
    obtain ⟨nodeI, atI, rangeI⟩ := known i inI
    obtain ⟨nodeJ, atJ, rangeJ⟩ := known j inJ
    have there := isBetterCandidateHearingMap_iff atI atJ rangeI rangeJ
    have back := isBetterCandidateHearingMap_iff atJ atI rangeJ rangeI
    refine ⟨there.mp better.1, fun converse => ?_⟩
    have both := better.2
    rw [back.mpr converse] at both
    cases both

/-- Two 5 GHz nodes, one with ten clients and one with none. -/
def sampleNode (busy : Bool) : UsteerNode where
  kind := .loc ⟨false, 0⟩
  name := []
  staInfo := []
  rrmNr := none
  scriptData := none
  ssid := []
  bssid := if busy then 1 else 2
  freq := 5180
  noise := 0
  nAssoc := if busy then 10 else 0
  maxAssoc := 0
  load := 0

theorem strictly_better_acyclic_two_nodes :
    let entry := fun busy => Candidate.mk (.zeroed 0 0 5180 0) (sampleNode busy)
    let nodeOf := fun bssid : MacAddr => if bssid = 1 then some (sampleNode true) else some (sampleNode false)
    let report := fun busy => BeaconReport.mk 0 (sampleNode busy).bssid 100 0 0 0 0
    (StrictlyBetter usteerInitDefaults (entry true) (entry false) ∧
      ∃ i, ∀ j, ¬ StrictlyBetter usteerInitDefaults (entry i) (entry j)) ∧
    (StrictlyBetterReport usteerInitDefaults nodeOf (report true) (report false) ∧
      ∃ i, ∀ j, ¬ StrictlyBetterReport usteerInitDefaults nodeOf (report i) (report j)) := by
  intro entry nodeOf report
  obtain ⟨onEntries, onReports⟩ := strictly_better_acyclic usteerInitDefaults (by decide)
  have ranges : ∀ i ∈ (Finset.univ : Finset Bool), AssocInRange usteerInitDefaults (entry i).node := by
    intro i _
    cases i <;> decide
  have signals : ∀ i ∈ (Finset.univ : Finset Bool), ∀ j ∈ (Finset.univ : Finset Bool),
      (entry i).info.signal.toInt - (entry j).info.signal.toInt ∈ Set.Ico (-2 ^ 31) (2 ^ 31) := by
    intro i _ j _
    cases i <;> cases j <;> decide
  have known : ∀ i ∈ (Finset.univ : Finset Bool),
      ∃ node, nodeOf (report i).bssid = some node ∧ AssocInRange usteerInitDefaults node := by
    intro i _
    cases i with
    | true => exact ⟨sampleNode true, rfl, by decide⟩
    | false => exact ⟨sampleNode false, rfl, by decide⟩
  obtain ⟨_, unbeaten⟩ := onEntries Bool Finset.univ entry ranges signals
  obtain ⟨_, unbeatenReport⟩ := onReports Bool Finset.univ report nodeOf known
  refine ⟨⟨by constructor <;> decide, ?_⟩, ⟨by constructor <;> rfl, ?_⟩⟩
  · simpa using unbeaten ⟨true, Finset.mem_univ _⟩
  · simpa using unbeatenReport ⟨true, Finset.mem_univ _⟩

end Usteer
