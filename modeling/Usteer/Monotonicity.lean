import Usteer.Candidates

/-!
What a better new node or a worse current one does to the comparison of candidates. The
client counts, the signals and the limit of clients all point the right way
(`belowAssocThreshold_improved`, `betterSignalStrength_improved`, `belowMaxAssoc_improved`),
but `has_better_load` asks for a new node above the load threshold, so an entry that is
better for this reason alone is no longer so once the load of its node falls
(`better_mono_iff`).
-/
namespace Usteer
open Words

/-- The current node gets worse and the new one better, or they stay as they are. -/
structure NodesImproved (cur new cur' new' : UsteerNode) : Prop where
  curRest : cur' = { cur with nAssoc := cur'.nAssoc, load := cur'.load }
  newRest : new' = { new with nAssoc := new'.nAssoc, load := new'.load, maxAssoc := new'.maxAssoc }
  curAssoc : cur.nAssoc ≤ cur'.nAssoc
  curLoad : cur.load ≤ cur'.load
  newAssoc : new'.nAssoc ≤ new.nAssoc
  newLoad : new'.load ≤ new.load
  maxAssoc : new'.maxAssoc = 0 ∨ new.maxAssoc ≠ 0 ∧ new.maxAssoc ≤ new'.maxAssoc

/-- The signal of the current entry falls and that of the new one rises. -/
structure SignalsImproved (cur new cur' new' : StaInfo) : Prop where
  curRest : cur' = { cur with signal := cur'.signal }
  newRest : new' = { new with signal := new'.signal }
  curSignal : cur'.signal ≤ cur.signal
  newSignal : new.signal ≤ new'.signal

/-- The same for the RCPI of two reports. -/
structure ReportsImproved (cur new cur' new' : BeaconReport) : Prop where
  curRest : cur' = { cur with rcpi := cur'.rcpi }
  newRest : new' = { new with rcpi := new'.rcpi }
  curRcpi : cur'.rcpi ≤ cur.rcpi
  newRcpi : new.rcpi ≤ new'.rcpi

/-- What the client count of the new node is compared with, as numbers. -/
def bandPenalty (cfg : Config) (nodeCur nodeNew : UsteerNode) : ℤ :=
  if nodeCur.freq > 4000 ∧ ¬ nodeNew.freq > 4000 then cfg.bandSteeringThreshold.toNat else 0

/-- No operation on the nodes wraps: the sums of `below_assoc_threshold` are in range, and
    `below_load_threshold`, whose comparisons are unsigned, sees no negative number. -/
structure Unwrapped (cfg : Config) (cur new : UsteerNode) : Prop where
  newSum : new.nAssoc.toInt + bandPenalty cfg cur new + cfg.loadBalancingThreshold.toNat < 2 ^ 31
  curSum : cur.nAssoc.toInt + bandPenalty cfg new cur < 2 ^ 31
  curAssoc : 0 ≤ cur.nAssoc
  curLoad : 0 ≤ cur.load
  newAssoc : 0 ≤ new.nAssoc
  newLoad : 0 ≤ new.load

/-- The difference that `better_signal_strength` forms is in range. -/
def SignalsInRange (cur new : StaInfo) : Prop :=
  new.signal.toInt - cur.signal.toInt ∈ Set.Ico (-2 ^ 31) (2 ^ 31)

section Criteria

variable {cfg : Config} {cur new cur' new' : UsteerNode}

theorem belowAssocThreshold_exact (unwrapped : Unwrapped cfg cur new) : belowAssocThreshold cfg cur new = true ↔
    new.nAssoc.toInt + bandPenalty cfg cur new + cfg.loadBalancingThreshold.toNat ≤
      cur.nAssoc.toInt + bandPenalty cfg new cur := by
  obtain ⟨newSum, curSum, -, -, -, -⟩ := unwrapped
  unfold bandPenalty at newSum curSum
  unfold belowAssocThreshold bandPenalty
  rw [decide_eq_true_eq, Int32.le_iff_toInt_le]
  by_cases cur5 : cur.freq > 4000
  · by_cases new5 : new.freq > 4000
    · simp only [cur5, new5, not_true, and_false, if_false] at newSum curSum
      have newLoad := toInt_add_unsigned (a := new.nAssoc) (b := cfg.loadBalancingThreshold) (by omega)
      simp only [cur5, new5, decide_true, Bool.not_true, Bool.and_false, Bool.false_and, Bool.false_eq_true,
        if_false, not_true, and_false]
      omega
    · simp only [cur5, new5, not_true, not_false_eq_true, and_true, and_false, if_true, if_false] at newSum curSum
      have newBand := toInt_add_unsigned (a := new.nAssoc) (b := cfg.bandSteeringThreshold) (by omega)
      have newBoth := toInt_add_unsigned (a := new.nAssoc + cfg.bandSteeringThreshold.toInt32)
        (b := cfg.loadBalancingThreshold) (by omega)
      simp only [cur5, new5, decide_true, decide_false, Bool.not_true, Bool.not_false, Bool.and_true,
        Bool.false_and, Bool.false_eq_true, if_true, if_false, not_true, not_false_eq_true, and_true, and_false]
      omega
  · by_cases new5 : new.freq > 4000
    · simp only [cur5, new5, not_true, not_false_eq_true, and_true, and_false, if_true, if_false] at newSum curSum
      have curBand := toInt_add_unsigned (a := cur.nAssoc) (b := cfg.bandSteeringThreshold) (by omega)
      have newLoad := toInt_add_unsigned (a := new.nAssoc) (b := cfg.loadBalancingThreshold) (by omega)
      simp only [cur5, new5, decide_true, decide_false, Bool.not_true, Bool.not_false, Bool.and_true,
        Bool.false_and, Bool.false_eq_true, if_true, if_false, not_true, not_false_eq_true, and_true, and_false]
      omega
    · simp only [cur5, new5, false_and, if_false] at newSum curSum
      have newLoad := toInt_add_unsigned (a := new.nAssoc) (b := cfg.loadBalancingThreshold) (by omega)
      simp only [cur5, new5, decide_false, Bool.not_false, Bool.and_false, Bool.false_and, Bool.false_eq_true,
        if_false, false_and]
      omega

theorem bandPenalty_improved (cfg : Config) (improved : NodesImproved cur new cur' new') :
    bandPenalty cfg cur' new' = bandPenalty cfg cur new ∧ bandPenalty cfg new' cur' = bandPenalty cfg new cur := by
  rw [improved.curRest, improved.newRest]
  exact ⟨rfl, rfl⟩

theorem belowAssocThreshold_improved (improved : NodesImproved cur new cur' new') (unwrapped : Unwrapped cfg cur new)
    (unwrapped' : Unwrapped cfg cur' new') (below : belowAssocThreshold cfg cur new = true) :
    belowAssocThreshold cfg cur' new' = true := by
  rw [belowAssocThreshold_exact unwrapped] at below
  rw [belowAssocThreshold_exact unwrapped']
  obtain ⟨there, back⟩ := bandPenalty_improved cfg improved
  have fewer := Int32.le_iff_toInt_le.mp improved.newAssoc
  have more := Int32.le_iff_toInt_le.mp improved.curAssoc
  omega

theorem belowMaxAssoc_improved (improved : NodesImproved cur new cur' new') (below : belowMaxAssoc new = true) :
    belowMaxAssoc new' = true := by
  unfold belowMaxAssoc at *
  rw [Bool.or_eq_true, decide_eq_true_eq, decide_eq_true_eq] at *
  rcases improved.maxAssoc with unlimited | ⟨limited, raised⟩
  · exact .inl unlimited
  · refine .inr ?_
    have room := Int32.lt_iff_toInt_lt.mp (below.resolve_left limited)
    have fewer := Int32.le_iff_toInt_le.mp improved.newAssoc
    have higher := Int32.le_iff_toInt_le.mp raised
    rw [Int32.lt_iff_toInt_lt]
    omega

theorem betterSignalStrength_improved {cur new cur' new' : StaInfo} (improved : SignalsImproved cur new cur' new')
    (range : SignalsInRange cur new) (range' : SignalsInRange cur' new')
    (better : betterSignalStrength cfg cur new = true) : betterSignalStrength cfg cur' new' = true := by
  unfold betterSignalStrength at *
  by_cases zero : cfg.signalDiffThreshold = 0
  · simp [zero] at better
  · simp only [zero, if_false, decide_eq_true_eq, gt_iff_lt, Int32.lt_iff_toInt_lt] at *
    rw [toInt_sub_exact range.1 range.2] at better
    rw [toInt_sub_exact range'.1 range'.2]
    have weaker := Int32.le_iff_toInt_le.mp improved.curSignal
    have stronger := Int32.le_iff_toInt_le.mp improved.newSignal
    omega

theorem betterSignalStrengthHearingMap_improved {cur new cur' new' : BeaconReport}
    (improved : ReportsImproved cur new cur' new') (better : betterSignalStrengthHearingMap cfg cur new = true) :
    betterSignalStrengthHearingMap cfg cur' new' = true := by
  rw [betterSignalStrengthHearingMap_iff] at *
  have weaker := UInt16.le_iff_toNat_le.mp improved.curRcpi
  have stronger := UInt16.le_iff_toNat_le.mp improved.newRcpi
  exact ⟨better.1, by omega⟩

end Criteria

/-! ### Monotonicity -/

/-- The new node is better because it is above the load threshold and for no other reason;
    the last argument is the verdict on the signals. -/
def OnlyByLoad (cfg : Config) (cur new : UsteerNode) (signal : Bool) : Prop :=
  belowMaxAssoc new = true ∧ hasBetterLoad cfg cur new = true ∧ belowAssocThreshold cfg cur new = false ∧
    signal = false

/-- A better entry stays better. -/
def StaysBetter (cfg : Config) (cur new : Candidate) : Prop :=
  ∀ cur' new' : Candidate, NodesImproved cur.node new.node cur'.node new'.node →
    SignalsImproved cur.info new.info cur'.info new'.info → Unwrapped cfg cur'.node new'.node →
    SignalsInRange cur'.info new'.info → isBetterCandidate cfg cur new = true → isBetterCandidate cfg cur' new' = true

/-- A better report stays better. -/
def StaysBetterReport (cfg : Config) (nodeOf : MacAddr → Option UsteerNode) (brCur brNew : BeaconReport)
    (nodeCur nodeNew : UsteerNode) : Prop :=
  ∀ nodeOf' brCur' brNew' nodeCur' nodeNew',
    nodeOf' brCur'.bssid = some nodeCur' → nodeOf' brNew'.bssid = some nodeNew' →
    NodesImproved nodeCur nodeNew nodeCur' nodeNew' → ReportsImproved brCur brNew brCur' brNew' →
    Unwrapped cfg nodeCur' nodeNew' → isBetterCandidateHearingMap cfg nodeOf brCur brNew = .ok true →
      isBetterCandidateHearingMap cfg nodeOf' brCur' brNew' = .ok true

section Monotonicity

variable {cfg : Config}

theorem isBetterCandidate_eq (cur new : Candidate) : isBetterCandidate cfg cur new = (belowMaxAssoc new.node &&
    (belowAssocThreshold cfg cur.node new.node || betterSignalStrength cfg cur.info new.info ||
      hasBetterLoad cfg cur.node new.node)) := by
  unfold isBetterCandidate
  cases belowMaxAssoc new.node with
  | false => rfl
  | true => rfl

/-- A node without load is not above the threshold. -/
theorem belowLoadThreshold_idle (node : UsteerNode) : belowLoadThreshold cfg { node with load := 0 } = false := by
  have zero : (0 : Int32).toUInt32 = 0 := rfl
  simp [belowLoadThreshold, zero]

theorem nodesImproved_idle {cur new : UsteerNode} (unwrapped : Unwrapped cfg cur new) :
    NodesImproved cur new cur { new with load := 0 } where
  curRest := rfl
  newRest := rfl
  curAssoc := Int32.le_refl _
  curLoad := Int32.le_refl _
  newAssoc := Int32.le_refl _
  newLoad := unwrapped.newLoad
  maxAssoc := by
    by_cases unlimited : new.maxAssoc = 0
    · exact .inl unlimited
    · exact .inr ⟨unlimited, Int32.le_refl _⟩

theorem unwrapped_idle {cur new : UsteerNode} (unwrapped : Unwrapped cfg cur new) :
    Unwrapped cfg cur { new with load := 0 } :=
  ⟨unwrapped.newSum, unwrapped.curSum, unwrapped.curAssoc, unwrapped.curLoad, unwrapped.newAssoc, Int32.le_refl _⟩

/-- What is better and not by its load alone is better by its clients or its signal. -/
theorem other_reason {cur new : UsteerNode} {signal : Bool} (notOnly : ¬ OnlyByLoad cfg cur new signal)
    (room : belowMaxAssoc new = true)
    (reason : (belowAssocThreshold cfg cur new = true ∨ signal = true) ∨ hasBetterLoad cfg cur new = true) :
    belowAssocThreshold cfg cur new = true ∨ signal = true := by
  by_contra neither
  have load := reason.resolve_left neither
  rw [not_or, Bool.not_eq_true, Bool.not_eq_true] at neither
  exact notOnly ⟨room, load, neither.1, neither.2⟩

theorem staysBetter_iff {cur new : Candidate} (unwrapped : Unwrapped cfg cur.node new.node)
    (range : SignalsInRange cur.info new.info) :
    StaysBetter cfg cur new ↔ ¬ OnlyByLoad cfg cur.node new.node (betterSignalStrength cfg cur.info new.info) := by
  constructor
  · rintro mono ⟨room, load, count, signal⟩
    have better : isBetterCandidate cfg cur new = true := by
      rw [isBetterCandidate_eq, room, load, count, signal]
      rfl
    have still := mono cur ⟨new.info, { new.node with load := 0 }⟩ (nodesImproved_idle unwrapped)
      ⟨rfl, rfl, Int32.le_refl _, Int32.le_refl _⟩ (unwrapped_idle unwrapped) range better
    rw [isBetterCandidate_eq, hasBetterLoad, belowLoadThreshold_idle, Bool.and_false, Bool.or_false] at still
    have same : belowAssocThreshold cfg cur.node { new.node with load := 0 } = false := count
    rw [same, signal, Bool.or_false, Bool.and_false] at still
    cases still
  · intro notOnly cur' new' nodes signals unwrapped' range' better
    rw [isBetterCandidate_eq, Bool.and_eq_true, Bool.or_eq_true, Bool.or_eq_true] at better
    rw [isBetterCandidate_eq, Bool.and_eq_true, Bool.or_eq_true, Bool.or_eq_true]
    obtain ⟨room, reason⟩ := better
    refine ⟨belowMaxAssoc_improved nodes room, .inl ?_⟩
    exact (other_reason notOnly room reason).imp (belowAssocThreshold_improved nodes unwrapped unwrapped')
      (betterSignalStrength_improved signals range range')

theorem staysBetterReport_iff {nodeOf : MacAddr → Option UsteerNode} {brCur brNew : BeaconReport}
    {nodeCur nodeNew : UsteerNode} (atCur : nodeOf brCur.bssid = some nodeCur)
    (atNew : nodeOf brNew.bssid = some nodeNew) (unwrapped : Unwrapped cfg nodeCur nodeNew) :
    StaysBetterReport cfg nodeOf brCur brNew nodeCur nodeNew ↔
      ¬ OnlyByLoad cfg nodeCur nodeNew (betterSignalStrengthHearingMap cfg brCur brNew) := by
  constructor
  · rintro mono ⟨room, load, count, signal⟩
    have better : isBetterCandidateHearingMap cfg nodeOf brCur brNew = .ok true := by
      rw [isBetterCandidateHearingMap_ok atCur atNew, room, load, count, signal]
      rfl
    have apart : brCur.bssid ≠ brNew.bssid := by
      intro same
      rw [same, atNew] at atCur
      cases atCur
      simp [hasBetterLoad] at load
    let nodeOf' : MacAddr → Option UsteerNode :=
      fun bssid => if bssid = brNew.bssid then some { nodeNew with load := 0 } else nodeOf bssid
    have atCur' : nodeOf' brCur.bssid = some nodeCur := (if_neg apart).trans atCur
    have atNew' : nodeOf' brNew.bssid = some { nodeNew with load := 0 } := if_pos rfl
    have still := mono nodeOf' brCur brNew nodeCur { nodeNew with load := 0 } atCur' atNew'
      (nodesImproved_idle unwrapped) ⟨rfl, rfl, UInt16.le_refl _, UInt16.le_refl _⟩ (unwrapped_idle unwrapped) better
    rw [isBetterCandidateHearingMap_ok atCur' atNew', hasBetterLoad, belowLoadThreshold_idle, Bool.and_false,
      Bool.or_false] at still
    have same : belowAssocThreshold cfg nodeCur { nodeNew with load := 0 } = false := count
    rw [same, signal, Bool.or_false, Bool.and_false] at still
    cases still
  · intro notOnly nodeOf' brCur' brNew' nodeCur' nodeNew' atCur' atNew' nodes reports unwrapped' better
    rw [isBetterCandidateHearingMap_ok atCur atNew, Except.ok.injEq, Bool.and_eq_true, Bool.or_eq_true,
      Bool.or_eq_true] at better
    rw [isBetterCandidateHearingMap_ok atCur' atNew', Except.ok.injEq, Bool.and_eq_true, Bool.or_eq_true,
      Bool.or_eq_true]
    obtain ⟨room, reason⟩ := better
    refine ⟨belowMaxAssoc_improved nodes room, .inl ?_⟩
    exact (other_reason notOnly room reason).imp (belowAssocThreshold_improved nodes unwrapped unwrapped')
      (betterSignalStrengthHearingMap_improved reports)

end Monotonicity

/-- The comparisons of entries and of reports are monotone exactly at the pairs whose new
    node is not better by its load alone. -/
theorem better_mono_iff (cfg : Config) :
    (∀ cur new : Candidate, Unwrapped cfg cur.node new.node → SignalsInRange cur.info new.info →
      (StaysBetter cfg cur new ↔ ¬ OnlyByLoad cfg cur.node new.node (betterSignalStrength cfg cur.info new.info))) ∧
    (∀ (nodeOf : MacAddr → Option UsteerNode) (brCur brNew : BeaconReport) (nodeCur nodeNew : UsteerNode),
      nodeOf brCur.bssid = some nodeCur → nodeOf brNew.bssid = some nodeNew → Unwrapped cfg nodeCur nodeNew →
      (StaysBetterReport cfg nodeOf brCur brNew nodeCur nodeNew ↔
        ¬ OnlyByLoad cfg nodeCur nodeNew (betterSignalStrengthHearingMap cfg brCur brNew))) :=
  ⟨fun _ _ unwrapped range => staysBetter_iff unwrapped range,
    fun _ _ _ _ _ atCur atNew unwrapped => staysBetterReport_iff atCur atNew unwrapped⟩

/-- An entry on a 5 GHz node with ten clients and that load. -/
def loadedEntry (load : Int32) : Candidate where
  info := .zeroed 0 0 5180 0
  node := { sampleNode true with load := load }

/-- An entry on a 5 GHz node without clients. -/
def emptyEntry : Candidate where
  info := .zeroed 0 0 5180 0
  node := sampleNode false

theorem better_mono_by_count : isBetterCandidate usteerInitDefaults (loadedEntry 80) emptyEntry = true ∧
    StaysBetter usteerInitDefaults (loadedEntry 80) emptyEntry := by
  refine ⟨by decide, ((better_mono_iff usteerInitDefaults).1 (loadedEntry 80) emptyEntry ?_ ?_).mpr ?_⟩
  · exact ⟨by decide, by decide, by decide, by decide, by decide, by decide⟩
  · exact ⟨by decide, by decide⟩
  · rintro ⟨-, load, -, -⟩
    exact absurd load (by decide)

/-- A node at 80 percent is preferred to one that is empty, until its load falls. -/
theorem better_by_load_only : Unwrapped usteerInitDefaults emptyEntry.node (loadedEntry 80).node ∧
    SignalsInRange emptyEntry.info (loadedEntry 80).info ∧
    isBetterCandidate usteerInitDefaults emptyEntry (loadedEntry 80) = true ∧
    ¬ StaysBetter usteerInitDefaults emptyEntry (loadedEntry 80) := by
  refine ⟨⟨by decide, by decide, by decide, by decide, by decide, by decide⟩, ⟨by decide, by decide⟩, by decide, ?_⟩
  intro stays
  have nodes : NodesImproved emptyEntry.node (loadedEntry 80).node emptyEntry.node (loadedEntry 70).node :=
    ⟨rfl, rfl, by decide, by decide, by decide, by decide, .inl rfl⟩
  have still := stays emptyEntry (loadedEntry 70) nodes ⟨rfl, rfl, by decide, by decide⟩
    ⟨by decide, by decide, by decide, by decide, by decide, by decide⟩ ⟨by decide, by decide⟩ (by decide)
  exact absurd still (by decide)

end Usteer
