import Usteer.LocalNode

/-!
The channel load of a local node. `nl80211_update_node_result` takes the time and the busy
time since the last survey result of the operating channel and averages their ratio. The
counters it subtracts are those of the last result it took over, whatever channel that came
from; when each result follows one of its own channel (`Tied`), the load stays a percentage
(`load_percentage`). The average is exact here, while the code has a `float`.
-/
namespace Usteer

/-- `struct usteer_survey_data` -/
structure UsteerSurveyData where
  freq : UInt16
  noise : Int8
  time : UInt64
  timeBusy : UInt64
  deriving DecidableEq, Repr

/-- What nl80211.c uses of `struct usteer_local_node`. -/
structure SurveyedNode where
  node : UsteerNode
  loadEwma : ℚ
  time : UInt64
  timeBusy : UInt64

/-- A new local node once `nl80211_init_node` has found its interface. -/
def SurveyedNode.initial (name : CString) : SurveyedNode where
  node := Daemon.newLocalNode name
  loadEwma := -1
  time := 0
  timeBusy := 0

/-- A floating-point number as an `int`: the fraction is cut off, and a number that does not
    fit has no defined value. -/
def intOfFloat (value : ℚ) : Option Int32 :=
  let whole := value.num.tdiv value.den
  if -2 ^ 31 ≤ whole ∧ whole < 2 ^ 31 then some (Int32.ofInt whole) else none

/-- The next value of `load_ewma`. -/
def nextEwma (loadEwma cur : ℚ) : ℚ :=
  if loadEwma < 0 then cur else 85 / 100 * loadEwma + 15 / 100 * cur

/-- `nl80211_update_node_result` -/
def nl80211UpdateNodeResult (ln : SurveyedNode) (d : UsteerSurveyData) : Option SurveyedNode :=
  if (d.freq.toNat : ℤ) ≠ ln.node.freq.toInt then some ln
  else
    let node := if d.noise ≠ 0 then { ln.node with noise := d.noise.toInt32 } else ln.node
    let delta : UInt32 := if ln.time ≠ 0 then (d.time - ln.time).toUInt32 else 0
    let deltaBusy : UInt32 := if ln.time ≠ 0 then (d.timeBusy - ln.timeBusy).toUInt32 else 0
    if delta ≠ 0 then
      let loadEwma := nextEwma ln.loadEwma (100 * deltaBusy / delta).toNat
      (intOfFloat loadEwma).map fun load => ⟨{ node with load := load }, loadEwma, d.time, d.timeBusy⟩
    else some ⟨node, ln.loadEwma, d.time, d.timeBusy⟩

/-- What happens to the load of a local node: a survey result arrives, of any channel, or
    `usteer_local_node_list_cb` notes the operating channel. -/
inductive SurveyInput where
  | survey (d : UsteerSurveyData)
  | channel (freq : Int32)
  deriving DecidableEq, Repr

/-- One input. -/
def SurveyedNode.handle (ln : SurveyedNode) : SurveyInput → Option SurveyedNode
  | .survey d => nl80211UpdateNodeResult ln d
  | .channel freq => some { ln with node := { ln.node with freq := freq } }

/-- The inputs one after the other. -/
def SurveyedNode.run (ln : SurveyedNode) : List SurveyInput → Option SurveyedNode
  | [] => some ln
  | input :: rest => (ln.handle input).bind fun ln => ln.run rest

/-- The survey results of a channel. -/
def surveysOn (freq : UInt16) (inputs : List SurveyInput) : List UsteerSurveyData :=
  inputs.filterMap fun
    | .survey d => if d.freq = freq then some d else none
    | .channel _ => none

/-- A later reading of the counters: neither decreases, and the busy time grows by no more
    than the time. -/
structure Later (e d : UsteerSurveyData) : Prop where
  time : e.time.toNat ≤ d.time.toNat
  busy : e.timeBusy.toNat ≤ d.timeBusy.toNat
  share : d.timeBusy.toNat - e.timeBusy.toNat ≤ d.time.toNat - e.time.toNat

/-- On each channel every result is a later reading than the one before, by at most `2 ^ 25`
    milliseconds. -/
def CountsTime (inputs : List SurveyInput) : Prop :=
  ∀ freq, (surveysOn freq inputs).IsChain fun e d => Later e d ∧ d.time.toNat - e.time.toNat ≤ 2 ^ 25

/-- Every result of the operating channel comes on the channel of the one that was taken over
    before it, less than `2 ^ 32` milliseconds later, unless that had no time; with the
    operating channel and the result last taken over. -/
def Tied : Int32 → Option UsteerSurveyData → List SurveyInput → Prop
  | _, _, [] => True
  | _, last, .channel freq :: rest => Tied freq last rest
  | freq, last, .survey d :: rest =>
    if (d.freq.toNat : ℤ) ≠ freq.toInt then Tied freq last rest
    else (∀ e, last = some e → e.time ≠ 0 → e.freq = d.freq ∧ d.time.toNat < e.time.toNat + 2 ^ 32) ∧
      Tied freq (some d) rest

/-- The load is a percentage. -/
def Percentage (ln : SurveyedNode) : Prop :=
  0 ≤ ln.node.load.toInt ∧ ln.node.load.toInt ≤ 100

theorem Later.trans {e d c : UsteerSurveyData} (first : Later e d) (second : Later d c) : Later e c where
  time := first.time.trans second.time
  busy := first.busy.trans second.busy
  share := by
    have := first.share
    have := second.share
    have := first.time
    have := second.time
    have := first.busy
    omega

instance : Trans Later Later Later := ⟨Later.trans⟩

/-- Of two results of one channel the second is the later reading. -/
theorem CountsTime.later {inputs : List SurveyInput} (counts : CountsTime inputs) :
    inputs.Pairwise fun a b => ∀ e d, a = .survey e → b = .survey d → e.freq = d.freq → Later e d := by
  have pairs (freq : UInt16) : (surveysOn freq inputs).Pairwise Later :=
    (List.IsChain.imp (fun _ _ step => step.1) (counts freq)).pairwise
  clear counts
  induction inputs with
  | nil => exact .nil
  | cons a rest ih =>
    rw [List.pairwise_cons]
    constructor
    · intro b listed e d ha hb same
      subst ha hb
      have front := pairs d.freq
      simp only [surveysOn, List.filterMap_cons, same, if_true, List.pairwise_cons] at front
      exact front.1 d (List.mem_filterMap.mpr ⟨_, listed, by simp⟩)
    · apply ih
      intro freq
      refine (pairs freq).sublist ?_
      exact (List.sublist_cons_self a rest).filterMap _

section Step

variable {ln : SurveyedNode}

theorem intOfFloat_percentage {value : ℚ} (low : 0 ≤ value) (high : value ≤ 100) :
    ∃ load, intOfFloat value = some load ∧ 0 ≤ load.toInt ∧ load.toInt ≤ 100 := by
  have nonneg : 0 ≤ value.num := Rat.num_nonneg.mpr low
  have positive : (0 : ℤ) < value.den := by exact_mod_cast value.den_pos
  have below : value.num.tdiv value.den ≤ 100 := by
    rw [Int.tdiv_eq_ediv_of_nonneg nonneg]
    refine Int.ediv_le_of_le_mul positive ?_
    have scaled : (value.num : ℚ) ≤ 100 * value.den := by
      have := mul_le_mul_of_nonneg_right high (by exact_mod_cast positive.le : (0 : ℚ) ≤ value.den)
      rwa [Rat.mul_den_eq_num] at this
    exact_mod_cast scaled
  have above : 0 ≤ value.num.tdiv value.den := Int.tdiv_nonneg nonneg positive.le
  refine ⟨Int32.ofInt (value.num.tdiv value.den), if_pos ⟨by omega, by omega⟩, ?_⟩
  have exact : (Int32.ofInt (value.num.tdiv value.den)).toInt = value.num.tdiv value.den :=
    Int32.toInt_ofInt_of_le (by omega) (by omega)
  rw [exact]
  exact ⟨above, below⟩

theorem nextEwma_percentage {loadEwma cur : ℚ} (average : loadEwma < 0 ∨ 0 ≤ loadEwma ∧ loadEwma ≤ 100)
    (low : 0 ≤ cur) (high : cur ≤ 100) : 0 ≤ nextEwma loadEwma cur ∧ nextEwma loadEwma cur ≤ 100 := by
  unfold nextEwma
  rcases average with fresh | ⟨lowBefore, highBefore⟩
  · rw [if_pos fresh]
    exact ⟨low, high⟩
  · rw [if_neg (not_lt.mpr lowBefore)]
    constructor <;> linarith

/-- The ratio of the two 32-bit differences is a percentage, even when the product wraps. -/
theorem ratio_percentage {delta deltaBusy : UInt32} (positive : delta ≠ 0) (share : deltaBusy.toNat ≤ delta.toNat) :
    (100 * deltaBusy / delta).toNat ≤ 100 := by
  have above : 0 < delta.toNat := by
    rcases Nat.eq_zero_or_pos delta.toNat with none | some
    · exact absurd (UInt32.toNat_inj.mp none) positive
    · exact some
  rw [UInt32.toNat_div, UInt32.toNat_mul]
  refine Nat.div_le_of_le_mul ?_
  calc 100 * deltaBusy.toNat % 2 ^ 32 ≤ 100 * deltaBusy.toNat := Nat.mod_le _ _
    _ ≤ delta.toNat * 100 := by omega

/-- The differences against an earlier reading that is not too old keep their order. -/
theorem deltas_ordered {e d : UsteerSurveyData} (later : Later e d) (soon : d.time.toNat < e.time.toNat + 2 ^ 32) :
    (d.timeBusy - e.timeBusy).toUInt32.toNat ≤ (d.time - e.time).toUInt32.toNat := by
  have time := later.time
  have busy := later.busy
  have share := later.share
  rw [UInt64.toNat_toUInt32, UInt64.toNat_toUInt32, UInt64.toNat_sub_of_le _ _ (UInt64.le_iff_toNat_le.mpr time),
    UInt64.toNat_sub_of_le _ _ (UInt64.le_iff_toNat_le.mpr busy), Nat.mod_eq_of_lt (by omega),
    Nat.mod_eq_of_lt (by omega)]
  exact share

/-- What holds between two inputs: the saved counters are those of the result last taken over,
    and the average is a percentage once there is one. -/
structure Averaged (last : Option UsteerSurveyData) (ln : SurveyedNode) : Prop where
  time : ln.time = last.elim 0 (·.time)
  timeBusy : ln.timeBusy = last.elim 0 (·.timeBusy)
  average : ln.loadEwma < 0 ∨ 0 ≤ ln.loadEwma ∧ ln.loadEwma ≤ 100
  load : Percentage ln

/-- A result of the operating channel that is a later reading of the saved counters keeps
    the load a percentage. -/
theorem averaged_update {last : Option UsteerSurveyData} {d : UsteerSurveyData} (averaged : Averaged last ln)
    (operating : (d.freq.toNat : ℤ) = ln.node.freq.toInt)
    (tied : ∀ e, last = some e → e.time ≠ 0 → Later e d ∧ d.time.toNat < e.time.toNat + 2 ^ 32) :
    ∃ ln', nl80211UpdateNodeResult ln d = some ln' ∧ Averaged (some d) ln' ∧ ln'.node.freq = ln.node.freq := by
  have ordered (saved : ln.time ≠ 0) :
      (d.timeBusy - ln.timeBusy).toUInt32.toNat ≤ (d.time - ln.time).toUInt32.toNat := by
    cases last with
    | none => exact absurd averaged.time saved
    | some e =>
      rw [averaged.time] at saved ⊢
      rw [averaged.timeBusy]
      obtain ⟨later, soon⟩ := tied e rfl saved
      exact deltas_ordered later soon
  unfold nl80211UpdateNodeResult
  rw [if_neg (not_not_intro operating)]
  -- the noise has no part in this
  have kept : (if d.noise ≠ 0 then { ln.node with noise := d.noise.toInt32 } else ln.node).freq = ln.node.freq ∧
      (if d.noise ≠ 0 then { ln.node with noise := d.noise.toInt32 } else ln.node).load = ln.node.load := by
    split <;> exact ⟨rfl, rfl⟩
  generalize (if d.noise ≠ 0 then { ln.node with noise := d.noise.toInt32 } else ln.node) = node at kept
  by_cases counted : ln.time ≠ 0 ∧ (d.time - ln.time).toUInt32 ≠ 0
  · obtain ⟨saved, passed⟩ := counted
    have share := ratio_percentage passed (ordered saved)
    simp only [if_pos saved, if_pos passed]
    have mean := nextEwma_percentage averaged.average (Nat.cast_nonneg _) (by exact_mod_cast share)
    obtain ⟨load, conversion, within⟩ := intOfFloat_percentage mean.1 mean.2
    rw [conversion]
    exact ⟨⟨{ node with load := load }, _, d.time, d.timeBusy⟩, rfl, ⟨rfl, rfl, .inr mean, within⟩, kept.1⟩
  · have unchanged : ¬ (if ln.time ≠ 0 then (d.time - ln.time).toUInt32 else 0) ≠ 0 := by
      split
      · exact fun passed => counted ⟨‹_›, passed⟩
      · exact not_not_intro rfl
    simp only [if_neg unchanged]
    refine ⟨⟨node, ln.loadEwma, d.time, d.timeBusy⟩, rfl, ⟨rfl, rfl, averaged.average, ?_⟩, kept.1⟩
    show 0 ≤ node.load.toInt ∧ node.load.toInt ≤ 100
    rw [kept.2]
    exact averaged.load

/-- Along a run: the result last taken over is an earlier reading than all that follow on its
    channel. -/
theorem percentage_run {inputs : List SurveyInput} {last : Option UsteerSurveyData} (averaged : Averaged last ln)
    (tied : Tied ln.node.freq last inputs)
    (counts : inputs.Pairwise fun a b => ∀ e d, a = .survey e → b = .survey d → e.freq = d.freq → Later e d)
    (after : ∀ e, last = some e → ∀ d, .survey d ∈ inputs → e.freq = d.freq → Later e d) (k : Nat) :
    ∃ ln', ln.run (inputs.take k) = some ln' ∧ Percentage ln' := by
  induction inputs generalizing ln last k with
  | nil =>
    rw [List.take_nil]
    exact ⟨ln, rfl, averaged.load⟩
  | cons input rest ih =>
    cases k with
    | zero => exact ⟨ln, rfl, averaged.load⟩
    | succ k =>
      rw [List.take_succ_cons]
      obtain ⟨front, behind⟩ := List.pairwise_cons.mp counts
      have later : ∀ e, last = some e → ∀ d, .survey d ∈ rest → e.freq = d.freq → Later e d :=
        fun e saved d listed => after e saved d (List.mem_cons_of_mem _ listed)
      cases input with
      | channel freq =>
        have moved : Averaged last { ln with node := { ln.node with freq := freq } } :=
          ⟨averaged.time, averaged.timeBusy, averaged.average, averaged.load⟩
        exact ih moved tied behind later k
      | survey d =>
        by_cases operating : (d.freq.toNat : ℤ) = ln.node.freq.toInt
        · rw [Tied, if_neg (not_not_intro operating)] at tied
          obtain ⟨ln', step, averaged, same⟩ := averaged_update averaged operating fun e saved counted =>
            ⟨after e saved d List.mem_cons_self (tied.1 e saved counted).1, (tied.1 e saved counted).2⟩
          obtain ⟨last', runs, within⟩ := ih averaged (same ▸ tied.2) behind
            (fun e saved c listed channel => by cases saved; exact front _ listed d c rfl rfl channel) k
          refine ⟨last', ?_, within⟩
          show (nl80211UpdateNodeResult ln d).bind _ = _
          rw [step]
          exact runs
        · rw [Tied, if_pos operating] at tied
          obtain ⟨last', runs, within⟩ := ih averaged tied behind later k
          refine ⟨last', ?_, within⟩
          show (nl80211UpdateNodeResult ln d).bind _ = _
          rw [nl80211UpdateNodeResult, if_pos operating]
          exact runs

end Step

/-- Of the node's record a survey result changes the noise and the load, if anything. -/
theorem survey_changes_load {ln ln' : SurveyedNode} {d : UsteerSurveyData} (taken : nl80211UpdateNodeResult ln d = some ln') :
    ∃ noise load, ln'.node = { ln.node with noise := noise, load := load } := by
  unfold nl80211UpdateNodeResult at taken
  split at taken
  · cases taken
    exact ⟨ln.node.noise, ln.node.load, rfl⟩
  · have noise : ∃ noise, (if d.noise ≠ 0 then { ln.node with noise := d.noise.toInt32 } else ln.node) =
        { ln.node with noise := noise } := by
      split
      · exact ⟨_, rfl⟩
      · exact ⟨ln.node.noise, rfl⟩
    obtain ⟨noise, same⟩ := noise
    generalize (if ln.time ≠ 0 then (d.time - ln.time).toUInt32 else 0) = delta at taken
    simp only [same] at taken
    by_cases passed : delta ≠ 0
    · rw [if_pos passed] at taken
      obtain ⟨load, -, rfl⟩ := Option.map_eq_some_iff.mp taken
      exact ⟨noise, load, rfl⟩
    · rw [if_neg passed] at taken
      cases taken
      exact ⟨noise, ln.node.load, rfl⟩

theorem averaged_initial (name : CString) : Averaged none (.initial name) where
  time := rfl
  timeBusy := rfl
  average := .inl (by show (-1 : ℚ) < 0; decide)
  load := ⟨le_rfl, by show (0 : ℤ) ≤ 100; decide⟩

/-- In a run of survey results and channel changes in which each result of the operating
    channel follows one of the same channel, the load is a percentage in every state. -/
theorem load_percentage (name : CString) (inputs : List SurveyInput) (counts : CountsTime inputs)
    (tied : Tied 0 none inputs) (k : Nat) :
    ∃ ln, (SurveyedNode.initial name).run (inputs.take k) = some ln ∧ Percentage ln :=
  percentage_run (averaged_initial name) tied counts.later (fun _ saved => nomatch saved) k

/-- Only the channels with a result matter. -/
theorem countsTime_of_surveys {inputs : List SurveyInput}
    (chains : ∀ d, .survey d ∈ inputs → (surveysOn d.freq inputs).IsChain fun e d =>
      Later e d ∧ d.time.toNat - e.time.toNat ≤ 2 ^ 25) : CountsTime inputs := by
  intro freq
  by_cases empty : surveysOn freq inputs = []
  · rw [empty]
    exact .nil
  · obtain ⟨d, found⟩ := List.exists_mem_of_ne_nil _ empty
    obtain ⟨input, listed, same⟩ := List.mem_filterMap.mp found
    cases input with
    | channel other => cases same
    | survey e =>
      by_cases on : e.freq = freq
      · subst on
        exact chains e listed
      · simp only [on, if_false, reduceCtorEq] at same

/-- A node on channel 1 with results of two channels, of which it takes over the first and the
    last. -/
def oneChannel : List SurveyInput :=
  [.channel 2412, .survey ⟨2412, -95, 1000, 100⟩, .survey ⟨2437, -95, 1010, 900⟩, .survey ⟨2412, -95, 2000, 600⟩]

theorem load_percentage_one_channel :
    CountsTime oneChannel ∧ Tied 0 none oneChannel ∧
      ∃ ln, (SurveyedNode.initial []).run (oneChannel.take 4) = some ln ∧ Percentage ln := by
  have counts : CountsTime oneChannel := by
    refine countsTime_of_surveys fun d listed => ?_
    have one : (surveysOn 2412 oneChannel).IsChain fun e d => Later e d ∧ d.time.toNat - e.time.toNat ≤ 2 ^ 25 :=
      .cons_cons ⟨⟨by decide, by decide, by decide⟩, by decide⟩ (.singleton _)
    simp only [oneChannel, List.mem_cons, reduceCtorEq, SurveyInput.survey.injEq, List.not_mem_nil, false_or,
      or_false] at listed
    rcases listed with rfl | rfl | rfl
    · exact one
    · exact .singleton _
    · exact one
  have tied : Tied 0 none oneChannel := by
    simp only [Tied, oneChannel]
    decide
  exact ⟨counts, tied, load_percentage [] oneChannel counts tied 4⟩

/-- A node that changes to channel 6 after its first result. -/
def changesChannel : List SurveyInput :=
  [.channel 2412, .survey ⟨2412, -95, 1000, 100⟩, .channel 2437, .survey ⟨2437, -95, 1010, 900⟩]

/-- The first result after a change of the channel is taken for ten milliseconds of which 800
    were busy. -/
theorem load_not_percentage :
    ¬ ∀ name inputs, CountsTime inputs → ∀ k, ∃ ln,
      (SurveyedNode.initial name).run (inputs.take k) = some ln ∧ Percentage ln := by
  intro always
  have counts : CountsTime changesChannel := by
    refine countsTime_of_surveys fun d listed => ?_
    simp only [changesChannel, List.mem_cons, reduceCtorEq, SurveyInput.survey.injEq, List.not_mem_nil, false_or,
      or_false] at listed
    rcases listed with rfl | rfl <;> exact .singleton _
  obtain ⟨ln, runs, -, high⟩ := always [] changesChannel counts 4
  have load : ((SurveyedNode.initial []).run (changesChannel.take 4)).map (·.node.load.toInt) = some 8000 := by
    decide +kernel
  rw [runs] at load
  have whole : ln.node.load.toInt = 8000 := Option.some.inj load
  omega

end Usteer
