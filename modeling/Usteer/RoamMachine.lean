import Usteer.Policy
import Usteer.Schedule

/-!
The roam machine of one client (`usteer_roam_trigger_sm` and `usteer_roam_set_state`), apart
from the daemon around it: its own fields (`Machine`), what reaches it (`Beat`) and what it
does. From IDLE, with nothing to roam to, it scans as often as it is allowed to, if a byte can
count so far (`machine_scans`); between two returns to SCAN because of stale results it scans,
unless it leaves SCAN at the first chance (`rescans_iff`).
-/
namespace Usteer
open Schedule

/-- The fields of an entry that the roam machine decides by, apart from the signal. -/
structure Machine where
  state : RoamTriggerState
  tries : UInt8
  event : UInt64
  scanDone : UInt64
  deriving DecidableEq, Repr

def StaInfo.machine (info : StaInfo) : Machine := ⟨info.roamState, info.roamTries, info.roamEvent, info.roamScanDone⟩

/-- What reaches the machine of a client: a visit that passes the test, with whether there is
    a better candidate and whether the signal is not above the trigger level; a visit that
    fails it; a station event. -/
inductive Beat where
  | visit (now : UInt64) (better low : Bool)
  | reset (now : UInt64)
  | heard (now : UInt64)
  deriving DecidableEq, Repr

def Beat.time : Beat → UInt64
  | .visit now _ _ => now
  | .reset now => now
  | .heard now => now

@[simp] theorem Beat.time_visit (now : UInt64) (better low : Bool) : (Beat.visit now better low).time = now := rfl

namespace Machine

/-- `usteer_roam_set_state` -/
def set (m : Machine) (now : UInt64) (state : RoamTriggerState) : Machine :=
  { m with
    event := now
    tries := if m.state = state then (if m.state = .idle then 0 else m.tries + 1) else 0
    state := state }

/-- The time for the next scan has come. -/
def Due (cfg : Config) (m : Machine) (now : UInt64) : Prop := ¬ now - m.event < cfg.roamScanInterval.toUInt64

instance (cfg : Config) (m : Machine) (now : UInt64) : Decidable (m.Due cfg now) := inferInstanceAs (Decidable (¬ _))

/-- The limit on scans is reached. -/
def Exhausted (cfg : Config) (m : Machine) : Prop := cfg.roamScanTries ≠ 0 ∧ m.tries.toUInt32 ≥ cfg.roamScanTries

instance (cfg : Config) (m : Machine) : Decidable (m.Exhausted cfg) := inferInstanceAs (Decidable (_ ∧ _))

/-- The results of a scan are too old. -/
def Stale (cfg : Config) (m : Machine) (now : UInt64) : Prop :=
  now - m.scanDone > (2 * cfg.roamScanInterval).toUInt64

instance (cfg : Config) (m : Machine) (now : UInt64) : Decidable (m.Stale cfg now) :=
  inferInstanceAs (Decidable (_ > _))

/-- `usteer_roam_trigger_sm`, with whether a scan is requested. -/
def visit (cfg : Config) (m : Machine) (now : UInt64) (better low : Bool) : Machine × Bool :=
  match m.state with
  | .scan =>
    if ¬ m.Due cfg now then (m, false)
    else if better ∨ m.scanDone > m.event then (m.set now .scanDone, false)
    else if m.Exhausted cfg then (m.set now .waitKick, false)
    else (m.set now .scan, true)
  | .idle => (m.set now (if better then .scanDone else .scan), false)
  | .scanDone =>
    if m.Stale cfg now then (m.set now .scan, false)
    else if better then (m.set now .waitKick, false)
    else (m, false)
  | .waitKick => if low then (m.set now .notifyKick, false) else (m, false)
  | .notifyKick => if now - m.event < (cfg.roamKickDelay * 100).toUInt64 then (m, false) else (m.set now .kick, false)
  | .kick => (m.set now .idle, false)

/-- What a beat makes of the machine. -/
def step (cfg : Config) (m : Machine) : Beat → Machine
  | .visit now better low => (m.visit cfg now better low).1
  | .reset now => m.set now .idle
  | .heard now => { m with scanDone := now }

/-- Whether a beat makes the machine request a scan. -/
def scans (cfg : Config) (m : Machine) : Beat → Bool
  | .visit now better low => (m.visit cfg now better low).2
  | _ => false

/-- The machine after some beats. -/
def run (cfg : Config) (m : Machine) (beats : List Beat) : Machine := beats.foldl (step cfg) m

/-- When the machine requests scans. -/
def scanTimes (cfg : Config) : Machine → List Beat → List UInt64
  | _, [] => []
  | m, beat :: rest => (if m.scans cfg beat then [beat.time] else []) ++ scanTimes cfg (m.step cfg beat) rest

section Runs

variable {cfg : Config} {m : Machine}

@[simp] theorem run_nil : m.run cfg [] = m := rfl

@[simp] theorem run_cons (beat : Beat) (rest : List Beat) :
    m.run cfg (beat :: rest) = (m.step cfg beat).run cfg rest := rfl

theorem run_append (before after : List Beat) : m.run cfg (before ++ after) = (m.run cfg before).run cfg after :=
  List.foldl_append

theorem scanTimes_append (before after : List Beat) :
    m.scanTimes cfg (before ++ after) = m.scanTimes cfg before ++ (m.run cfg before).scanTimes cfg after := by
  induction before generalizing m with
  | nil => rfl
  | cons beat rest ih =>
    simp only [List.cons_append, scanTimes, run_cons]
    rw [ih, List.append_assoc]

/-! ### The gap between scans -/

/-- Beats in the order of time, none before `start`. -/
def Ordered (start : UInt64) (beats : List Beat) : Prop :=
  (start.toNat :: beats.map (fun beat => beat.time.toNat)).Pairwise (· ≤ ·)

theorem ordered_cons {start : UInt64} {beat : Beat} {rest : List Beat} :
    Ordered start (beat :: rest) ↔ start.toNat ≤ beat.time.toNat ∧ Ordered beat.time rest := by
  constructor
  · intro ordered
    have first := List.pairwise_cons.mp ordered
    exact ⟨first.1 _ List.mem_cons_self, first.2⟩
  · rintro ⟨first, ordered⟩
    refine List.pairwise_cons.mpr ⟨fun t inside => ?_, ordered⟩
    rcases List.mem_cons.mp inside with rfl | later
    · exact first
    · exact first.trans ((List.pairwise_cons.mp ordered).1 t later)

theorem Ordered.earlier {start before : UInt64} {beats : List Beat} (ordered : Ordered start beats)
    (le : before.toNat ≤ start.toNat) : Ordered before beats := by
  have first := List.pairwise_cons.mp ordered
  exact List.pairwise_cons.mpr ⟨fun t inside => le.trans (first.1 t inside), first.2⟩

theorem due_iff {now : UInt64} (past : m.event.toNat ≤ now.toNat) :
    m.Due cfg now ↔ m.event.toNat + cfg.roamScanInterval.toNat ≤ now.toNat := by
  have span : (now - m.event).toNat = now.toNat - m.event.toNat :=
    UInt64.toNat_sub_of_le _ _ (UInt64.le_iff_toNat_le.mpr past)
  rw [Due, UInt64.not_lt, UInt64.le_iff_toNat_le, span, UInt32.toNat_toUInt64]
  omega

/-- A beat either leaves the time of the last change alone or sets it to the present, as it
    does with a scan, which is due. -/
theorem event_step (beat : Beat) :
    (m.step cfg beat).event = m.event ∧ m.scans cfg beat = false ∨
      (m.step cfg beat).event = beat.time ∧ (m.scans cfg beat = true → m.Due cfg beat.time) := by
  cases beat with
  | reset now => exact .inr ⟨rfl, by simp [scans]⟩
  | heard now => exact .inl ⟨rfl, rfl⟩
  | visit now better low =>
    simp only [step, scans, Beat.time, visit]
    split
    · split
      · exact .inl ⟨rfl, rfl⟩
      · rename_i due
        rw [not_not] at due
        split
        · exact .inr ⟨rfl, fun _ => due⟩
        · split
          · exact .inr ⟨rfl, fun _ => due⟩
          · exact .inr ⟨rfl, fun _ => due⟩
    · exact .inr ⟨rfl, by simp⟩
    · split
      · exact .inr ⟨rfl, by simp⟩
      · split
        · exact .inr ⟨rfl, by simp⟩
        · exact .inl ⟨rfl, rfl⟩
    · split
      · exact .inr ⟨rfl, by simp⟩
      · exact .inl ⟨rfl, rfl⟩
    · split
      · exact .inl ⟨rfl, rfl⟩
      · exact .inr ⟨rfl, by simp⟩
    · exact .inr ⟨rfl, by simp⟩

/-- Scans are an interval apart, and after the last change of state. -/
theorem scanTimes_spaced (beats : List Beat) (ordered : Ordered m.event beats) :
    (m.event.toNat :: (m.scanTimes cfg beats).map UInt64.toNat).IsChain
      (fun a b => a + cfg.roamScanInterval.toNat ≤ b) := by
  induction beats generalizing m with
  | nil => exact .singleton _
  | cons beat rest ih =>
    obtain ⟨past, ordered⟩ := ordered_cons.mp ordered
    rw [scanTimes]
    rcases @event_step cfg m beat with ⟨same, none⟩ | ⟨now, due⟩
    · have spaced := ih (m := m.step cfg beat) (by rw [same]; exact ordered.earlier past)
      rw [same] at spaced
      rw [none]
      exact spaced
    · have spaced := ih (m := m.step cfg beat) (by rw [now]; exact ordered)
      rw [now] at spaced
      cases scanned : m.scans cfg beat with
      | true =>
        exact List.isChain_cons_cons.mpr ⟨(due_iff past).mp (due scanned), spaced⟩
      | false =>
        cases times : ((m.step cfg beat).scanTimes cfg rest).map UInt64.toNat with
        | nil =>
          rw [List.map_eq_nil_iff] at times
          simp [times]
        | cons first others =>
          rw [times] at spaced
          obtain ⟨gap, chain⟩ := List.isChain_cons_cons.mp spaced
          simp only [Bool.false_eq_true, if_false, List.nil_append, times]
          exact List.isChain_cons_cons.mpr ⟨by omega, chain⟩

/-! ### Scanning with nothing to roam to -/

/-- Visits without a better candidate. -/
def Quiet (beats : List Beat) : Prop := ∀ beat ∈ beats, ∃ now low, beat = .visit now false low

/-- The machine requests so many scans and then enters WAIT_KICK. -/
def Completes (cfg : Config) (m : Machine) (beats : List Beat) (count : Nat) : Prop :=
  ∃ before last after, beats = before ++ last :: after ∧ (m.run cfg before).state = .scan ∧
    (m.run cfg (before ++ [last])).state = .waitKick ∧ (m.scanTimes cfg before).length = count

/-- Visits can be picked that are an interval apart, one for the start, one for each scan and
    one for the end. -/
def Enough (cfg : Config) (beats : List Beat) : Prop :=
  ∃ chosen : List Nat, chosen.Sublist (beats.map (fun beat => beat.time.toNat)) ∧
    chosen.length = cfg.roamScanTries.toNat + 2 ∧ chosen.IsChain (fun a b => a + cfg.roamScanInterval.toNat ≤ b)

theorem Completes.cons {beat : Beat} {rest : List Beat} {count : Nat}
    (completes : Completes cfg (m.step cfg beat) rest count) :
    Completes cfg m (beat :: rest) (if m.scans cfg beat then count + 1 else count) := by
  obtain ⟨before, last, after, rfl, scanning, waits, length⟩ := completes
  refine ⟨beat :: before, last, after, rfl, scanning, waits, ?_⟩
  rw [scanTimes]
  split
  · rw [List.length_append, length]
    exact Nat.add_comm 1 count
  · exact length

/-- A visit of a scanning machine that has nothing to roam to and no new results. -/
theorem visit_scanning {now : UInt64} {low : Bool} (scanning : m.state = .scan) (old : ¬ m.scanDone > m.event) :
    m.visit cfg now false low =
      if m.Due cfg now then
        if m.Exhausted cfg then (m.set now .waitKick, false) else (m.set now .scan, true)
      else (m, false) := by
  rw [visit, scanning]
  by_cases due : m.Due cfg now
  · simp [due, old]
  · simp [due]

/-- The limit can be reached by a byte. -/
def Countable (cfg : Config) : Prop := cfg.roamScanTries.toNat ≤ 255

theorem exhausted_iff (positive : 1 ≤ cfg.roamScanTries.toNat) :
    m.Exhausted cfg ↔ cfg.roamScanTries.toNat ≤ m.tries.toNat := by
  have nonzero : cfg.roamScanTries ≠ 0 := by
    intro zero
    rw [zero] at positive
    simp at positive
  rw [Exhausted, ge_iff_le, UInt32.le_iff_toNat_le, UInt8.toNat_toUInt32]
  exact and_iff_right nonzero

/-- From SCAN, every due visit brings one scan until the limit is reached. -/
theorem scanning_run (positive : 1 ≤ cfg.roamScanTries.toNat) (countable : Countable cfg) (beats : List Beat)
    (scanning : m.state = .scan) (old : m.scanDone.toNat ≤ m.event.toNat)
    (within : m.tries.toNat ≤ cfg.roamScanTries.toNat) (quiet : Quiet beats) (ordered : Ordered m.event beats) :
    let left := cfg.roamScanTries.toNat - m.tries.toNat
    let times := due cfg.roamScanInterval.toNat m.event.toNat (beats.map (fun beat => beat.time.toNat))
    (times ≤ left → (m.run cfg beats).state = .scan ∧ (m.scanTimes cfg beats).length = times) ∧
      (left < times → Completes cfg m beats left) := by
  induction beats generalizing m with
  | nil =>
    refine ⟨fun _ => ⟨scanning, rfl⟩, fun impossible => ?_⟩
    exact absurd impossible (Nat.not_lt_zero _)
  | cons beat rest ih =>
    obtain ⟨now, low, rfl⟩ := quiet beat List.mem_cons_self
    have quiet' : Quiet rest := fun beat inside => quiet beat (List.mem_cons_of_mem _ inside)
    obtain ⟨past, ordered'⟩ := ordered_cons.mp ordered
    have past' : m.event.toNat ≤ now.toNat := past
    have noNews : ¬ m.scanDone > m.event := by
      rw [gt_iff_lt, UInt64.lt_iff_toNat_lt]
      omega
    have visited : m.visit cfg now false low = _ := visit_scanning scanning noNews
    simp only [List.map_cons, Beat.time_visit, Schedule.due]
    by_cases isDue : m.Due cfg now
    · have late := (due_iff past').mp isDue
      rw [if_pos isDue] at visited
      rw [if_neg (Nat.not_lt.mpr late)]
      by_cases exhausted : cfg.roamScanTries.toNat ≤ m.tries.toNat
      · rw [if_pos ((exhausted_iff positive).mpr exhausted)] at visited
        refine ⟨fun impossible => by omega, fun _ => ?_⟩
        refine ⟨[], .visit now false low, rest, rfl, scanning, ?_, ?_⟩
        · simp [step, visited, set]
        · exact (Nat.sub_eq_zero_of_le exhausted).symm
      · rw [if_neg (fun limit => exhausted ((exhausted_iff positive).mp limit))] at visited
        have stepped : m.step cfg (.visit now false low) = m.set now .scan := by simp [step, visited]
        have scanned : m.scans cfg (.visit now false low) = true := by simp [scans, visited]
        have tries : (m.set now .scan).tries.toNat = m.tries.toNat + 1 := by
          have bound : cfg.roamScanTries.toNat ≤ 255 := countable
          simp only [set, scanning, if_true, reduceCtorEq, if_false, UInt8.toNat_add]
          exact Nat.mod_eq_of_lt (by simp; omega)
        have rest' := ih (m := m.set now .scan) rfl (old.trans past') (by rw [tries]; omega) quiet' ordered'
        simp only [tries] at rest'
        obtain ⟨few, many⟩ := rest'
        refine ⟨fun enough => ?_, fun more => ?_⟩
        · obtain ⟨state, length⟩ := few (by simp only [set]; omega)
          rw [run_cons, scanTimes, stepped, scanned]
          refine ⟨state, ?_⟩
          rw [if_pos rfl, List.length_append, length]
          exact Nat.add_comm 1 _
        · have completes : Completes cfg (m.step cfg (.visit now false low)) rest
              (cfg.roamScanTries.toNat - (m.tries.toNat + 1)) := by
            rw [stepped]
            exact many (by simp only [set]; omega)
          have whole := completes.cons
          rw [scanned, if_pos rfl] at whole
          have left :
              cfg.roamScanTries.toNat - (m.tries.toNat + 1) + 1 = cfg.roamScanTries.toNat - m.tries.toNat := by
            omega
          rwa [left] at whole
    · have early : now.toNat < m.event.toNat + cfg.roamScanInterval.toNat := by
        rw [due_iff past'] at isDue
        omega
      rw [if_neg isDue] at visited
      rw [if_pos early]
      have stepped : m.step cfg (.visit now false low) = m := by simp [step, visited]
      have scanned : m.scans cfg (.visit now false low) = false := by simp [scans, visited]
      obtain ⟨few, many⟩ := ih scanning old within quiet' (ordered'.earlier past')
      refine ⟨fun enough => ?_, fun more => ?_⟩
      · rw [run_cons, scanTimes, stepped, scanned]
        exact few enough
      · have completes : Completes cfg (m.step cfg (.visit now false low)) rest
            (cfg.roamScanTries.toNat - m.tries.toNat) := by
          rw [stepped]
          exact many more
        have whole := completes.cons
        rwa [scanned, if_neg Bool.false_ne_true] at whole

/-- A limit beyond a byte is never reached. -/
theorem scanning_forever (beyond : ¬ Countable cfg) (beats : List Beat) (early : m.state = .scan ∨ m.state = .idle)
    {start : UInt64} (old : m.scanDone.toNat ≤ start.toNat)
    (since : m.state = .scan → m.scanDone.toNat ≤ m.event.toNat)
    (quiet : Quiet beats) (ordered : Ordered start beats) :
    (m.run cfg beats).state = .scan ∨ (m.run cfg beats).state = .idle := by
  induction beats generalizing m start with
  | nil => exact early
  | cons beat rest ih =>
    obtain ⟨now, low, rfl⟩ := quiet beat List.mem_cons_self
    have quiet' : Quiet rest := fun beat inside => quiet beat (List.mem_cons_of_mem _ inside)
    obtain ⟨past, ordered'⟩ := ordered_cons.mp ordered
    have past' : m.scanDone.toNat ≤ now.toNat := old.trans past
    rcases early with scanning | idle
    · have noNews : ¬ m.scanDone > m.event := by
        rw [gt_iff_lt, UInt64.lt_iff_toNat_lt]
        have := since scanning
        omega
      have inexhaustible : ¬ m.Exhausted cfg := by
        rintro ⟨-, limit⟩
        rw [ge_iff_le, UInt32.le_iff_toNat_le, UInt8.toNat_toUInt32] at limit
        have byte := m.tries.toNat_lt
        have large : ¬ cfg.roamScanTries.toNat ≤ 255 := beyond
        omega
      have visited : m.visit cfg now false low = _ := visit_scanning scanning noNews
      rw [if_neg inexhaustible] at visited
      rw [run_cons, step, visited]
      split
      · exact ih (m := m.set now .scan) (.inl rfl) past' (fun _ => past') quiet' ordered'
      · exact ih (.inl scanning) past' since quiet' ordered'
    · have stepped : m.step cfg (.visit now false low) = m.set now .scan := by simp [step, visit, idle]
      rw [run_cons, stepped]
      exact ih (m := m.set now .scan) (.inl rfl) past' (fun _ => past') quiet' ordered'

/-- From IDLE, with nothing to roam to: at most as many scans as the limit says before
    WAIT_KICK is entered, and it is entered after exactly so many, once there have been enough
    visits, if a byte can count them; otherwise it never is. -/
theorem machine_scans (positive : 1 ≤ cfg.roamScanTries.toNat) (idle : m.state = .idle) {start : UInt64}
    (old : m.scanDone.toNat ≤ start.toNat) {beats : List Beat} (quiet : Quiet beats) (ordered : Ordered start beats) :
    (Countable cfg → Completes cfg m beats cfg.roamScanTries.toNat ∨
      (m.run cfg beats).state ≠ .waitKick ∧ (m.scanTimes cfg beats).length ≤ cfg.roamScanTries.toNat) ∧
    (Enough cfg beats → (Completes cfg m beats cfg.roamScanTries.toNat ↔ Countable cfg)) := by
  have never (beyond : ¬ Countable cfg) : ¬ Completes cfg m beats cfg.roamScanTries.toNat := by
    rintro ⟨before, last, after, rfl, -, waits, -⟩
    have prefixOf : before ++ last :: after = (before ++ [last]) ++ after := by simp
    rw [prefixOf] at quiet ordered
    have quiet' : Quiet (before ++ [last]) := fun beat inside => quiet beat (List.mem_append_left _ inside)
    have ordered' : Ordered start (before ++ [last]) := by
      rw [Ordered, List.map_append, ← List.cons_append] at ordered
      exact (List.pairwise_append.mp ordered).1
    have state := scanning_forever beyond (before ++ [last]) (.inr idle) old (by simp [idle]) quiet' ordered'
    rw [waits] at state
    simp at state
  cases beats with
  | nil =>
    refine ⟨fun _ => .inr ⟨by simp [idle], Nat.zero_le _⟩, ?_⟩
    rintro ⟨chosen, among, length, -⟩
    rw [List.map_nil, List.sublist_nil] at among
    rw [among] at length
    simp at length
  | cons beat rest =>
    obtain ⟨now, low, rfl⟩ := quiet beat List.mem_cons_self
    have quiet' : Quiet rest := fun beat inside => quiet beat (List.mem_cons_of_mem _ inside)
    obtain ⟨past, ordered'⟩ := ordered_cons.mp ordered
    have stepped : m.step cfg (.visit now false low) = m.set now .scan := by simp [step, visit, idle]
    have unscanned : m.scans cfg (.visit now false low) = false := by simp [scans, visit, idle]
    have zero : (m.set now .scan).tries.toNat = 0 := by simp [set, idle]
    have scanning (countable : Countable cfg) := scanning_run positive countable rest (m := m.set now .scan) rfl
      (old.trans past) (by omega) quiet' ordered'
    simp only [zero, Nat.sub_zero] at scanning
    have complete : Completes cfg (m.set now .scan) rest cfg.roamScanTries.toNat →
        Completes cfg m (.visit now false low :: rest) cfg.roamScanTries.toNat := by
      intro completes
      rw [← stepped] at completes
      have whole := completes.cons
      rwa [unscanned, if_neg Bool.false_ne_true] at whole
    refine ⟨fun countable => ?_, fun enough => ⟨fun completes => ?_, fun countable => ?_⟩⟩
    · obtain ⟨few, many⟩ := scanning countable
      by_cases more : cfg.roamScanTries.toNat < due cfg.roamScanInterval.toNat (m.set now .scan).event.toNat
          (rest.map (fun beat => beat.time.toNat))
      · exact .inl (complete (many more))
      · obtain ⟨state, length⟩ := few (Nat.not_lt.mp more)
        rw [run_cons, scanTimes, stepped, unscanned]
        refine .inr ⟨by simp [state], ?_⟩
        simp only [Bool.false_eq_true, if_false, List.nil_append, length]
        omega
    · by_contra beyond
      exact never beyond completes
    · obtain ⟨chosen, among, length, spaced⟩ := enough
      obtain ⟨-, many⟩ := scanning countable
      refine complete (many ?_)
      cases chosen with
      | nil => simp at length
      | cons first others =>
        obtain ⟨after, sorted⟩ := List.pairwise_cons.mp ordered'
        have notBefore : now.toNat ≤ first := by
          rcases List.mem_cons.mp (among.subset List.mem_cons_self) with same | later
          · exact same.ge
          · exact after first later
        have longer := length_le_due sorted notBefore spaced among.tail
        rw [List.length_cons] at length
        change _ < due _ now.toNat _
        omega

theorem scanTimes_spaced_of_idle (idle : m.state = .idle) {start : UInt64} {beats : List Beat} (quiet : Quiet beats)
    (ordered : Ordered start beats) :
    ((m.scanTimes cfg beats).map UInt64.toNat).IsChain (fun a b => a + cfg.roamScanInterval.toNat ≤ b) := by
  cases beats with
  | nil => exact .nil
  | cons beat rest =>
    obtain ⟨now, low, rfl⟩ := quiet beat List.mem_cons_self
    obtain ⟨-, ordered⟩ := ordered_cons.mp ordered
    have stepped : m.step cfg (.visit now false low) = m.set now .scan := by simp [step, visit, idle]
    have unscanned : m.scans cfg (.visit now false low) = false := by simp [scans, visit, idle]
    have spaced := @scanTimes_spaced cfg (m.set now .scan) rest ordered
    rw [scanTimes, stepped, unscanned]
    exact spaced.tail

/-! ### Returning to scanning -/

/-- A visit that sends the machine from SCAN_DONE back to SCAN, because of stale results. -/
def FallsBack (cfg : Config) (m : Machine) : Beat → Prop
  | .visit now _ _ => m.state = .scanDone ∧ m.Stale cfg now
  | _ => False

instance (cfg : Config) (m : Machine) : (beat : Beat) → Decidable (FallsBack cfg m beat)
  | .visit .. => inferInstanceAs (Decidable (_ ∧ _))
  | .reset _ => inferInstanceAs (Decidable False)
  | .heard _ => inferInstanceAs (Decidable False)

/-- A visit at which a scan is due and SCAN is left for SCAN_DONE instead. -/
def LeavesScan (cfg : Config) (m : Machine) : Beat → Prop
  | .visit now better _ => m.state = .scan ∧ m.Due cfg now ∧ (better = true ∨ m.scanDone > m.event)
  | _ => False

instance (cfg : Config) (m : Machine) : (beat : Beat) → Decidable (LeavesScan cfg m beat)
  | .visit .. => inferInstanceAs (Decidable (_ ∧ _ ∧ _))
  | .reset _ => inferInstanceAs (Decidable False)
  | .heard _ => inferInstanceAs (Decidable False)

/-- Without a scan, the machine stays in SCAN. -/
theorem stays_scanning (between : List Beat) (scanning : m.state = .scan) (fresh : m.tries = 0)
    (persists : ∀ some next others, between = some ++ next :: others → ¬ LeavesScan cfg (m.run cfg some) next)
    (awake : ∀ some others, between = some ++ others → (m.run cfg some).state ≠ .idle)
    (none : m.scanTimes cfg between = []) : (m.run cfg between).state = .scan := by
  induction between generalizing m with
  | nil => exact scanning
  | cons beat rest ih =>
    rw [scanTimes, List.append_eq_nil_iff] at none
    have unscanned : m.scans cfg beat = false := by
      by_contra scanned
      rw [Bool.not_eq_false] at scanned
      simp [scanned] at none
    have stays : (m.step cfg beat).state = .scan ∧ (m.step cfg beat).tries = 0 := by
      cases beat with
      | heard now => exact ⟨scanning, fresh⟩
      | reset now => exact absurd rfl (awake [.reset now] rest rfl)
      | visit now better low =>
        by_cases due : m.Due cfg now
        · have stays := persists [] (.visit now better low) rest rfl
          have quiet : ¬ (better = true ∨ m.scanDone > m.event) := fun leaves => stays ⟨scanning, due, leaves⟩
          have inexhausted : ¬ m.Exhausted cfg := by
            rintro ⟨limited, reached⟩
            rw [fresh] at reached
            exact limited (UInt32.le_zero_iff.mp reached)
          rw [scans, visit, scanning] at unscanned
          simp [due, quiet, inexhausted] at unscanned
        · rw [step, visit, scanning]
          simp [due, scanning, fresh]
    rw [run_cons]
    refine ih stays.1 stays.2 (fun some next others split => ?_) (fun some others split => ?_) none.2
    · exact persists (beat :: some) next others (by rw [split, List.cons_append])
    · exact awake (beat :: some) others (by rw [split, List.cons_append])

/-- A fall-back leaves a machine that has not scanned yet. -/
theorem scanning_of_fallsBack {beat : Beat} (fell : FallsBack cfg m beat) :
    (m.step cfg beat).state = .scan ∧ (m.step cfg beat).tries = 0 := by
  cases beat with
  | visit now better low =>
    obtain ⟨done, stale⟩ := fell
    rw [step, visit, done]
    simp [stale, set, done]
  | reset now => exact fell.elim
  | heard now => exact fell.elim

theorem done_of_fallsBack {beat : Beat} (fell : FallsBack cfg m beat) : m.state = .scanDone := by
  cases beat with
  | visit now better low => exact fell.1
  | reset now => exact fell.elim
  | heard now => exact fell.elim

/-- Away from SCAN and IDLE, a beat requests no scan, and leads there only by a fall-back or a
    return to IDLE. -/
theorem step_away {beat : Beat} (away : m.state ≠ .scan ∧ m.state ≠ .idle) (onward : ¬ FallsBack cfg m beat) :
    m.scans cfg beat = false ∧ (m.step cfg beat).state ≠ .scan := by
  obtain ⟨unscanning, unidle⟩ := away
  cases beat with
  | heard now => exact ⟨rfl, unscanning⟩
  | reset now => exact ⟨rfl, by simp [step, set]⟩
  | visit now better low =>
    rw [scans, step, visit]
    cases state : m.state with
    | scan => exact absurd state unscanning
    | idle => exact absurd state unidle
    | scanDone =>
      have fresh : ¬ m.Stale cfg now := fun stale => onward ⟨state, stale⟩
      dsimp only
      rw [if_neg fresh]
      split
      · exact ⟨rfl, by simp [set]⟩
      · exact ⟨rfl, unscanning⟩
    | waitKick =>
      dsimp only
      split
      · exact ⟨rfl, by simp [set]⟩
      · exact ⟨rfl, unscanning⟩
    | notifyKick =>
      dsimp only
      split
      · exact ⟨rfl, unscanning⟩
      · exact ⟨rfl, by simp [set]⟩
    | kick => exact ⟨rfl, by simp [set]⟩

theorem scanTimes_away (beats : List Beat) (unscanning : m.state ≠ .scan)
    (onward : ∀ read next others, beats = read ++ next :: others → ¬ FallsBack cfg (m.run cfg read) next)
    (awake : ∀ read others, beats = read ++ others → (m.run cfg read).state ≠ .idle) :
    m.scanTimes cfg beats = [] := by
  induction beats generalizing m with
  | nil => rfl
  | cons beat rest ih =>
    obtain ⟨unscanned, still⟩ := step_away ⟨unscanning, awake [] (beat :: rest) rfl⟩ (onward [] beat rest rfl)
    rw [scanTimes, unscanned]
    refine ih still (fun read next others split => ?_) (fun read others split => ?_)
    · exact onward (beat :: read) next others (by rw [split, List.cons_append])
    · exact awake (beat :: read) others (by rw [split, List.cons_append])

theorem done_of_leavesScan {beat : Beat} (leaves : LeavesScan cfg m beat) :
    (m.step cfg beat).state = .scanDone ∧ m.scans cfg beat = false := by
  cases beat with
  | visit now better low =>
    obtain ⟨scanning, due, leaves⟩ := leaves
    rw [step, scans, visit, scanning]
    simp [due, leaves, set]
  | reset now => exact leaves.elim
  | heard now => exact leaves.elim

/-- Between two fall-backs, a scan is requested exactly when the first one is not passed over. -/
theorem rescans_iff {first second : Beat} {between : List Beat} (fell : FallsBack cfg m first)
    (again : FallsBack cfg ((m.step cfg first).run cfg between) second)
    (successive : ∀ read next others, between = read ++ next :: others →
      ¬ FallsBack cfg ((m.step cfg first).run cfg read) next)
    (awake : ∀ read others, between = read ++ others → ((m.step cfg first).run cfg read).state ≠ .idle) :
    (m.step cfg first).scanTimes cfg between ≠ [] ↔
      ∀ read next others, between = read ++ next :: others → (m.step cfg first).scanTimes cfg read = [] →
        ¬ LeavesScan cfg ((m.step cfg first).run cfg read) next := by
  obtain ⟨scanning, fresh⟩ := scanning_of_fallsBack fell
  constructor
  · rintro scans read next others rfl none leaves
    obtain ⟨done, unscanned⟩ := done_of_leavesScan leaves
    refine scans ?_
    rw [scanTimes_append, none, scanTimes, unscanned]
    refine scanTimes_away others (by simp [done]) (fun more next' others' split => ?_) (fun more others' split => ?_)
    · have onward := successive (read ++ next :: more) next' others' (by rw [split]; simp)
      rwa [run_append] at onward
    · have onward := awake (read ++ next :: more) others' (by rw [split]; simp)
      rwa [run_append] at onward
  · intro persists none
    have state := stays_scanning between scanning fresh (fun read next others split => ?_) awake none
    · rw [done_of_fallsBack again] at state
      cases state
    · refine persists read next others split ?_
      rw [split, scanTimes_append, List.append_eq_nil_iff] at none
      exact none.1

end Runs
end Machine
end Usteer
