import Usteer.Effects
import Usteer.Runs

/-!
How often in a row a station's requests are refused. The daemon counts the refusals of
an entry and gives in at `max_retry_band`, and forgets the count when the last refusal
is long ago. That age is computed with its operands exchanged, so the count is in fact
forgotten at every request that comes in a later millisecond. As long as it is not
forgotten, no more than `max_retry_band` requests in a row are refused (`retry_limit`).
-/
namespace Usteer
open SearchTree Timeout Function Daemon

/-- A call of `usteer_handle_sta_event`: when, and the answer. -/
structure Call where
  time : UInt64
  answer : Bool
  deriving DecidableEq

/-- Among the calls, when each comes at most `sta_block_timeout` after the one before, no
    more than `max_retry_band` in a row are refused. -/
def RetryLimit (cfg : Config) (calls : List Call) : Prop :=
  calls.IsChain (fun earlier later => later.time.toNat ≤ earlier.time.toNat + cfg.staBlockTimeout.toNat) →
    ∀ block, block <:+: calls → block.length = cfg.maxRetryBand.toNat + 1 → ∃ call ∈ block, call.answer = true

/-- A stretch of a run with the calls of one type for a station and a node, whose entry
    lives on from the first of them. -/
inductive Calls (env : Platform) (cfg : Config) (meets : Daemon → Prop) (addr : MacAddr) (n : NodeId) (type : EventType)
    (si : SiId) : Daemon → List Call → Daemon → Prop where
  | start {d} : Calls env cfg meets addr n type si d [] d
  | call {d calls d1 d2 answer} (freq signal : Int32) (before : Calls env cfg meets addr n type si d calls d1)
      (accepts : d1.Accepts (.staEvent n addr type freq signal)) (met : meets d1)
      (run : d1.usteerUpdateTime.usteerHandleStaEvent env cfg n addr type freq signal = .ok (answer, d2))
      (lives : ∃ info, EntryOf d2 addr n si info) :
      Calls env cfg meets addr n type si d (calls ++ [⟨d1.clock, answer⟩]) d2
  | other {d calls d1 d2} (input : Input) (before : Calls env cfg meets addr n type si d calls d1)
      (accepts : d1.Accepts input) (different : ∀ freq signal, input ≠ .staEvent n addr type freq signal)
      (run : d1.handle env cfg input = .ok d2) (lives : calls ≠ [] → ∃ info, EntryOf d2 addr n si info) :
      Calls env cfg meets addr n type si d calls d2

/-- A request now would find the refusals counted so far. -/
def Remembers (cfg : Config) (type : EventType) (si : SiId) (d : Daemon) : Prop :=
  ∀ info ∈ d.infos.get? si, (info.stats type).blockedCur ≠ 0 →
    (info.stats type).blockedLastTime - d.clock.toUInt32 ≤ cfg.staBlockTimeout

section Blocking

variable {env : Platform} {cfg : Config} {scope : Scope} {d d' : Daemon} {addr : MacAddr} {n : NodeId} {type : EventType}
  {si : SiId}

theorem reachable_calls {meets : Daemon → Prop} {calls : List Call} (reach : Reachable env cfg d)
    (run : Calls env cfg meets addr n type si d calls d') : Reachable env cfg d' := by
  induction run with
  | start => exact reach
  | call freq signal _ accepts _ run _ ih => exact .step _ ih accepts (by rw [handle, run]; rfl)
  | other input _ accepts _ run _ ih => exact .step input ih accepts run

/-! ### Other inputs do not count -/

theorem stats_move {a b : Option StaId × Daemon} {info : StaInfo} (type : EventType) (move : Move env cfg scope a b)
    (live : a.2.infos.get? si = some info) : ∃ info', b.2.infos.get? si = some info' ∧
      (info'.stats type = info.stats type ∨ ∃ addr n, scope.request = some (addr, n, type) ∧ EntryOf a.2 addr n si info) := by
  have edited : ∀ {d : Daemon} {j : SiId} {f : StaInfo → StaInfo}, d.infos.get? si = some info →
      (si = j → (f info).stats = info.stats) →
      ∃ info', (d.modifyInfo j f).infos.get? si = some info' ∧ info'.stats = info.stats := by
    intro d j f live keeps
    by_cases same : si = j
    · subst same
      exact ⟨f info, infos_modifyInfo_self live, keeps rfl⟩
    · exact ⟨info, by rw [infos_modifyInfo_other same]; exact live, rfl⟩
  have unchanged : ∀ {d' : Daemon}, (∃ info', d'.infos.get? si = some info' ∧ info'.stats = info.stats) →
      ∃ info', d'.infos.get? si = some info' ∧
        (info'.stats type = info.stats type ∨ ∃ addr n, scope.request = some (addr, n, type) ∧ EntryOf a.2 addr n si info) := by
    rintro d' ⟨info', live', same⟩
    exact ⟨info', live', .inl (by rw [same])⟩
  cases move with
  | time => exact unchanged ⟨info, live, rfl⟩
  | log e fits => exact unchanged ⟨info, live, rfl⟩
  | sequence seq => exact unchanged ⟨info, live, rfl⟩
  | newSta fresh => exact unchanged ⟨info, live, rfl⟩
  | newInfo freq liveSta liveNode own fresh => exact unchanged ⟨info, infos_newInfo_of_live _ _ freq live, rfl⟩
  | editSta s keeps => exact unchanged ⟨info, live, rfl⟩
  | editNode m keeps counts => exact unchanged ⟨info, live, rfl⟩
  | @editInfo v d j f keeps =>
    by_cases same : si = j
    · subst same
      exact ⟨f info, infos_modifyInfo_self live, (keeps info live).2.2.2.2.2.1 type⟩
    · exact unchanged ⟨info, by rw [infos_modifyInfo_other same]; exact live, rfl⟩
  | mark c _ isLocal change => exact unchanged (edited live fun _ => rfl)
  | @settle v d j before info' timeout liveBefore keeps roam heard stats positive timely =>
    refine unchanged (edited (f := fun _ => info') live fun same => ?_)
    subst same
    dsimp only at live
    rw [live] at liveBefore
    cases liveBefore
    exact stats
  | roam j state ticking => exact unchanged (edited live fun _ => rfl)
  | @kick v d j _ why _ isLocal ticking => exact unchanged (edited (d := d.log _) live fun _ => rfl)

theorem stats_moves {a b : Option StaId × Daemon} {info : StaInfo} (moves : Moves env cfg scope a b)
    (foreign : scope.request ≠ some (addr, n, type)) (entry : EntryOf a.2 addr n si info) :
    ∃ info', EntryOf b.2 addr n si info' ∧ info'.stats type = info.stats type := by
  induction moves with
  | refl => exact ⟨info, entry, rfl⟩
  | tail _ move ih =>
    obtain ⟨info1, entry1, same1⟩ := ih
    obtain ⟨info2, entry2⟩ := (survives_move move).entryOf entry1
    obtain ⟨info', live', same | ⟨addr', n', requested, entry'⟩⟩ := stats_move type move entry1.1
    · rw [entry2.1] at live'
      cases live'
      exact ⟨info2, entry2, same.trans same1⟩
    · -- the counted request is the one that is not in scope
      obtain ⟨_, onNode, sta, liveSta, sameAddr⟩ := entry1
      obtain ⟨_, onNode', sta', liveSta', sameAddr'⟩ := entry'
      rw [liveSta] at liveSta'
      cases liveSta'
      rw [onNode] at onNode'
      rw [sameAddr] at sameAddr'
      subst onNode' sameAddr'
      exact absurd requested foreign

/-- An input other than the call leaves the statistics of the type as they are. -/
theorem stats_other {input : Input} {info info' : StaInfo} (sound : Sound none d) (accepts : d.Accepts input)
    (different : ∀ freq signal, input ≠ .staEvent n addr type freq signal) (run : d.handle env cfg input = .ok d')
    (entry : EntryOf d addr n si info) (entry' : EntryOf d' addr n si info') : info'.stats type = info.stats type := by
  by_cases uncounted : input.scope.request = none
  · rcases (post_handle sound accepts).of_ok run with ⟨ms, rfl, rfl⟩ | evolves
    · have same := entry.1.symm.trans entry'.1
      cases same
      rfl
    · obtain ⟨origin, stems, live | ⟨fresh, _⟩⟩ := (descends_evolves evolves).infos entry'.1
      · rw [entry.1] at live
        cases live
        rw [stems.stats uncounted]
      · exact absurd (Heap.lt_next entry.1) (Nat.not_lt.mpr fresh)
  · cases input with
    | staEvent n' addr' type' freq signal =>
      obtain ⟨node, live, _⟩ := node_of_locals sound.registered accepts.1
      let scope : Scope := .asked (addr', n', type')
      have timed : Moves env cfg scope (none, d) (none, d.usteerUpdateTime) := .one .time
      have sound1 : Sound none d.usteerUpdateTime := sound_moves (a := (none, d)) sound timed
      have called : Post (Dangles cfg) (Prod.snd <$> d.usteerUpdateTime.usteerHandleStaEvent env cfg n' addr' type' freq signal)
          (fun d' => Moves env cfg scope (none, d) (none, d')) := by
        rw [post_map]
        exact (post_usteerHandleStaEvent env cfg scope freq rfl (.inr fun _ => id) sound1 live).mono fun r moves => timed.then moves
      have foreign : scope.request ≠ some (addr, n, type) := by
        intro same
        cases same
        exact different freq signal rfl
      obtain ⟨info'', entry'', same⟩ := stats_moves (called.of_ok run) foreign entry
      have agree := entry'.1.symm.trans entry''.1
      cases agree
      exact same
    | _ => exact absurd rfl uncounted

/-! ### A call counts its refusal -/

/-- A request is refused only while the count is below `max_retry_band`, and the refusal
    leaves the entry as it is. -/
theorem refused_usteerCheckRequest {info : StaInfo} (sound : Sound none d) (live : d.infos.get? si = some info)
    (check : d.usteerCheckRequest cfg si type = .ok (false, d')) :
    (info.stats type).blockedCur < cfg.maxRetryBand ∧ d'.infos.get? si = some info := by
  constructor
  · unfold usteerCheckRequest at check
    rw [info_ok live, ok_bind] at check
    split at check
    · cases check
    · split at check
      · cases check
      · rename_i below
        exact UInt32.not_le.mp below
  · rcases (returns_usteerCheckRequest type sound live).of_ok check with same | ⟨_, br, m, other, create, _, got⟩
    · rw [show d' = d from same]
      exact live
    · rcases (returns_usteerStaInfoGet info.sta m sound).of_ok got with ⟨_, same, _⟩ | ⟨_, _, ⟨freq, shape⟩, _⟩
      · rw [show d' = d from same]
        exact live
      · rw [show d' = d.newInfo info.sta m freq from shape]
        exact infos_newInfo_of_live _ _ freq live

/-- The count that a call finds: what the entry has, or nothing if it is new. -/
theorem fetched_stats {create : Bool} {info : StaInfo} (type : EventType) (got : Fetched d addr n si create d') (live : d'.infos.get? si = some info) :
    (d.infos.get? si = some info ∨ d.infos.get? si = none ∧ (info.stats type).blockedCur = 0) := by
  cases create with
  | false =>
    rw [(got.found rfl).1] at live
    exact .inl live
  | true =>
    obtain ⟨next, _, s, freq, infos⟩ := got.fresh rfl
    rw [infos, if_pos rfl] at live
    cases live
    exact .inr ⟨by rw [next]; exact Heap.get?_next _, rfl⟩

/-- The entry that a call fetches is there when it returns. -/
theorem entry_requested {info : StaInfo} (heard : Int32) (type : EventType) (entry : EntryOf d addr n si info) :
    ∃ info', EntryOf (requested env cfg d si info heard type) addr n si info' := by
  have settled : Survives d (d.settled env si { info with signal := heard, seen := d.currentTime }
      cfg.localStaTimeout.toInt32) := by
    have edited : Survives d (d.modifyInfo si (fun _ => { info with signal := heard, seen := d.currentTime })) := by
      refine survives_modifyInfo fun info' live => ?_
      rw [entry.1] at live
      cases live
      exact ⟨rfl, rfl⟩
    exact { edited with infos := edited.infos, stas := edited.stas }
  have counted : Survives _ (requested env cfg d si info heard type) := survives_modifyInfo fun _ _ => ⟨rfl, rfl⟩
  exact (settled.trans counted).entryOf entry

theorem infos_usteerUpdateSend (cfg : Config) (d : Daemon) (nodes : List ApmsgNode) :
    (d.usteerUpdateSend cfg nodes).infos = d.infos := by
  unfold usteerUpdateSend
  dsimp only
  split
  · rfl
  · rfl

/-- A refusal finds a count below `max_retry_band`, which is what the entry had unless it
    was forgotten, and leaves it one higher. -/
theorem refused_answered {info' : StaInfo} (sound' : Sound none d') (time : d.currentTime = d.clock)
    (remembers : Remembers cfg type si d) (answered : Answered env cfg d n addr type (false, d'))
    (entry' : EntryOf d' addr n si info') :
    ∃ count : UInt32, (∀ info, d.infos.get? si = some info → (info.stats type).blockedCur = count) ∧
      count < cfg.maxRetryBand ∧ (info'.stats type).blockedCur = count + 1 := by
  cases answered with
  | @intro si0 create d1 info d2 _ _ heard got live sound1 check sent =>
    have live1 := infos_requested env cfg heard type live
    obtain ⟨below, live2⟩ := refused_usteerCheckRequest sound1 live1 check
    have live' : d'.infos.get? si0 = some (setStats type (countAnswer d2.currentTime false)
        (setStats type (countRequest cfg d1.currentTime)
          { info with signal := heard, seen := d1.currentTime, roamScanDone := d1.currentTime })) := by
      rcases sent with rfl | ⟨nodes, rfl⟩
      · exact infos_modifyInfo_self live2
      · rw [infos_usteerUpdateSend]
        exact infos_modifyInfo_self live2
    have same : si = si0 := by
      obtain ⟨info1, entry1⟩ := got.entry
      have agree := live.symm.trans entry1.1
      cases agree
      obtain ⟨info2, entry2⟩ := entry_requested heard type entry1
      have searched := (post_usteerCheckRequest (F := AnyFault) env cfg .plain type sound1 live1).of_ok check
      obtain ⟨info3, entry3⟩ := (survives_moves searched).entryOf entry2
      have counted : Survives d2 (d2.modifyInfo si0 (setStats type (countAnswer d2.currentTime false))) :=
        survives_modifyInfo fun _ _ => ⟨rfl, rfl⟩
      obtain ⟨info4, entry4⟩ := counted.entryOf entry3
      rcases sent with rfl | ⟨nodes, rfl⟩
      · exact entry'.unique sound' entry4
      · obtain ⟨info5, entry5⟩ := (survives_moves (moves_usteerUpdateSend env cfg .plain (v := none) nodes)).entryOf entry4
        exact entry'.unique sound' entry5
    subst same
    rw [entry'.1] at live'
    cases live'
    have now : d1.currentTime = d.clock := by rw [got.rest, ← time]
    have kept : (countRequest cfg d1.currentTime (info.stats type)).blockedCur = (info.stats type).blockedCur := by
      unfold countRequest
      dsimp only
      split
      · rename_i forgotten
        rcases fetched_stats type got live with before | ⟨_, zero⟩
        · by_contra counted
          have recent := remembers info before (fun zero => counted zero.symm)
          rw [now] at forgotten
          exact absurd recent (UInt32.not_le.mpr forgotten)
        · exact zero.symm
      · rfl
    refine ⟨(info.stats type).blockedCur, fun before liveBefore => ?_, ?_, ?_⟩
    · rcases fetched_stats type got live with found | ⟨none, _⟩
      · rw [liveBefore] at found
        cases found
        rfl
      · rw [liveBefore] at none
        cases none
    · simp only [setStats, update_self] at below
      rw [kept] at below
      exact below
    · simp only [setStats, update_self, countAnswer]
      rw [← kept]
      rfl

/-! ### Runs -/

/-- A call at a state that remembers: a refusal finds fewer than `max_retry_band` of them. -/
theorem refused_call {info' : StaInfo} {freq signal : Int32} (sound : Sound none d)
    (accepts : d.Accepts (.staEvent n addr type freq signal)) (remembers : Remembers cfg type si d)
    (run : d.usteerUpdateTime.usteerHandleStaEvent env cfg n addr type freq signal = .ok (false, d'))
    (entry' : EntryOf d' addr n si info') :
    ∃ count : UInt32, (∀ info, d.infos.get? si = some info → (info.stats type).blockedCur = count) ∧
      count < cfg.maxRetryBand ∧ (info'.stats type).blockedCur = count + 1 := by
  obtain ⟨node, live, _⟩ := node_of_locals sound.registered accepts.1
  let scope : Scope := .asked (addr, n, type)
  have timed : Moves env cfg scope (none, d) (none, d.usteerUpdateTime) := .one .time
  have sound1 : Sound none d.usteerUpdateTime := sound_moves (a := (none, d)) sound timed
  have moves := (post_usteerHandleStaEvent env cfg scope freq rfl (.inr fun _ => id) sound1 live).of_ok run
  have sound' : Sound none d' := sound_moves (a := (none, d.usteerUpdateTime)) sound1 moves
  have answered := (returns_usteerHandleStaEvent addr type freq signal sound1 live).of_ok run
  exact refused_answered (d := d.usteerUpdateTime) sound' rfl remembers answered entry'

/-- The refusals at the end of the calls are counted in the entry. -/
def Counted (d : Daemon) (addr : MacAddr) (n : NodeId) (type : EventType) (si : SiId) (calls : List Call) : Prop :=
  ∀ back, back <:+ calls → back ≠ [] → (∀ call ∈ back, call.answer = false) →
    ∃ info, EntryOf d addr n si info ∧ back.length ≤ (info.stats type).blockedCur.toNat

theorem counted_calls {calls : List Call} (reach : Reachable env cfg d)
    (run : Calls env cfg (Remembers cfg type si) addr n type si d calls d') :
    Counted d' addr n type si calls ∧
      ∀ block, block <:+: calls → (∀ call ∈ block, call.answer = false) → block.length ≤ cfg.maxRetryBand.toNat := by
  induction run with
  | start =>
    refine ⟨fun back suffix some => absurd (List.suffix_nil.mp suffix) some, fun block inside _ => ?_⟩
    rw [List.infix_nil.mp inside]
    exact Nat.zero_le _
  | @other calls d1 d2 input before accepts different run lives ih =>
    obtain ⟨counted, bounded⟩ := ih
    refine ⟨fun back suffix some refused => ?_, bounded⟩
    obtain ⟨info, entry, enough⟩ := counted back suffix some refused
    obtain ⟨info', entry'⟩ := lives fun none => some (by rw [none] at suffix; exact List.suffix_nil.mp suffix)
    have same := stats_other (reachable_sound (reachable_calls reach before)) accepts different run entry entry'
    exact ⟨info', entry', by rw [same]; exact enough⟩
  | @call calls d1 d2 answer freq signal before accepts met run lives ih =>
    obtain ⟨counted, bounded⟩ := ih
    obtain ⟨info', entry'⟩ := lives
    -- the refusals that the new call ends
    have ending : ∀ back, back <:+ calls ++ [⟨d1.clock, answer⟩] → back ≠ [] → (∀ call ∈ back, call.answer = false) →
        back.length ≤ (info'.stats type).blockedCur.toNat ∧ back.length ≤ cfg.maxRetryBand.toNat := by
      intro back suffix some refused
      obtain ⟨front, rfl, shorter⟩ := (List.suffix_concat_iff.mp suffix).resolve_left some
      have refusal : answer = false := refused ⟨d1.clock, answer⟩ (by simp)
      subst refusal
      obtain ⟨count, agrees, below, after⟩ :=
        refused_call (reachable_sound (reachable_calls reach before)) accepts met run entry'
      have room : count.toNat < cfg.maxRetryBand.toNat := UInt32.lt_iff_toNat_lt.mp below
      have grown : (info'.stats type).blockedCur.toNat = count.toNat + 1 := by
        have size := cfg.maxRetryBand.toNat_lt
        rw [after, UInt32.toNat_add]
        exact Nat.mod_eq_of_lt (Nat.lt_of_le_of_lt room size)
      have enough : front.length ≤ count.toNat := by
        by_cases none : front = []
        · simp [none]
        · obtain ⟨info, entry, enough⟩ := counted front shorter none fun call inside => refused call (by simp [inside])
          rw [← agrees info entry.1]
          exact enough
      rw [List.length_append, grown]
      exact ⟨Nat.add_le_add_right enough 1, Nat.le_trans (Nat.add_le_add_right enough 1) room⟩
    refine ⟨fun back suffix some refused => ⟨info', entry', (ending back suffix some refused).1⟩, ?_⟩
    intro block inside refused
    by_cases some : block = []
    · rw [some]
      exact Nat.zero_le _
    · rcases List.infix_concat_iff.mp inside with suffix | inside
      · exact (ending block suffix some refused).2
      · exact bounded block inside refused

/-- In every run, as long as no call forgets the refusals counted so far, no more than
    `max_retry_band` calls in a row are refused. -/
theorem retry_limit (env : Platform) (cfg : Config) {d d' : Daemon} {addr : MacAddr} {n : NodeId} {type : EventType}
    {si : SiId} {calls : List Call} (reach : Reachable env cfg d)
    (run : Calls env cfg (Remembers cfg type si) addr n type si d calls d') : RetryLimit cfg calls := by
  intro _ block inside length
  by_contra refused
  have bound := (counted_calls reach run).2 block inside fun call listed => by
    cases answer : call.answer with
    | false => rfl
    | true => exact absurd ⟨call, listed, answer⟩ refused
  omega

/-! ### Calls at given distances -/

/-- The daemon waits and answers a request, again and again. -/
def retries (env : Platform) (cfg : Config) (meets : Daemon → Prop) [DecidablePred meets] (addr : MacAddr) (n : NodeId)
    (type : EventType) (si : SiId) (freq signal : Int32) : List UInt64 → Daemon → Option (List Call × Daemon)
  | [], d => some ([], d)
  | gap :: rest, d =>
    let d1 := { d with clock := d.clock + gap }
    if d.Accepts (.advance gap) ∧ d1.Accepts (.staEvent n addr type freq signal) ∧ meets d1 then
      match d1.usteerUpdateTime.usteerHandleStaEvent env cfg n addr type freq signal with
      | .error _ => none
      | .ok (answer, d2) =>
        if (d2.infos.get? si).any (fun info => info.node = n && (d2.stas.get? info.sta).any (fun sta => sta.addr = addr)) then
          (retries env cfg meets addr n type si freq signal rest d2).map fun r => (⟨d1.clock, answer⟩ :: r.1, r.2)
        else none
    else none

theorem calls_retries {meets : Daemon → Prop} [DecidablePred meets] {freq signal : Int32} (gaps : List UInt64) :
    ∀ {d0 d d' : Daemon} {calls more : List Call}, Calls env cfg meets addr n type si d0 calls d →
      (calls ≠ [] → ∃ info, EntryOf d addr n si info) →
      retries env cfg meets addr n type si freq signal gaps d = some (more, d') →
      Calls env cfg meets addr n type si d0 (calls ++ more) d' := by
  induction gaps with
  | nil =>
    intro d0 d d' calls more before _ run
    cases run
    rw [List.append_nil]
    exact before
  | cons gap rest ih =>
    intro d0 d d' calls more before lives run
    rw [retries] at run
    dsimp only at run
    split at run
    · rename_i passes
      split at run
      · cases run
      · rename_i answer d2 called
        split at run
        · rename_i present
          obtain ⟨⟨later, d3⟩, followed, same⟩ := Option.map_eq_some_iff.mp run
          cases same
          obtain ⟨info, live, fits⟩ := (Option.any_eq_true _ _).mp present
          rw [Bool.and_eq_true, decide_eq_true_eq] at fits
          obtain ⟨sta, liveSta, same⟩ := (Option.any_eq_true _ _).mp fits.2
          have entry : EntryOf d2 addr n si info := ⟨live, fits.1, sta, liveSta, of_decide_eq_true same⟩
          have waited : Calls env cfg meets addr n type si d0 calls { d with clock := d.clock + gap } :=
            .other (.advance gap) before passes.1 (fun _ _ same => by cases same) rfl lives
          have answered := Calls.call freq signal waited passes.2.1 passes.2.2 called ⟨info, entry⟩
          rw [List.append_cons]
          exact ih answered (fun _ => ⟨info, entry⟩) followed
        · cases run
    · cases run

end Blocking

/-- A configuration that refuses weak clients. -/
def refusing : Config := { usteerInitDefaults with minConnectSnr := 30 }

instance (cfg : Config) (type : EventType) (si : SiId) : DecidablePred (Remembers cfg type si) := fun d => by
  unfold Remembers
  infer_instance

theorem retry_limit_within_a_millisecond : ∃ d d' calls, Reachable plainPlatform refusing d ∧
    Calls plainPlatform refusing (Remembers refusing .auth 0) 1 0 .auth 0 d calls d' ∧
    calls.map Call.answer = [false, false, false, false, false, true] ∧ RetryLimit refusing calls := by
  have evaluates : ((plainRun refusing [.register hostapdDot, .advance 1000]).any fun d =>
      (retries plainPlatform refusing (Remembers refusing .auth 0) 1 0 .auth 0 2412 (-90) [0, 0, 0, 0, 0, 0] d).any fun r =>
        decide (r.1.map Call.answer = [false, false, false, false, false, true])) = true := by decide +kernel
  obtain ⟨d, run, evaluates⟩ := (Option.any_eq_true _ _).mp evaluates
  obtain ⟨⟨calls, d'⟩, called, answers⟩ := (Option.any_eq_true _ _).mp evaluates
  have reach := reachable_plainRun run
  have calling := calls_retries _ .start (fun none => absurd rfl none) called
  exact ⟨d, d', calls, reach, calling, of_decide_eq_true answers, retry_limit plainPlatform refusing reach calling⟩

/-- Six requests of a weak client, one second apart, are all refused. -/
theorem refused_every_second : ∃ d d' calls, Reachable plainPlatform refusing d ∧
    Calls plainPlatform refusing (fun _ => True) 1 0 .auth 0 d calls d' ∧ ¬ RetryLimit refusing calls := by
  have evaluates : ((plainRun refusing [.register hostapdDot]).any fun d =>
      (retries plainPlatform refusing (fun _ => True) 1 0 .auth 0 2412 (-90) [1000, 1000, 1000, 1000, 1000, 1000] d).any fun r =>
        decide (r.1 = [⟨1000, false⟩, ⟨2000, false⟩, ⟨3000, false⟩, ⟨4000, false⟩, ⟨5000, false⟩, ⟨6000, false⟩])) = true := by
    decide +kernel
  obtain ⟨d, run, evaluates⟩ := (Option.any_eq_true _ _).mp evaluates
  obtain ⟨⟨calls, d'⟩, called, answers⟩ := (Option.any_eq_true _ _).mp evaluates
  have refused := of_decide_eq_true answers
  dsimp only at refused
  have calling := calls_retries _ .start (fun none => absurd rfl none) called
  refine ⟨d, d', calls, reachable_plainRun run, calling, fun limit => ?_⟩
  rw [refused] at limit
  have accepted := limit (by decide) _ (List.infix_refl _) rfl
  revert accepted
  decide

end Usteer
