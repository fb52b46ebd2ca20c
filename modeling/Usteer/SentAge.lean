import Usteer.Codec

/-!
The age of a station on the wire. `usteer_send_sta_info` cuts the 64-bit age of an entry to
an `int` and sends it with what is left of the timeout, and `interface_add_station` refuses a
record without time left. Both are exact for ages below the timeout; a connected entry that
is older is refused all the same, and an age that comes close to a multiple of `2 ^ 32` from
either side looks young (`sentTimeout_positive_iff`, `sentSeen_exact_iff`).
-/
namespace Usteer
open Function Daemon Timeout SearchTree

/-- `interface_add_station` on an attribute. -/
def Libraries.interfaceAddStation (lib : Libraries) (env : Platform) (cfg : Config) (d : Daemon) (n : NodeId)
    (data : lib.Attr) : Except Fault Daemon :=
  match lib.parseApmsgSta data with
  | none => .ok d
  | some msg => d.interfaceAddStation env cfg n msg

/-- A daemon that receives a station of one of its remote nodes. -/
structure Receiver where
  env : Platform
  cfg : Config
  daemon : Daemon
  node : NodeId
  record : UsteerNode
  sound : Sound none daemon
  live : daemon.nodes.get? node = some record
  remote : record.isLocal = false

/-- The receiver takes over an entry that is connected or younger than the timeout, with its
    age, and leaves everything as it is otherwise. -/
def TakesOver (lib : Libraries) (timeout : UInt32) (addr : MacAddr) (info : StaInfo) (age : UInt64) (data : lib.Attr)
    (r : Receiver) : Prop :=
  ∃ d', lib.interfaceAddStation r.env r.cfg r.daemon r.node data = .ok d' ∧
    if info.connected ≠ 0 ∨ age.toNat < timeout.toNat then
      ∃ e, Shown d' addr r.node e ∧ e.connected = (if info.connected ≠ 0 then 1 else 0) ∧ e.signal = info.signal ∧
        d'.currentTime - e.seen = age
    else d' = r.daemon

/-- The ages that the receiver is right about. -/
def AgeFits (timeout : UInt32) (connected : Fin 4) (age : UInt64) : Prop :=
  age.toNat < timeout.toNat ∨
  connected ≠ 0 ∧ 2 ^ 64 - 2 ^ 31 + timeout.toNat < age.toNat ∨
  connected = 0 ∧ timeout.toNat ≤ age.toNat % 2 ^ 32 ∧ age.toNat % 2 ^ 32 ≤ 2 ^ 31 + timeout.toNat

/-- The record of an entry with an age. -/
def sentRecord (timeout : UInt32) (addr : MacAddr) (info : StaInfo) (age : UInt64) : ApmsgSta where
  addr := addr
  connected := info.connected ≠ 0
  signal := info.signal
  seen := age.toUInt32.toInt32
  timeout := (timeout - age.toUInt32).toInt32

theorem usteerSendStaInfo_eq {cfg : Config} {s : Daemon} {si : SiId} {info : StaInfo} {sta : Sta}
    (live : s.infos.get? si = some info) (liveSta : s.stas.get? info.sta = some sta) :
    s.usteerSendStaInfo cfg si = .ok (sentRecord cfg.localStaTimeout sta.addr info (s.currentTime - info.seen)) := by
  unfold usteerSendStaInfo
  rw [info_ok live, ok_bind, sta_ok liveSta, ok_bind]
  simp only [UInt32.toUInt32_toInt32]
  rfl

/-- A record without time left changes nothing; any other is known afterwards, as it was
    sent. -/
theorem received_station (r : Receiver) (msg : ApmsgSta) :
    ∃ d', r.daemon.interfaceAddStation r.env r.cfg r.node msg = .ok d' ∧ d'.currentTime = r.daemon.currentTime ∧
      (¬ 0 < msg.timeout → d' = r.daemon) ∧
      (0 < msg.timeout → ∀ e, Shown d' msg.addr r.node e ↔ r.daemon.setting.entry msg = e) := by
  have adds : Post (fun _ => False) (r.daemon.interfaceAddStation r.env r.cfg r.node msg) _ :=
    post_interfaceAddStation r.env r.cfg .plain r.sound r.live r.remote fun _ _ => id
  obtain ⟨d', run, -⟩ := adds.returns
  have shown (positive : 0 < msg.timeout) (e : EntryState) :
      Shown d' msg.addr r.node e ↔ r.daemon.setting.entry msg = e := by
    rw [shown_addStation r.sound r.live r.remote run, if_pos ⟨⟨rfl, rfl⟩, positive⟩]
  refine ⟨d', run, ?_, ?_, shown⟩
  all_goals rcases (returns_interfaceAddStation msg r.sound r.live).of_ok run with
    ⟨expired, rfl⟩ | ⟨positive, si, create, d1, info, got, -, -, rfl⟩
  · rfl
  · show d1.currentTime = _
    rw [got.rest]
  · exact fun _ => rfl
  · exact fun expired => absurd positive expired

/-- Some receiver knows no station at all. -/
theorem unaware_receiver : ∃ r : Receiver, ∀ addr n e, ¬ Shown r.daemon addr n e := by
  have evaluates : ((plainRun usteerInitDefaults [announces 5]).any fun d =>
      ((d.nodes.get? 0).any fun node => !node.isLocal) && decide (d.infos.next = 0)) = true := by decide +kernel
  obtain ⟨d, run, evaluates⟩ := (Option.any_eq_true _ _).mp evaluates
  simp only [Bool.and_eq_true, decide_eq_true_eq, Option.any_eq_true, Bool.not_eq_true'] at evaluates
  obtain ⟨⟨node, live, remote⟩, none⟩ := evaluates
  refine ⟨⟨plainPlatform, usteerInitDefaults, d, 0, node, reachable_sound (reachable_plainRun run), live, remote⟩, ?_⟩
  rintro addr n e ⟨si, info, ⟨found, -⟩, -⟩
  have allocated := Heap.lt_next found
  dsimp only at allocated
  omega

/-- The ages for which the record has time left and the exact age when it should be taken over,
    and no time left otherwise. -/
theorem ageFits_iff {age : UInt64} {timeout : UInt32} (limit : timeout.toNat < 2 ^ 31) (connected : Fin 4) :
    AgeFits timeout connected age ↔
      ((connected ≠ 0 ∨ age.toNat < timeout.toNat) →
        0 < (timeout - age.toUInt32).toInt32 ∧ age.toUInt32.toInt32.toInt64.toUInt64 = age) ∧
      (¬ (connected ≠ 0 ∨ age.toNat < timeout.toNat) → ¬ 0 < (timeout - age.toUInt32).toInt32) := by
  have bound := age.toNat_lt
  rw [sentTimeout_positive_iff limit, sentSeen_exact_iff]
  unfold AgeFits
  by_cases idle : connected = 0
  · simp only [idle, ne_eq, not_true_eq_false, false_or, false_and, true_and]
    omega
  · simp only [idle, ne_eq, not_false_eq_true, true_or, true_and, false_and, or_false, not_true_eq_false,
      true_implies, false_implies, and_true]
    omega

section Record

variable {lib : Libraries} {timeout : UInt32} {addr : MacAddr} {info : StaInfo} {age : UInt64}

theorem heard_putStaInfo (inverse : lib.Inverse) (r : Receiver) (msg : ApmsgSta) :
    lib.interfaceAddStation r.env r.cfg r.daemon r.node (lib.putStaInfo msg) =
      r.daemon.interfaceAddStation r.env r.cfg r.node msg := by
  unfold Libraries.interfaceAddStation
  rw [parseApmsgSta_putStaInfo inverse]

/-- What a receiver that knows nothing yet makes of the record tells of its age. -/
theorem ageFits_of_takesOver (inverse : lib.Inverse) (limit : timeout.toNat < 2 ^ 31)
    (takes : ∀ r, TakesOver lib timeout addr info age (lib.putStaInfo (sentRecord timeout addr info age)) r) :
    AgeFits timeout info.connected age := by
  rw [ageFits_iff limit]
  obtain ⟨r, unaware⟩ := unaware_receiver
  obtain ⟨d', run, outcome⟩ := takes r
  rw [heard_putStaInfo inverse] at run
  obtain ⟨d1, run1, time, refused, taken⟩ := received_station r (sentRecord timeout addr info age)
  rw [run] at run1
  cases run1
  constructor
  · intro due
    rw [if_pos due] at outcome
    obtain ⟨e, shown, -, -, stored⟩ := outcome
    -- a refused record would leave the receiver without the entry
    have positive := not_not.mp fun expired => unaware addr r.node e (refused expired ▸ shown)
    refine ⟨positive, ?_⟩
    rw [← (taken positive e).mp shown, time] at stored
    exact (sub_sub_self _ _).symm.trans stored
  · intro undue positive
    rw [if_neg undue] at outcome
    exact unaware addr r.node _ (outcome ▸ (taken positive _).mpr rfl)

theorem takesOver_of_ageFits (inverse : lib.Inverse) (limit : timeout.toNat < 2 ^ 31)
    (fits : AgeFits timeout info.connected age) (r : Receiver) :
    TakesOver lib timeout addr info age (lib.putStaInfo (sentRecord timeout addr info age)) r := by
  obtain ⟨due, undue⟩ := (ageFits_iff limit _).mp fits
  obtain ⟨d', run, time, refused, taken⟩ := received_station r (sentRecord timeout addr info age)
  refine ⟨d', (heard_putStaInfo inverse r _).trans run, ?_⟩
  split
  · rename_i wanted
    obtain ⟨positive, exact⟩ := due wanted
    refine ⟨_, (taken positive _).mpr rfl, ?_, rfl, ?_⟩
    · simp [Setting.entry, sentRecord]
    · rw [time]
      exact (sub_sub_self _ _).trans exact
  · rename_i unwanted
    exact refused (undue unwanted)

end Record

/-- The receivers take over what they should, with its age, exactly for the ages that survive
    the cut to 32 bits on the right side of the timeout. -/
theorem sent_age_kept (lib : Libraries) (inverse : lib.Inverse) (cfg : Config) (s : Daemon) (si : SiId)
    (info : StaInfo) (sta : Sta) (live : s.infos.get? si = some info) (liveSta : s.stas.get? info.sta = some sta)
    (limit : cfg.localStaTimeout.toNat < 2 ^ 31) :
    (∃ msg, s.usteerSendStaInfo cfg si = .ok msg ∧ ∀ r : Receiver,
      TakesOver lib cfg.localStaTimeout sta.addr info (s.currentTime - info.seen) (lib.putStaInfo msg) r) ↔
    AgeFits cfg.localStaTimeout info.connected (s.currentTime - info.seen) := by
  rw [usteerSendStaInfo_eq live liveSta]
  constructor
  · rintro ⟨msg, sent, takes⟩
    cases sent
    exact ageFits_of_takesOver inverse limit takes
  · exact fun fits => ⟨_, rfl, takesOver_of_ageFits inverse limit fits⟩

/-- A connected client is not heard of for a while, until the next update. -/
def updatesLate (silence : UInt64) : List Input :=
  associates ++ [.advance silence, .update]

theorem live_updatesLate (silence : UInt64) (ages : ((plainRun usteerInitDefaults (updatesLate silence)).any fun s =>
      (s.infos.get? 0).any fun info => decide (info.connected = 1 ∧ s.currentTime - info.seen = silence)) = true) :
    ∃ s info sta, plainRun usteerInitDefaults (updatesLate silence) = some s ∧ s.infos.get? 0 = some info ∧
      s.stas.get? info.sta = some sta ∧ info.connected = 1 ∧ s.currentTime - info.seen = silence := by
  obtain ⟨s, run, ages⟩ := (Option.any_eq_true _ _).mp ages
  simp only [decide_eq_true_eq, Option.any_eq_true] at ages
  obtain ⟨info, live, connected, age⟩ := ages
  obtain ⟨sta, liveSta, -⟩ := sta_of_info (reachable_sound (reachable_plainRun run)).links live
  exact ⟨s, info, sta, run, live, liveSta, connected, age⟩

theorem sent_age_kept_after_a_minute : ∃ (s : Daemon) (info : StaInfo) (sta : Sta) (msg : ApmsgSta),
    s.infos.get? 0 = some info ∧ s.stas.get? info.sta = some sta ∧
    s.currentTime - info.seen = 60000 ∧ s.usteerSendStaInfo usteerInitDefaults 0 = .ok msg ∧
    ∀ r : Receiver, TakesOver treeLibraries usteerInitDefaults.localStaTimeout sta.addr info
      (s.currentTime - info.seen) (treeLibraries.putStaInfo msg) r := by
  obtain ⟨s, info, sta, run, live, liveSta, connected, age⟩ := live_updatesLate 60000 (by decide +kernel)
  have kept := sent_age_kept treeLibraries treeLibraries_inverse usteerInitDefaults s 0 info sta live liveSta
    (by decide)
  obtain ⟨msg, sent, takes⟩ := kept.mpr (.inl (by rw [age]; decide))
  exact ⟨s, info, sta, msg, live, liveSta, age, sent, takes⟩

/-- A connected station of which nothing was heard for the timeout is refused. -/
theorem sent_age_refused :
    ¬ ∀ (lib : Libraries), lib.Inverse → ∀ (cfg : Config) (s : Daemon) (si : SiId) (info : StaInfo)
    (sta : Sta), s.infos.get? si = some info → s.stas.get? info.sta = some sta →
    0 < cfg.localStaTimeout.toNat → cfg.localStaTimeout.toNat < 2 ^ 31 →
    ∃ msg, s.usteerSendStaInfo cfg si = .ok msg ∧ ∀ r : Receiver,
      TakesOver lib cfg.localStaTimeout sta.addr info (s.currentTime - info.seen) (lib.putStaInfo msg) r := by
  intro always
  obtain ⟨s, info, sta, run, live, liveSta, connected, age⟩ := live_updatesLate 120000 (by decide +kernel)
  obtain ⟨msg, sent, takes⟩ := always treeLibraries treeLibraries_inverse usteerInitDefaults s 0 info sta live liveSta
    (by decide) (by decide)
  rw [usteerSendStaInfo_eq live liveSta] at sent
  cases sent
  have fits := ageFits_of_takesOver treeLibraries_inverse (by decide) takes
  rw [age, connected] at fits
  revert fits
  unfold AgeFits
  decide

end Usteer
