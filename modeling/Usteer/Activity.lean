import Usteer.LocalNode

/-!
How active a client is: the bits a second between the two latest samples of its byte counters.
Samples are taken at intervals (`taken`), and the last two of them are kept. While the sum of the
counters does not fall from one to the next, no more is reported than the client has
transferred since they started (`rate_bounded`), and where it falls, more is (`rate_unbounded`).
-/
namespace Usteer
open SearchTree Timeout Daemon

/-- The counters in the reply to `get_clients`, as far as it has them. -/
abbrev Counters := Option (Option UInt64 × Option UInt64)

/-- Received and sent bytes together. -/
def total (sample : UInt64 × UInt64) : Nat := sample.1.toNat + sample.2.toNat

/-- The later sample. -/
def StaActiveBytes.newest (active : StaActiveBytes) : UInt64 × UInt64 := (active.newRx, active.newTx)
/-- The earlier sample. -/
def StaActiveBytes.oldest (active : StaActiveBytes) : UInt64 × UInt64 := (active.oldRx, active.oldTx)

/-- The sample that a call of `usteer_update_client_active_bytes` takes, if it takes one. -/
def takes (cfg : Config) (active : StaActiveBytes) (time : UInt64) (bytes : Counters) : Option (UInt64 × UInt64) :=
  if time - active.lastTime < (cfg.kickClientActiveSec * 1000).toUInt64 then none
  else
    match bytes with
    | some (some rx, some tx) => some (rx, tx)
    | _ => none

/-- What calls of `usteer_update_client_active_bytes` leave. -/
def samplesAfter (cfg : Config) (active : StaActiveBytes) (calls : List (UInt64 × Counters)) : StaActiveBytes :=
  calls.foldl (fun active call => sampleBytes cfg call.1 call.2 active) active

/-- The samples that calls take. -/
def taken (cfg : Config) : StaActiveBytes → List (UInt64 × Counters) → List (UInt64 × UInt64)
  | _, [] => []
  | active, (time, bytes) :: rest =>
    (takes cfg active time bytes).toList ++ taken cfg (sampleBytes cfg time bytes active) rest

/-- A call takes no sample and changes nothing, or the later sample becomes the earlier. -/
theorem sampleBytes_cases (cfg : Config) (active : StaActiveBytes) (time : UInt64) (bytes : Counters) :
    (takes cfg active time bytes = none ∧ sampleBytes cfg time bytes active = active) ∨
    ∃ sample, takes cfg active time bytes = some sample ∧
      (sampleBytes cfg time bytes active).oldest = active.newest ∧
      (sampleBytes cfg time bytes active).newest = sample := by
  unfold takes sampleBytes
  split
  · exact .inl ⟨rfl, rfl⟩
  · rcases bytes with _ | ⟨_ | rx, _ | tx⟩
    · exact .inl ⟨rfl, rfl⟩
    · exact .inl ⟨rfl, rfl⟩
    · exact .inl ⟨rfl, rfl⟩
    · exact .inl ⟨rfl, rfl⟩
    · exact .inr ⟨(rx, tx), rfl, rfl, rfl⟩

/-! ### The rate -/

section Rate

variable {cfg : Config} {active : StaActiveBytes}

/-- No more is reported for a second than has been transferred in all. -/
def RateBounded (cfg : Config) (active : StaActiveBytes) : Prop :=
  ∀ info : StaInfo, info.activeBytes = active → ∃ bits, usteerGetClientActiveBits cfg info = .ok bits ∧
    bits.toNat * cfg.kickClientActiveSec.toNat ≤ 8 * total active.newest

/-- The bytes between the two samples, as the counters have them. -/
def between (active : StaActiveBytes) : UInt64 := (active.newRx - active.oldRx) + (active.newTx - active.oldTx)

theorem activeBits_eq {info : StaInfo} (divides : cfg.kickClientActiveSec ≠ 0) (samples : info.activeBytes = active) :
    usteerGetClientActiveBits cfg info = .ok ((between active / cfg.kickClientActiveSec.toUInt64) * 8) := by
  unfold usteerGetClientActiveBits between
  simp [divides, samples]

theorem toNat_between : (between active).toNat =
    (2 * 2 ^ 64 + total active.newest - total active.oldest) % 2 ^ 64 := by
  have size1 := active.newRx.toNat_lt
  have size2 := active.newTx.toNat_lt
  have size3 := active.oldRx.toNat_lt
  have size4 := active.oldTx.toNat_lt
  unfold between total StaActiveBytes.newest StaActiveBytes.oldest
  rw [UInt64.toNat_add, UInt64.toNat_sub, UInt64.toNat_sub]
  dsimp only
  omega

theorem rate_bounded (divides : cfg.kickClientActiveSec ≠ 0) (rises : total active.oldest ≤ total active.newest) :
    RateBounded cfg active := by
  intro info samples
  refine ⟨_, activeBits_eq divides samples, ?_⟩
  have bytes : (between active).toNat ≤ total active.newest := by
    rw [toNat_between]
    have wrap : (2 * 2 ^ 64 + total active.newest - total active.oldest) % 2 ^ 64 =
        (total active.newest - total active.oldest) % 2 ^ 64 := by omega
    rw [wrap]
    exact (Nat.mod_le _ _).trans (Nat.sub_le _ _)
  rw [UInt64.toNat_mul, UInt64.toNat_div, UInt32.toNat_toUInt64]
  calc (between active).toNat / cfg.kickClientActiveSec.toNat * (8 : UInt64).toNat % 2 ^ 64 * cfg.kickClientActiveSec.toNat
      ≤ (between active).toNat / cfg.kickClientActiveSec.toNat * 8 * cfg.kickClientActiveSec.toNat :=
        Nat.mul_le_mul_right _ (Nat.mod_le _ _)
    _ = 8 * ((between active).toNat / cfg.kickClientActiveSec.toNat * cfg.kickClientActiveSec.toNat) := by ring
    _ ≤ 8 * total active.newest := Nat.mul_le_mul_left 8 ((Nat.div_mul_le_self _ _).trans bytes)

/-- A number of bytes that has wrapped is more than what was transferred, also in a second. -/
theorem wrapped_rate {seconds lost total : Nat} (positive : 0 < seconds) (size : seconds < 2 ^ 32) (falls : 0 < lost)
    (small : total + lost < 2 ^ 60) : 8 * total < (2 ^ 64 - lost) / seconds * 8 % 2 ^ 64 * seconds := by
  by_cases few : seconds < 8
  · have cases : seconds = 1 ∨ seconds = 2 ∨ seconds = 3 ∨ seconds = 4 ∨ seconds = 5 ∨ seconds = 6 ∨ seconds = 7 := by
      omega
    rcases cases with rfl | rfl | rfl | rfl | rfl | rfl | rfl <;> omega
  · have below : (2 ^ 64 - lost) / seconds * 8 < 2 ^ 64 := by
      have least : (2 ^ 64 - lost) / seconds ≤ (2 ^ 64 - lost) / 8 := Nat.div_le_div_left (by omega) (by decide)
      omega
    have nearly := Nat.lt_mul_div_succ (2 ^ 64 - lost) positive
    rw [Nat.mul_add, Nat.mul_one, Nat.mul_comm] at nearly
    rw [Nat.mod_eq_of_lt below, Nat.mul_right_comm]
    omega

theorem rate_unbounded (divides : cfg.kickClientActiveSec ≠ 0) (falls : total active.newest < total active.oldest)
    (small : total active.oldest < 2 ^ 60) : ¬ RateBounded cfg active := by
  intro bounded
  obtain ⟨bits, reported, fits⟩ := bounded { StaInfo.zeroed 0 0 0 0 with activeBytes := active } rfl
  rw [activeBits_eq divides rfl] at reported
  cases reported
  have positive : 0 < cfg.kickClientActiveSec.toNat := by
    rw [Nat.pos_iff_ne_zero]
    exact fun zero => divides (UInt32.toNat_inj.mp zero)
  have bytes : (between active).toNat = 2 ^ 64 - (total active.oldest - total active.newest) := by
    rw [toNat_between]
    omega
  have more := @wrapped_rate cfg.kickClientActiveSec.toNat (total active.oldest - total active.newest)
    (total active.newest) positive cfg.kickClientActiveSec.toNat_lt (by omega) (by omega)
  rw [UInt64.toNat_mul, UInt64.toNat_div, UInt32.toNat_toUInt64, bytes] at fits
  exact Nat.not_lt_of_le fits more

end Rate

/-! ### Any number of samples -/

section Runs

variable {cfg : Config}

/-- The sum of the counters does not fall from one sample to the next. -/
def Rises (samples : List (UInt64 × UInt64)) : Prop := samples.IsChain (fun a b => total a ≤ total b)

theorem bounded_of_rises (divides : cfg.kickClientActiveSec ≠ 0) (calls : List (UInt64 × Counters)) :
    ∀ {active : StaActiveBytes}, total active.oldest ≤ total active.newest →
      Rises (active.newest :: taken cfg active calls) →
      ∀ read others, calls = read ++ others → RateBounded cfg (samplesAfter cfg active read) := by
  induction calls with
  | nil =>
    intro active start _ read others split
    obtain ⟨rfl, rfl⟩ := List.append_eq_nil_iff.mp split.symm
    exact rate_bounded divides start
  | cons call rest ih =>
    obtain ⟨time, bytes⟩ := call
    intro active start rises read others split
    cases read with
    | nil => exact rate_bounded divides start
    | cons first read =>
      rw [List.cons_append, List.cons.injEq] at split
      obtain ⟨rfl, split⟩ := split
      have going : total (sampleBytes cfg time bytes active).oldest ≤ total (sampleBytes cfg time bytes active).newest ∧
          Rises ((sampleBytes cfg time bytes active).newest :: taken cfg (sampleBytes cfg time bytes active) rest) := by
        rw [taken] at rises
        rcases sampleBytes_cases cfg active time bytes with ⟨none, same⟩ | ⟨sample, took, older, newer⟩
        · rw [none] at rises
          rw [same] at rises ⊢
          exact ⟨start, rises⟩
        · rw [took] at rises
          obtain ⟨first, others⟩ := List.isChain_cons_cons.mp rises
          rw [older, newer]
          exact ⟨first, others⟩
      exact ih going.1 going.2 read others split

theorem rises_of_bounded (divides : cfg.kickClientActiveSec ≠ 0) (calls : List (UInt64 × Counters)) :
    ∀ {active : StaActiveBytes}, (∀ sample ∈ active.newest :: taken cfg active calls, total sample < 2 ^ 60) →
      (∀ read others, calls = read ++ others → RateBounded cfg (samplesAfter cfg active read)) →
      Rises (active.newest :: taken cfg active calls) := by
  induction calls with
  | nil =>
    intro active _ _
    exact List.isChain_singleton _
  | cons call rest ih =>
    obtain ⟨time, bytes⟩ := call
    intro active small bounded
    have later : ∀ read others, rest = read ++ others →
        RateBounded cfg (samplesAfter cfg (sampleBytes cfg time bytes active) read) := by
      intro read others split
      exact bounded ((time, bytes) :: read) others (by rw [split]; rfl)
    rw [taken] at small ⊢
    rcases sampleBytes_cases cfg active time bytes with ⟨none, same⟩ | ⟨sample, took, older, newer⟩
    · rw [none, same] at small ⊢
      rw [same] at later
      exact ih small later
    · rw [took] at small ⊢
      have smallRest : ∀ s ∈ (sampleBytes cfg time bytes active).newest :: taken cfg (sampleBytes cfg time bytes active) rest,
          total s < 2 ^ 60 := by
        rw [newer]
        exact fun s inside => small s (List.mem_cons_of_mem _ inside)
      have others := ih smallRest later
      rw [newer] at others
      refine List.isChain_cons_cons.mpr ⟨?_, others⟩
      by_contra falls
      refine rate_unbounded divides ?_ ?_ (later [] rest rfl)
      · show total (sampleBytes cfg time bytes active).newest < total (sampleBytes cfg time bytes active).oldest
        rw [older, newer]
        exact Nat.lt_of_not_le falls
      · show total (sampleBytes cfg time bytes active).oldest < 2 ^ 60
        rw [older]
        exact small _ List.mem_cons_self

end Runs

/-- As long as the sum of the counters does not fall from one sample to the next, no more is
    reported at any time than the client has transferred since they started; and with counters
    below 2^60 only then. -/
theorem reported_traffic_bounded {cfg : Config} (divides : cfg.kickClientActiveSec ≠ 0)
    (calls : List (UInt64 × Counters)) :
    (Rises ((0, 0) :: taken cfg ⟨0, 0, 0, 0, 0⟩ calls) →
      ∀ read others, calls = read ++ others → RateBounded cfg (samplesAfter cfg ⟨0, 0, 0, 0, 0⟩ read)) ∧
    ((∀ sample ∈ taken cfg ⟨0, 0, 0, 0, 0⟩ calls, total sample < 2 ^ 60) →
      (∀ read others, calls = read ++ others → RateBounded cfg (samplesAfter cfg ⟨0, 0, 0, 0, 0⟩ read)) →
      Rises ((0, 0) :: taken cfg ⟨0, 0, 0, 0, 0⟩ calls)) := by
  refine ⟨@bounded_of_rises cfg divides calls ⟨0, 0, 0, 0, 0⟩ le_rfl,
    fun small => @rises_of_bounded cfg divides calls ⟨0, 0, 0, 0, 0⟩ fun sample inside => ?_⟩
  rcases List.mem_cons.mp inside with rfl | inside
  · decide
  · exact small sample inside

/-- A client transfers bytes at two samples and none more at a third. -/
theorem reported_traffic_bounded_of_three : ∃ calls : List (UInt64 × Counters),
    taken usteerInitDefaults ⟨0, 0, 0, 0, 0⟩ calls = [(100, 50), (4000, 70), (4000, 70)] ∧
      ∀ read others, calls = read ++ others →
        RateBounded usteerInitDefaults (samplesAfter usteerInitDefaults ⟨0, 0, 0, 0, 0⟩ read) := by
  refine ⟨[(100000, some (some 100, some 50)), (200000, some (some 4000, some 70)), (300000, some (some 4000, some 70))],
    by decide, (reported_traffic_bounded (by decide) _).1 ?_⟩
  have samples : taken usteerInitDefaults ⟨0, 0, 0, 0, 0⟩ [(100000, some (some 100, some 50)),
      (200000, some (some 4000, some 70)), (300000, some (some 4000, some 70))] = [(100, 50), (4000, 70), (4000, 70)] := by
    decide
  rw [samples]
  unfold Rises
  decide

/-- The client associates anew, and its counters start from zero. -/
theorem restart_reported_as_traffic : ∃ calls : List (UInt64 × Counters),
    taken usteerInitDefaults ⟨0, 0, 0, 0, 0⟩ calls = [(4000, 70), (100, 50)] ∧
      ¬ RateBounded usteerInitDefaults (samplesAfter usteerInitDefaults ⟨0, 0, 0, 0, 0⟩ calls) := by
  refine ⟨[(100000, some (some 4000, some 70)), (200000, some (some 100, some 50))], by decide, ?_⟩
  exact rate_unbounded (by decide) (by decide) (by decide)

end Usteer
