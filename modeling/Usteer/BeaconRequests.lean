import Usteer.Rotation
import Usteer.Schedule
import Usteer.Search

/-!
The beacon requests that a client is sent: which band comes next, and how the client is asked
to measure it. The next band is the next frequency in a rotation of the local nodes
(`nextBand_eq`). A client is asked on one band after the other (`RequestRun`); on its own band
the rate is limited and unanswered requests are counted.
-/
namespace Usteer
open SearchTree Timeout Function Daemon Schedule

/-! ### The next band -/

/-- The frequencies of the local nodes, in the order of their names. -/
def Daemon.bands (d : Daemon) : List Int32 :=
  d.localNodes.filterMap (fun n => (d.nodes.get? n).map (fun node => node.freq))

theorem bandAfter_false (freq : Int32) (freqs : List Int32) :
    bandAfter freq false freqs = (freqs.dropWhile (· = freq)).head? := by
  induction freqs with
  | nil => rfl
  | cons first rest ih =>
    rw [bandAfter]
    by_cases same : freq = first
    · subst same
      simp [ih]
    · have other : ¬ first = freq := fun eq => same eq.symm
      simp [same, other]

theorem bandAfter_true (freq : Int32) (freqs : List Int32) :
    bandAfter freq true freqs = ((freqs.dropWhile (· ≠ freq)).dropWhile (· = freq)).head? := by
  induction freqs with
  | nil => rfl
  | cons first rest ih =>
    rw [bandAfter]
    by_cases same : freq = first
    · simp [same, bandAfter_false]
    · have other : ¬ first = freq := fun eq => same eq.symm
      simp [same, other, ih]

section NextBand

variable {d : Daemon} {freq : Int32}

theorem mapM_freq (sound : Sound none d) :
    d.localNodes.mapM (fun n => (fun node : UsteerNode => node.freq) <$> d.node n) = .ok d.bands := by
  have listed : ∀ n ∈ d.localNodes, ∃ node, d.nodes.get? n = some node := by
    intro n inside
    obtain ⟨node, live, -⟩ := node_of_locals sound.registered inside
    exact ⟨node, live⟩
  unfold bands
  generalize d.localNodes = list at listed ⊢
  induction list with
  | nil => rfl
  | cons n rest ih =>
    obtain ⟨node, live⟩ := listed n List.mem_cons_self
    have others := ih fun m inside => listed m (List.mem_cons_of_mem _ inside)
    rw [List.mapM_cons, others, node_ok live, List.filterMap_cons, live]
    rfl

theorem length_bands (sound : Sound none d) : d.bands.length = d.localNodes.length := by
  unfold bands
  refine List.filterMap_length_eq_length.mpr fun n inside => ?_
  obtain ⟨node, live, -⟩ := node_of_locals sound.registered inside
  simp [live]

/-- `usteer_beacon_request_next_band` goes on in the rotation. -/
theorem nextBand_eq (sound : Sound none d) (registered : d.localNodes ≠ []) (freq : Int32) :
    d.usteerBeaconRequestNextBand freq = .ok (Rotation.next d.bands freq) := by
  unfold usteerBeaconRequestNextBand
  rw [mapM_freq sound, ok_bind, bandAfter_true, Rotation.next]
  cases ((d.bands.dropWhile (· ≠ freq)).dropWhile (· = freq)).head? with
  | some next => rfl
  | none =>
    have some : d.bands ≠ [] := by
      rw [← List.length_pos_iff, length_bands sound]
      exact List.length_pos_iff.mpr registered
    obtain ⟨first, rest, shape⟩ := List.exists_cons_of_ne_nil some
    rw [shape]
    rfl

/-- Going on some times. -/
theorem nextBand_iterate (sound : Sound none d) (registered : d.localNodes ≠ []) (start : Int32) (k : Nat) :
    (· >>= d.usteerBeaconRequestNextBand)^[k] (.ok start) = .ok ((Rotation.next d.bands)^[k] start) := by
  induction k with
  | zero => rfl
  | succ k ih =>
    rw [Function.iterate_succ_apply', Function.iterate_succ_apply', ih]
    exact nextBand_eq sound registered _

theorem mem_bands {n : NodeId} {node : UsteerNode} (inside : n ∈ d.localNodes) (live : d.nodes.get? n = some node) :
    node.freq ∈ d.bands :=
  List.mem_filterMap.mpr ⟨n, inside, by simp [live]⟩

theorem mem_localNodes {n : NodeId} {node : UsteerNode} (sound : Sound none d) (live : d.nodes.get? n = some node)
    (isLocal : node.isLocal = true) : n ∈ d.localNodes :=
  (sound.registered.inLocals n).mpr (by simp [table, live, isLocal])

/-- Where no two local nodes share a frequency, every frequency comes once before that of the
    client's own node comes again. -/
theorem bands_visited_once (env : Platform) {s : System} {n : NodeId} {node : UsteerNode}
    (reach : System.Reached env s) (inside : n ∈ s.daemon.localNodes) (live : s.daemon.nodes.get? n = some node)
    (distinct : s.daemon.bands.Nodup) : ∃ rest, (node.freq :: rest).Perm s.daemon.bands ∧
      (node.freq :: rest ++ [node.freq]).IsChain (fun a b => s.daemon.usteerBeaconRequestNextBand a = .ok b) := by
  have sound := reach.sound
  have registered : s.daemon.localNodes ≠ [] := List.ne_nil_of_mem inside
  obtain ⟨rest, all, chain⟩ := Rotation.exists_round distinct (mem_bands inside live)
  refine ⟨rest, all, chain.imp fun a b following => ?_⟩
  rw [nextBand_eq sound registered, following]

end NextBand

/-- A client that is heard on the first of three nodes. -/
def threeBands : List Input :=
  [.register hostapdDot, .register (hostapdDot ++ [49]), .register (hostapdDot ++ [50]),
    .clients 0 ⟨some 2412, some []⟩, .clients 1 ⟨some 5180, some []⟩, .clients 2 ⟨some 5260, some []⟩,
    .staEvent 1 1 .probe 5180 (-60)]

/-- From the second of three frequencies, the third and then the first follow. -/
theorem bands_visited_once_of_three : ∃ s info node, System.Reached plainPlatform s ∧
    s.daemon.infos.get? 0 = some info ∧ s.daemon.nodes.get? info.node = some node ∧
    s.daemon.bands = [2412, 5180, 5260] ∧ node.freq = 5180 ∧ ∃ rest, (node.freq :: rest).Perm s.daemon.bands ∧
      (node.freq :: rest ++ [node.freq]).IsChain (fun a b => s.daemon.usteerBeaconRequestNextBand a = .ok b) := by
  have evaluates : ((plainRun usteerInitDefaults threeBands).any fun d => (d.infos.get? 0).any fun info =>
      (d.nodes.get? info.node).any fun node =>
        decide (d.bands = [2412, 5180, 5260] ∧ node.freq = 5180 ∧ node.isLocal = true)) = true := by decide +kernel
  obtain ⟨d, run, evaluates⟩ := (Option.any_eq_true _ _).mp evaluates
  obtain ⟨info, live, evaluates⟩ := (Option.any_eq_true _ _).mp evaluates
  obtain ⟨node, liveNode, evaluates⟩ := (Option.any_eq_true _ _).mp evaluates
  obtain ⟨bands, own, isLocal⟩ := of_decide_eq_true evaluates
  have reach := reached_plainRun run
  have distinct : d.bands.Nodup := by
    rw [bands]
    decide
  have inside : info.node ∈ d.localNodes := mem_localNodes reach.sound liveNode isLocal
  have visited := bands_visited_once plainPlatform reach inside liveNode distinct
  exact ⟨_, info, node, reach, live, liveNode, bands, own, visited⟩

/-! ### One request after the other -/

/-- The mode in which a client is asked now, unless the rate limit holds the request back. -/
def Daemon.askedMode (env : Platform) (cfg : Config) (d : Daemon) (info : StaInfo) (node : UsteerNode) : Option UInt8 :=
  let br := info.beaconRequest
  if br.band = node.freq && env.belowRequestPeriod cfg info.signal (d.currentTime - br.lastRequestTime) then none
  else some (requestMode br.band (countFailedRequests br node.freq br.band))

/-- A call of `usteer_beacon_request_check`: the local frequencies, the client's own one, the time,
    the record it finds, and the mode of the request, if one is sent. -/
structure Ask where
  bands : List Int32
  own : Int32
  time : UInt64
  before : BeaconRequest
  mode : Option UInt8

/-- The record that a call leaves. -/
def Ask.after (a : Ask) : BeaconRequest :=
  match a.mode with
  | none => a.before
  | some _ =>
    { a.before with
      band := Rotation.next a.bands a.before.band
      failedRequests := countFailedRequests a.before a.own a.before.band
      lastRequestTime := if a.before.band = a.own then a.time else a.before.lastRequestTime }

/-- Only a request on the client's own frequency is held back, and the mode of any other
    depends on the failed ones. -/
def Ask.Right (a : Ask) : Prop :=
  match a.mode with
  | none => a.before.band = a.own
  | some mode => mode = requestMode a.before.band (countFailedRequests a.before a.own a.before.band)

section Check

variable {env : Platform} {cfg : Config} {d d' : Daemon} {si : SiId} {info : StaInfo} {node : UsteerNode}

/-- What the client is asked now. -/
def Daemon.askNow (env : Platform) (cfg : Config) (d : Daemon) (info : StaInfo) (node : UsteerNode) : Ask :=
  ⟨d.bands, node.freq, d.currentTime, info.beaconRequest, d.askedMode env cfg info node⟩

theorem right_askNow : (d.askNow env cfg info node).Right := by
  unfold Ask.Right askNow askedMode
  dsimp only
  split
  · rename_i held
    split at held
    · rename_i limited
      exact of_decide_eq_true (Bool.and_eq_true_iff.mp limited).1
    · cases held
  · rename_i mode sent
    split at sent
    · cases sent
    · cases sent
      rfl

/-- A call of `usteer_beacon_request_check` leaves that record, and logs that request. -/
theorem returns_check (sound : Sound none d) (live : d.infos.get? si = some info)
    (liveNode : d.nodes.get? info.node = some node) (isLocal : node.isLocal = true)
    (ran : d.usteerBeaconRequestCheck env cfg si = .ok d') :
    (∃ info', d'.infos.get? si = some info' ∧ info'.beaconRequest = (d.askNow env cfg info node).after) ∧
      d'.trace = d.trace ++ ((d.askNow env cfg info node).mode.map fun mode => Event.beaconRequest d.currentTime si
        (getChannelFromFreq info.beaconRequest.band)
        (getOpClassFromChannel (getChannelFromFreq info.beaconRequest.band)) mode).toList := by
  unfold usteerBeaconRequestCheck at ran
  rw [info_ok live, ok_bind, node_ok liveNode, ok_bind] at ran
  dsimp only at ran
  unfold askNow askedMode Ask.after
  dsimp only
  split at ran
  · rename_i limited
    cases ran
    rw [if_pos limited]
    exact ⟨⟨info, live, rfl⟩, by simp⟩
  · rename_i unlimited
    rw [if_neg unlimited]
    have registered : d.localNodes ≠ [] := locals_of_onLocal sound ⟨node, liveNode, isLocal⟩
    have following (d1 : Daemon) (nodes : d1.nodes = d.nodes) (locals : d1.localNodes = d.localNodes) :
        d1.usteerBeaconRequestNextBand info.beaconRequest.band = .ok (Rotation.next d.bands info.beaconRequest.band) := by
      rw [← nextBand_eq sound registered]
      unfold usteerBeaconRequestNextBand Daemon.node
      rw [nodes, locals]
    by_cases own : info.beaconRequest.band = node.freq
    · rw [if_pos own] at ran
      generalize cleaned : usteerBeaconReportCleanup cfg _ si _ = d3 at ran
      rw [following d3 (by rw [← cleaned]; rfl) (by rw [← cleaned]; rfl), ok_bind] at ran
      cases ran
      subst cleaned
      refine ⟨⟨_, infos_modifyInfo_self (infos_modifyInfo_self (infos_modifyInfo_self (infos_modifyInfo_self live))), ?_⟩,
        rfl⟩
      simp [own]
    · rw [if_neg own] at ran
      generalize sent : usteerBeaconRequestSend _ si _ _ = d3 at ran
      rw [following d3 (by rw [← sent]; rfl) (by rw [← sent]; rfl), ok_bind] at ran
      cases ran
      subst sent
      refine ⟨⟨_, infos_modifyInfo_self (infos_modifyInfo_self live), ?_⟩, rfl⟩
      simp [own]

end Check

/-- One step of the daemon, with what of it concerns the requests to the client: a call of
    `usteer_beacon_request_check`, or something that leaves their record alone. -/
inductive RequestStep (env : Platform) (cfg : Config) (si : SiId) : Daemon → List Ask → Daemon → Prop
  | check {d d' info node} (sound : Sound none d) (live : d.infos.get? si = some info)
      (liveNode : d.nodes.get? info.node = some node) (isLocal : node.isLocal = true)
      (ran : d.usteerBeaconRequestCheck env cfg si = .ok d') :
      RequestStep env cfg si d [d.askNow env cfg info node] d'
  | other {d d' info info'} (live : d.infos.get? si = some info) (live' : d'.infos.get? si = some info')
      (record : info'.beaconRequest = info.beaconRequest) : RequestStep env cfg si d [] d'

/-- Such steps one after the other. -/
def RequestRun (env : Platform) (cfg : Config) (si : SiId) : Daemon → List Ask → Daemon → Prop :=
  Run (RequestStep env cfg si)

/-- Each call finds the record that the one before has left. -/
def Follows : BeaconRequest → List Ask → BeaconRequest → Prop
  | record, [], record' => record' = record
  | record, a :: rest, record' => a.Right ∧ a.before = record ∧ Follows a.after rest record'

section RequestRuns

variable {env : Platform} {cfg : Config} {d d' : Daemon} {si : SiId} {info : StaInfo}

theorem Follows.append {asks more : List Ask} {record1 record2 : BeaconRequest} :
    ∀ {record}, Follows record asks record1 → Follows record1 more record2 → Follows record (asks ++ more) record2 := by
  induction asks with
  | nil =>
    intro record first second
    cases first
    exact second
  | cons a rest ih =>
    rintro record ⟨right, found, first⟩ second
    exact ⟨right, found, ih first second⟩

theorem requestStep_follows {asks : List Ask} (step : RequestStep env cfg si d asks d')
    (live : d.infos.get? si = some info) :
    ∃ info', d'.infos.get? si = some info' ∧ Follows info.beaconRequest asks info'.beaconRequest := by
  cases step with
  | check sound live' liveNode isLocal ran =>
    cases live.symm.trans live'
    obtain ⟨⟨info', live1, record⟩, -⟩ := returns_check sound live liveNode isLocal ran
    exact ⟨info', live1, right_askNow, rfl, record⟩
  | other live0 live' record =>
    cases live.symm.trans live0
    exact ⟨_, live', record⟩

theorem requestRun_follows {asks : List Ask} (run : RequestRun env cfg si d asks d') :
    ∀ {info}, d.infos.get? si = some info →
      ∃ info', d'.infos.get? si = some info' ∧ Follows info.beaconRequest asks info'.beaconRequest := by
  induction run with
  | refl d =>
    intro info live
    exact ⟨info, live, rfl⟩
  | next head tail ih =>
    intro info live
    obtain ⟨info1, live1, first⟩ := requestStep_follows head live
    obtain ⟨info2, live2, second⟩ := ih live1
    exact ⟨info2, live2, first.append second⟩

/-! ### The rate limit -/

/-- The local frequencies and the client's own one during a call. -/
def Ask.On (bands : List Int32) (own : Int32) (a : Ask) : Prop := a.bands = bands ∧ a.own = own

theorem band_after {bands : List Int32} {own : Int32} {a : Ask} (fixed : a.On bands own) (sent : a.mode ≠ none) :
    a.after.band = Rotation.next bands a.before.band := by
  obtain ⟨mode, sent⟩ := Option.ne_none_iff_exists'.mp sent
  rw [Ask.after, sent, ← fixed.1]

/-- As long as no call finds the client's own frequency, none is held back and the band goes on
    by one with each. -/
theorem bands_met {bands : List Int32} {own : Int32} {record' : BeaconRequest} (asks : List Ask) :
    ∀ {record : BeaconRequest} {k : Nat}, Follows record asks record' → (∀ a ∈ asks, a.On bands own) →
      (∀ a ∈ asks, a.before.band ≠ own) → record.band = (Rotation.next bands)^[k] own →
      ∀ j < asks.length, (Rotation.next bands)^[k + j] own ≠ own := by
  induction asks with
  | nil =>
    intro record k _ _ _ _ j short
    cases short
  | cons a rest ih =>
    rintro record k ⟨right, found, follows⟩ fixed away band j short
    have awayHere := away a List.mem_cons_self
    have fixedHere := fixed a List.mem_cons_self
    have sent : a.mode ≠ none := by
      intro held
      rw [Ask.Right, held] at right
      rw [fixedHere.2] at right
      exact awayHere right
    cases j with
    | zero =>
      rw [Nat.add_zero, ← band, ← found]
      exact awayHere
    | succ j =>
      have following : a.after.band = (Rotation.next bands)^[k + 1] own := by
        rw [band_after fixedHere sent, found, band, Function.iterate_succ_apply']
      have later := ih follows (fun b inside => fixed b (List.mem_cons_of_mem _ inside))
        (fun b inside => away b (List.mem_cons_of_mem _ inside)) following j (by simpa using short)
      rw [show k + (j + 1) = k + 1 + j by omega]
      exact later

/-- From one call on the client's own frequency to the next there are no more calls than local
    frequencies. -/
theorem calls_between {bands : List Int32} {own : Int32} {record record' : BeaconRequest} {first : Ask}
    {rest : List Ask} (inside : own ∈ bands) (free : ¬ Rotation.Trap bands own)
    (follows : Follows record (first :: rest) record') (fixed : ∀ a ∈ first :: rest, a.On bands own)
    (start : first.before.band = own) (away : ∀ a ∈ rest, a.before.band ≠ own) :
    (first :: rest).length ≤ bands.length := by
  obtain ⟨k, positive, short, back⟩ := (Rotation.reaches_iff inside).mpr free own
  obtain ⟨-, -, follows⟩ := follows
  have fixedRest : ∀ a ∈ rest, a.On bands own := fun a among => fixed a (List.mem_cons_of_mem _ among)
  rw [List.length_cons]
  by_cases held : first.mode = none
  · -- then the next call is on the same band
    cases rest with
    | nil => exact List.length_pos_of_mem inside
    | cons a rest =>
      have same : a.before.band = own := by
        rw [follows.2.1, Ask.after, held]
        exact start
      exact absurd same (away a List.mem_cons_self)
  · have following : first.after.band = (Rotation.next bands)^[1] own := by
      rw [band_after (fixed first List.mem_cons_self) held, start]
      rfl
    have met := bands_met rest follows fixedRest away following
    by_contra long
    refine met (k - 1) (by omega) ?_
    rw [show 1 + (k - 1) = k by omega]
    exact back

end RequestRuns

/-- The band comes round to the frequency of the client's node within as many steps as there are
    local nodes, wherever it starts, if and only if no other frequency comes back before; it does
    where no two local nodes share one. Then at most that many requests are sent from one
    application of the rate limit to the next. -/
theorem own_band_reached_iff (env : Platform) {s : System} {si : SiId} {info : StaInfo} {node : UsteerNode}
    (reach : System.Reached env s) (live : s.daemon.infos.get? si = some info)
    (liveNode : s.daemon.nodes.get? info.node = some node) (isLocal : node.isLocal = true) :
    ((∀ start, ∃ k, 1 ≤ k ∧ k ≤ s.daemon.localNodes.length ∧
        (· >>= s.daemon.usteerBeaconRequestNextBand)^[k] (.ok start) = .ok node.freq) ↔
      ¬ Rotation.Trap s.daemon.bands node.freq) ∧
    (s.daemon.bands.Nodup → ¬ Rotation.Trap s.daemon.bands node.freq) ∧
    (¬ Rotation.Trap s.daemon.bands node.freq → ∀ cfg d' first rest,
      RequestRun env cfg si s.daemon (first :: rest) d' → (∀ a ∈ first :: rest, a.On s.daemon.bands node.freq) →
      first.before.band = node.freq → (∀ a ∈ rest, a.before.band ≠ node.freq) →
      ((first :: rest).filter (fun a => a.mode.isSome)).length ≤ s.daemon.localNodes.length) := by
  have sound := reach.sound
  have listed := mem_localNodes sound liveNode isLocal
  have registered : s.daemon.localNodes ≠ [] := List.ne_nil_of_mem listed
  have inside := mem_bands listed liveNode
  refine ⟨?_, Rotation.not_trap_of_nodup node.freq, ?_⟩
  · rw [← Rotation.reaches_iff inside, length_bands sound]
    simp only [nextBand_iterate sound registered, Except.ok.injEq]
  · intro free cfg d' first rest run fixed start away
    obtain ⟨info', -, follows⟩ := requestRun_follows run live
    have few := calls_between inside free follows fixed start away
    rw [length_bands sound] at few
    exact (List.length_filter_le _ _).trans few

/-- With three different frequencies, the second comes round within three steps. -/
theorem own_band_reached_of_three : ∃ s info node, System.Reached plainPlatform s ∧
    s.daemon.infos.get? 0 = some info ∧ s.daemon.nodes.get? info.node = some node ∧ node.freq = 5180 ∧
    ∀ start, ∃ k, 1 ≤ k ∧ k ≤ s.daemon.localNodes.length ∧
      (· >>= s.daemon.usteerBeaconRequestNextBand)^[k] (.ok start) = .ok node.freq := by
  have evaluates : ((plainRun usteerInitDefaults threeBands).any fun d => (d.infos.get? 0).any fun info =>
      (d.nodes.get? info.node).any fun node =>
        decide (d.bands = [2412, 5180, 5260] ∧ node.freq = 5180 ∧ node.isLocal = true)) = true := by decide +kernel
  obtain ⟨d, run, evaluates⟩ := (Option.any_eq_true _ _).mp evaluates
  obtain ⟨info, live, evaluates⟩ := (Option.any_eq_true _ _).mp evaluates
  obtain ⟨node, liveNode, evaluates⟩ := (Option.any_eq_true _ _).mp evaluates
  obtain ⟨bands, own, isLocal⟩ := of_decide_eq_true evaluates
  have reach := reached_plainRun run
  obtain ⟨reaches, free, -⟩ := own_band_reached_iff plainPlatform reach live liveNode isLocal
  have distinct : d.bands.Nodup := by
    rw [bands]
    decide
  exact ⟨_, info, node, reach, live, liveNode, own, reaches.mpr (free distinct)⟩

/-- A client on the last of four nodes, the first and the third of which share a frequency. -/
def sharedBand : List Input :=
  [.register hostapdDot, .register (hostapdDot ++ [49]), .register (hostapdDot ++ [50]), .register (hostapdDot ++ [51]),
    .clients 0 ⟨some 2412, some []⟩, .clients 1 ⟨some 5180, some []⟩, .clients 2 ⟨some 2412, some []⟩,
    .clients 3 ⟨some 5260, some []⟩, .staEvent 3 1 .probe 5260 (-60)]

/-- Once the client has been asked on its own frequency, the band goes to and fro between the
    first two and never comes back. -/
theorem own_band_never_reached : ∃ s info node, System.Reached plainPlatform s ∧
    s.daemon.infos.get? 0 = some info ∧ s.daemon.nodes.get? info.node = some node ∧ node.isLocal = true ∧
    ∀ k, 1 ≤ k → (· >>= s.daemon.usteerBeaconRequestNextBand)^[k] (.ok node.freq) ≠ .ok node.freq := by
  have evaluates : ((plainRun usteerInitDefaults sharedBand).any fun d => (d.infos.get? 0).any fun info =>
      (d.nodes.get? info.node).any fun node =>
        decide (d.bands = [2412, 5180, 2412, 5260] ∧ node.freq = 5260 ∧ node.isLocal = true)) = true := by decide +kernel
  obtain ⟨d, run, evaluates⟩ := (Option.any_eq_true _ _).mp evaluates
  obtain ⟨info, live, evaluates⟩ := (Option.any_eq_true _ _).mp evaluates
  obtain ⟨node, liveNode, evaluates⟩ := (Option.any_eq_true _ _).mp evaluates
  obtain ⟨bands, own, isLocal⟩ := of_decide_eq_true evaluates
  have reach := reached_plainRun run
  have registered : d.localNodes ≠ [] := List.ne_nil_of_mem (mem_localNodes reach.sound liveNode isLocal)
  refine ⟨_, info, node, reach, live, liveNode, isLocal, fun k positive back => ?_⟩
  obtain ⟨m, rfl⟩ := Nat.exists_eq_add_of_le' positive
  dsimp only at back
  rw [nextBand_iterate reach.sound registered, Except.ok.injEq, bands, own, Function.iterate_succ_apply] at back
  have stays : (Rotation.next [2412, 5180, 2412, 5260])^[m] 2412 ∈ [(2412 : Int32), 5180] :=
    @Rotation.iterate_trapped _ _ _ [] [5180] [5260] 2412 5180 rfl (by simp) (by simp) (by decide) (by simp) m
  have first : Rotation.next [2412, 5180, 2412, 5260] 5260 = (2412 : Int32) := by decide +kernel
  rw [first] at back
  rw [back] at stays
  exact absurd stays (by decide)

/-! ### Unanswered requests -/

theorem requestMode_table {freq : Int32} {few many : UInt8} (more : few ≤ many) (table : requestMode freq few = 2) :
    requestMode freq many = 2 := by
  unfold requestMode at table ⊢
  have more : few.toNat ≤ many.toNat := more
  have lt {a b : UInt8} : a < b ↔ a.toNat < b.toNat := UInt8.lt_iff_toNat_lt
  simp only [Bool.and_eq_true, decide_eq_true_eq, lt] at table ⊢
  grind

/-- A client that has not answered is a failed request on its own frequency. -/
theorem failed_counted {record : BeaconRequest} (own : Int32) (never : record.lastReportTime = 0)
    (early : record.lastRequestTime.toNat ≤ 2 ^ 63) :
    countFailedRequests record own own = record.failedRequests + 1 := by
  have negative : ¬ 0 < (record.lastReportTime - record.lastRequestTime).toInt64 := by
    have size := record.lastRequestTime.toNat_lt
    rw [never, Int64.lt_iff_toInt_lt, Words.toInt_toInt64, UInt64.toNat_sub, Int.bmod_def]
    simp only [Int64.toInt_zero, UInt64.toNat_zero]
    omega
  unfold countFailedRequests
  dsimp only
  rw [if_pos rfl, if_neg negative]

/-- A request on the client's own frequency finds a counter that does not wrap, and a last one
    in the first half of time. -/
def Ask.Countable (a : Ask) : Prop :=
  a.mode ≠ none → a.before.band = a.own → a.before.failedRequests ≠ 255 ∧ a.before.lastRequestTime.toNat ≤ 2 ^ 63

theorem failed_after {a : Ask} (never : a.before.lastReportTime = 0) (countable : a.Countable) :
    a.before.failedRequests ≤ a.after.failedRequests ∧ a.after.lastReportTime = 0 := by
  unfold Ask.after
  cases sent : a.mode with
  | none => exact ⟨UInt8.le_refl _, never⟩
  | some mode =>
    refine ⟨?_, never⟩
    dsimp only
    by_cases own : a.before.band = a.own
    · obtain ⟨room, early⟩ := countable (by simp [sent]) own
      rw [own, failed_counted a.own never early, UInt8.le_iff_toNat_le, UInt8.toNat_add]
      have size := a.before.failedRequests.toNat_lt
      have below : a.before.failedRequests.toNat ≠ 255 := fun full => room (UInt8.toNat_inj.mp full)
      rw [UInt8.toNat_one]
      omega
    · rw [countFailedRequests, if_neg fun same => own same.symm]
      exact UInt8.le_refl _

theorem failed_follows {record' : BeaconRequest} (asks : List Ask) : ∀ {record : BeaconRequest},
    Follows record asks record' → record.lastReportTime = 0 → (∀ a ∈ asks, a.Countable) →
      record.failedRequests ≤ record'.failedRequests ∧ record'.lastReportTime = 0 := by
  induction asks with
  | nil =>
    intro record follows never _
    cases follows
    exact ⟨UInt8.le_refl _, never⟩
  | cons a rest ih =>
    rintro record ⟨-, rfl, follows⟩ never countable
    obtain ⟨first, still⟩ := failed_after never (countable a List.mem_cons_self)
    obtain ⟨others, last⟩ := ih follows still fun b inside => countable b (List.mem_cons_of_mem _ inside)
    exact ⟨UInt8.le_trans first others, last⟩

theorem Follows.split {more : List Ask} {record' : BeaconRequest} (asks : List Ask) : ∀ {record : BeaconRequest},
    Follows record (asks ++ more) record' → ∃ middle, Follows record asks middle ∧ Follows middle more record' := by
  induction asks with
  | nil =>
    intro record follows
    exact ⟨record, rfl, follows⟩
  | cons a rest ih =>
    rintro record ⟨right, found, follows⟩
    obtain ⟨middle, first, second⟩ := ih follows
    exact ⟨middle, ⟨right, found, first⟩, second⟩

/-- The mode of a request is that of the counter it leaves. -/
theorem mode_eq {a : Ask} {mode : UInt8} (right : a.Right) (sent : a.mode = some mode) :
    mode = requestMode a.before.band a.after.failedRequests := by
  rw [Ask.Right, sent] at right
  rw [right, Ask.after, sent]

/-- A client that has never answered and was once asked for its beacon table on a frequency is
    asked for nothing else there, as long as the counter of failed requests does not wrap. -/
theorem table_mode_kept {env : Platform} {cfg : Config} {d d' : Daemon} {si : SiId} {info : StaInfo} {asks : List Ask}
    (live : d.infos.get? si = some info) (never : info.beaconRequest.lastReportTime = 0)
    (run : RequestRun env cfg si d asks d')
    (countable : ∀ a ∈ asks, a.Countable) {early between late : List Ask} {first later : Ask} {mode : UInt8}
    (split : asks = early ++ first :: between ++ later :: late) (table : first.mode = some 2)
    (same : later.before.band = first.before.band) (sent : later.mode = some mode) : mode = 2 := by
  obtain ⟨info', -, follows⟩ := requestRun_follows run live
  subst split
  obtain ⟨record1, follows, right1, found1, -⟩ := follows.split (early ++ first :: between)
  obtain ⟨record0, before, right0, found0, follows⟩ := follows.split early
  have countableAt (a : Ask) (inside : a ∈ early ++ first :: between ++ later :: late) := countable a inside
  obtain ⟨-, never0⟩ := failed_follows early before never fun a inside => countableAt a (by simp [inside])
  rw [← found0] at never0
  obtain ⟨-, never1⟩ := failed_after never0 (countableAt first (by simp))
  obtain ⟨grown, never2⟩ := failed_follows between follows never1 fun a inside => countableAt a (by simp [inside])
  rw [← found1] at grown never2
  obtain ⟨further, -⟩ := failed_after never2 (countableAt later (by simp))
  have two := mode_eq right0 table
  rw [mode_eq right1 sent, same]
  exact requestMode_table (UInt8.le_trans grown further) two.symm

instance (a : Ask) : Decidable a.Countable := inferInstanceAs (Decidable (_ → _ → _))

/-- A call of `usteer_beacon_request_check` some time later. -/
def Daemon.checkLater (cfg : Config) (si : SiId) (ms : UInt64) (d : Daemon) : Option (Ask × Daemon) := do
  let d := { d with clock := d.clock + ms }.usteerUpdateTime
  let info ← d.infos.get? si
  let node ← d.nodes.get? info.node
  if node.isLocal then
    let d' ← (d.usteerBeaconRequestCheck plainPlatform cfg si).toOption
    return (d.askNow plainPlatform cfg info node, d')
  else none

/-- Calls some time after each other. -/
def Daemon.checksLater (cfg : Config) (si : SiId) (ms : UInt64) : Nat → Daemon → Option (List Ask × Daemon)
  | 0, d => some ([], d)
  | k + 1, d => do
    let (a, d) ← d.checkLater cfg si ms
    let (asks, d) ← checksLater cfg si ms k d
    return (a :: asks, d)

section Later

variable {cfg : Config} {d d' : Daemon} {si : SiId} {ms : UInt64}

theorem requestRun_checkLater {a : Ask} (sound : Sound none d) (checked : d.checkLater cfg si ms = some (a, d')) :
    RequestRun plainPlatform cfg si d [a] d' ∧ Sound none d' := by
  have sound1 := sound_later sound ms
  unfold checkLater at checked
  obtain ⟨info, live, checked⟩ := Option.bind_eq_some_iff.mp checked
  obtain ⟨node, liveNode, checked⟩ := Option.bind_eq_some_iff.mp checked
  split at checked
  · rename_i isLocal
    obtain ⟨d1, ran, checked⟩ := Option.bind_eq_some_iff.mp checked
    cases checked
    have ran := ok_of_toOption ran
    have time : RequestStep plainPlatform cfg si d [] { d with clock := d.clock + ms }.usteerUpdateTime :=
      .other live live rfl
    refine ⟨.next time (.one (.check sound1 live liveNode isLocal ran)), ?_⟩
    have moves := (post_usteerBeaconRequestCheck (F := AnyFault) plainPlatform cfg .plain sound1 live
      ⟨node, liveNode, isLocal⟩).of_ok ran
    exact sound_moves (a := (none, _)) sound1 moves
  · cases checked

theorem requestRun_checksLater (k : Nat) : ∀ {d : Daemon} {asks : List Ask}, Sound none d →
    d.checksLater cfg si ms k = some (asks, d') → RequestRun plainPlatform cfg si d asks d' ∧ Sound none d' := by
  induction k with
  | zero =>
    intro d asks sound checked
    cases checked
    exact ⟨.refl _, sound⟩
  | succ k ih =>
    intro d asks sound checked
    obtain ⟨⟨a, d1⟩, first, checked⟩ := Option.bind_eq_some_iff.mp checked
    obtain ⟨⟨others, d2⟩, more, checked⟩ := Option.bind_eq_some_iff.mp checked
    cases checked
    obtain ⟨run1, sound1⟩ := requestRun_checkLater sound first
    obtain ⟨run2, sound2⟩ := ih sound1 more
    exact ⟨run1.trans run2, sound2⟩

end Later

/-- A client on the only node, which uses a frequency of the lower band. -/
def oneBand : List Input :=
  [.register hostapdDot, .clients 0 ⟨some 2412, some []⟩, .staEvent 0 1 .probe 2412 (-60)]

/-- A client that never answers is asked every minute; six calls come before the first of two and
    some between them. -/
def askedTwice (between : Nat) (meets : List Ask → Ask → List Ask → Ask → Bool) : Bool :=
  (plainRun usteerInitDefaults oneBand).any fun d => (d.infos.get? 0).any fun info =>
    (d.checksLater usteerInitDefaults 0 60000 6).any fun r1 => (r1.2.checkLater usteerInitDefaults 0 60000).any fun r2 =>
    (r2.2.checksLater usteerInitDefaults 0 60000 between).any fun r3 =>
    (r3.2.checkLater usteerInitDefaults 0 60000).any fun r4 =>
      decide (info.beaconRequest.lastReportTime = 0) && meets r1.1 r2.1 r3.1 r4.1

theorem asked_twice {between : Nat} {meets : List Ask → Ask → List Ask → Ask → Bool}
    (evaluates : askedTwice between meets = true) : ∃ s info d' early first others later,
      System.Reached plainPlatform s ∧ s.daemon.infos.get? 0 = some info ∧ info.beaconRequest.lastReportTime = 0 ∧
      RequestRun plainPlatform usteerInitDefaults 0 s.daemon (early ++ first :: others ++ later :: []) d' ∧
      meets early first others later = true := by
  obtain ⟨d, run, evaluates⟩ := (Option.any_eq_true _ _).mp evaluates
  obtain ⟨info, live, evaluates⟩ := (Option.any_eq_true _ _).mp evaluates
  obtain ⟨⟨early, d1⟩, checked1, evaluates⟩ := (Option.any_eq_true _ _).mp evaluates
  obtain ⟨⟨first, d2⟩, checked2, evaluates⟩ := (Option.any_eq_true _ _).mp evaluates
  obtain ⟨⟨others, d3⟩, checked3, evaluates⟩ := (Option.any_eq_true _ _).mp evaluates
  obtain ⟨⟨later, d4⟩, checked4, evaluates⟩ := (Option.any_eq_true _ _).mp evaluates
  rw [Bool.and_eq_true, decide_eq_true_eq] at evaluates
  have reach := reached_plainRun run
  obtain ⟨run1, sound1⟩ := requestRun_checksLater 6 reach.sound checked1
  obtain ⟨run2, sound2⟩ := requestRun_checkLater sound1 checked2
  obtain ⟨run3, sound3⟩ := requestRun_checksLater between sound2 checked3
  obtain ⟨run4, -⟩ := requestRun_checkLater sound3 checked4
  refine ⟨_, info, d4, early, first, others, later, reach, live, evaluates.1, ?_, evaluates.2⟩
  have whole := ((run1.trans run2).trans run3).trans run4
  rw [List.append_assoc early [first] others] at whole
  exact whole

/-- The seventh request asks for the beacon table, and so does the ninth. -/
theorem table_mode_kept_twice : ∃ s info d' asks first later mode, System.Reached plainPlatform s ∧
    s.daemon.infos.get? 0 = some info ∧ RequestRun plainPlatform usteerInitDefaults 0 s.daemon asks d' ∧
    first ∈ asks ∧ later ∈ asks ∧ first.mode = some 2 ∧ later.mode = some mode ∧ mode = 2 := by
  obtain ⟨s, info, d', early, first, others, later, reach, live, never, run, meets⟩ :=
    @asked_twice 1 (fun early first others later => decide ((∀ a ∈ early, a.Countable) ∧
      first.Countable ∧ (∀ a ∈ others, a.Countable) ∧ later.Countable ∧ first.mode = some 2 ∧
      later.before.band = first.before.band ∧ later.mode.isSome = true)) (by decide +kernel)
  obtain ⟨countable1, countable2, countable3, countable4, table, same, sent⟩ := of_decide_eq_true meets
  obtain ⟨mode, sent⟩ := Option.isSome_iff_exists.mp sent
  have countable : ∀ a ∈ early ++ first :: others ++ later :: [], a.Countable := by
    intro a inside
    simp only [List.append_assoc, List.cons_append, List.mem_append, List.mem_cons, List.not_mem_nil, or_false] at inside
    rcases inside with inside | rfl | inside | rfl
    · exact countable1 a inside
    · exact countable2
    · exact countable3 a inside
    · exact countable4
  have kept := table_mode_kept live never run countable rfl table same sent
  exact ⟨s, info, d', _, first, later, mode, reach, live, run, by simp, by simp, table, sent, kept⟩

/-- With the 256th request the counter is back at zero, and the client is asked to measure
    actively again. -/
theorem table_mode_left : ∃ s info d' early first others later, System.Reached plainPlatform s ∧
    s.daemon.infos.get? 0 = some info ∧ info.beaconRequest.lastReportTime = 0 ∧
    RequestRun plainPlatform usteerInitDefaults 0 s.daemon (early ++ first :: others ++ later :: []) d' ∧
    first.mode = some 2 ∧ later.before.band = first.before.band ∧ later.mode = some 1 := by
  obtain ⟨s, info, d', early, first, others, later, reach, live, never, run, meets⟩ :=
    @asked_twice 248 (fun _ first _ later => decide (first.mode = some 2 ∧
      later.before.band = first.before.band ∧ later.mode = some 1)) (by decide +kernel)
  obtain ⟨table, same, active⟩ := of_decide_eq_true meets
  exact ⟨s, info, d', early, first, others, later, reach, live, never, run, table, same, active⟩

end Usteer
