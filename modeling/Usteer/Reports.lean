import Usteer.Entries
import Usteer.Events
import Usteer.Search

/-!
The beacon reports of an entry. A new report goes on top, in the place of the older one of
its BSSID, and all that happens to the list besides is that reports are taken out; so in
every run the list has one report per BSSID, the newest first (`filed_handle`).
-/
namespace Usteer
open SearchTree Timeout Function Daemon

/-- One report per BSSID, the newest first. -/
structure Filed (reports : List BeaconReport) : Prop where
  distinct : (reports.map BeaconReport.bssid).Nodup
  newestFirst : reports.Pairwise (fun newer older => older.usteerTime ≤ newer.usteerTime)

/-- The reports of every entry are filed, and none comes from the future. -/
structure ReportsFiled (d : Daemon) : Prop where
  filed : ∀ {si info}, d.infos.get? si = some info → Filed info.beaconReports
  past : ∀ {si info br}, d.infos.get? si = some info → br ∈ info.beaconReports →
    br.usteerTime.toNat ≤ d.currentTime.toNat

section Filed

variable {env : Platform} {cfg : Config} {scope : Scope} {d d' : Daemon} {si : SiId} {info info' : StaInfo}

theorem filed_nil : Filed [] := ⟨List.nodup_nil, .nil⟩

theorem Filed.sublist {reports fewer : List BeaconReport} (filed : Filed reports) (taken : fewer.Sublist reports) :
    Filed fewer :=
  ⟨filed.distinct.sublist (taken.map _), filed.newestFirst.sublist taken⟩

/-- A report from now goes on top. -/
theorem Filed.cons {reports : List BeaconReport} {br : BeaconReport} (filed : Filed reports)
    (other : ∀ old ∈ reports, old.bssid ≠ br.bssid) (newer : ∀ old ∈ reports, old.usteerTime ≤ br.usteerTime) :
    Filed (br :: reports) where
  distinct := by
    rw [List.map_cons, List.nodup_cons]
    refine ⟨fun listed => ?_, filed.distinct⟩
    obtain ⟨old, inside, same⟩ := List.mem_map.mp listed
    exact other old inside same
  newestFirst := List.pairwise_cons.mpr ⟨newer, filed.newestFirst⟩

theorem filed_move {a b : Option StaId × Daemon} (past : HeardBefore a.2) (filed : ReportsFiled a.2)
    (move : Move env cfg scope a b) : ReportsFiled b.2 := by
  have later := (past.later (descends_move move)).1
  -- what becomes of the reports of one entry
  have each : ∀ {si info'}, b.2.infos.get? si = some info' → Filed info'.beaconReports ∧
      ∀ br ∈ info'.beaconReports, br.usteerTime.toNat ≤ b.2.currentTime.toNat := by
    intro si info' live'
    rcases info_move move live' with ⟨info, live, edited⟩ | ⟨-, n, s, freq, rfl⟩
    · have before : ∀ br ∈ info.beaconReports, br.usteerTime.toNat ≤ b.2.currentTime.toNat :=
        fun br inside => (filed.past live inside).trans later
      rcases edited.files with taken | ⟨br, top, now, -, other⟩
      · exact ⟨(filed.filed live).sublist taken, fun br inside => before br (taken.subset inside)⟩
      · rw [top]
        refine ⟨(filed.filed live).cons other fun old inside => ?_, List.forall_mem_cons.mpr ⟨?_, before⟩⟩
        · rw [now]
          exact filed.past live inside
        · rw [now]
          exact later
    · exact ⟨filed_nil, fun br inside => (List.not_mem_nil inside).elim⟩
  exact ⟨fun live' => (each live').1, fun {_ _ br} live' inside => (each live').2 br inside⟩

theorem filed_moves {a b : Option StaId × Daemon} (past : HeardBefore a.2) (filed : ReportsFiled a.2)
    (moves : Moves env cfg scope a b) : ReportsFiled b.2 := by
  induction moves with
  | refl => exact filed
  | tail before move ih => exact filed_move (heardBefore_moves past before) ih move

theorem filed_evolves (past : HeardBefore d) (filed : ReportsFiled d) (evolves : Evolves env cfg scope d d') :
    ReportsFiled d' := by
  induction evolves with
  | refl => exact filed
  | tail before change ih =>
    cases change with
    | moves moves => exact filed_moves (a := (none, _)) (heardBefore_evolves past before) ih moves
    | shrink shrunk =>
      refine ⟨fun live => ih.filed (shrunk.infos live), fun live inside => ?_⟩
      rw [shrunk.currentTime]
      exact ih.past (shrunk.infos live) inside
    | join joined =>
      rw [joined.rest]
      exact ⟨ih.filed, ih.past⟩

theorem filed_handle {input : Input} (sound : Sound none d) (past : HeardBefore d) (accepts : d.Accepts input)
    (filed : ReportsFiled d) (handled : d.handle env cfg input = .ok d') : ReportsFiled d' := by
  rcases (post_handle sound accepts).of_ok handled with ⟨ms, rfl, rfl⟩ | evolves
  · exact ⟨filed.filed, filed.past⟩
  · exact filed_evolves past filed evolves

theorem System.Reachable.filed {meets : SystemInput → Prop} {s : System} (reach : System.Reachable env meets s) :
    ReportsFiled s.daemon := by
  refine (reach.daemon (P := fun d => HeardBefore d ∧ ReportsFiled d) ?_ ?_ ?_).2.2
  · refine fun localId clock => ⟨⟨le_rfl, ?_⟩, ?_, ?_⟩
    · simp [Daemon.initial]
    · simp [Daemon.initial]
    · simp [Daemon.initial]
  · exact fun sound accepts handled both =>
      ⟨heardBefore_handle sound accepts both.1 handled, filed_handle sound both.1 accepts both.2 handled⟩
  · exact fun _ both => ⟨⟨both.1.time, both.1.heard⟩, both.2.filed, both.2.past⟩

end Filed

/-! ### A valid report -/

/-- A report that is stored: complete, from a station with an entry on the node, and about
    a node that is known. -/
structure ValidReport (d : Daemon) (n : NodeId) (msg : BeaconReportMsg) (si : SiId) (info : StaInfo)
    (br : BeaconReport) :
    Prop where
  station : ∃ addr, msg.address = some (some addr) ∧ EntryOf d addr n si info
  known : ∃ m node, d.nodes.get? m = some node ∧ node.bssid = br.bssid
  address : br.address = si
  bssid : msg.bssid = some (some br.bssid)
  rcpi : msg.rcpi = some br.rcpi
  rsni : msg.rsni = some br.rsni
  opClass : msg.opClass = some br.opClass
  channel : msg.channel = some br.channel
  time : br.usteerTime = d.currentTime

/-- The older reports that remain beside a new one: those of other BSSIDs that have not
    expired. -/
def remaining (cfg : Config) (currentTime : UInt64) (bssid : MacAddr) (reports : List BeaconReport) :
    List BeaconReport :=
  reports.filter fun old => decide (old.bssid ≠ bssid ∧
    currentTime.toNat - old.usteerTime.toNat ≤ cfg.beaconReportInvalideTimeout.toNat * 1000)

section Valid

variable {env : Platform} {cfg : Config} {d : Daemon} {n : NodeId} {msg : BeaconReportMsg} {si : SiId} {info : StaInfo}
  {br : BeaconReport}

theorem usteerHandleEventBeaconReport_valid (sound : Sound none d) (valid : ValidReport d n msg si info br) :
    d.usteerHandleEventBeaconReport cfg n msg = .ok (d.storeBeaconReport cfg si br) := by
  obtain ⟨addr, atAddress, entry⟩ := valid.station
  obtain ⟨liveInfo, onNode, sta, liveSta, named⟩ := id entry
  obtain ⟨⟨found, d1⟩, get, same, live, none⟩ := (post_usteerStaFind (F := fun _ => False) addr sound).returns
  dsimp only at same
  subst same
  have foundSta : found = some info.sta := by
    cases found with
    | none => exact absurd named (none rfl _ _ liveSta)
    | some s =>
      obtain ⟨sta', liveSta', named'⟩ := live s rfl
      rw [(wellLinked_of_sound sound).oneStaPerAddr liveSta' liveSta (named'.trans named.symm)]
  obtain ⟨entryFound, search, hit, miss⟩ := (post_searchNode (F := fun _ => False) n sound liveSta).returns
  have foundEntry : entryFound = some si := by
    cases entryFound with
    | none => exact absurd ⟨rfl, onNode⟩ (miss rfl si info liveInfo)
    | some j =>
      obtain ⟨-, infoJ, liveJ, sameSta, sameNode⟩ := hit j rfl
      rw [(wellLinked_of_sound sound).oneInfoPerPair liveJ liveInfo sameSta (sameNode.trans onNode.symm)]
  obtain ⟨foundNode, node, unknown⟩ := (post_bssidUnknown (F := fun _ => False) br.bssid sound).returns
  obtain ⟨m, nodeM, liveM, isBssid⟩ := valid.known
  subst foundSta foundEntry
  unfold usteerHandleEventBeaconReport
  simp only [valid.bssid, atAddress, notNull, ok_bind, get]
  unfold usteerStaInfoFind
  rw [sta_ok liveSta, ok_bind, search, ok_bind]
  dsimp only
  rw [node, ok_bind]
  cases foundNode with
  | none => exact absurd isBssid (unknown.mp rfl m nodeM liveM)
  | some k =>
    simp only [valid.rcpi, valid.rsni, valid.opClass, valid.channel, ok_bind, ← valid.time]
    rw [← valid.address]
    rfl

/-- Which reports a cleanup takes out, in whole numbers. -/
theorem cleanup_eq {currentTime : UInt64} {reports : List BeaconReport} (bssid : MacAddr)
    (small : cfg.beaconReportInvalideTimeout.toNat * 1000 < 2 ^ 32)
    (past : ∀ old ∈ reports, old.usteerTime.toNat ≤ currentTime.toNat) :
    reports.filter (fun old => !usteerBeaconReportDelete cfg currentTime bssid old) =
      remaining cfg currentTime bssid reports := by
  refine List.filter_congr fun old inside => ?_
  have before := past old inside
  have conf : ((cfg.beaconReportInvalideTimeout * 1000).toUInt64).toNat = cfg.beaconReportInvalideTimeout.toNat * 1000 := by
    rw [UInt32.toNat_toUInt64, UInt32.toNat_mul]
    exact Nat.mod_eq_of_lt small
  have age : (currentTime - old.usteerTime).toNat = currentTime.toNat - old.usteerTime.toNat :=
    UInt64.toNat_sub_of_le _ _ (UInt64.le_iff_toNat_le.mpr before)
  simp only [usteerBeaconReportDelete, Bool.not_or, Bool.decide_and, ← decide_not, UInt64.lt_iff_toNat_lt, conf, age,
    Nat.not_lt, ne_eq]

theorem infos_storeBeaconReport (cfg : Config) (live : d.infos.get? si = some info) :
    (d.storeBeaconReport cfg si br).infos.get? si = some { info with
      beaconRequest := { info.beaconRequest with lastReportTime := br.usteerTime }
      beaconReports := br :: info.beaconReports.filter
        (fun old => !usteerBeaconReportDelete cfg d.currentTime br.bssid old) } := by
  unfold storeBeaconReport usteerBeaconReportCleanup
  dsimp only
  rw [infos_modifyInfo_self (infos_modifyInfo_self (infos_modifyInfo_self live))]
  rfl

theorem infos_storeBeaconReport_other (cfg : Config) {j : SiId} (other : j ≠ si) :
    (d.storeBeaconReport cfg si br).infos.get? j = d.infos.get? j := by
  unfold storeBeaconReport usteerBeaconReportCleanup
  dsimp only
  rw [infos_modifyInfo_other other, infos_modifyInfo_other other, infos_modifyInfo_other other]

end Valid

/-- In every run the list of reports of an entry has one report per BSSID, the newest first;
    and a valid report goes on top of those of other BSSIDs that have not expired, which
    stay in their order. -/
theorem reports_newest_first (env : Platform) {s : System} (reach : System.Reached env s) :
    (∀ si info, s.daemon.infos.get? si = some info → (info.beaconReports.map BeaconReport.bssid).Nodup ∧
      info.beaconReports.Pairwise (fun newer older => older.usteerTime ≤ newer.usteerTime)) ∧
    ∀ n msg si info br, ValidReport s.daemon.usteerUpdateTime n msg si info br →
      s.config.beaconReportInvalideTimeout.toNat * 1000 < 2 ^ 32 →
      ∃ d' info', s.daemon.handle env s.config (.beaconReport n msg) = .ok d' ∧ d'.infos.get? si = some info' ∧
        info'.beaconReports = br :: remaining s.config s.daemon.clock br.bssid info.beaconReports ∧
        ∀ j, j ≠ si → d'.infos.get? j = s.daemon.infos.get? j := by
  have filed := reach.filed
  have past := reach.heardBefore
  refine ⟨fun si info live => ⟨(filed.filed live).distinct, (filed.filed live).newestFirst⟩, ?_⟩
  intro n msg si info br valid small
  have timed : Moves env s.config .plain (none, s.daemon) (none, s.daemon.usteerUpdateTime) := .one .time
  have sound1 : Sound none s.daemon.usteerUpdateTime := sound_moves (a := (none, s.daemon)) reach.sound timed
  obtain ⟨-, -, live, -⟩ := id valid.station
  have before : ∀ old ∈ info.beaconReports, old.usteerTime.toNat ≤ s.daemon.clock.toNat :=
    fun old inside => (filed.past live inside).trans past.time
  refine ⟨_, _, usteerHandleEventBeaconReport_valid sound1 valid, infos_storeBeaconReport s.config live, ?_, ?_⟩
  · exact congrArg (br :: ·) (cleanup_eq br.bssid small before)
  · exact fun j other => infos_storeBeaconReport_other s.config other

/-- The client reports the node 10 again: its older report goes, the one of the node 11 stays. -/
theorem reports_newest_first_of_two : ∃ s info br d' info', System.Reached plainPlatform s ∧
    ValidReport s.daemon.usteerUpdateTime 0 (reportOf 10 70) 0 info br ∧
    s.daemon.handle plainPlatform s.config (.beaconReport 0 (reportOf 10 70)) = .ok d' ∧
    d'.infos.get? 0 = some info' ∧
    info'.beaconReports = br :: remaining s.config s.daemon.clock br.bssid info.beaconReports ∧
    info.beaconReports.map BeaconReport.bssid = [11, 10] ∧ info'.beaconReports.map BeaconReport.bssid = [10, 11] := by
  have evaluates : ((plainRun usteerInitDefaults hearsAnother).any fun d => (d.infos.get? 0).any fun info =>
      (d.stas.get? info.sta).any fun sta => (d.nodes.get? 0).any fun node =>
        decide (info.node = 0 ∧ sta.addr = 1 ∧ node.bssid = 10 ∧
          info.beaconReports.map BeaconReport.bssid = [11, 10] ∧
          (remaining usteerInitDefaults d.clock 10 info.beaconReports).map BeaconReport.bssid = [11])) = true := by
    decide +kernel
  obtain ⟨d, run, evaluates⟩ := (Option.any_eq_true _ _).mp evaluates
  obtain ⟨info, live, evaluates⟩ := (Option.any_eq_true _ _).mp evaluates
  obtain ⟨sta, liveSta, evaluates⟩ := (Option.any_eq_true _ _).mp evaluates
  obtain ⟨node, liveNode, evaluates⟩ := (Option.any_eq_true _ _).mp evaluates
  obtain ⟨onNode, named, bssid, reports, stay⟩ := of_decide_eq_true evaluates
  have reach := reached_plainRun run
  have valid : ValidReport d.usteerUpdateTime 0 (reportOf 10 70) 0 info ⟨0, 10, 70, 0, 81, 1, d.clock⟩ :=
    ⟨⟨1, rfl, live, onNode, sta, liveSta, named⟩, ⟨0, node, liveNode, bssid⟩, rfl, rfl, rfl, rfl, rfl, rfl, rfl⟩
  obtain ⟨d', info', handled, live', shape, -⟩ :=
    (reports_newest_first plainPlatform reach).2 0 (reportOf 10 70) 0 info _ valid
      (show usteerInitDefaults.beaconReportInvalideTimeout.toNat * 1000 < 2 ^ 32 by decide)
  refine ⟨_, info, _, d', info', reach, valid, handled, live', shape, reports, ?_⟩
  rw [shape, List.map_cons]
  exact congrArg (10 :: ·) stay

/-! ### Expired reports -/

/-- No report that an entry holds is older than the configured timeout. -/
def ReportsFresh (cfg : Config) (d : Daemon) : Prop :=
  ∀ {si info br}, d.infos.get? si = some info → br ∈ info.beaconReports →
    d.clock.toNat ≤ br.usteerTime.toNat + cfg.beaconReportInvalideTimeout.toNat * 1000

/-- No report expires while an entry holds it: time does not pass beyond that of any report
    that is held, and the timeout is not set below the age of one. -/
def OutlivesNone (s : System) : SystemInput → System → Prop
  | .daemon (.advance ms), _ => ∀ {si info br}, s.daemon.infos.get? si = some info → br ∈ info.beaconReports →
    s.daemon.clock.toNat + ms.toNat ≤ br.usteerTime.toNat + s.config.beaconReportInvalideTimeout.toNat * 1000
  | .config _ _, s' => ∀ {si info br}, s.daemon.infos.get? si = some info → br ∈ info.beaconReports →
    s.daemon.clock.toNat ≤ br.usteerTime.toNat + s'.config.beaconReportInvalideTimeout.toNat * 1000
  | _, _ => True

section Fresh

variable {env : Platform} {cfg : Config} {scope : Scope} {d d' : Daemon}

theorem fresh_move {a b : Option StaId × Daemon} (fresh : ReportsFresh cfg a.2) (move : Move env cfg scope a b) :
    ReportsFresh cfg b.2 := by
  intro si info' br live' inside
  rw [(descends_move move).clock]
  rcases info_move move live' with ⟨info, live, edited⟩ | ⟨-, n, s, freq, rfl⟩
  · rcases edited.files with taken | ⟨new, top, now, updated, -⟩
    · exact fresh live (taken.subset inside)
    · rw [top] at inside
      rcases List.mem_cons.mp inside with rfl | older
      · rw [now, updated]
        exact Nat.le_add_right _ _
      · exact fresh live older
  · exact (List.not_mem_nil inside).elim

theorem fresh_moves {a b : Option StaId × Daemon} (fresh : ReportsFresh cfg a.2) (moves : Moves env cfg scope a b) :
    ReportsFresh cfg b.2 := by
  induction moves with
  | refl => exact fresh
  | tail _ move ih => exact fresh_move ih move

theorem fresh_evolves (fresh : ReportsFresh cfg d) (evolves : Evolves env cfg scope d d') : ReportsFresh cfg d' := by
  induction evolves with
  | refl => exact fresh
  | tail _ change ih =>
    cases change with
    | moves moves => exact fresh_moves (a := (none, _)) ih moves
    | shrink shrunk =>
      intro si info br live inside
      rw [shrunk.clock]
      exact ih (shrunk.infos live) inside
    | join joined =>
      intro si info br live inside
      rw [joined.rest] at live ⊢
      exact ih live inside

theorem System.ReachableWhen.fresh {s : System} (reach : System.ReachableWhen env OutlivesNone s) :
    ReportsFresh s.config s.daemon := by
  induction reach with
  | start debugLevel syslog interfaces localId clock =>
    intro si info br live
    simp [System.initial, Daemon.initial] at live
  | step input before accepts run met ih =>
    rcases System.handle_cases run with ⟨daemonInput, d, rfl, handled, rfl⟩ | ⟨method, tb, rfl, rfl⟩ | ⟨⟨address, rfl⟩, rfl⟩
    · rcases (post_handle before.reachable.sound accepts).of_ok handled with ⟨ms, rfl, rfl⟩ | evolves
      · intro si info br live inside
        rw [clock_advance accepts]
        exact met live inside
      · exact fresh_evolves ih evolves
    · intro si info br live inside
      obtain ⟨infos, clock⟩ := daemon_setConfig _ method tb
      rw [infos] at live
      rw [clock]
      exact met live inside
    · exact ih

end Fresh

section Shown

variable {env : Platform} {cfg : Config} {d : Daemon}

end Shown

/-- A client of the first of two nodes reports both. -/
def reportsBoth : List Input :=
  [.register hostapdDot, .register (hostapdDot ++ [49]), .status 0 (plainStatus 10), .status 1 (plainStatus 11),
    .staEvent 0 1 .probe 2412 (-60), .clients 0 ⟨some 2412, some [⟨some 1, none, some true, none⟩]⟩,
    .beaconReport 0 (reportOf 10 50), .beaconReport 0 (reportOf 11 100)]

end Usteer
