import Usteer.Runs

/-!
Notifications of hostapd, whatever their method and attributes (`usteer_handle_event`).
A well-formed one is an input of the daemon. A malformed one should leave no trace, and
two kinds do worse: an unknown method is handled as a request of a fifth type, and a
beacon report is checked for two of the six attributes it reads. `Answerable` says when
neither happens.
-/
namespace Usteer
open SearchTree Timeout Function Daemon

variable {env : Platform} {cfg : Config} {d : Daemon} {n : NodeId} {method : CString} {msg : EventMsg}

/-- What a report must be like to be read to its end: the handler stops before an
    attribute that it has not checked, or all of them are there. -/
def ReportReads (d : Daemon) (n : NodeId) (msg : BeaconReportMsg) : Prop :=
  msg.bssid = none ∨ msg.address = none ∨
    ∃ addr, msg.address = some (some addr) ∧ ((∀ si info, ¬ EntryOf d addr n si info) ∨
      ∃ bssid, msg.bssid = some (some bssid) ∧
        ((∀ m node, d.nodes.get? m = some node → node.bssid ≠ bssid) ∨ msg.Complete))

namespace Daemon.EventMsg

/-- The method is unknown, or an attribute that the event needs is missing or is no
    address. A request does without `signal`, a report needs all of its attributes. -/
def Malformed (method : CString) (msg : EventMsg) : Prop :=
  match eventType method with
  | none => True
  | some .beacon => ¬ msg.report.Complete
  | some _ => msg.address.join = none ∨ msg.freq = none

/-- The handler copes with a notification: of an unknown method only because the address
    or the frequency is missing too. -/
def Answerable (d : Daemon) (n : NodeId) (method : CString) (msg : EventMsg) : Prop :=
  match eventType method with
  | none => msg.address.join = none ∨ msg.freq = none
  | some .beacon => ReportReads d n msg.report
  | some _ => True

end Daemon.EventMsg

open EventMsg

/-! ### Well-formed notifications -/

/-- A request with an address and a frequency is an input. -/
theorem usteerHandleEvent_request {type : EventType} {addr : MacAddr} {freq : Int32}
    (known : eventType method = some type) (request : type ≠ .beacon) (address : msg.address = some (some addr)) (frequency : msg.freq = some freq) :
    Prod.snd <$> d.usteerHandleEvent env cfg n method msg =
      d.handle env cfg (.staEvent n addr type freq (msg.signal.getD noSignal)) := by
  have other : some type ≠ some EventType.beacon := fun same => request (Option.some.inj same)
  unfold usteerHandleEvent handle
  simp only [known, if_neg other, address, frequency]
  cases d.usteerUpdateTime.usteerHandleStaEvent env cfg n addr type freq (msg.signal.getD noSignal) with
  | error e => rfl
  | ok r => rfl

/-- So is every beacon report. -/
theorem usteerHandleEvent_report (known : eventType method = some .beacon) :
    Prod.snd <$> d.usteerHandleEvent env cfg n method msg = d.handle env cfg (.beaconReport n msg.report) := by
  unfold usteerHandleEvent handle
  simp only [known, if_true]
  cases d.usteerUpdateTime.usteerHandleEventBeaconReport cfg n msg.report with
  | error e => rfl
  | ok r => rfl

/-! ### Beacon reports -/

theorem reportReads_iff {msg : BeaconReportMsg} {addr : MacAddr} {text : Option MacAddr}
    (address : msg.address = some (some addr)) (bssid : msg.bssid = some text) :
    ReportReads d n msg ↔ (∀ si info, ¬ EntryOf d addr n si info) ∨
      ∃ b, text = some b ∧ ((∀ m node, d.nodes.get? m = some node → node.bssid ≠ b) ∨ msg.Complete) := by
  simp [ReportReads, address, bssid]

/-- The search for the node of a BSSID misses none. -/
theorem post_bssidUnknown {F : Fault → Prop} (bssid : MacAddr) (sound : Sound none d) :
    Post F (d.getUsteerNodeFromBssid bssid) (fun r =>
      r = none ↔ ∀ m node, d.nodes.get? m = some node → node.bssid ≠ bssid) := by
  have lives : ∀ m ∈ d.localNodes ++ d.remoteList, ∃ node, d.node m = .ok node := fun m inside => by
    obtain ⟨node, live⟩ := node_of_index sound.registered inside
    exact ⟨node, node_ok live⟩
  refine (post_search _ lives).mono ?_
  rintro r ⟨hit, miss⟩
  constructor
  · intro none m node live same
    have inside : m ∈ d.localNodes ++ d.remoteList :=
      List.mem_append.mpr ((wellLinked_of_sound sound).nodeIndexed (Option.isSome_iff_exists.mpr ⟨node, live⟩))
    have unfit := miss none m inside node (node_ok live)
    simp [same] at unfit
  · intro other
    cases r with
    | none => rfl
    | some m =>
      obtain ⟨inside, node, found, fits⟩ := hit m rfl
      obtain ⟨node', live⟩ := node_of_index sound.registered inside
      rw [node_ok live] at found
      cases found
      exact absurd (by simpa using fits) (other m node live)

/-- A beacon report, exactly: it is read to its end and counts if it is complete, or the
    handler follows a null pointer. -/
theorem post_beaconReport_exact (cfg : Config) (msg : BeaconReportMsg) (sound : Sound none d) :
    Post (fun e => e = .nullPointer ∧ ¬ ReportReads d n msg) (d.usteerHandleEventBeaconReport cfg n msg) (fun d' =>
      ReportReads d n msg ∧ (¬ msg.Complete → d' = d)) := by
  unfold usteerHandleEventBeaconReport
  split
  · rename_i bssid address atBssid atAddress
    cases address with
    | none =>
      refine ⟨rfl, ?_⟩
      simp [ReportReads, atBssid, atAddress]
    | some addr =>
      have reads := reportReads_iff (d := d) (n := n) atAddress atBssid
      show Post _ (d.usteerStaGet addr false >>= _) _
      rw [reads, post_bind]
      refine (post_usteerStaFind addr sound).mono ?_
      rintro ⟨found, d'⟩ ⟨same, live, none⟩
      dsimp only at same
      subst same
      cases found with
      | none =>
        refine ⟨.inl fun si info entry => ?_, fun _ => rfl⟩
        obtain ⟨_, _, sta, liveSta, same⟩ := entry
        exact none rfl _ _ liveSta same
      | some s =>
        obtain ⟨sta, liveSta, sameAddr⟩ := live s rfl
        show Post _ (d'.usteerStaInfoFind s n >>= _) _
        unfold usteerStaInfoFind
        rw [sta_ok liveSta, ok_bind, post_bind]
        refine (post_searchNode n sound liveSta).mono ?_
        rintro r ⟨hit, miss⟩
        cases r with
        | none =>
          refine ⟨.inl fun si info entry => ?_, fun _ => rfl⟩
          obtain ⟨liveInfo, onNode, sta', liveSta', same⟩ := entry
          have owner : info.sta = s :=
            (wellLinked_of_sound sound).oneStaPerAddr liveSta' liveSta (same.trans sameAddr.symm)
          exact miss rfl si info liveInfo ⟨owner, onNode⟩
        | some si =>
          obtain ⟨_, info, liveInfo, owner, onNode⟩ := hit si rfl
          have entry : EntryOf d' addr n si info := ⟨liveInfo, onNode, sta, by rw [owner]; exact liveSta, sameAddr⟩
          rw [or_iff_right fun none => none si info entry]
          cases bssid with
          | none => simp [notNull]
          | some b =>
            show Post _ (d'.getUsteerNodeFromBssid b >>= _) _
            rw [post_bind]
            refine (post_bssidUnknown b sound).mono fun known unknown => ?_
            cases known with
            | none => exact ⟨⟨b, rfl, .inl (unknown.mp rfl)⟩, fun _ => rfl⟩
            | some m =>
              have complete : msg.Complete ↔ msg.rcpi.isSome = true ∧ msg.rsni.isSome = true ∧
                  msg.opClass.isSome = true ∧ msg.channel.isSome = true := by
                constructor
                · exact fun complete => ⟨complete.rcpi, complete.rsni, complete.opClass, complete.channel⟩
                · rintro ⟨rcpi, rsni, opClass, channel⟩
                  exact ⟨by rw [atAddress]; rfl, by rw [atBssid]; rfl, rcpi, rsni, opClass, channel⟩
              have found : ¬ ∀ m node, d'.nodes.get? m = some node → node.bssid ≠ b := by
                rw [← unknown]
                simp
              simp only [Option.some.injEq, exists_eq_left', or_iff_right found, complete]
              cases msg.rcpi with
              | none => simp [notNull]
              | some rcpi =>
                cases msg.rsni with
                | none => simp [notNull]
                | some rsni =>
                  cases msg.opClass with
                  | none => simp [notNull]
                  | some opClass =>
                    cases msg.channel with
                    | none => simp [notNull]
                    | some channel => simp [notNull]
  · rename_i absent
    rw [post_pure]
    refine ⟨?_, fun _ => rfl⟩
    cases atBssid : msg.bssid with
    | none => exact .inl atBssid
    | some bssid =>
      cases atAddress : msg.address with
      | none => exact .inr (.inl atAddress)
      | some address => exact absurd atAddress (absent bssid address atBssid)

/-! ### Any notification -/

/-- Other notifications without an address or a frequency are refused. -/
theorem usteerHandleEvent_invalid (other : eventType method ≠ some .beacon)
    (lacks : msg.address.join = none ∨ msg.freq = none) :
    d.usteerHandleEvent env cfg n method msg = .ok (.invalidArgument, d.usteerUpdateTime) := by
  unfold usteerHandleEvent
  simp only [if_neg other]
  cases atAddress : msg.address with
  | none => rfl
  | some address =>
    cases atFreq : msg.freq with
    | none => rfl
    | some freq =>
      cases address with
      | none => rfl
      | some addr => simp [atAddress, atFreq] at lacks

/-- Those of an unknown method are never dealt with. -/
theorem usteerHandleEvent_undeclared {addr : MacAddr} {freq : Int32} (unknown : eventType method = none)
    (address : msg.address = some (some addr)) (frequency : msg.freq = some freq) :
    Post AnyFault (d.usteerHandleEvent env cfg n method msg) (fun _ => False) := by
  unfold usteerHandleEvent handleUndeclared
  simp only [unknown, reduceCtorEq, if_false, address, frequency, post_bind]
  refine post_of_ok fun found _ => post_of_ok fun sta _ => ?_
  refine post_of_ok fun got _ => post_of_ok fun d' _ => post_of_ok fun info _ => ?_
  trivial

/-- Every notification is dealt with as it should be if and only if it is answerable: no
    read outside the statistics, of an attribute that is not there or of a text that is
    no address, and nothing but the time changes when it is malformed. -/
theorem notifications_answerable (env : Platform) (cfg : Config) {d : Daemon} {n : NodeId} (sound : Sound none d)
    (inside : n ∈ d.localNodes) (method : CString) (msg : EventMsg) :
    (d.usteerHandleEvent env cfg n method msg ≠ .error .outOfBounds ∧
      d.usteerHandleEvent env cfg n method msg ≠ .error .nullPointer ∧
      (Malformed method msg → ∃ status,
        d.usteerHandleEvent env cfg n method msg = .ok (status, d.usteerUpdateTime))) ↔
    Answerable d n method msg := by
  have timed : Moves env cfg .plain (none, d) (none, d.usteerUpdateTime) := .one .time
  have sound1 : Sound none d.usteerUpdateTime := sound_moves (a := (none, d)) sound timed
  have refused : eventType method ≠ some .beacon → msg.address.join = none ∨ msg.freq = none →
      d.usteerHandleEvent env cfg n method msg = .ok (.invalidArgument, d.usteerUpdateTime) :=
    usteerHandleEvent_invalid
  have complete : ¬ (msg.address.join = none ∨ msg.freq = none) →
      ∃ addr freq, msg.address = some (some addr) ∧ msg.freq = some freq := by
    intro both
    obtain ⟨address, frequency⟩ := not_or.mp both
    obtain ⟨freq, atFreq⟩ := Option.ne_none_iff_exists'.mp frequency
    obtain ⟨addr, atAddr⟩ := Option.ne_none_iff_exists'.mp address
    exact ⟨addr, freq, Option.join_eq_some_iff.mp atAddr, atFreq⟩
  unfold Malformed Answerable
  cases known : eventType method with
  | none =>
    by_cases lacks : msg.address.join = none ∨ msg.freq = none
    · rw [refused (by simp [known]) lacks]
      simp [lacks]
    · refine iff_of_false ?_ lacks
      rintro ⟨_, _, settled⟩
      obtain ⟨status, returns⟩ := settled trivial
      obtain ⟨addr, freq, address, frequency⟩ := complete lacks
      have never : Post AnyFault (d.usteerHandleEvent env cfg n method msg) (fun _ => False) :=
        usteerHandleEvent_undeclared known address frequency
      exact never.of_ok returns
  | some type =>
    have request : type ≠ .beacon → ((d.usteerHandleEvent env cfg n method msg ≠ .error .outOfBounds ∧
        d.usteerHandleEvent env cfg n method msg ≠ .error .nullPointer ∧ (msg.address.join = none ∨ msg.freq = none →
          ∃ status, d.usteerHandleEvent env cfg n method msg = .ok (status, d.usteerUpdateTime))) ↔ True) := by
      intro other
      rw [iff_true]
      by_cases lacks : msg.address.join = none ∨ msg.freq = none
      · rw [refused (by simp [known, other]) lacks]
        simp
      · obtain ⟨addr, freq, address, frequency⟩ := complete lacks
        have runs : Prod.snd <$> d.usteerHandleEvent env cfg n method msg =
            Prod.snd <$> d.usteerUpdateTime.usteerHandleStaEvent env cfg n addr type freq
              (msg.signal.getD noSignal) :=
          usteerHandleEvent_request known other address frequency
        obtain ⟨node, live, _⟩ := node_of_locals sound.registered inside
        let scope : Scope := .asked (addr, n, type)
        have safe : Post (Dangles cfg) (d.usteerUpdateTime.usteerHandleStaEvent env cfg n addr type freq
            (msg.signal.getD noSignal)) _ :=
          post_usteerHandleStaEvent env cfg scope freq rfl (.inr fun _ => id) sound1 live
        rw [← post_map (P := fun d' => Moves env cfg scope (none, d.usteerUpdateTime) (none, d')), ← runs] at safe
        cases result : d.usteerHandleEvent env cfg n method msg with
        | error e =>
          rw [result] at safe
          obtain ⟨rfl, _⟩ := safe
          simp [lacks]
        | ok r => simp [lacks]
    cases type with
    | probe => exact request (by simp)
    | assoc => exact request (by simp)
    | auth => exact request (by simp)
    | beacon =>
      have exact1 := post_beaconReport_exact (n := n) cfg msg.report sound1
      have runs : Prod.snd <$> d.usteerHandleEvent env cfg n method msg =
        d.usteerUpdateTime.usteerHandleEventBeaconReport cfg n msg.report := usteerHandleEvent_report known
      rw [← runs, post_map] at exact1
      show _ ↔ ReportReads d n msg.report
      cases result : d.usteerHandleEvent env cfg n method msg with
      | error e =>
        rw [result] at exact1
        obtain ⟨rfl, unread⟩ := exact1
        exact iff_of_false (fun facts => facts.2.1 rfl) unread
      | ok r =>
        rw [result] at exact1
        obtain ⟨reads, unchanged⟩ := exact1
        refine iff_of_true ⟨by simp, by simp, fun malformed => ⟨r.1, ?_⟩⟩ reads
        rw [← unchanged malformed]

/-- `"deauth"`, which is not among the event types. -/
def deauth : CString := [100, 101, 97, 117, 116, 104]

/-- A report of a station that the node does not know is passed over, complete or not. -/
theorem notifications_answerable_unknown_station : ∃ d, Reachable plainPlatform usteerInitDefaults d ∧
    d.usteerHandleEvent plainPlatform usteerInitDefaults 0 (eventTypes .beacon)
      ⟨some (some 2), none, none, none, none, none, none, some none⟩ ≠ .error .nullPointer := by
  have evaluates : (plainRun usteerInitDefaults associates).any (fun d => decide (
      d.localNodes = [0] ∧ d.stas.next = 1 ∧ (d.stas.get? 0).map Sta.addr = some 1)) = true := by decide +kernel
  obtain ⟨d, run, facts⟩ := (Option.any_eq_true _ _).mp evaluates
  obtain ⟨locals, next, station⟩ := of_decide_eq_true facts
  have inside : 0 ∈ d.localNodes := by
    rw [locals]
    exact List.mem_singleton.mpr rfl
  have reach := reachable_plainRun run
  have answered := (notifications_answerable plainPlatform usteerInitDefaults (reachable_sound reach) inside
    (eventTypes .beacon) ⟨some (some 2), none, none, none, none, none, none, some none⟩).mpr
  refine ⟨d, reach, (answered (.inr (.inr ⟨2, rfl, .inl ?_⟩))).2.1⟩
  rintro si info ⟨_, _, sta, liveSta, same⟩
  have first : info.sta = 0 := Nat.lt_one_iff.mp (next ▸ Heap.lt_next liveSta)
  rw [first] at liveSta
  rw [liveSta, Option.map_some, same] at station
  cases station

/-- Three notifications to a node with one connected client: of an unknown method, a report
    whose address is none, and a report of the client without its numbers. -/
theorem notifications_fault : ∃ d, Reachable plainPlatform usteerInitDefaults d ∧ 0 ∈ d.localNodes ∧
    d.usteerHandleEvent plainPlatform usteerInitDefaults 0 deauth
      ⟨some (some 2), none, some 2412, none, none, none, none, none⟩ = .error .outOfBounds ∧
    d.usteerHandleEvent plainPlatform usteerInitDefaults 0 (eventTypes .beacon)
      ⟨some none, none, none, none, none, none, none, some (some 0)⟩ = .error .nullPointer ∧
    d.usteerHandleEvent plainPlatform usteerInitDefaults 0 (eventTypes .beacon)
      ⟨some (some 1), none, none, none, none, none, none, some (some 0)⟩ = .error .nullPointer := by
  have evaluates : (plainRun usteerInitDefaults associates).any (fun d => decide (0 ∈ d.localNodes ∧
      faultOf (d.usteerHandleEvent plainPlatform usteerInitDefaults 0 deauth
        ⟨some (some 2), none, some 2412, none, none, none, none, none⟩) = some .outOfBounds ∧
      faultOf (d.usteerHandleEvent plainPlatform usteerInitDefaults 0 (eventTypes .beacon)
        ⟨some none, none, none, none, none, none, none, some (some 0)⟩) = some .nullPointer ∧
      faultOf (d.usteerHandleEvent plainPlatform usteerInitDefaults 0 (eventTypes .beacon)
        ⟨some (some 1), none, none, none, none, none, none, some (some 0)⟩) = some .nullPointer)) = true := by
    decide +kernel
  obtain ⟨d, run, facts⟩ := (Option.any_eq_true _ _).mp evaluates
  obtain ⟨inside, unknown, unread, lacking⟩ := of_decide_eq_true facts
  exact ⟨d, reachable_plainRun run, inside, error_of_faultOf unknown, error_of_faultOf unread,
    error_of_faultOf lacking⟩

end Usteer
