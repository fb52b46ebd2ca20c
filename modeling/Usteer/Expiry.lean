import Usteer.Runs
import Usteer.TimeoutRuns

/-!
Which entries the station timeout queue may delete. A timer of a local entry is due
no earlier than `local_sta_timeout` after the entry was last seen, and an entry of a
remote node has none while it is connected (`Timely`). The timer of a local entry is
left armed when the client turns out to be associated, so a connected client that is
not heard for that long is deleted.
-/
namespace Usteer
open SearchTree Timeout Function Daemon Words

/-- A timer for an entry that was seen at `seen` is due `local_sta_timeout` later or
    after that, and less than half the range of the queue's clock from now. -/
def DueLater (cfg : Config) (d : Daemon) (seen : UInt64) (key : UInt32) : Prop :=
  ∃ due, key = UInt32.ofNat due ∧ seen.toNat + cfg.localStaTimeout.toNat ≤ due ∧ due < d.clock.toNat + 2 ^ 31

/-- What the timers know about the entries. -/
structure Timely (cfg : Config) (d : Daemon) : Prop where
  time : d.currentTime.toNat ≤ d.clock.toNat
  seen : ∀ {si info}, d.infos.get? si = some info → d.OnLocal info → info.seen.toNat ≤ d.clock.toNat
  due : ∀ {si info key}, d.infos.get? si = some info → d.OnLocal info → (key, si) ∈ d.tq.items → DueLater cfg d info.seen key
  remote : ∀ {si info}, d.infos.get? si = some info → ¬ d.OnLocal info → info.connected = 1 → ¬ d.Pending si

section Timely

variable {env : Platform} {cfg : Config} {scope : Scope} {v v' : Option StaId} {d d' : Daemon}

/-- An entry that was there before, last seen at the same time, or one that was just
    allocated. -/
def Unseen (d d' : Daemon) (si : SiId) (info' : StaInfo) : Prop :=
  (∃ info, d.infos.get? si = some info ∧ info'.node = info.node ∧ info'.seen = info.seen ∧
    (info'.connected = info.connected ∨ d.OnLocal info)) ∨
  (info'.seen = 0 ∧ ¬ d'.Pending si)

theorem onLocal_congr {info info' : StaInfo} (same : info'.node = info.node) : d.OnLocal info' ↔ d.OnLocal info := by
  unfold OnLocal
  rw [same]

theorem Survives.onLocal_iff (survives : Survives d d') (info : StaInfo) : d'.OnLocal info ↔ d.OnLocal info := by
  refine ⟨?_, survives.onLocal rfl⟩
  rintro ⟨node', live', kind⟩
  obtain ⟨node, live, identity⟩ := survives.nodeBack live'
  have key : remoteKey node' = remoteKey node := congrArg Prod.fst identity
  exact ⟨node, live, by rw [isLocal_eq, ← key, ← isLocal_eq]; exact kind⟩

/-- Timers are taken away at most, and entries are not seen. -/
theorem timely_of (timely : Timely cfg d) (clock : d.clock.toNat ≤ d'.clock.toNat)
    (time : d'.currentTime.toNat ≤ d'.clock.toNat) (items : ∀ {e}, e ∈ d'.tq.items → e ∈ d.tq.items)
    (kinds : ∀ {si info'}, d'.infos.get? si = some info' → (d'.OnLocal info' ↔ d.OnLocal info'))
    (unseen : ∀ {si info'}, d'.infos.get? si = some info' → Unseen d d' si info') : Timely cfg d' where
  time := time
  seen := by
    intro si info' live' isLocal
    rw [kinds live'] at isLocal
    rcases unseen live' with ⟨info, live, node, seen, _⟩ | ⟨seen, _⟩
    · rw [seen]
      exact (timely.seen live ((onLocal_congr node).mp isLocal)).trans clock
    · rw [seen]
      exact Nat.zero_le _
  due := by
    intro si info' key live' isLocal inside
    rw [kinds live'] at isLocal
    rcases unseen live' with ⟨info, live, node, seen, _⟩ | ⟨_, idle⟩
    · obtain ⟨due, key_eq, low, high⟩ := timely.due live ((onLocal_congr node).mp isLocal) (items inside)
      exact ⟨due, key_eq, by rw [seen]; exact low, by omega⟩
    · exact absurd ⟨key, inside⟩ idle
  remote := by
    rintro si info' live' isRemote connected ⟨key, inside⟩
    rw [kinds live'] at isRemote
    rcases unseen live' with ⟨info, live, node, _, same⟩ | ⟨_, idle⟩
    · rw [onLocal_congr node] at isRemote
      rw [same.resolve_right isRemote] at connected
      exact timely.remote live isRemote connected ⟨key, items inside⟩
    · exact idle ⟨key, inside⟩

/-- The deadline of a timer that is set now. -/
theorem dueLater_set (timeout : Int32) (positive : 0 < timeout) (same : timeout = cfg.localStaTimeout.toInt32)
    {seen : UInt64} (past : seen.toNat ≤ d.clock.toNat) :
    DueLater cfg d seen (ampgrTimeoutCurrentTime d.clock.toNat + timeout.toUInt32) := by
  have positive : 0 < timeout.toInt := by rw [Int32.lt_iff_toInt_lt] at positive; exact positive
  have span := clamp_toInt positive.le
  have bound := timeout.toInt_lt
  have size : (cfg.localStaTimeout.toNat : ℤ) = timeout.toInt := by
    have reading := toInt_toInt32 cfg.localStaTimeout
    rw [← same, Int.bmod_def] at reading
    have range := cfg.localStaTimeout.toNat_lt
    omega
  refine ⟨d.clock.toNat + timeout.toNatClampNeg, key_of_set d.clock.toNat positive, ?_, ?_⟩
  · omega
  · omega

theorem timely_settled {si : SiId} {info info' : StaInfo} {timeout : Int32} (timely : Timely cfg d)
    (live : d.infos.get? si = some info) (node : info'.node = info.node) (positive : info'.connected = 1 ∨ 0 < timeout)
    (inTime : d.OnLocal info → timeout = cfg.localStaTimeout.toInt32 ∧
      (info'.seen = d.currentTime ∨ info'.seen = info.seen))
    (kinds : ∀ info, (d.settled env si info' timeout).OnLocal info ↔ d.OnLocal info) :
    Timely cfg (d.settled env si info' timeout) := by
  have past : d.OnLocal info → info'.seen.toNat ≤ d.clock.toNat := by
    intro isLocal
    rcases (inTime isLocal).2 with seen | seen
    · rw [seen]
      exact timely.time
    · rw [seen]
      exact timely.seen live isLocal
  -- the entry itself was edited, every other one is as it was
  have shape : ∀ {j info''}, (d.settled env si info' timeout).infos.get? j = some info'' →
      (j = si ∧ info'' = info') ∨ (j ≠ si ∧ d.infos.get? j = some info'') := by
    intro j info'' live''
    obtain ⟨before, found, result⟩ := Heap.get?_modify_some live''
    by_cases same : j = si
    · exact .inl ⟨same, by rw [result, if_pos same]⟩
    · rw [if_neg same] at result
      exact .inr ⟨same, by rw [result]; exact found⟩
  have others : ∀ {j key}, j ≠ si → (key, j) ∈ (d.settled env si info' timeout).tq.items → (key, j) ∈ d.tq.items := by
    intro j key other inside
    simp only [settled] at inside
    split at inside
    · exact ((Queue.mem_cancel ..).mp inside).1
    · rcases (Queue.mem_set ..).mp inside with new | old
      · cases new
        exact absurd rfl other
      · exact old.1
  have own : ∀ {key}, (key, si) ∈ (d.settled env si info' timeout).tq.items →
      info'.connected ≠ 1 ∧ key = ampgrTimeoutCurrentTime d.clock.toNat + timeout.toUInt32 := by
    intro key inside
    simp only [settled] at inside
    split at inside
    · exact absurd rfl ((Queue.mem_cancel ..).mp inside).2
    · rename_i unconnected
      rcases (Queue.mem_set ..).mp inside with new | old
      · cases new
        exact ⟨unconnected, rfl⟩
      · exact absurd rfl old.2
  constructor
  · exact timely.time
  · intro j info'' live'' isLocal
    rw [kinds] at isLocal
    rcases shape live'' with ⟨rfl, rfl⟩ | ⟨_, before⟩
    · exact past ((onLocal_congr node).mp isLocal)
    · exact timely.seen before isLocal
  · intro j info'' key live'' isLocal inside
    rw [kinds] at isLocal
    rcases shape live'' with ⟨rfl, rfl⟩ | ⟨other, before⟩
    · have isLocal := (onLocal_congr node).mp isLocal
      obtain ⟨unconnected, rfl⟩ := own inside
      exact dueLater_set timeout (positive.resolve_left unconnected) (inTime isLocal).1 (past isLocal)
    · exact timely.due before isLocal (others other inside)
  · rintro j info'' live'' isRemote connected ⟨key, inside⟩
    rw [kinds] at isRemote
    rcases shape live'' with ⟨rfl, rfl⟩ | ⟨other, before⟩
    · exact (own inside).1 connected
    · exact timely.remote before isRemote connected ⟨key, others other inside⟩

/-- An edit of one entry that does not touch `seen`. -/
theorem unseen_modifyInfo {si : SiId} {f : StaInfo → StaInfo}
    (keeps : ∀ info, d.infos.get? si = some info → (f info).node = info.node ∧ (f info).seen = info.seen ∧
      ((f info).connected = info.connected ∨ d.OnLocal info))
    {j : SiId} {info' : StaInfo} (live' : (d.modifyInfo si f).infos.get? j = some info') :
    Unseen d (d.modifyInfo si f) j info' := by
  obtain ⟨info, live, result⟩ := Heap.get?_modify_some live'
  by_cases same : j = si
  · subst same
    rw [if_pos rfl] at result
    subst result
    exact .inl ⟨info, live, keeps info live⟩
  · rw [if_neg same] at result
    subst result
    exact .inl ⟨info', live, rfl, rfl, .inl rfl⟩

theorem timely_move (sound : Sound v d) (timely : Timely cfg d) (move : Move env cfg scope (v, d) (v', d')) :
    Timely cfg d' := by
  have kinds : ∀ info, d'.OnLocal info ↔ d.OnLocal info := (survives_move move).onLocal_iff
  have unchanged : ∀ {si info'}, d.infos.get? si = some info' → Unseen d d' si info' :=
    fun live => .inl ⟨_, live, rfl, rfl, .inl rfl⟩
  cases move with
  | time => exact timely_of timely le_rfl le_rfl (fun inside => inside) (fun _ => kinds _) unchanged
  | log e => exact timely_of timely le_rfl timely.time (fun inside => inside) (fun _ => kinds _) unchanged
  | sequence seq => exact timely_of timely le_rfl timely.time (fun inside => inside) (fun _ => kinds _) unchanged
  | newSta fresh => exact timely_of timely le_rfl timely.time (fun inside => inside) (fun _ => kinds _) unchanged
  | editSta s keeps => exact timely_of timely le_rfl timely.time (fun inside => inside) (fun _ => kinds _) unchanged
  | editNode n keeps => exact timely_of timely le_rfl timely.time (fun inside => inside) (fun _ => kinds _) unchanged
  | newInfo freq liveSta liveNode own fresh =>
    refine timely_of timely le_rfl timely.time (fun inside => inside) (fun _ => kinds _) ?_
    intro si info' live'
    simp only [newInfo, modifySta, modifyNode, Heap.get?_alloc] at live'
    split at live'
    · rename_i same
      subst same
      cases live'
      refine .inr ⟨rfl, fun waits => ?_⟩
      obtain ⟨info, live⟩ := sound.pending waits
      exact Heap.ne_next live rfl
    · exact unchanged live'
  | editInfo si keeps =>
    refine timely_of timely le_rfl timely.time (fun inside => inside) (fun _ => kinds _) (unseen_modifyInfo ?_)
    intro info live
    obtain ⟨keepsEntry, _, connected, seen, _⟩ := keeps info live
    exact ⟨keepsEntry.node, seen, .inl connected⟩
  | mark c live isLocal change =>
    refine timely_of timely le_rfl timely.time (fun inside => inside) (fun _ => kinds _) (unseen_modifyInfo ?_)
    intro info live'
    rw [live] at live'
    cases live'
    exact ⟨rfl, rfl, .inr isLocal⟩
  | settle timeout live keeps roam heard stats positive inTime => exact timely_settled timely live keeps.node positive inTime kinds
  | roam si state ticking =>
    refine timely_of timely le_rfl timely.time (fun inside => inside) (fun _ => kinds _) (unseen_modifyInfo ?_)
    exact fun info live => ⟨rfl, rfl, .inl rfl⟩
  | kick why live isLocal ticking =>
    refine timely_of timely le_rfl timely.time (fun inside => inside) (fun _ => kinds _)
      (unseen_modifyInfo (d := d.log _) ?_)
    intro info live'
    have same := live'.symm.trans live
    cases same
    exact ⟨rfl, rfl, .inr isLocal⟩

theorem timely_moves {a b : Option StaId × Daemon} (sound : Sound a.1 a.2) (timely : Timely cfg a.2)
    (moves : Moves env cfg scope a b) : Timely cfg b.2 := by
  induction moves with
  | refl => exact timely
  | tail moves move ih => exact timely_move (sound_moves sound moves) ih move

theorem onLocal_shrunk (shrunk : Shrunk d d') (sound' : Sound none d') {si : SiId} {info : StaInfo}
    (live' : d'.infos.get? si = some info) : d'.OnLocal info ↔ d.OnLocal info := by
  obtain ⟨node', liveNode', _⟩ := node_of_info sound'.links live'
  obtain ⟨node, liveNode, identity⟩ := shrunk.nodes liveNode'
  have key : remoteKey node' = remoteKey node := congrArg Prod.fst identity
  unfold OnLocal
  simp [liveNode, liveNode', isLocal_eq, key]

theorem onLocal_joined {node : UsteerNode} (joined : Joined node d d') (sound : Sound none d) {si : SiId} {info : StaInfo}
    (live : d.infos.get? si = some info) : d'.OnLocal info ↔ d.OnLocal info := by
  obtain ⟨node, liveNode, _⟩ := node_of_info sound.links live
  unfold OnLocal
  rw [joined.nodes, Heap.get?_alloc, if_neg (Heap.ne_next liveNode)]

theorem timely_evolves (sound : Sound none d) (timely : Timely cfg d) (evolves : Evolves env cfg scope d d') :
    Timely cfg d' := by
  induction evolves with
  | refl => exact timely
  | @tail d1 d2 before change ih =>
    have sound1 := sound_evolves sound before
    cases change with
    | moves moves => exact timely_moves (a := (none, d1)) sound1 ih moves
    | shrink shrunk sound2 =>
      refine timely_of ih (by rw [shrunk.clock]) (by rw [shrunk.clock, shrunk.currentTime]; exact ih.time) shrunk.items
        (onLocal_shrunk shrunk sound2) ?_
      exact fun live => .inl ⟨_, shrunk.infos live, rfl, rfl, .inl rfl⟩
    | join joined sound2 =>
      have infos : d2.infos = d1.infos := by rw [joined.rest]
      refine timely_of ih (by rw [joined.rest]) (by rw [joined.rest]; exact ih.time) ?_ ?_ ?_
      · intro e inside
        rw [joined.rest] at inside
        exact inside
      · intro si info live
        rw [infos] at live
        exact onLocal_joined joined sound1 live
      · intro si info live
        rw [infos] at live
        exact .inl ⟨info, live, rfl, rfl, .inl rfl⟩

theorem timely_initial (localId : UInt32) (clock : UInt64) (ssidList : Option (List CString)) :
    Timely cfg (.initial localId clock ssidList) where
  time := le_rfl
  seen := by intro si info live; simp [initial] at live
  due := by intro si info key live; simp [initial] at live
  remote := by intro si info live; simp [initial] at live

theorem reachable_timely (reach : Reachable env cfg d) : Timely cfg d := by
  induction reach with
  | start localId clock ssidList => exact timely_initial localId clock ssidList
  | step input before accepts run ih =>
    have sound := reachable_sound before
    rcases (post_handle sound accepts).of_ok run with ⟨ms, rfl, rfl⟩ | evolves
    · have later := clock_advance accepts
      have time := ih.time
      refine timely_of ih ?_ ?_ (fun inside => inside) (fun _ => Iff.rfl) fun live => .inl ⟨_, live, rfl, rfl, .inl rfl⟩
      · dsimp only
        omega
      · dsimp only
        omega
    · exact timely_evolves sound ih evolves

end Timely

/-! ### Connected entries and the queue -/

/-- A connected client of a local node whose timer is armed was seen less than
    `local_sta_timeout` ago. -/
def Daemon.ConnectedSeen (cfg : Config) (d : Daemon) : Prop :=
  ∀ si info, d.infos.get? si = some info → info.connected = 1 → d.OnLocal info → d.Pending si →
    d.clock.toNat < info.seen.toNat + cfg.localStaTimeout.toNat

/-- A timer that is due later does not fire. -/
theorem not_due {cfg : Config} {d : Daemon} {seen : UInt64} {key : UInt32} (later : DueLater cfg d seen key)
    (recent : d.clock.toNat < seen.toNat + cfg.localStaTimeout.toNat) :
    usteerTimeoutDelta key (ampgrTimeoutCurrentTime d.clock.toNat) > 0 := by
  obtain ⟨due, rfl, low, high⟩ := later
  have distance := signed_distance (m := due) (n := d.clock.toNat) (by omega) (by omega)
  show 0 < (UInt32.ofNat due - UInt32.ofNat d.clock.toNat).toInt32
  rw [Int32.lt_iff_toInt_lt, distance]
  show (0 : ℤ) < _
  omega

/-- In every run, the queue deletes no connected entry when it fires while all connected
    clients with an armed timer were seen recently. -/
theorem connected_outlive_timeouts (env : Platform) {cfg : Config} {d d' : Daemon} (reach : Reachable env cfg d)
    (seen : d.ConnectedSeen cfg) (run : d.handle env cfg .timeouts = .ok d') {si : SiId} {info : StaInfo}
    (live : d.infos.get? si = some info) (connected : info.connected = 1) : d'.infos.get? si = some info := by
  have timely := reachable_timely reach
  obtain ⟨_, pruned, expired⟩ := (post_stationTimeouts (F := fun _ => True) (reachable_sound reach).toIntact).of_ok run
  cases left : d'.infos.get? si with
  | some info' =>
    have before := pruned.infos left
    rw [live] at before
    exact before.symm
  | none =>
    obtain ⟨key, inside, due⟩ := expired si info live left
    by_cases isLocal : d.OnLocal info
    · exact absurd (not_due (timely.due live isLocal inside) (seen si info live connected isLocal ⟨key, inside⟩)) due
    · exact absurd ⟨key, inside⟩ (timely.remote live isLocal connected)

theorem connected_outlive_timeouts_after_association :
    ∃ d d' info, plainRun usteerInitDefaults (associates ++ [.advance 60000]) = some d ∧ d.ConnectedSeen usteerInitDefaults ∧
      d.handle plainPlatform usteerInitDefaults .timeouts = .ok d' ∧ info.connected = 1 ∧ d'.infos.get? 0 = some info := by
  have evaluates : ((plainRun usteerInitDefaults (associates ++ [.advance 60000])).any fun d => (d.infos.get? 0).any fun info =>
      decide (info.connected = 1 ∧ d.infos.next = 1 ∧
        d.clock.toNat < info.seen.toNat + usteerInitDefaults.localStaTimeout.toNat) &&
      (d.handle plainPlatform usteerInitDefaults .timeouts).toBool) = true := by decide +kernel
  obtain ⟨d, run, evaluates⟩ := (Option.any_eq_true _ _).mp evaluates
  obtain ⟨info, live, evaluates⟩ := (Option.any_eq_true _ _).mp evaluates
  obtain ⟨evaluates, returns⟩ := (Bool.and_eq_true _ _).mp evaluates
  obtain ⟨connected, one, recent⟩ := of_decide_eq_true evaluates
  have seen : d.ConnectedSeen usteerInitDefaults := by
    intro si info' live' _ _ _
    have first : si = 0 := by have := Heap.lt_next live'; omega
    rw [first, live] at live'
    cases live'
    exact recent
  cases handled : d.handle plainPlatform usteerInitDefaults .timeouts with
  | error fault =>
    rw [handled] at returns
    cases returns
  | ok d' =>
    exact ⟨d, d', info, run, seen, handled, connected,
      connected_outlive_timeouts plainPlatform (reachable_plainRun run) seen handled live connected⟩

/-- The client is still associated two minutes after its only request. -/
def staysSilent : List Input :=
  associates ++ [.advance 120000, .clients 0 ⟨some 2412, some [⟨some 1, none, some true, none⟩]⟩]

theorem silent_client_deleted : ∃ d d' info, Reachable plainPlatform usteerInitDefaults d ∧
    d.handle plainPlatform usteerInitDefaults .timeouts = .ok d' ∧ d.infos.get? 0 = some info ∧ info.connected = 1 ∧
    d'.infos.get? 0 = none := by
  have evaluates : ((plainRun usteerInitDefaults staysSilent).any fun d => (d.infos.get? 0).any fun info =>
      decide (info.connected = (1 : Fin 4)) &&
        (d.handle plainPlatform usteerInitDefaults .timeouts).toOption.any fun d' =>
          (d'.infos.get? 0).isNone) = true := by decide +kernel
  obtain ⟨d, run, evaluates⟩ := (Option.any_eq_true _ _).mp evaluates
  obtain ⟨info, live, evaluates⟩ := (Option.any_eq_true _ _).mp evaluates
  obtain ⟨connected, evaluates⟩ := (Bool.and_eq_true _ _).mp evaluates
  obtain ⟨d', handled, gone⟩ := (Option.any_eq_true _ _).mp evaluates
  exact ⟨d, d', info, reachable_plainRun run, ok_of_toOption handled, live, of_decide_eq_true connected,
    Option.isNone_iff_eq_none.mp gone⟩

end Usteer
