import Usteer.Ubus

/-!
What a small step does to one entry. Whatever the daemon does, an entry is new and zeroed, or
it stems from the same entry by an edit that leaves alone what the scope says (`info_move`);
invariants of single entries follow from that without a look at the steps themselves. A node
keeps its counters likewise (`record_handle`).
-/
namespace Usteer
open SearchTree Timeout Function Daemon

/-- What a step leaves alone of an entry. -/
structure Edited (scope : Scope) (d d' : Daemon) (info info' : StaInfo) : Prop where
  sta : info'.sta = info.sta
  node : info'.node = info.node
  files : Files d info info'
  heard : info'.roamScanDone = info.roamScanDone ∨
    info'.roamScanDone = d.currentTime ∧ d'.currentTime = d.currentTime
  signal : Unheard scope d info → info'.signal = info.signal
  connected : scope.tick = false → d.OnLocal info → scope.unread info.node → info'.connected = info.connected

/-- Where an entry comes from. -/
def Origin (scope : Scope) (d d' : Daemon) (si : SiId) (info' : StaInfo) : Prop :=
  (∃ info, d.infos.get? si = some info ∧ Edited scope d d' info info') ∨
    d.infos.get? si = none ∧ ∃ n s freq, info' = .zeroed n s freq d.currentTime

section Origin

variable {env : Platform} {cfg : Config} {scope : Scope} {d d' : Daemon} {si : SiId} {info info' : StaInfo}

theorem Edited.refl (scope : Scope) (d d' : Daemon) (info : StaInfo) : Edited scope d d' info info :=
  ⟨rfl, rfl, .inl (.refl _), .inl rfl, fun _ => rfl, fun _ _ _ => rfl⟩

theorem origin_same (scope : Scope) (d' : Daemon) (live : d.infos.get? si = some info) : Origin scope d d' si info :=
  .inl ⟨info, live, .refl scope d d' info⟩

theorem origin_edit {j : SiId} {f : StaInfo → StaInfo} (live' : (d.modifyInfo j f).infos.get? si = some info')
    (keeps : ∀ info, d.infos.get? j = some info → Edited scope d d' info (f info)) : Origin scope d d' si info' := by
  obtain ⟨info, live, result⟩ := Heap.get?_modify_some live'
  refine .inl ⟨info, live, ?_⟩
  by_cases same : si = j
  · subst same
    rw [result, if_pos rfl]
    exact keeps info live
  · rw [result, if_neg same]
    exact .refl scope d d' info

/-- What a step does to an entry. -/
theorem info_move {a b : Option StaId × Daemon} (move : Move env cfg scope a b)
    (live' : b.2.infos.get? si = some info') :
    Origin scope a.2 b.2 si info' := by
  cases move with
  | time => exact origin_same scope _ live'
  | log e fits => exact origin_same scope _ live'
  | sequence seq => exact origin_same scope _ live'
  | newSta fresh => exact origin_same scope _ live'
  | editSta s keeps => exact origin_same scope _ live'
  | editNode n keeps counts => exact origin_same scope _ live'
  | newInfo freq liveSta liveNode own fresh =>
    simp only [newInfo, modifySta, modifyNode, Heap.get?_alloc] at live'
    split at live'
    · rename_i fresh
      cases live'
      exact .inr ⟨by rw [fresh]; exact Heap.get?_next _, _, _, _, rfl⟩
    · exact origin_same scope _ live'
  | editInfo j keeps =>
    refine origin_edit live' fun info live => ?_
    obtain ⟨entry, -, connected, -, hears, -, signal, files⟩ := keeps info live
    exact ⟨entry.sta, entry.node, files, hears.imp_right fun now => ⟨now.1, rfl⟩, fun _ => signal, fun _ _ _ => connected⟩
  | mark c live isLocal change read =>
    refine origin_edit live' fun info'' live'' => ?_
    cases live.symm.trans live''
    exact ⟨rfl, rfl, .inl (.refl _), .inl rfl, fun _ => rfl, fun _ _ unread => absurd unread read⟩
  | settle timeout live keeps roam heard stats positive timely joined signal reports =>
    refine origin_edit live' fun info'' live'' => ?_
    cases live.symm.trans live''
    exact ⟨keeps.sta, keeps.node, .inl (by rw [reports]), .inl heard, signal, fun _ => joined⟩
  | roam j state ticking =>
    refine origin_edit live' fun info _ => ⟨rfl, rfl, .inl (.refl _), .inl rfl, fun _ => rfl, fun still => ?_⟩
    cases still.symm.trans ticking
  | @kick v d j _ why _ isLocal ticking =>
    have infos : (d.usteerUbusKickClient j why).infos =
      (d.modifyInfo j fun info => { info with connected := 0, roamKick := d.currentTime }).infos := rfl
    dsimp only at live'
    rw [infos] at live'
    refine origin_edit live' fun info _ => ⟨rfl, rfl, .inl (.refl _), .inl rfl, fun _ => rfl, fun still => ?_⟩
    cases still.symm.trans ticking

end Origin

/-! ### Station events lie in the past -/

/-- No entry was heard of after the present. -/
structure HeardBefore (d : Daemon) : Prop where
  time : d.currentTime.toNat ≤ d.clock.toNat
  heard : ∀ si info, d.infos.get? si = some info → info.roamScanDone.toNat ≤ d.currentTime.toNat

section Past

variable {env : Platform} {cfg : Config} {scope : Scope} {d d' : Daemon} {si : SiId} {info info' : StaInfo}

theorem HeardBefore.later (past : HeardBefore d) (descends : Descends scope d d') :
    d.currentTime.toNat ≤ d'.currentTime.toNat ∧ d'.currentTime.toNat ≤ d'.clock.toNat := by
  rw [descends.clock]
  rcases descends.time with same | now
  · rw [same]
    exact ⟨le_rfl, past.time⟩
  · rw [now]
    exact ⟨past.time, le_rfl⟩

theorem heardBefore_move {a b : Option StaId × Daemon} (past : HeardBefore a.2) (move : Move env cfg scope a b) :
    HeardBefore b.2 := by
  have later := past.later (descends_move move)
  refine ⟨later.2, fun si info' live' => ?_⟩
  rcases info_move move live' with ⟨info, live, edited⟩ | ⟨-, n, s, freq, rfl⟩
  · rcases edited.heard with same | ⟨now, -⟩
    · rw [same]
      exact (past.heard si info live).trans later.1
    · rw [now]
      exact later.1
  · exact Nat.zero_le _

theorem heardBefore_moves {a b : Option StaId × Daemon} (past : HeardBefore a.2) (moves : Moves env cfg scope a b) :
    HeardBefore b.2 := by
  induction moves with
  | refl => exact past
  | tail _ move ih => exact heardBefore_move ih move

theorem heardBefore_evolves (past : HeardBefore d) (evolves : Evolves env cfg scope d d') : HeardBefore d' := by
  induction evolves with
  | refl => exact past
  | tail _ change ih =>
    cases change with
    | moves moves => exact heardBefore_moves (a := (none, _)) ih moves
    | shrink shrunk =>
      refine ⟨by rw [shrunk.currentTime, shrunk.clock]; exact ih.time, fun si info live => ?_⟩
      rw [shrunk.currentTime]
      exact ih.heard si info (shrunk.infos live)
    | join joined =>
      rw [joined.rest]
      exact ⟨ih.time, ih.heard⟩

theorem heardBefore_handle {input : Input} (sound : Sound none d) (accepts : d.Accepts input) (past : HeardBefore d)
    (handled : d.handle env cfg input = .ok d') : HeardBefore d' := by
  rcases (post_handle sound accepts).of_ok handled with ⟨ms, rfl, rfl⟩ | evolves
  · refine ⟨?_, past.heard⟩
    have later := clock_advance accepts
    have time := past.time
    dsimp only
    omega
  · exact heardBefore_evolves past evolves

theorem System.Reachable.heardBefore {meets : SystemInput → Prop} {s : System}
    (reach : System.Reachable env meets s) :
    HeardBefore s.daemon := by
  refine (reach.daemon ?_ ?_ fun _ past => ⟨past.time, past.heard⟩).2
  · refine fun localId clock => ⟨le_rfl, fun si info live => ?_⟩
    simp [Daemon.initial] at live
  · exact fun sound accepts handled past => heardBefore_handle sound accepts past handled

end Past

/-! ### Records of nodes -/

/-- What a change leaves alone of the record of a node. -/
structure Recorded (scope : Scope) (n : NodeId) (node node' : UsteerNode) : Prop where
  key : remoteKey node' = remoteKey node
  counts : node.isLocal = true → KeepsCounts scope n node node'

section Records

variable {env : Platform} {cfg : Config} {scope : Scope} {d d' : Daemon} {n : NodeId} {node node' : UsteerNode}

theorem Recorded.isLocal (recorded : Recorded scope n node node') : node'.isLocal = node.isLocal := by
  rw [isLocal_eq, isLocal_eq, recorded.key]

/-- Only the list of entries differs. -/
theorem Recorded.of_bare (same : bare node' = bare node) : Recorded scope n node node' where
  key := by
    show remoteKey (bare node') = remoteKey (bare node)
    rw [same]
  counts _ := by
    constructor
    · intro _
      show (bare node').loadThrCount = (bare node).loadThrCount
      rw [same]
    · intro _
      show (bare node').nAssoc = (bare node).nAssoc
      rw [same]

theorem Recorded.refl (scope : Scope) (n : NodeId) (node : UsteerNode) : Recorded scope n node node := .of_bare rfl

theorem Recorded.trans {node'' : UsteerNode} (first : Recorded scope n node node') (second : Recorded scope n node' node'') :
    Recorded scope n node node'' where
  key := second.key.trans first.key
  counts isLocal := by
    have before := first.counts isLocal
    have after := second.counts (first.isLocal.trans isLocal)
    exact ⟨fun uncounted => (after.load uncounted).trans (before.load uncounted),
      fun unread => (after.assoc unread).trans (before.assoc unread)⟩

theorem record_move {a b : Option StaId × Daemon} (move : Move env cfg scope a b) (live' : b.2.nodes.get? n = some node') :
    ∃ node, a.2.nodes.get? n = some node ∧ Recorded scope n node node' := by
  cases move with
  | newInfo freq liveSta liveNode own fresh =>
    obtain ⟨node, live, result⟩ := Heap.get?_modify_some live'
    refine ⟨node, live, ?_⟩
    rw [result]
    split <;> exact .of_bare rfl
  | editNode m keeps counts =>
    obtain ⟨node, live, result⟩ := Heap.get?_modify_some live'
    refine ⟨node, live, ?_⟩
    by_cases same : n = m
    · subst same
      rw [result, if_pos rfl]
      exact ⟨(keeps node).key, counts node live⟩
    · rw [result, if_neg same]
      exact .refl scope n node
  | _ => exact ⟨node', live', .refl scope n node'⟩

theorem record_moves {a b : Option StaId × Daemon} (moves : Moves env cfg scope a b) :
    b.2.nodes.next = a.2.nodes.next ∧ ∀ {node'}, b.2.nodes.get? n = some node' →
      ∃ node, a.2.nodes.get? n = some node ∧ Recorded scope n node node' := by
  induction moves with
  | refl => exact ⟨rfl, fun live => ⟨_, live, .refl scope n _⟩⟩
  | tail _ move ih =>
    refine ⟨Eq.trans ?_ ih.1, fun live' => ?_⟩
    · cases move <;> rfl
    · obtain ⟨node1, live1, second⟩ := record_move move live'
      obtain ⟨node, live, first⟩ := ih.2 live1
      exact ⟨node, live, first.trans second⟩

/-- A node that was there keeps what the scope says, and its address is not given to another. -/
theorem record_change (change : Change env cfg scope d d') (old : n < d.nodes.next) :
    n < d'.nodes.next ∧ ∀ {node'}, d'.nodes.get? n = some node' →
      ∃ node, d.nodes.get? n = some node ∧ Recorded scope n node node' := by
  cases change with
  | moves moves =>
    obtain ⟨next, back⟩ := record_moves (n := n) moves
    exact ⟨old.trans_eq next.symm, back⟩
  | shrink shrunk =>
    refine ⟨old.trans_eq shrunk.ids.symm, fun live' => ?_⟩
    obtain ⟨node, live, same⟩ := shrunk.records live'
    exact ⟨node, live, .of_bare same⟩
  | join joined =>
    rw [joined.nodes]
    refine ⟨old.trans (Nat.lt_succ_self _), fun live' => ?_⟩
    rw [Heap.get?_alloc, if_neg (Nat.ne_of_lt old)] at live'
    exact ⟨_, live', .refl scope n _⟩

theorem record_evolves (evolves : Evolves env cfg scope d d') (old : n < d.nodes.next) :
    n < d'.nodes.next ∧ ∀ {node'}, d'.nodes.get? n = some node' →
      ∃ node, d.nodes.get? n = some node ∧ Recorded scope n node node' := by
  induction evolves with
  | refl => exact ⟨old, fun live => ⟨_, live, .refl scope n _⟩⟩
  | tail _ change ih =>
    obtain ⟨old', back⟩ := record_change change ih.1
    refine ⟨old', fun live' => ?_⟩
    obtain ⟨node1, live1, second⟩ := back live'
    obtain ⟨node, live, first⟩ := ih.2 live1
    exact ⟨node, live, first.trans second⟩

theorem record_handle {input : Input} (sound : Sound none d) (accepts : d.Accepts input)
    (handled : d.handle env cfg input = .ok d') (old : n < d.nodes.next) :
    n < d'.nodes.next ∧ ∀ {node'}, d'.nodes.get? n = some node' →
      ∃ node, d.nodes.get? n = some node ∧ Recorded input.scope n node node' := by
  rcases (post_handle sound accepts).of_ok handled with ⟨ms, rfl, rfl⟩ | evolves
  · exact ⟨old, fun live => ⟨_, live, .refl _ n _⟩⟩
  · exact record_evolves evolves old

end Records

end Usteer
