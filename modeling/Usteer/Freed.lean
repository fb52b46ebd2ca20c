import Usteer.Arming

/-!
The entry that `usteer_sta_info_update_timeout` frees under its callers. A
`local_sta_timeout` that is not a positive `int` (zero, or from 2^31 on) deletes every
entry that it meets unconnected, and both callers go on with the entry. When that
happens is exact: a request is safe if its station is already connected, a client
table if it confirms every client before the kernel answers about it and leaves none
of the node's clients unconfirmed (`Spares`).
-/
namespace Usteer
open SearchTree Timeout Function Daemon

variable {env : Platform} {cfg : Config} {d d' : Daemon} {n : NodeId}

/-- A computation whose only fault is the use of a freed record, and that is told apart
    by a condition. -/
theorem unfreed_iff {α : Type} {m : Except Fault α} {C : Prop}
    (post : Post (fun e => e = .useAfterFree ∧ ¬ C) m (fun _ => C)) : m ≠ .error .useAfterFree ↔ C := by
  cases m with
  | error e =>
    obtain ⟨rfl, fails⟩ := post
    simp [fails]
  | ok a =>
    have holds : C := post
    simp [holds]

/-! ### Requests -/

/-- The station has a connected entry on the node. -/
def JoinedTo (d : Daemon) (addr : MacAddr) (n : NodeId) : Prop :=
  ∃ si info, EntryOf d addr n si info ∧ info.connected = 1

theorem Fetched.connected_iff {addr : MacAddr} {si : SiId} {create : Bool} {info : StaInfo}
    (got : Fetched d addr n si create d') (sound : Sound none d) (live : d'.infos.get? si = some info) :
    info.connected = 1 ↔ JoinedTo d addr n := by
  cases create with
  | false =>
    obtain ⟨infos, info0, entry0⟩ := got.found rfl
    rw [infos, entry0.1] at live
    cases live
    constructor
    · exact fun connected => ⟨si, info, entry0, connected⟩
    · rintro ⟨si', info', entry', connected⟩
      have same := entry0.unique sound entry'
      subst same
      have here := entry'.1
      rw [entry0.1] at here
      cases here
      exact connected
  | true =>
    obtain ⟨_, none, s, freq, shape⟩ := got.fresh rfl
    rw [shape, if_pos rfl] at live
    cases live
    constructor
    · intro connected
      cases connected
    · rintro ⟨si', info', entry', _⟩
      exact absurd entry' (none si' info')

theorem handleStaEvent_unfreed {node : UsteerNode} (env : Platform) (cfg : Config) (addr : MacAddr) (type : EventType)
    (freq signal : Int32) (sound : Sound none d) (liveNode : d.nodes.get? n = some node) :
    d.usteerHandleStaEvent env cfg n addr type freq signal ≠ .error .useAfterFree ↔
      cfg.InRange ∨ JoinedTo d addr n := by
  let scope : Scope := .asked (addr, n, type)
  apply unfreed_iff
  rw [usteerHandleStaEvent_eq, post_bind]
  refine (post_fetched env cfg scope (keeps_markBand freq) sound liveNode).mono ?_
  rintro ⟨si, create, d1⟩ ⟨got, moves1⟩
  dsimp only at got moves1 ⊢
  have sound1 : Sound none d1 := sound_moves (a := (none, d)) sound moves1
  obtain ⟨info, entry⟩ := got.entry
  have connected := got.connected_iff sound entry.1
  rw [post_bind]
  refine (post_usteerStaInfoUpdate env cfg scope false (.inr (heard_entry scope entry fun _ => id)) sound1 entry.1).mono fun d2 => ?_
  rintro (⟨kept, moves2⟩ | ⟨outOfRange, unconnected, freed⟩)
  · obtain ⟨info2, entry2⟩ := (survives_moves moves2).entryOf entry
    refine (post_answerRequest env cfg scope create rfl (sound_moves (a := (none, d1)) sound1 moves2) entry2).mono ?_
    exact fun _ _ => kept.symm.imp id connected.mp
  · rw [answerRequest_freed cfg create type freed]
    refine ⟨rfl, not_or.mpr ⟨outOfRange, ?_⟩⟩
    rw [← connected]
    exact unconnected

/-! ### Client tables -/

/-- A row of the table says that the address is associated. -/
def Confirmed (rows : List ClientEntry) (addr : MacAddr) : Prop :=
  ∃ row ∈ rows, row.addr = some addr ∧ row.assoc = some true

theorem confirmed_append {rows : List ClientEntry} {row : ClientEntry} {addr : MacAddr} :
    Confirmed (rows ++ [row]) addr ↔ Confirmed rows addr ∨ (row.addr = some addr ∧ row.assoc = some true) := by
  unfold Confirmed
  simp only [List.mem_append, List.mem_singleton, or_and_right, exists_or, exists_eq_left]

/-- The kernel answers about a client that no earlier row has confirmed. -/
def Strays (node : UsteerNode) (rows : List ClientEntry) (row : ClientEntry) : Prop :=
  Refreshes node row.station ∧ ∃ addr, row.addr = some addr ∧ ¬ Confirmed rows addr

/-- The value of `connected` between the loops of `usteer_local_node_set_assoc`: confirmed
    by a row, awaiting confirmation since before the call, or neither. -/
inductive Standing (d0 : Daemon) (n : NodeId) (rows : List ClientEntry) (addr : MacAddr) (si : SiId) : Fin 4 → Prop
  | confirmed (listed : Confirmed rows addr) : Standing d0 n rows addr si 1
  | awaited {info0} (unlisted : ¬ Confirmed rows addr) (entry : EntryOf d0 addr n si info0)
      (connected : info0.connected ≠ 0) : Standing d0 n rows addr si 2
  | unconnected (unlisted : ¬ Confirmed rows addr)
      (before : ∀ info0, EntryOf d0 addr n si info0 → info0.connected = 0) : Standing d0 n rows addr si 0

namespace Standing

variable {d0 : Daemon} {rows rows' : List ClientEntry} {addr : MacAddr} {si : SiId} {c : Fin 4}

theorem connected_iff (standing : Standing d0 n rows addr si c) : c = 1 ↔ Confirmed rows addr := by
  cases standing with
  | confirmed listed => simp [listed]
  | awaited unlisted entry connected => simp [unlisted]
  | unconnected unlisted before => simp [unlisted]

theorem awaited_iff (standing : Standing d0 n rows addr si c) :
    c = 2 ↔ ¬ Confirmed rows addr ∧ ∃ info0, EntryOf d0 addr n si info0 ∧ info0.connected ≠ 0 := by
  cases standing with
  | confirmed listed => simp [listed]
  | awaited unlisted entry connected =>
    simp only [unlisted, not_false_eq_true, true_and, true_iff]
    exact ⟨_, entry, connected⟩
  | unconnected unlisted before =>
    refine ⟨fun two => (by cases two), ?_⟩
    rintro ⟨_, info0, entry, connected⟩
    exact absurd (before info0 entry) connected

/-- Rows that confirm the same keep it. -/
theorem relist (standing : Standing d0 n rows addr si c) (same : Confirmed rows' addr ↔ Confirmed rows addr) :
    Standing d0 n rows' addr si c := by
  cases standing with
  | confirmed listed => exact .confirmed (same.mpr listed)
  | awaited unlisted entry connected => exact .awaited (fun listed => unlisted (same.mp listed)) entry connected
  | unconnected unlisted before => exact .unconnected (fun listed => unlisted (same.mp listed)) before

end Standing

/-- What the first rows of a client table have done since the call. -/
structure Reconciled (env : Platform) (cfg : Config) (d0 : Daemon) (n : NodeId) (rows : List ClientEntry)
    (d : Daemon) : Prop where
  moves : Moves env cfg .plain (none, d0) (none, d)
  kind : (d.nodes.get? n).map UsteerNode.kind = (d0.nodes.get? n).map UsteerNode.kind
  present : ∀ {addr}, Confirmed rows addr → ∃ si info, EntryOf d addr n si info
  standing : ∀ {addr si info}, EntryOf d addr n si info → Standing d0 n rows addr si info.connected

section Table

variable {node : UsteerNode} {d0 : Daemon} {rows : List ClientEntry}

/-- Entries live on with the given values of `connected`, and none is created. -/
def Reconnects (f : SiId → Fin 4 → Fin 4) (d d' : Daemon) : Prop :=
  ∀ si info', d'.infos.get? si = some info' →
    ∃ info, d.infos.get? si = some info ∧ info'.connected = f si info.connected

theorem post_nl80211UpdateSta_cases (env : Platform) (cfg : Config) {F : Fault → Prop} {si : SiId} {info : StaInfo}
    (station : Option (Option Int8)) (sound : Sound none d) (liveNode : d.nodes.get? n = some node)
    (live : d.infos.get? si = some info) :
    Post F (d.nl80211UpdateSta env cfg n si station) (fun d' =>
      ((Refreshes node station → cfg.InRange ∨ info.connected = 1) ∧ Moves env cfg .plain (none, d) (none, d') ∧
        d'.nodes = d.nodes ∧ Reconnects (fun _ c => c) d d') ∨
      (¬ cfg.InRange ∧ info.connected ≠ 1 ∧ Refreshes node station ∧ d'.infos.get? si = none)) := by
  unfold nl80211UpdateSta
  rw [node_ok liveNode, ok_bind]
  split
  · rename_i count average kind
    have refreshes : Refreshes node (some average) := ⟨rfl, count, kind⟩
    refine ((post_usteerStaInfoUpdate env cfg .plain true (.inr heard_plain) sound live).and
      (returns_usteerStaInfoUpdate _ true sound live)).mono fun d' facts => ?_
    rcases facts with ⟨⟨kept, moves⟩ | ⟨outOfRange, unconnected, freed⟩, shape⟩
    · refine .inl ⟨fun _ => kept.symm, moves, ?_⟩
      rcases shape with ⟨heard, rfl⟩ | ⟨_, freed⟩
      · refine ⟨rfl, fun j info' live' => ?_⟩
        by_cases same : j = si
        · subst same
          rw [infos_settled_self live] at live'
          cases live'
          exact ⟨info, live, rfl⟩
        · rw [infos_settled_other same] at live'
          exact ⟨info', live', rfl⟩
      · obtain ⟨info', live', _⟩ := (survives_moves moves).infos live
        dsimp only at live'
        rw [freed] at live'
        cases live'
    · exact .inr ⟨outOfRange, unconnected, refreshes, freed⟩
  · rename_i other
    refine .inl ⟨?_, .none _, rfl, fun j info' live' => ⟨info', live', rfl⟩⟩
    rintro ⟨answers, count, present⟩
    obtain ⟨average, found⟩ := Option.isSome_iff_exists.mp answers
    exact absurd found (other count average present)

theorem returns_confirmClient {si : SiId} {nAssoc : Int32} (client : ClientEntry) :
    Post AnyFault (confirmClient env cfg d si nAssoc client) (fun r => r.2.nodes = d.nodes ∧
      Reconnects (fun j c => if j = si ∧ client.assoc = some true then 1 else c) d r.2) := by
  unfold confirmClient
  rw [post_bind]
  refine (returns_usteerLocalNodeAssocUpdate client.assoc).mono ?_
  rintro d1 ⟨s, f, rfl⟩
  have marked : Reconnects (fun j c => if j = si ∧ client.assoc = some true then 1 else c) d
      ((if client.assoc = some true then d.modifyInfo si (fun info => { info with connected := 1 })
        else d).modifySta s f) := by
    intro j info' live'
    by_cases associated : client.assoc = some true
    · rw [if_pos associated] at live'
      obtain ⟨info, live, result⟩ := Heap.get?_modify_some live'
      refine ⟨info, live, ?_⟩
      by_cases same : j = si
      · simp [result, same, associated]
      · simp [result, same]
    · rw [if_neg associated] at live'
      exact ⟨info', live', by simp [associated]⟩
  have nodes : ((if client.assoc = some true then d.modifyInfo si (fun info => { info with connected := 1 })
      else d).modifySta s f).nodes = d.nodes := by
    split
    · rfl
    · rfl
  generalize (if client.assoc = some true then d.modifyInfo si (fun info => { info with connected := 1 })
    else d).modifySta s f = d1 at *
  rw [post_bind]
  refine post_of_ok fun info1 _ => ?_
  rw [post_bind]
  refine returns_usteerBeaconRequestCheck.mono ?_
  rintro d2 ⟨checked, nodes2⟩
  have sampled : Calm d1 (d1.usteerUpdateClientActiveBytes cfg si client.bytes) := .edit fun _ => ⟨rfl, rfl⟩
  refine ⟨nodes2.trans nodes, fun j info' live' => ?_⟩
  obtain ⟨info1, live1, same, _⟩ := (sampled.trans checked).infos live'
  obtain ⟨info, live, result⟩ := marked j info1 live1
  exact ⟨info, live, same.trans result⟩

/-- The entry looked up for a row stands as the others do. -/
theorem Fetched.standing {addr a : MacAddr} {si j : SiId} {create : Bool} {d1 : Daemon} {info : StaInfo}
    (sound : Sound none d) (reconciled : Reconciled env cfg d0 n rows d) (got : Fetched d addr n si create d1)
    (survives : Survives d d1) (entry : EntryOf d1 a n j info) : Standing d0 n rows a j info.connected := by
  have known : ∀ {info}, d.infos.get? j = some info → d1.infos.get? j = some info →
      Standing d0 n rows a j info.connected := by
    intro info live live1
    have here := entry.1
    rw [live1] at here
    cases here
    exact reconciled.standing (entry.back survives sound live)
  cases create with
  | false =>
    have infos := (got.found rfl).1
    exact known (by rw [← infos]; exact entry.1) entry.1
  | true =>
    obtain ⟨fresh, none, s, freq, shape⟩ := got.fresh rfl
    by_cases same : j = si
    · subst same
      obtain ⟨info1, entry1⟩ := got.entry
      obtain ⟨rfl, _⟩ := entry1.same entry
      have here := entry.1
      rw [shape, if_pos rfl] at here
      cases here
      refine .unconnected (fun listed => ?_) fun info0 entry0 => ?_
      · obtain ⟨si', info', entry'⟩ := reconciled.present listed
        exact none si' info' entry'
      · obtain ⟨info', entry'⟩ := (survives_moves reconciled.moves).entryOf entry0
        exact absurd entry' (none _ _)
    · have live := entry.1
      rw [shape, if_neg same] at live
      exact known live entry.1

/-- A row of the client table, exactly. -/
theorem post_reconcileRow {nAssoc : Int32} (row : ClientEntry) (sound0 : Sound none d0)
    (liveNode0 : d0.nodes.get? n = some node) (isLocal : node.isLocal = true)
    (reconciled : Reconciled env cfg d0 n rows d) :
    Post (fun e => e = .useAfterFree ∧ ¬ cfg.InRange ∧ Strays node rows row) (listClient env cfg n (nAssoc, d) row)
      (fun r => Reconciled env cfg d0 n (rows ++ [row]) r.2 ∧ (cfg.InRange ∨ ¬ Strays node rows row)) := by
  have sound : Sound none d := sound_moves (a := (none, d0)) sound0 reconciled.moves
  obtain ⟨nodeNow, liveNode, _⟩ := (survives_moves reconciled.moves).node liveNode0
  dsimp only at liveNode
  have sameKind : nodeNow.kind = node.kind := by
    have same := reconciled.kind
    rw [liveNode, liveNode0] at same
    exact Option.some.inj same
  cases named : row.addr with
  | none =>
    unfold listClient
    rw [named]
    have unlisted : ∀ addr, Confirmed (rows ++ [row]) addr ↔ Confirmed rows addr := fun addr => by
      simp [confirmed_append, named]
    refine ⟨⟨reconciled.moves, reconciled.kind, fun listed => ?_, fun entry => ?_⟩, .inr fun strays => ?_⟩
    · exact reconciled.present ((unlisted _).mp listed)
    · exact (reconciled.standing entry).relist (unlisted _)
    · obtain ⟨_, addr, same, _⟩ := strays
      rw [named] at same
      cases same
  | some addr =>
    rw [listClient_eq env cfg named, post_bind]
    refine (post_fetched env cfg .plain (fun _ => ⟨rfl, rfl⟩) sound liveNode).mono ?_
    rintro ⟨si, create, d1⟩ ⟨got, moves1⟩
    dsimp only at got moves1 ⊢
    have sound1 : Sound none d1 := sound_moves (a := (none, d)) sound moves1
    obtain ⟨info1, entry1⟩ := got.entry
    obtain ⟨node1, liveNode1, _⟩ := (survives_moves moves1).node liveNode
    have kind1 := got.kinds n
    have sameKind1 : node1.kind = node.kind := by
      rw [liveNode, liveNode1] at kind1
      rw [Option.some.inj kind1, sameKind]
    have standing1 := got.standing sound reconciled (survives_moves moves1) entry1
    rw [post_bind]
    refine (post_nl80211UpdateSta_cases env cfg row.station sound1 liveNode1 entry1.1).mono fun d2 => ?_
    rintro (⟨spared, moves2, nodes2, kept2⟩ | ⟨outOfRange, unconnected, refreshes, freed⟩)
    · obtain ⟨info2, live2, _, sameNode⟩ := (survives_moves moves2).infos entry1.1
      have onNode : d2.OnLocal info2 := by
        obtain ⟨node2, liveNode2, _⟩ := (survives_moves moves2).node liveNode1
        refine ⟨node2, by rw [sameNode, entry1.2.1]; exact liveNode2, ?_⟩
        dsimp only at liveNode2
        rw [nodes2, liveNode1] at liveNode2
        cases liveNode2
        rw [UsteerNode.isLocal, sameKind1]
        exact isLocal
      refine ((post_confirmClient env cfg .plain row (sound_moves (a := (none, d1)) sound1 moves2) live2 onNode id).and
        (returns_confirmClient row)).mono ?_
      rintro ⟨nAssoc', d3⟩ ⟨moves3, nodes3, kept3⟩
      dsimp only at moves3 nodes3 kept3 ⊢
      have since := survives_moves (moves2.then moves3)
      dsimp only at since
      refine ⟨⟨reconciled.moves.then (moves1.then (moves2.then moves3)), ?_, fun {a} listed => ?_,
        fun {a j info3} entry3 => ?_⟩, ?_⟩
      · rw [nodes3, nodes2, kind1]
        exact reconciled.kind
      · rcases confirmed_append.mp listed with earlier | ⟨here, _⟩
        · obtain ⟨j, info, entry⟩ := reconciled.present earlier
          obtain ⟨info3, entry3⟩ := ((survives_moves moves1).trans since).entryOf entry
          exact ⟨j, info3, entry3⟩
        · rw [named] at here
          cases here
          obtain ⟨info3, entry3⟩ := since.entryOf entry1
          exact ⟨si, info3, entry3⟩
      · obtain ⟨infoJ2, liveJ2, result⟩ := kept3 j info3 entry3.1
        obtain ⟨infoJ, liveJ, same⟩ := kept2 j infoJ2 liveJ2
        have entryJ : EntryOf d1 a n j infoJ := entry3.back since sound1 liveJ
        have standingJ := got.standing sound reconciled (survives_moves moves1) entryJ
        rw [result, same]
        dsimp only
        by_cases here : j = si
        · subst here
          obtain ⟨rfl, _⟩ := entry1.same entryJ
          by_cases associated : row.assoc = some true
          · rw [if_pos ⟨rfl, associated⟩]
            exact .confirmed (confirmed_append.mpr (.inr ⟨named, associated⟩))
          · rw [if_neg fun both => associated both.2]
            exact standingJ.relist (by simp [confirmed_append, associated])
        · rw [if_neg fun both => here both.1]
          refine standingJ.relist ?_
          rw [confirmed_append, or_iff_left]
          rintro ⟨same, _⟩
          rw [named] at same
          cases same
          exact here (entryJ.unique sound1 entry1)
      · by_cases inRange : cfg.InRange
        · exact .inl inRange
        · refine .inr ?_
          rintro ⟨refreshes, a, same, unlisted⟩
          rw [named] at same
          cases same
          rw [Refreshes, ← sameKind1] at refreshes
          exact unlisted (standing1.connected_iff.mp ((spared refreshes).resolve_left inRange))
    · rw [confirmClient_freed env cfg row freed]
      refine ⟨rfl, outOfRange, ?_, addr, named, fun listed => unconnected (standing1.connected_iff.mpr listed)⟩
      rw [Refreshes, ← sameKind1]
      exact refreshes

/-- The rows of the client table, one after the other. -/
theorem post_reconcileRows (sound0 : Sound none d0) (liveNode0 : d0.nodes.get? n = some node)
    (isLocal : node.isLocal = true) (rest : List ClientEntry) :
    ∀ {rows : List ClientEntry} {d : Daemon} {nAssoc : Int32}, Reconciled env cfg d0 n rows d →
      Post (fun e => e = .useAfterFree ∧ ¬ cfg.InRange ∧
          ∃ before row after, rest = before ++ row :: after ∧ Strays node (rows ++ before) row)
        (rest.foldlM (listClient env cfg n) (nAssoc, d)) (fun r => Reconciled env cfg d0 n (rows ++ rest) r.2 ∧
          (cfg.InRange ∨
            ∀ before row after, rest = before ++ row :: after → ¬ Strays node (rows ++ before) row)) := by
  induction rest with
  | nil =>
    intro rows d nAssoc reconciled
    rw [List.foldlM_nil, List.append_nil]
    exact ⟨reconciled, .inr fun before row after split => by simp at split⟩
  | cons row rest ih =>
    intro rows d nAssoc reconciled
    rw [List.foldlM_cons, post_bind]
    refine ((post_reconcileRow row sound0 liveNode0 isLocal reconciled).excuse ?_).mono ?_
    · rintro e ⟨fault, outOfRange, strays⟩
      exact ⟨fault, outOfRange, [], row, rest, rfl, by rw [List.append_nil]; exact strays⟩
    · rintro ⟨nAssoc', d1⟩ ⟨reconciled1, first⟩
      refine ((ih reconciled1).excuse ?_).mono ?_
      · rintro e ⟨fault, outOfRange, before, row', after, shape, strays⟩
        refine ⟨fault, outOfRange, row :: before, row', after, by rw [shape]; rfl, ?_⟩
        rw [List.append_assoc, List.singleton_append] at strays
        exact strays
      · rintro r ⟨reconciled2, others⟩
        rw [List.append_assoc, List.singleton_append] at reconciled2
        refine ⟨reconciled2, ?_⟩
        by_cases inRange : cfg.InRange
        · exact .inl inRange
        · refine .inr fun before row' after shape => ?_
          cases before with
          | nil =>
            cases shape
            rw [List.append_nil]
            exact first.resolve_left inRange
          | cons row0 before =>
            cases shape
            have later := others.resolve_left inRange before row' after rfl
            rw [List.append_assoc, List.singleton_append] at later
            exact later

/-- The first loop: every connected entry of the list awaits confirmation. -/
theorem returns_awaitConfirmation (list : List SiId) :
    ∀ d : Daemon, Post AnyFault (list.foldlM awaitConfirmation d) (fun d' => d'.nodes = d.nodes ∧
      Reconnects (fun si c => if si ∈ list ∧ c ≠ 0 then 2 else c) d d') := by
  induction list with
  | nil =>
    intro d
    exact ⟨rfl, fun si info live => ⟨info, live, by simp⟩⟩
  | cons si rest ih =>
    intro d
    rw [List.foldlM_cons, post_bind]
    unfold awaitConfirmation
    rw [post_bind]
    refine post_of_ok fun info found => ?_
    rw [post_pure]
    have step : (if info.connected ≠ 0 then d.modifyInfo si (fun info => { info with connected := 2 })
          else d).nodes = d.nodes ∧
        Reconnects (fun j c => if j = si ∧ c ≠ 0 then 2 else c) d
          (if info.connected ≠ 0 then d.modifyInfo si (fun info => { info with connected := 2 }) else d) := by
      have live : d.infos.get? si = some info := by
        have both := (post_info (F := fun _ => False) d si (fun i => i = info)).mp (by rw [found]; exact rfl)
        cases alive : d.infos.get? si with
        | none => exact (both.2 alive).elim
        | some i => rw [both.1 i alive]
      split
      · rename_i connected
        refine ⟨rfl, fun j info' live' => ?_⟩
        obtain ⟨before, liveJ, result⟩ := Heap.get?_modify_some live'
        refine ⟨before, liveJ, ?_⟩
        by_cases same : j = si
        · subst same
          rw [live] at liveJ
          cases liveJ
          simp [result, connected]
        · simp [result, same]
      · rename_i unconnected
        refine ⟨rfl, fun j info' live' => ⟨info', live', ?_⟩⟩
        refine (if_neg ?_).symm
        rintro ⟨rfl, connected⟩
        rw [live] at live'
        cases live'
        exact unconnected connected
    refine (ih _).mono fun d' later => ⟨later.1.trans step.1, fun j info' live' => ?_⟩
    obtain ⟨info1, live1, result1⟩ := later.2 j info' live'
    obtain ⟨info0, live0, result0⟩ := step.2 j info1 live1
    refine ⟨info0, live0, ?_⟩
    rw [result1, result0]
    by_cases connected : info0.connected = 0
    · simp [connected]
    · by_cases same : j = si
      · simp [same, connected]
      · simp [same, connected]

/-- The last loop with a timeout out of range: an entry that still waits is freed. -/
theorem post_dropUnconfirmed_freed (outOfRange : ¬ cfg.InRange) (sound : Sound none d) (list : List SiId)
    (live : ∀ si ∈ list, ∃ info, d.infos.get? si = some info) :
    Post (fun e => e = .useAfterFree ∧ ∃ si ∈ list, ∃ info, d.infos.get? si = some info ∧ info.connected = 2)
      (list.foldlM (dropUnconfirmed env cfg) d)
      (fun _ => ∀ si ∈ list, ∀ info, d.infos.get? si = some info → info.connected ≠ 2) := by
  induction list with
  | nil =>
    intro si inside
    cases inside
  | cons si rest ih =>
    obtain ⟨info, liveInfo⟩ := live si List.mem_cons_self
    have later := ih fun si' inside => live si' (List.mem_cons_of_mem _ inside)
    rw [List.foldlM_cons, post_bind, dropUnconfirmed, info_ok liveInfo, ok_bind]
    by_cases waits : info.connected ≠ 2
    · rw [if_pos waits, post_pure]
      refine (later.excuse ?_).mono fun _ none si' inside info' live' => ?_
      · rintro e ⟨fault, si', inside, found⟩
        exact ⟨fault, si', List.mem_cons_of_mem _ inside, found⟩
      · rcases List.mem_cons.mp inside with rfl | inside
        · rw [liveInfo] at live'
          cases live'
          exact waits
        · exact none si' inside info' live'
    · rw [if_neg waits]
      dsimp only
      rw [post_bind]
      refine (post_updateTimeout env cfg sound liveInfo ?_).mono fun d' => ?_
      · exact fun _ => ⟨rfl, rfl⟩
      rintro (⟨kept, _⟩ | ⟨_, _, freed⟩)
      · rcases kept with connected | inRange
        · cases connected
        · exact absurd inRange outOfRange
      · rw [post_bind, post_info]
        refine ⟨fun info' live' => ?_, fun _ => ⟨rfl, si, List.mem_cons_self, info, liveInfo, not_not.mp waits⟩⟩
        rw [freed] at live'
        cases live'

/-- A client table that frees no entry: the kernel answers about confirmed clients only,
    and every client of the node that was connected is confirmed. -/
structure TableSpares (d : Daemon) (n : NodeId) (clients : List ClientEntry) : Prop where
  heard : ∀ {node before row after}, d.nodes.get? n = some node → clients = before ++ row :: after →
    ¬ Strays node before row
  kept : ∀ {addr si info}, EntryOf d addr n si info → info.connected ≠ 0 → Confirmed clients addr

/-- After the first loop no row has been read. -/
theorem reconciled_nil {d1 : Daemon} (sound : Sound none d) (live : d.nodes.get? n = some node)
    (moves : Moves env cfg .plain (none, d) (none, d1)) (nodes : d1.nodes = d.nodes)
    (awaits : Reconnects (fun si c => if si ∈ node.staInfo ∧ c ≠ 0 then 2 else c) d d1) :
    Reconciled env cfg d n [] d1 := by
  refine ⟨moves, by rw [nodes], fun listed => ?_, fun {addr si info1} entry1 => ?_⟩
  · obtain ⟨row, inside, _⟩ := listed
    cases inside
  · have unlisted : ¬ Confirmed [] addr := fun ⟨row, inside, _⟩ => by cases inside
    obtain ⟨info, liveInfo, result⟩ := awaits si info1 entry1.1
    have entry : EntryOf d addr n si info := entry1.back (survives_moves moves) sound liveInfo
    obtain ⟨node', live', listed⟩ := node_of_info sound.links liveInfo
    rw [entry.2.1, live] at live'
    cases live'
    rw [result]
    dsimp only
    by_cases connected : info.connected = 0
    · rw [if_neg fun both => both.2 connected, connected]
      refine .unconnected unlisted fun info0 entry0 => ?_
      have here := entry0.1
      rw [liveInfo] at here
      cases here
      exact connected
    · rw [if_pos ⟨listed, connected⟩]
      exact .awaited unlisted entry connected

theorem setAssoc_unfreed (env : Platform) (cfg : Config) (clients : List ClientEntry) (sound : Sound none d)
    (inside : n ∈ d.localNodes) :
    d.usteerLocalNodeSetAssoc env cfg n clients ≠ .error .useAfterFree ↔ cfg.InRange ∨ TableSpares d n clients := by
  by_cases inRange : cfg.InRange
  · refine iff_of_true (fun fault => ?_) (.inl inRange)
    have safe := post_usteerLocalNodeSetAssoc env cfg .plain (reads_plain n clients) sound inside
    rw [fault] at safe
    exact safe.2 inRange
  rw [or_iff_right inRange]
  apply unfreed_iff
  obtain ⟨node, live, isLocal⟩ := node_of_locals sound.registered inside
  unfold usteerLocalNodeSetAssoc
  rw [node_ok live, ok_bind, post_bind]
  refine ((post_eachEntry env cfg .plain (fun d si info _ live _ isLocal =>
    post_awaitConfirmation env cfg .plain live isLocal id) sound inside live).and
      (returns_awaitConfirmation node.staInfo d)).mono ?_
  rintro d1 ⟨moves1, nodes1, awaits⟩
  rw [post_bind]
  have start := reconciled_nil sound live moves1 nodes1 awaits
  refine ((post_reconcileRows sound live isLocal clients start).excuse ?_).mono ?_
  · rintro e ⟨fault, _, before, row, after, shape, strays⟩
    exact ⟨fault, fun spares => spares.heard live shape strays⟩
  rintro ⟨nAssoc, d2⟩ ⟨reconciled, heard⟩
  rw [List.nil_append] at reconciled
  dsimp only at reconciled ⊢
  have moves2 := reconciled.moves
  have moves3 : Moves env cfg .plain (none, d) (none, d2.modifyNode n (fun node => { node with nAssoc := nAssoc })) :=
    moves2.then (.one (.editNode n (fun node => ⟨rfl, rfl, rfl⟩) fun _ _ _ => keepsCounts_plain))
  have infos3 : (d2.modifyNode n (fun node => { node with nAssoc := nAssoc })).infos = d2.infos := rfl
  have stas3 : (d2.modifyNode n (fun node => { node with nAssoc := nAssoc })).stas = d2.stas := rfl
  generalize d2.modifyNode n (fun node => { node with nAssoc := nAssoc }) = d3 at *
  have sound3 : Sound none d3 := sound_moves (a := (none, d)) sound moves3
  have inside3 : n ∈ d3.localNodes := moves3.locals inside
  obtain ⟨node3, live3, _⟩ := node_of_locals sound3.registered inside3
  rw [node_ok live3, ok_bind]
  have lives : ∀ si ∈ node3.staInfo, ∃ info, d3.infos.get? si = some info := fun si listed => by
    obtain ⟨info, liveInfo, _⟩ := info_of_node sound3.links live3 listed
    exact ⟨info, liveInfo⟩
  refine ((post_dropUnconfirmed_freed inRange sound3 node3.staInfo lives).excuse ?_).mono fun _ none => ?_
  · rintro e ⟨fault, si, listed, info, liveInfo, waits⟩
    refine ⟨fault, fun spares => ?_⟩
    obtain ⟨info', live', onNode⟩ := info_of_node sound3.links live3 listed
    have same : info' = info := Option.some.inj (live'.symm.trans liveInfo)
    subst same
    obtain ⟨sta, liveSta, _⟩ := sta_of_info sound3.links liveInfo
    rw [infos3] at liveInfo
    rw [stas3] at liveSta
    have entry : EntryOf d2 sta.addr n si info' := ⟨liveInfo, onNode, sta, liveSta, rfl⟩
    obtain ⟨unlisted, info0, entry0, connected⟩ := (reconciled.standing entry).awaited_iff.mp waits
    exact unlisted (spares.kept entry0 connected)
  · refine ⟨fun liveNode shape strays => ?_, fun {addr si info0} entry0 connected => ?_⟩
    · rw [live] at liveNode
      cases liveNode
      exact heard.resolve_left inRange _ _ _ shape strays
    · by_contra unlisted
      obtain ⟨info2, entry2⟩ := (survives_moves moves2).entryOf entry0
      have live2 : d3.infos.get? si = some info2 := by
        rw [infos3]
        exact entry2.1
      obtain ⟨node', live', listed⟩ := node_of_info sound3.links live2
      rw [entry2.2.1, live3] at live'
      cases live'
      have waits := (reconciled.standing entry2).awaited_iff.mpr ⟨unlisted, info0, entry0, connected⟩
      exact none si listed info2 live2 waits

end Table

/-- Neither function uses an entry after freeing it exactly when the timeout is a
    positive `int` or nothing unconnected comes up for it. -/
theorem freed_entries (env : Platform) (cfg : Config) {d : Daemon} {n : NodeId} (sound : Sound none d)
    (inside : n ∈ d.localNodes) :
    (∀ addr type freq signal, d.usteerHandleStaEvent env cfg n addr type freq signal ≠ .error .useAfterFree ↔
      cfg.InRange ∨ JoinedTo d addr n) ∧
    ∀ clients, d.usteerLocalNodeSetAssoc env cfg n clients ≠ .error .useAfterFree ↔
      cfg.InRange ∨ TableSpares d n clients := by
  obtain ⟨node, live, _⟩ := node_of_locals sound.registered inside
  constructor
  · exact fun addr type freq signal => handleStaEvent_unfreed env cfg addr type freq signal sound live
  · exact fun clients => setAssoc_unfreed env cfg clients sound inside

/-- A timeout of zero, which `set_config` accepts. -/
def noTimeout : Config := { usteerInitDefaults with localStaTimeout := 0 }

/-- Even then a connected client may send requests, and its table may list it. -/
theorem freed_entries_connected : ∃ d, Reachable plainPlatform usteerInitDefaults d ∧ ¬ noTimeout.InRange ∧
    d.usteerHandleStaEvent plainPlatform noTimeout 0 1 .probe 2412 (-60) ≠ .error .useAfterFree ∧
    d.usteerLocalNodeSetAssoc plainPlatform noTimeout 0 [⟨some 1, none, some true, none⟩] ≠ .error .useAfterFree := by
  have evaluates : (plainRun usteerInitDefaults associates).any (fun d => decide (
      d.localNodes = [0] ∧ d.infos.next = 1 ∧ (d.stas.get? 0).map Sta.addr = some 1 ∧
      (d.infos.get? 0).map (fun info => (info.sta, info.node, info.connected)) =
        some (0, 0, (1 : Fin 4)))) = true := by
    decide +kernel
  obtain ⟨d, run, facts⟩ := (Option.any_eq_true _ _).mp evaluates
  obtain ⟨locals, next, station, entry⟩ := of_decide_eq_true facts
  obtain ⟨sta, liveSta, addr⟩ := Option.map_eq_some_iff.mp station
  obtain ⟨info, live, owners⟩ := Option.map_eq_some_iff.mp entry
  simp only [Prod.mk.injEq] at owners
  obtain ⟨inSta, onNode, connected⟩ := owners
  have reach := reachable_plainRun run
  have exact1 : EntryOf d 1 0 0 info := ⟨live, onNode, sta, by rw [inSta]; exact liveSta, addr⟩
  have inside : 0 ∈ d.localNodes := by
    rw [locals]
    exact List.mem_singleton.mpr rfl
  have outOfRange : ¬ noTimeout.InRange := by
    unfold Config.InRange
    decide
  have safe := freed_entries plainPlatform noTimeout (reachable_sound reach) inside
  refine ⟨d, reach, outOfRange, (safe.1 ..).mpr (.inr ⟨0, info, exact1, connected⟩), (safe.2 _).mpr (.inr ⟨?_, ?_⟩)⟩
  · rintro node before row after _ shape ⟨⟨answers, _⟩, _⟩
    have inside : row ∈ before ++ row :: after := by simp
    rw [← shape, List.mem_singleton] at inside
    subst inside
    cases answers
  · intro a si info' entry' _
    have first : si = 0 := Nat.lt_one_iff.mp (next ▸ Heap.lt_next entry'.1)
    subst first
    obtain ⟨rfl, _⟩ := exact1.same entry'
    exact ⟨_, List.mem_singleton.mpr rfl, rfl, rfl⟩

/-- A new station is freed by its own request, and a connected client by the first table
    that does not list it. -/
theorem freed_entry_used : ∃ d, Reachable plainPlatform usteerInitDefaults d ∧ 0 ∈ d.localNodes ∧
    d.usteerHandleStaEvent plainPlatform noTimeout 0 2 .probe 2412 (-60) = .error .useAfterFree ∧
    d.usteerLocalNodeSetAssoc plainPlatform noTimeout 0 [] = .error .useAfterFree := by
  have evaluates : (plainRun usteerInitDefaults associates).any (fun d => decide (0 ∈ d.localNodes ∧
      faultOf (d.usteerHandleStaEvent plainPlatform noTimeout 0 2 .probe 2412 (-60)) = some .useAfterFree ∧
      faultOf (d.usteerLocalNodeSetAssoc plainPlatform noTimeout 0 []) = some .useAfterFree)) = true := by
    decide +kernel
  obtain ⟨d, run, facts⟩ := (Option.any_eq_true _ _).mp evaluates
  obtain ⟨inside, request, listing⟩ := of_decide_eq_true facts
  exact ⟨d, reachable_plainRun run, inside, error_of_faultOf request, error_of_faultOf listing⟩

end Usteer
