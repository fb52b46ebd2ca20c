import Usteer.Freed

/-!
A client table reconciles the entries of its node (`usteer_local_node_set_assoc`). Between
its loops an entry stands as `Standing` says; the last loop turns the entries still awaiting
confirmation into unconnected ones that wait for their timeout (`post_dropAll`). A row
touches one entry (`touches_listClient`), so those of other nodes stay as they are, and with
one row per address the rows counted are the entries connected (`connected_rows`).
-/
namespace Usteer
open SearchTree Timeout Function Daemon

/-! ### Entries of other nodes -/

/-- Only that entry and its timer may have changed. -/
structure Touches (si : SiId) (d d' : Daemon) : Prop where
  infos : ∀ j, j ≠ si → d'.infos.get? j = d.infos.get? j
  timers : ∀ j, j ≠ si → ∀ key, (key, j) ∈ d'.tq.items ↔ (key, j) ∈ d.tq.items

/-- The entries of other nodes and their timers are as they were. -/
structure OthersKept (n : NodeId) (d d' : Daemon) : Prop where
  infos : ∀ {si info}, info.node ≠ n → (d'.infos.get? si = some info ↔ d.infos.get? si = some info)
  timers : ∀ {si info}, d.infos.get? si = some info → info.node ≠ n →
    ∀ key, (key, si) ∈ d'.tq.items ↔ (key, si) ∈ d.tq.items

section Frames

variable {env : Platform} {cfg : Config} {d d' d'' : Daemon} {n : NodeId} {si : SiId} {info : StaInfo}

namespace Touches

theorem of_eq (infos : d'.infos = d.infos) (tq : d'.tq = d.tq) : Touches si d d' :=
  ⟨fun j _ => by rw [infos], fun j _ key => by rw [tq]⟩

theorem refl (d : Daemon) : Touches si d d := of_eq rfl rfl

theorem trans (first : Touches si d d') (second : Touches si d' d'') : Touches si d d'' :=
  ⟨fun j other => (second.infos j other).trans (first.infos j other),
    fun j other key => (second.timers j other key).trans (first.timers j other key)⟩

theorem edit (f : StaInfo → StaInfo) : Touches si d (d.modifyInfo si f) :=
  ⟨fun _ other => infos_modifyInfo_other other, fun _ _ _ => Iff.rfl⟩

theorem settled (timeout : Int32) : Touches si d (d.settled env si info timeout) := by
  refine ⟨fun j other => infos_settled_other other, fun j other key => ?_⟩
  unfold Daemon.settled
  dsimp only
  split
  · rw [Queue.mem_cancel]
    exact and_iff_left other
  · rw [Queue.mem_set]
    constructor
    · rintro (here | ⟨waits, _⟩)
      · cases here
        exact absurd rfl other
      · exact waits
    · exact fun waits => .inr ⟨waits, other⟩

end Touches

namespace OthersKept

theorem of_eq (infos : d'.infos = d.infos) (tq : d'.tq = d.tq) : OthersKept n d d' :=
  ⟨fun _ => by rw [infos], fun _ _ key => by rw [tq]⟩

theorem trans (first : OthersKept n d d') (second : OthersKept n d' d'') : OthersKept n d d'' :=
  ⟨fun other => (second.infos other).trans (first.infos other), fun live other key =>
    (second.timers ((first.infos other).mpr live) other key).trans (first.timers live other key)⟩

/-- What touches only an entry of the node keeps the others. -/
theorem of_touches (touches : Touches si d d') (before : ∀ info, d.infos.get? si = some info → info.node = n)
    (after : ∀ info, d'.infos.get? si = some info → info.node = n) : OthersKept n d d' := by
  constructor
  · intro j info other
    by_cases same : j = si
    · subst same
      exact iff_of_false (fun live => other (after info live)) fun live => other (before info live)
    · rw [touches.infos j same]
  · intro j info live other key
    refine touches.timers j ?_ key
    rintro rfl
    exact other (before info live)

end OthersKept

/-! ### One row -/

theorem Fetched.touches {addr : MacAddr} {create : Bool} (got : Fetched d addr n si create d') : Touches si d d' := by
  have tq : d'.tq = d.tq := by rw [got.rest]
  refine ⟨fun j other => ?_, fun j _ key => by rw [tq]⟩
  cases create with
  | false => rw [(got.found rfl).1]
  | true =>
    obtain ⟨_, _, s, freq, shape⟩ := got.fresh rfl
    rw [shape, if_neg other]

theorem touches_usteerBeaconRequestCheck :
    Post AnyFault (d.usteerBeaconRequestCheck env cfg si) (fun d' => Touches si d d') := by
  unfold usteerBeaconRequestCheck
  rw [post_bind]
  refine post_of_ok fun info _ => ?_
  rw [post_bind]
  refine post_of_ok fun node _ => ?_
  dsimp only
  split
  · exact .refl d
  · rw [post_bind]
    refine post_of_ok fun next _ => ?_
    refine Touches.trans ?_ (.edit _)
    split
    · refine Touches.trans ?_ (.edit _)
      refine Touches.trans ?_ (.edit _)
      exact (Touches.edit _).trans (.of_eq rfl rfl)
    · exact (Touches.edit _).trans (.of_eq rfl rfl)

theorem touches_confirmClient {nAssoc : Int32} (client : ClientEntry) :
    Post AnyFault (confirmClient env cfg d si nAssoc client) (fun r => Touches si d r.2 ∧
      ∀ info, r.2.infos.get? si = some info → r.1 = if info.connected = 1 then nAssoc + 1 else nAssoc) := by
  unfold confirmClient
  rw [post_bind]
  refine (returns_usteerLocalNodeAssocUpdate client.assoc).mono ?_
  rintro d1 ⟨s, f, rfl⟩
  have marked : Touches si d ((if client.assoc = some true then
      d.modifyInfo si (fun info => { info with connected := 1 }) else d).modifySta s f) := by
    split
    · exact (Touches.edit _).trans (.of_eq rfl rfl)
    · exact .of_eq rfl rfl
  generalize (if client.assoc = some true then d.modifyInfo si (fun info => { info with connected := 1 })
    else d).modifySta s f = d1 at *
  rw [post_bind, post_info]
  refine ⟨fun info1 live1 => ?_, fun _ => trivial⟩
  rw [post_bind]
  refine (returns_usteerBeaconRequestCheck.and touches_usteerBeaconRequestCheck).mono ?_
  rintro d2 ⟨⟨calm, -⟩, checked⟩
  refine ⟨marked.trans ((Touches.edit _).trans checked), fun info live => ?_⟩
  have sampled : Calm d1 (d1.usteerUpdateClientActiveBytes cfg si client.bytes) := .edit fun _ => ⟨rfl, rfl⟩
  obtain ⟨info1', live1', same, _⟩ := (sampled.trans calm).infos live
  rw [live1] at live1'
  cases live1'
  rw [same]

/-- A row with an address touches the entry of that address, and counts it if it is connected
    afterwards. -/
theorem touches_listClient {node : UsteerNode} {nAssoc : Int32} {row : ClientEntry} {addr : MacAddr}
    (inRange : cfg.InRange) (sound : Sound none d) (liveNode : d.nodes.get? n = some node)
    (isLocal : node.isLocal = true) (named : row.addr = some addr) :
    Post AnyFault (listClient env cfg n (nAssoc, d) row) (fun r => ∃ si info, Touches si d r.2 ∧
      (∀ info, d.infos.get? si = some info → info.node = n) ∧ EntryOf r.2 addr n si info ∧
      r.1 = if info.connected = 1 then nAssoc + 1 else nAssoc) := by
  rw [listClient_eq env cfg named, post_bind]
  refine (post_fetched env cfg .plain (fun _ => ⟨rfl, rfl⟩) sound liveNode).mono ?_
  rintro ⟨si, create, d1⟩ ⟨got, moves1⟩
  dsimp only at got moves1 ⊢
  have sound1 : Sound none d1 := sound_moves (a := (none, d)) sound moves1
  obtain ⟨info1, entry1⟩ := got.entry
  have before : ∀ info, d.infos.get? si = some info → info.node = n := by
    intro info live
    exact (entry1.back (survives_moves moves1) sound live).2.1
  obtain ⟨node1, liveNode1, _⟩ := (survives_moves moves1).node liveNode
  rw [post_bind]
  refine ((returns_nl80211UpdateSta row.station sound1 liveNode1 entry1.1).and
    (post_nl80211UpdateSta env cfg .plain (fun _ _ => heard_plain) sound1 liveNode1 entry1.1)).mono ?_
  rintro d2 ⟨shape, moved⟩
  have moves2 := moved.resolve_right fun freed => freed.1 inRange
  have touches2 : Touches si d1 d2 := by
    rcases shape with ⟨heard, rfl⟩ | ⟨outOfRange, -⟩ | ⟨rfl, -⟩
    · exact .settled _
    · exact absurd inRange outOfRange
    · exact .refl _
  obtain ⟨info2, entry2⟩ := (survives_moves moves2).entryOf entry1
  have isLocal2 : d2.OnLocal info2 := by
    have local0 : d.OnLocal info1 := ⟨node, by rw [entry1.2.1]; exact liveNode, isLocal⟩
    have local1 : d1.OnLocal info1 := (survives_moves moves1).onLocal rfl local0
    exact (survives_moves moves2).onLocal (entry2.2.1.trans entry1.2.1.symm) local1
  have sound2 : Sound none d2 := sound_moves (a := (none, d1)) sound1 moves2
  refine ((touches_confirmClient row).and
    (post_confirmClient (F := AnyFault) env cfg .plain row sound2 entry2.1 isLocal2 id)).mono ?_
  rintro r ⟨⟨touches3, counts⟩, moves3⟩
  obtain ⟨info3, entry3⟩ := (survives_moves moves3).entryOf entry2
  exact ⟨si, info3, got.touches.trans (touches2.trans touches3), before, entry3, counts info3 entry3.1⟩

end Frames

/-! ### The rows -/

/-- A row that counts: a readable address that is associated. -/
def Daemon.ClientEntry.associated (row : ClientEntry) : Bool := row.addr.isSome && decide (row.assoc = some true)

section Rows

variable {env : Platform} {cfg : Config} {d d0 : Daemon} {n : NodeId} {rows : List ClientEntry}

/-- A row with a new address counts if it is associated. -/
theorem post_countRow {nAssoc : Int32} (row : ClientEntry) (inRange : cfg.InRange) (sound0 : Sound none d0)
    (inside : n ∈ d0.localNodes) (reconciled : Reconciled env cfg d0 n rows d)
    (fresh : ∀ addr, row.addr = some addr → addr ∉ rows.filterMap ClientEntry.addr) :
    Post (fun _ => False) (listClient env cfg n (nAssoc, d) row) (fun r =>
      Reconciled env cfg d0 n (rows ++ [row]) r.2 ∧ OthersKept n d r.2 ∧
      r.1 = if row.associated then nAssoc + 1 else nAssoc) := by
  obtain ⟨node0, live0, isLocal0⟩ := node_of_locals sound0.registered inside
  have sound : Sound none d := sound_moves (a := (none, d0)) sound0 reconciled.moves
  have inside' : n ∈ d.localNodes := reconciled.moves.locals inside
  obtain ⟨node, live, isLocal⟩ := node_of_locals sound.registered inside'
  have step : Post (fun _ => False) (listClient env cfg n (nAssoc, d) row) _ :=
    (post_reconcileRow row sound0 live0 isLocal0 reconciled).excuse fun e fault => fault.2.1 inRange
  cases named : row.addr with
  | none =>
    have same : listClient env cfg n (nAssoc, d) row = .ok (nAssoc, d) := by
      unfold listClient
      rw [named]
      rfl
    rw [same] at step ⊢
    refine ⟨step.1, .of_eq rfl rfl, ?_⟩
    simp [ClientEntry.associated, named]
  | some addr =>
    refine (step.and (touches_listClient inRange sound live isLocal named)).mono ?_
    rintro r ⟨⟨reconciled', -⟩, si, info, touches, before, entry, counted⟩
    refine ⟨reconciled', .of_touches touches before ?_, ?_⟩
    · intro info' live'
      rw [entry.1] at live'
      cases live'
      exact entry.2.1
    · have unlisted : ¬ Confirmed rows addr := by
        rintro ⟨earlier, listed, same, -⟩
        exact fresh addr named (List.mem_filterMap.mpr ⟨earlier, listed, same⟩)
      have connected : info.connected = 1 ↔ row.associated = true := by
        rw [(reconciled'.standing entry).connected_iff, confirmed_append]
        simp [unlisted, named, ClientEntry.associated]
      rw [counted]
      by_cases associated : row.associated = true
      · rw [if_pos (connected.mpr associated), if_pos associated]
      · rw [if_neg (mt connected.mp associated), if_neg associated]

/-- The rows of a table with one row per address, one after the other. -/
theorem post_countRows (inRange : cfg.InRange) (sound0 : Sound none d0) (inside : n ∈ d0.localNodes)
    (rest : List ClientEntry) : ∀ {rows : List ClientEntry} {d : Daemon} {nAssoc : Int32},
      Reconciled env cfg d0 n rows d → ((rows ++ rest).filterMap ClientEntry.addr).Nodup →
      Post (fun _ => False) (rest.foldlM (listClient env cfg n) (nAssoc, d)) (fun r =>
        Reconciled env cfg d0 n (rows ++ rest) r.2 ∧ OthersKept n d r.2 ∧
          r.1 = nAssoc + Int32.ofNat (rest.countP ClientEntry.associated)) := by
  induction rest with
  | nil =>
    intro rows d nAssoc reconciled _
    rw [List.foldlM_nil, List.append_nil]
    exact ⟨reconciled, .of_eq rfl rfl, by simp⟩
  | cons row rest ih =>
    intro rows d nAssoc reconciled distinct
    rw [List.foldlM_cons, post_bind]
    have fresh : ∀ addr, row.addr = some addr → addr ∉ rows.filterMap ClientEntry.addr := by
      intro addr named earlier
      rw [List.filterMap_append, List.nodup_append] at distinct
      exact distinct.2.2 addr earlier addr (List.mem_filterMap.mpr ⟨row, List.mem_cons_self, named⟩) rfl
    refine (post_countRow row inRange sound0 inside reconciled fresh).mono ?_
    rintro ⟨nAssoc', d1⟩ ⟨reconciled1, others1, counted1⟩
    have assoc : rows ++ row :: rest = (rows ++ [row]) ++ rest := by simp
    rw [assoc] at distinct ⊢
    refine (ih reconciled1 distinct).mono ?_
    rintro r ⟨reconciled2, others2, counted2⟩
    refine ⟨reconciled2, others1.trans others2, ?_⟩
    dsimp only at counted1
    rw [counted2, counted1, List.countP_cons]
    by_cases associated : row.associated = true
    · rw [if_pos associated, if_pos associated, Nat.add_comm, Int32.ofNat_add, ← Int32.add_assoc]
      rfl
    · rw [if_neg associated, if_neg associated, Nat.add_zero]

end Rows

/-! ### The loops over the entries -/

section Loops

variable {env : Platform} {cfg : Config} {d d' : Daemon} {n : NodeId} {si : SiId}

/-- What is done to one entry, which stays on its node. -/
def OneEntry (si : SiId) (d d' : Daemon) : Prop :=
  Touches si d d' ∧
    ∀ info', d'.infos.get? si = some info' → ∃ info, d.infos.get? si = some info ∧ info'.node = info.node

/-- A loop over entries of the node keeps those of other nodes. -/
theorem others_eachEntry {f : Daemon → SiId → Except Fault Daemon} (list : List SiId)
    (step : ∀ d si, Post AnyFault (f d si) (OneEntry si d)) :
    ∀ {d : Daemon}, (∀ si ∈ list, ∀ info, d.infos.get? si = some info → info.node = n) →
      Post AnyFault (list.foldlM f d) (OthersKept n d) := by
  induction list with
  | nil => exact fun _ => .of_eq rfl rfl
  | cons si rest ih =>
    intro d onNode
    rw [List.foldlM_cons, post_bind]
    refine (step d si).mono ?_
    rintro d1 ⟨touches, own⟩
    have before := onNode si List.mem_cons_self
    have after : ∀ info, d1.infos.get? si = some info → info.node = n := by
      intro info live
      obtain ⟨info0, live0, same⟩ := own info live
      rw [same]
      exact before info0 live0
    refine (ih ?_).mono fun d2 others => (OthersKept.of_touches touches before after).trans others
    intro j later info live
    by_cases same : j = si
    · subst same
      exact after info live
    · rw [touches.infos j same] at live
      exact onNode j (List.mem_cons_of_mem _ later) info live

theorem oneEntry_awaitConfirmation (d : Daemon) (si : SiId) :
    Post AnyFault (awaitConfirmation d si) (OneEntry si d) := by
  unfold awaitConfirmation
  rw [post_bind, post_info]
  refine ⟨fun info live => ?_, fun _ => trivial⟩
  rw [post_pure]
  split
  · refine ⟨.edit _, fun info' live' => ⟨info, live, ?_⟩⟩
    rw [infos_modifyInfo_self live] at live'
    cases live'
    rfl
  · exact ⟨.refl d, fun info' live' => ⟨info', live', rfl⟩⟩

/-- The last loop at one entry, with a timeout in range. -/
theorem dropUnconfirmed_cases (inRange : cfg.InRange) (d : Daemon) (si : SiId) :
    Post AnyFault (dropUnconfirmed env cfg d si) (fun d' => ∃ info, d.infos.get? si = some info ∧
      (info.connected ≠ 2 ∧ d' = d ∨
        info.connected = 2 ∧ d' = d.settled env si { info with connected := 0 } cfg.localStaTimeout.toInt32)) := by
  unfold dropUnconfirmed
  rw [post_bind, post_info]
  refine ⟨fun info live => ?_, fun _ => trivial⟩
  split
  · rename_i confirmed
    exact ⟨info, live, .inl ⟨confirmed, rfl⟩⟩
  · rename_i waits
    dsimp only
    rw [settle_eq env cfg live (.inr inRange), ok_bind, info_ok (infos_settled_self live)]
    exact ⟨info, live, .inr ⟨not_not.mp waits, rfl⟩⟩

theorem oneEntry_dropUnconfirmed (inRange : cfg.InRange) (d : Daemon) (si : SiId) :
    Post AnyFault (dropUnconfirmed env cfg d si) (OneEntry si d) := by
  refine (dropUnconfirmed_cases inRange d si).mono ?_
  rintro d' ⟨info, live, ⟨-, rfl⟩ | ⟨-, rfl⟩⟩
  · exact ⟨.refl _, fun info' live' => ⟨info', live', rfl⟩⟩
  · refine ⟨.settled _, fun info' live' => ⟨info, live, ?_⟩⟩
    rw [infos_settled_self live] at live'
    cases live'
    rfl

/-- An entry that is settled unconnected waits, and so do those that did. -/
theorem settled_waits (env : Platform) (d : Daemon) (si : SiId) (info : StaInfo) (timeout : Int32)
    (unconnected : info.connected ≠ 1) :
    (d.settled env si info timeout).Pending si ∧ ∀ j, d.Pending j → (d.settled env si info timeout).Pending j := by
  have own : (d.settled env si info timeout).Pending si := by
    refine ⟨ampgrTimeoutCurrentTime d.clock.toNat + timeout.toUInt32, ?_⟩
    rw [Daemon.settled, if_neg unconnected]
    exact (Queue.mem_set ..).mpr (.inl rfl)
  refine ⟨own, fun j waits => ?_⟩
  by_cases same : j = si
  · rw [same]
    exact own
  · obtain ⟨key, inside⟩ := waits
    exact ⟨key, ((Touches.settled timeout).timers j same key).mpr inside⟩

/-- The last loop: what still awaits confirmation is unconnected and waits for its timeout. -/
theorem post_dropAll (inRange : cfg.InRange) (list : List SiId) :
    ∀ d : Daemon, Post AnyFault (list.foldlM (dropUnconfirmed env cfg) d) (fun d' => d'.nodes = d.nodes ∧
      Reconnects (fun si c => if si ∈ list ∧ c = 2 then 0 else c) d d' ∧ (∀ si, d.Pending si → d'.Pending si) ∧
      ∀ si ∈ list, ∀ info, d.infos.get? si = some info → info.connected = 2 → d'.Pending si) := by
  induction list with
  | nil =>
    intro d
    refine ⟨rfl, fun si info live => ⟨info, live, by simp⟩, fun _ waits => waits, ?_⟩
    intro si inside
    cases inside
  | cons si rest ih =>
    intro d
    rw [List.foldlM_cons, post_bind]
    refine (dropUnconfirmed_cases inRange d si).mono ?_
    rintro d1 ⟨info, live, ⟨confirmed, rfl⟩ | ⟨awaited, rfl⟩⟩
    · refine (ih d1).mono ?_
      rintro d2 ⟨nodes, reconnects, waits, dropped⟩
      refine ⟨nodes, fun j info' live' => ?_, waits, fun j inside info' live' two => ?_⟩
      · obtain ⟨before, liveJ, result⟩ := reconnects j info' live'
        refine ⟨before, liveJ, result.trans ?_⟩
        by_cases same : j = si
        · subst same
          rw [live] at liveJ
          cases liveJ
          simp [confirmed]
        · simp [same]
      · rcases List.mem_cons.mp inside with rfl | later
        · rw [live] at live'
          cases live'
          exact absurd two confirmed
        · exact dropped j later info' live' two
    · have settledWaits := settled_waits env d si { info with connected := 0 } cfg.localStaTimeout.toInt32
        (Fin.ne_of_val_ne (by decide : (0 : Nat) ≠ 1))
      refine (ih _).mono ?_
      rintro d2 ⟨nodes, reconnects, waits, dropped⟩
      refine ⟨nodes, fun j info' live' => ?_, fun j before => waits j (settledWaits.2 j before),
        fun j inside info' live' two => ?_⟩
      · obtain ⟨between, liveJ, result⟩ := reconnects j info' live'
        by_cases same : j = si
        · subst same
          rw [infos_settled_self live] at liveJ
          cases liveJ
          refine ⟨info, live, result.trans ?_⟩
          simp [awaited]
        · rw [infos_settled_other same] at liveJ
          refine ⟨between, liveJ, result.trans ?_⟩
          simp [same]
      · by_cases same : j = si
        · rw [same]
          exact waits si settledWaits.1
        · refine dropped j ((List.mem_cons.mp inside).resolve_left same) info' ?_ two
          rw [infos_settled_other same]
          exact live'

end Loops

/-! ### The table as a whole -/

/-- How many of a node's entries are connected. -/
def connectedCount (d : Daemon) (node : UsteerNode) : Nat :=
  node.staInfo.countP (fun si => (d.infos.get? si).any (fun info => decide (info.connected = 1)))

/-- The entries of a node after a client table. -/
structure Reconciles (d d' : Daemon) (n : NodeId) (clients : List ClientEntry) : Prop where
  listed : ∀ {addr}, Confirmed clients addr → ∃ si info, EntryOf d' addr n si info
  connected : ∀ {addr si info}, EntryOf d' addr n si info →
    info.connected = 0 ∧ ¬ Confirmed clients addr ∨ info.connected = 1 ∧ Confirmed clients addr
  count : ∃ node, d'.nodes.get? n = some node ∧ node.nAssoc = Int32.ofNat (connectedCount d' node) ∧
    (clients.length < 2 ^ 31 → node.nAssoc.toInt = connectedCount d' node)
  expiry : ∀ {si info}, d.infos.get? si = some info → info.node = n → info.connected ≠ 0 →
    ∃ info', d'.infos.get? si = some info' ∧ (info'.connected = 0 → d'.Pending si)
  others : OthersKept n d d'

section Whole

variable {env : Platform} {cfg : Config} {d d' : Daemon} {n : NodeId} {node : UsteerNode} {clients : List ClientEntry}

/-- The address of an entry of the node that is connected. -/
def connectedAddr (d : Daemon) (n : NodeId) (si : SiId) : Option MacAddr :=
  (d.infos.get? si).bind fun info =>
    if info.node = n ∧ info.connected = 1 then (d.stas.get? info.sta).map Sta.addr else none

theorem connectedAddr_iff {si : SiId} {addr : MacAddr} :
    connectedAddr d n si = some addr ↔ ∃ info, EntryOf d addr n si info ∧ info.connected = 1 := by
  unfold connectedAddr EntryOf
  cases live : d.infos.get? si with
  | none => simp
  | some info =>
    simp only [Option.bind_some, Option.some.injEq]
    constructor
    · intro found
      split at found
      · rename_i both
        obtain ⟨sta, liveSta, same⟩ := Option.map_eq_some_iff.mp found
        exact ⟨info, ⟨rfl, both.1, sta, liveSta, same⟩, both.2⟩
      · cases found
    · rintro ⟨_, ⟨rfl, onNode, sta, liveSta, same⟩, connected⟩
      rw [if_pos ⟨onNode, connected⟩, liveSta, Option.map_some, same]

/-- With one row per address, the associated rows are the connected entries. -/
theorem connected_rows (sound : Sound none d) (live : d.nodes.get? n = some node)
    (distinct : (clients.filterMap ClientEntry.addr).Nodup)
    (listed : ∀ {addr}, Confirmed clients addr → ∃ si info, EntryOf d addr n si info)
    (connected : ∀ {addr si info}, EntryOf d addr n si info → (info.connected = 1 ↔ Confirmed clients addr)) :
    clients.countP ClientEntry.associated = connectedCount d node := by
  have entries : (node.staInfo.filterMap (connectedAddr d n)).Nodup := by
    have once : node.staInfo.Nodup := sound.links.byNode.nodup (k := n) (by simp [table, live])
    refine once.filterMap fun si si' addr found found' => ?_
    obtain ⟨info, entry, -⟩ := connectedAddr_iff.mp found
    obtain ⟨info', entry', -⟩ := connectedAddr_iff.mp found'
    exact entry.unique sound entry'
  have rows : ((clients.filter ClientEntry.associated).filterMap ClientEntry.addr).Nodup :=
    distinct.sublist (List.filter_sublist.filterMap _)
  have same : ∀ addr, addr ∈ (clients.filter ClientEntry.associated).filterMap ClientEntry.addr ↔
      addr ∈ node.staInfo.filterMap (connectedAddr d n) := by
    intro addr
    have confirmed : addr ∈ (clients.filter ClientEntry.associated).filterMap ClientEntry.addr ↔
        Confirmed clients addr := by
      unfold Confirmed ClientEntry.associated
      simp only [List.mem_filterMap, List.mem_filter, Bool.and_eq_true, decide_eq_true_eq]
      constructor
      · rintro ⟨row, ⟨inside, -, associated⟩, named⟩
        exact ⟨row, inside, named, associated⟩
      · rintro ⟨row, inside, named, associated⟩
        exact ⟨row, ⟨inside, by rw [named]; rfl, associated⟩, named⟩
    rw [confirmed, List.mem_filterMap]
    constructor
    · intro isConfirmed
      obtain ⟨si, info, entry⟩ := listed isConfirmed
      obtain ⟨node', live', inside⟩ := node_of_info sound.links entry.1
      rw [entry.2.1, live] at live'
      cases live'
      exact ⟨si, inside, connectedAddr_iff.mpr ⟨info, entry, (connected entry).mpr isConfirmed⟩⟩
    · rintro ⟨si, -, found⟩
      obtain ⟨info, entry, isConnected⟩ := connectedAddr_iff.mp found
      exact (connected entry).mp isConnected
  have lengths := ((List.perm_ext_iff_of_nodup rows entries).mpr same).length_eq
  rw [List.length_filterMap_eq_countP, List.length_filterMap_eq_countP, List.countP_filter] at lengths
  have left : clients.countP ClientEntry.associated =
      clients.countP (fun row => row.addr.isSome && row.associated) := by
    refine List.countP_congr fun row _ => ?_
    simp only [ClientEntry.associated, Bool.and_eq_true]
    tauto
  have right : connectedCount d node = node.staInfo.countP (fun si => (connectedAddr d n si).isSome) := by
    refine List.countP_congr fun si inside => ?_
    obtain ⟨info, liveInfo, onNode⟩ := info_of_node sound.links live inside
    obtain ⟨sta, liveSta, -⟩ := sta_of_info sound.links liveInfo
    simp [connectedAddr, liveInfo, onNode, liveSta]
  rw [left, right]
  exact lengths

/-- The stages of `usteer_local_node_set_assoc`: the state after the rows, and what the last
    loop makes of it. -/
structure Stages (env : Platform) (cfg : Config) (d : Daemon) (n : NodeId) (clients : List ClientEntry) (d2 : Daemon)
    (node : UsteerNode) (d' : Daemon) : Prop where
  reconciled : Reconciled env cfg d n clients d2
  node2 : d2.nodes.get? n = some node
  node' : d'.nodes.get? n = some { node with nAssoc := Int32.ofNat (clients.countP ClientEntry.associated) }
  moves : Moves env cfg .plain (none, d2) (none, d')
  reconnects : Reconnects (fun si c => if si ∈ node.staInfo ∧ c = 2 then 0 else c) d2 d'
  waits : ∀ si ∈ node.staInfo, ∀ info, d2.infos.get? si = some info → info.connected = 2 → d'.Pending si
  others : OthersKept n d d'

theorem post_stages (env : Platform) (inRange : cfg.InRange) (sound : Sound none d) (inside : n ∈ d.localNodes)
    (distinct : (clients.filterMap ClientEntry.addr).Nodup) :
    Post (fun _ => False) (d.usteerLocalNodeSetAssoc env cfg n clients)
      (fun d' => ∃ d2 node, Stages env cfg d n clients d2 node d') := by
  obtain ⟨node, live, isLocal⟩ := node_of_locals sound.registered inside
  unfold usteerLocalNodeSetAssoc
  rw [node_ok live, ok_bind, post_bind]
  refine ((post_eachEntry env cfg .plain (fun d si info _ live _ isLocal =>
    post_awaitConfirmation env cfg .plain live isLocal id) sound inside live).and
      ((returns_awaitConfirmation node.staInfo d).and
        (others_eachEntry node.staInfo oneEntry_awaitConfirmation (onNode_of_listed sound.links live)))).mono ?_
  rintro d1 ⟨moves1, ⟨nodes1, awaits⟩, others1⟩
  rw [post_bind]
  have start := reconciled_nil sound live moves1 nodes1 awaits
  refine (post_countRows inRange sound inside clients start (by rw [List.nil_append]; exact distinct)).mono ?_
  rintro ⟨nAssoc, d2⟩ ⟨reconciled, others2, counted⟩
  rw [List.nil_append] at reconciled
  dsimp only at reconciled others2 counted ⊢
  rw [Int32.zero_add] at counted
  subst counted
  obtain ⟨node2, live2, -⟩ := (survives_moves reconciled.moves).node live
  dsimp only at live2
  have edited : Moves env cfg .plain (none, d2) (none, d2.modifyNode n
      (fun node => { node with nAssoc := Int32.ofNat (clients.countP ClientEntry.associated) })) :=
    .one (.editNode n (fun node => ⟨rfl, rfl, rfl⟩) fun _ _ _ => keepsCounts_plain)
  have live3 : (d2.modifyNode n (fun node =>
      { node with nAssoc := Int32.ofNat (clients.countP ClientEntry.associated) })).nodes.get? n =
        some { node2 with nAssoc := Int32.ofNat (clients.countP ClientEntry.associated) } := by
    rw [modifyNode, Heap.get?_modify, if_pos rfl, live2]
    rfl
  have infos3 : (d2.modifyNode n (fun node =>
      { node with nAssoc := Int32.ofNat (clients.countP ClientEntry.associated) })).infos = d2.infos := rfl
  have others3 : OthersKept n d2 (d2.modifyNode n (fun node =>
      { node with nAssoc := Int32.ofNat (clients.countP ClientEntry.associated) })) := .of_eq rfl rfl
  generalize d2.modifyNode n (fun node =>
    { node with nAssoc := Int32.ofNat (clients.countP ClientEntry.associated) }) = d3 at *
  have sound3 : Sound none d3 := sound_moves (a := (none, d)) sound (reconciled.moves.then edited)
  have inside3 : n ∈ d3.localNodes := (reconciled.moves.then edited).locals inside
  rw [node_ok live3, ok_bind]
  have onNode3 := onNode_of_listed sound3.links live3
  refine (((post_eachEntry env cfg .plain
    (fun d si info sound live _ _ => post_dropUnconfirmed env cfg .plain sound live id)
    sound3 inside3 live3).excuse fun e fault => fault.2 inRange).and
      ((post_dropAll inRange node2.staInfo d3).and
        (others_eachEntry node2.staInfo (oneEntry_dropUnconfirmed inRange) onNode3))).mono ?_
  rintro d4 ⟨moves4, ⟨nodes4, reconnects, -, waits⟩, others4⟩
  refine ⟨d2, node2, reconciled, live2, ?_, edited.then moves4, ?_, ?_, ?_⟩
  · rw [nodes4]
    exact live3
  · intro si info' live'
    obtain ⟨info, live, result⟩ := reconnects si info' live'
    rw [infos3] at live
    exact ⟨info, live, result⟩
  · intro si listed info live two
    rw [← infos3] at live
    exact waits si listed info live two
  · exact others1.trans (others2.trans (others3.trans others4))

theorem reconciles_of_stages {d2 : Daemon} (sound : Sound none d)
    (distinct : (clients.filterMap ClientEntry.addr).Nodup) (stages : Stages env cfg d n clients d2 node d') :
    Reconciles d d' n clients := by
  obtain ⟨reconciled, live2, live', moves, reconnects, waits, others⟩ := stages
  have sound2 : Sound none d2 := sound_moves (a := (none, d)) sound reconciled.moves
  have sound' : Sound none d' := sound_moves (a := (none, d2)) sound2 moves
  have listed : ∀ {addr}, Confirmed clients addr → ∃ si info, EntryOf d' addr n si info := by
    intro addr confirmed
    obtain ⟨si, info, entry⟩ := reconciled.present confirmed
    obtain ⟨info', entry'⟩ := (survives_moves moves).entryOf entry
    exact ⟨si, info', entry'⟩
  -- the entry of `d2` behind an entry of `d'`
  have behind : ∀ {addr si info'}, EntryOf d' addr n si info' → ∃ info, EntryOf d2 addr n si info ∧
      si ∈ node.staInfo ∧ info'.connected = if info.connected = 2 then 0 else info.connected := by
    intro addr si info' entry'
    obtain ⟨info, live, result⟩ := reconnects si info' entry'.1
    have entry : EntryOf d2 addr n si info := entry'.back (survives_moves moves) sound2 live
    obtain ⟨node2, liveNode, inside⟩ := node_of_info sound2.links live
    rw [entry.2.1, live2] at liveNode
    cases liveNode
    refine ⟨info, entry, inside, result.trans ?_⟩
    simp [inside]
  have connected : ∀ {addr si info}, EntryOf d' addr n si info →
      info.connected = 0 ∧ ¬ Confirmed clients addr ∨ info.connected = 1 ∧ Confirmed clients addr := by
    intro addr si info' entry'
    obtain ⟨info, entry, -, result⟩ := behind entry'
    rw [result]
    have standing := reconciled.standing entry
    generalize info.connected = c at standing
    cases standing with
    | confirmed isListed => exact .inr ⟨rfl, isListed⟩
    | awaited unlisted => exact .inl ⟨rfl, unlisted⟩
    | unconnected unlisted => exact .inl ⟨rfl, unlisted⟩
  have counted := connected_rows sound' live' distinct listed fun entry' => by
    rcases connected entry' with ⟨zero, unlisted⟩ | ⟨one, isListed⟩
    · simp [zero, unlisted]
    · simp [one, isListed]
  refine ⟨listed, connected, ⟨_, live', congrArg Int32.ofNat counted, fun short => ?_⟩, ?_, others⟩
  · have few : clients.countP ClientEntry.associated ≤ clients.length := List.countP_le_length
    rw [← counted]
    exact Int32.toInt_ofNat_of_lt (by omega)
  · intro si info0 live0 onNode wasConnected
    have survives := (survives_moves reconciled.moves).trans (survives_moves moves)
    obtain ⟨info', live1, same, sameNode⟩ := survives.infos live0
    refine ⟨info', live1, fun zero => ?_⟩
    obtain ⟨sta, liveSta, -⟩ := sta_of_info sound'.links live1
    have entry' : EntryOf d' sta.addr n si info' := ⟨live1, sameNode.trans onNode, sta, liveSta, rfl⟩
    obtain ⟨info, entry, inside, result⟩ := behind entry'
    refine waits si inside info entry.1 ?_
    have entry0 : EntryOf d sta.addr n si info0 :=
      entry'.back survives sound live0
    refine (reconciled.standing entry).awaited_iff.mpr ⟨?_, info0, entry0, wasConnected⟩
    rcases connected entry' with ⟨-, unlisted⟩ | ⟨one, -⟩
    · exact unlisted
    · rw [zero] at one
      cases one

end Whole

/-- A client table with one row per address reconciles the entries of its node: those of
    associated clients are connected and counted, the others are not, and those that lost
    their client wait for their timeout; entries of other nodes stay as they are. -/
theorem client_table_reconciled (env : Platform) (cfg : Config) {d : Daemon} {n : NodeId} (sound : Sound none d)
    (inside : n ∈ d.localNodes) (positive : 1 ≤ cfg.localStaTimeout.toNat)
    (small : cfg.localStaTimeout.toNat < 2 ^ 31) (clients : List ClientEntry)
    (distinct : (clients.filterMap ClientEntry.addr).Nodup) :
    ∃ d', d.usteerLocalNodeSetAssoc env cfg n clients = .ok d' ∧ Reconciles d d' n clients := by
  have inRange : cfg.InRange := by
    rw [Config.InRange, Int32.lt_iff_toInt_lt, Words.toInt_toInt32_of_lt small]
    exact Int.ofNat_lt.mpr positive
  obtain ⟨d', returns, d2, node, stages⟩ := (post_stages env inRange sound inside distinct).returns
  exact ⟨d', returns, reconciles_of_stages sound distinct stages⟩

/-- One client has gone and another one has come. -/
theorem client_table_reconciled_after_change : ∃ d d', Reachable plainPlatform usteerInitDefaults d ∧
    d.usteerLocalNodeSetAssoc plainPlatform usteerInitDefaults 0 [⟨some 2, none, some true, none⟩] = .ok d' ∧
    Reconciles d d' 0 [⟨some 2, none, some true, none⟩] := by
  have evaluates : (plainRun usteerInitDefaults associates).any (fun d => decide (0 ∈ d.localNodes)) = true := by
    decide +kernel
  obtain ⟨d, run, evaluates⟩ := (Option.any_eq_true _ _).mp evaluates
  have reach := reachable_plainRun run
  obtain ⟨d', returns, reconciles⟩ := client_table_reconciled plainPlatform usteerInitDefaults
    (reachable_sound reach) (of_decide_eq_true evaluates) (by decide) (by decide)
    [⟨some 2, none, some true, none⟩] (by simp)
  exact ⟨d, d', reach, returns, reconciles⟩

end Usteer
