import Usteer.Undisturbed

/-!
Work for one local node. A request, a client table, a beacon report or a policy tick
writes only into its own node, into the entries of that node and into the stations they
belong to; the one thing it may do elsewhere is to create a zeroed entry, when the hearing
map names a node that the station has no entry on (`Write`, `isolated_handle`).
-/
namespace Usteer
open SearchTree Timeout Function Daemon

/-- The entry at the address, if it is still there, is one of the node, and the address is
    not handed out again. -/
def Daemon.Owns (d : Daemon) (n : NodeId) (si : SiId) : Prop :=
  si < d.infos.next ∧ ∀ info, d.infos.get? si = some info → info.node = n

/-- The list of the node holds only entries of the node. -/
def Daemon.OwnsListed (d : Daemon) (n : NodeId) : Prop :=
  ∀ node, d.nodes.get? n = some node → ∀ si ∈ node.staInfo, d.Owns n si

/-- The entry that an event is about. -/
def Event.entry : Event → Option SiId
  | .visit _ si _ _ => some si
  | .clientScan _ si _ => some si
  | .disassocImminent _ si => some si
  | .kick _ si _ => some si
  | .beaconRequest _ si _ _ _ => some si
  | .update _ _ => none

/-- What work for a node leaves of its record. -/
def UsteerNode.profile (node : UsteerNode) : UsteerNode :=
  { node.setLoadThrCount 0 with staInfo := [], freq := 0, nAssoc := 0 }

/-- One write of a function that works for the node. -/
inductive Write (env : Platform) (n : NodeId) : Daemon → Daemon → Prop
  | time {d} : Write env n d d.usteerUpdateTime
  | log {d si} (e : Event) (about : e.entry = some si) (own : d.Owns n si) : Write env n d (d.log e)
  | newSta {d} (addr : MacAddr) : Write env n d (d.newSta addr)
  | newInfo {d} (s : StaId) (m : NodeId) (freq : Int32) : Write env n d (d.newInfo s m freq)
  | editSta {d} (s : StaId) (f : Sta → Sta) (keeps : ∀ sta, (f sta).addr = sta.addr) : Write env n d (d.modifySta s f)
  | editNode {d} (f : UsteerNode → UsteerNode) (keeps : ∀ node, (f node).staInfo = node.staInfo)
      (work : ∀ node, (f node).profile = node.profile) : Write env n d (d.modifyNode n f)
  | editInfo {d si} (f : StaInfo → StaInfo) (own : d.Owns n si) (keeps : ∀ info, (f info).node = info.node) :
      Write env n d (d.modifyInfo si f)
  | cancel {d si} (own : d.Owns n si) : Write env n d { d with tq := d.tq.usteerTimeoutCancel env.timeouts si }
  | set {d si} (timeout : Int32) (own : d.Owns n si) :
      Write env n d { d with tq := d.tq.usteerTimeoutSet env.timeouts si timeout d.clock.toNat }
  | unlink {d si info} (live : d.infos.get? si = some info) (own : d.Owns n si) : Write env n d (unlinked env d si info)
  | delSta {d} (s : StaId) : Write env n d (d.usteerStaDel s)

/-- A sequence of writes. -/
def Writes (env : Platform) (n : NodeId) : Daemon → Daemon → Prop := Relation.ReflTransGen (Write env n)

/-- What work for a node leaves alone. -/
structure Isolated (n : NodeId) (d d' : Daemon) : Prop where
  nodes : ∀ m, m ≠ n → (d'.nodes.get? m).map bare = (d.nodes.get? m).map bare
  kept : ∀ {si info}, d.infos.get? si = some info → info.node ≠ n → d'.infos.get? si = some info
  back : ∀ {si info}, d'.infos.get? si = some info → info.node ≠ n →
    d.infos.get? si = some info ∨ ∃ s freq time, info = .zeroed info.node s freq time
  timers : ∀ {si info}, d.infos.get? si = some info → info.node ≠ n →
    ∀ key, (key, si) ∈ d'.tq.items ↔ (key, si) ∈ d.tq.items
  events : ∃ more, d'.trace = d.trace ++ more ∧
    ∀ e ∈ more, ∀ si, e.entry = some si → ∀ info, d.infos.get? si = some info → info.node = n
  unused : d.stas.next ≤ d'.stas.next
  stas : ∀ {s sta'}, s < d.stas.next → d'.stas.get? s = some sta' → ∃ sta, d.stas.get? s = some sta ∧ sta'.addr = sta.addr
  localNodes : d'.localNodes = d.localNodes
  remoteNodes : d'.remoteNodes = d.remoteNodes
  localId : d'.localId = d.localId

section Writes

variable {env : Platform} {cfg : Config} {n m : NodeId} {si : SiId} {d d' d'' : Daemon} {α β : Type}

/-! ### What a write leaves alone -/

theorem profile_counts (freq nAssoc : Int32) (node : UsteerNode) :
    UsteerNode.profile { node with freq := freq, nAssoc := nAssoc } = node.profile := by
  obtain ⟨kind⟩ := node
  cases kind with
  | loc ln => rfl
  | remote rn => rfl

theorem owns_of_eq (own : d.Owns n si) (infos : d'.infos = d.infos) : d'.Owns n si := by
  unfold Owns
  rw [infos]
  exact own

theorem owns_write (write : Write env n d d') (own : d.Owns n si) : d'.Owns n si := by
  cases write with
  | time => exact owns_of_eq own rfl
  | log e about own' => exact owns_of_eq own rfl
  | newSta addr => exact owns_of_eq own rfl
  | newInfo s m freq =>
    refine ⟨Nat.lt_succ_of_lt own.1, fun info live => ?_⟩
    simp only [Daemon.newInfo, modifySta, modifyNode, Heap.get?_alloc, if_neg (Nat.ne_of_lt own.1)] at live
    exact own.2 info live
  | editSta s f kept => exact owns_of_eq own rfl
  | editNode f keeps work => exact owns_of_eq own rfl
  | editInfo f own' keeps =>
    refine ⟨own.1, fun info live => ?_⟩
    obtain ⟨info0, before, rfl⟩ := Heap.get?_modify_some live
    split
    · rw [keeps]
      exact own.2 info0 before
    · exact own.2 info0 before
  | cancel own' => exact owns_of_eq own rfl
  | set timeout own' => exact owns_of_eq own rfl
  | unlink live own' =>
    refine ⟨own.1, fun info live' => ?_⟩
    rw [unlinked_infos] at live'
    split at live'
    · cases live'
    · exact own.2 info live'
  | delSta s => exact owns_of_eq own rfl

theorem owns_writes (writes : Writes env n d d') (own : d.Owns n si) : d'.Owns n si := by
  induction writes with
  | refl => exact own
  | tail _ write ih => exact owns_write write ih

theorem ownsListed_write (write : Write env n d d') (listed : d.OwnsListed n) : d'.OwnsListed n := by
  have keeps : d'.nodes = d.nodes → d'.OwnsListed n := by
    intro same node live si inside
    rw [same] at live
    exact owns_write write (listed node live si inside)
  cases write with
  | newInfo s m freq =>
    have write' : Write env n d (d.newInfo s m freq) := .newInfo s m freq
    intro node live si inside
    obtain ⟨node0, before, rfl⟩ := Heap.get?_modify_some live
    split at inside
    · rename_i here
      rcases List.mem_cons.mp inside with rfl | older
      · refine ⟨Nat.lt_succ_self _, fun info made => ?_⟩
        simp only [Daemon.newInfo, modifySta, modifyNode, Heap.get?_alloc, if_true, Option.some.injEq] at made
        rw [← made, here]
        rfl
      · exact owns_write write' (listed node0 before si older)
    · exact owns_write write' (listed node0 before si inside)
  | editNode f kept work =>
    intro node live si inside
    obtain ⟨node0, before, rfl⟩ := Heap.get?_modify_some live
    rw [if_pos rfl, kept] at inside
    exact owns_of_eq (listed node0 before si inside) rfl
  | @unlink si0 info live0 own0 =>
    intro node live si inside
    obtain ⟨node0, before, rfl⟩ := Heap.get?_modify_some live
    refine owns_write (.unlink live0 own0) (listed node0 before si ?_)
    split at inside
    · exact List.mem_of_mem_erase inside
    · exact inside
  | time => exact keeps rfl
  | log e about own' => exact keeps rfl
  | newSta addr => exact keeps rfl
  | editSta s f kept => exact keeps rfl
  | editInfo f own' kept => exact keeps rfl
  | cancel own' => exact keeps rfl
  | set timeout own' => exact keeps rfl
  | delSta s => exact keeps rfl

theorem ownsListed_writes (writes : Writes env n d d') (listed : d.OwnsListed n) : d'.OwnsListed n := by
  induction writes with
  | refl => exact listed
  | tail _ write ih => exact ownsListed_write write ih

theorem ownsListed_of_sound {v : Option StaId} (sound : Sound v d) (n : NodeId) : d.OwnsListed n := by
  intro node live si inside
  obtain ⟨info, found, onNode⟩ := info_of_node sound.links live inside
  refine ⟨Heap.lt_next found, fun info' found' => ?_⟩
  rw [found] at found'
  cases found'
  exact onNode

/-- The stations that were known keep their addresses. -/
def SameStas (d d' : Daemon) : Prop :=
  d.stas.next ≤ d'.stas.next ∧
    ∀ {s sta'}, s < d.stas.next → d'.stas.get? s = some sta' → ∃ sta, d.stas.get? s = some sta ∧ sta'.addr = sta.addr

theorem SameStas.of_eq (stas : d'.stas = d.stas) : SameStas d d' := by
  unfold SameStas
  rw [stas]
  exact ⟨le_refl _, fun _ live => ⟨_, live, rfl⟩⟩

theorem SameStas.refl (d : Daemon) : SameStas d d := .of_eq rfl

/-- An edit that keeps the address. -/
theorem SameStas.edit {s : StaId} {f : Sta → Sta} (stas : d'.stas = d.stas.modify s f)
    (keeps : ∀ sta, (f sta).addr = sta.addr) : SameStas d d' := by
  unfold SameStas
  rw [stas]
  refine ⟨le_refl _, fun _ live => ?_⟩
  obtain ⟨sta, before, rfl⟩ := Heap.get?_modify_some live
  refine ⟨sta, before, ?_⟩
  split
  · exact keeps sta
  · rfl

namespace Isolated

theorem of_eq (nodes : d'.nodes = d.nodes) (infos : d'.infos = d.infos) (tq : d'.tq = d.tq) (trace : d'.trace = d.trace)
    (stas : SameStas d d') (localNodes : d'.localNodes = d.localNodes) (remoteNodes : d'.remoteNodes = d.remoteNodes)
    (localId : d'.localId = d.localId) : Isolated n d d' where
  nodes m _ := by rw [nodes]
  kept live _ := by rw [infos]; exact live
  back live _ := by rw [infos] at live; exact .inl live
  timers _ _ key := by rw [tq]
  events := ⟨[], by simp [trace], by simp⟩
  unused := stas.1
  stas := stas.2
  localNodes := localNodes
  remoteNodes := remoteNodes
  localId := localId

theorem refl (d : Daemon) : Isolated n d d := of_eq rfl rfl rfl rfl (.refl d) rfl rfl rfl

theorem trans (first : Isolated n d d') (second : Isolated n d' d'') : Isolated n d d'' where
  nodes m other := (second.nodes m other).trans (first.nodes m other)
  kept live other := second.kept (first.kept live other) other
  back live other := by
    rcases second.back live other with old | new
    · exact first.back old other
    · exact .inr new
  timers live other key := (second.timers (first.kept live other) other key).trans (first.timers live other key)
  events := by
    obtain ⟨more, trace, own⟩ := first.events
    obtain ⟨more', trace', own'⟩ := second.events
    refine ⟨more ++ more', by rw [trace', trace, List.append_assoc], fun e inside si about info live => ?_⟩
    rcases List.mem_append.mp inside with early | late
    · exact own e early si about info live
    · by_contra other
      exact other (own' e late si about info (first.kept live other))
  unused := first.unused.trans second.unused
  stas below live := by
    obtain ⟨sta1, live1, addr1⟩ := second.stas (below.trans_le first.unused) live
    obtain ⟨sta, before, addr⟩ := first.stas below live1
    exact ⟨sta, before, addr1.trans addr⟩
  localNodes := second.localNodes.trans first.localNodes
  remoteNodes := second.remoteNodes.trans first.remoteNodes
  localId := second.localId.trans first.localId

end Isolated

/-- An entry of another node is not one of the node's own. -/
theorem ne_of_owns {si' : SiId} {info : StaInfo} (own : d.Owns n si) (live : d.infos.get? si' = some info)
    (other : info.node ≠ n) : si' ≠ si := by
  rintro rfl
  exact other (own.2 info live)

theorem isolated_write (write : Write env n d d') : Isolated n d d' := by
  cases write with
  | time => exact .of_eq rfl rfl rfl rfl (.refl d) rfl rfl rfl
  | @log si e about own =>
    refine { Isolated.refl d with events := ⟨[e], rfl, ?_⟩ }
    intro e' inside si' about' info live
    rw [List.mem_singleton.mp inside, about] at about'
    cases about'
    exact own.2 info live
  | newSta addr =>
    refine .of_eq rfl rfl rfl rfl ⟨Nat.le_succ _, fun {s sta'} below live => ⟨sta', ?_, rfl⟩⟩ rfl rfl rfl
    simp only [Daemon.newSta, Heap.get?_alloc, if_neg (Nat.ne_of_lt below)] at live
    exact live
  | newInfo s m freq =>
    have same : SameStas d (d.newInfo s m freq) := .edit rfl fun _ => rfl
    refine ⟨fun k _ => ?_, fun live _ => ?_, fun live _ => ?_, fun _ _ _ => Iff.rfl, ⟨[], ?_, by simp⟩, same.1, same.2, rfl,
      rfl, rfl⟩
    · simp only [Daemon.newInfo, modifySta, modifyNode, Heap.get?_modify]
      split
      · rename_i here
        rw [here, Option.map_map]
        rfl
      · rfl
    · simp only [Daemon.newInfo, modifySta, modifyNode, Heap.get?_alloc, if_neg (Heap.ne_next live)]
      exact live
    · simp only [Daemon.newInfo, modifySta, modifyNode, Heap.get?_alloc] at live
      split at live
      · cases live
        exact .inr ⟨s, freq, d.currentTime, rfl⟩
      · exact .inl live
    · exact (List.append_nil _).symm
  | editSta s f keeps => exact .of_eq rfl rfl rfl rfl (.edit rfl keeps) rfl rfl rfl
  | editNode f keeps work =>
    refine { Isolated.refl d with nodes := fun k other => ?_ }
    rw [modifyNode, Heap.get?_modify, if_neg other]
  | editInfo f own keeps =>
    refine { Isolated.refl d with kept := fun live other => ?_, back := fun live other => ?_ }
    · rw [modifyInfo, Heap.get?_modify, if_neg (ne_of_owns own live other)]
      exact live
    · obtain ⟨info0, before, rfl⟩ := Heap.get?_modify_some live
      split
      · rename_i here
        rw [if_pos here, keeps] at other
        rw [here] at before
        exact absurd (own.2 info0 before) other
      · exact .inl before
  | cancel own =>
    refine { Isolated.refl d with timers := fun live other key => ?_ }
    simp [Queue.mem_cancel, ne_of_owns own live other]
  | set timeout own =>
    refine { Isolated.refl d with timers := fun live other key => ?_ }
    simp [Queue.mem_set, ne_of_owns own live other]
  | @unlink si info live0 own =>
    have same : SameStas d (unlinked env d si info) := .edit rfl fun _ => rfl
    refine ⟨fun k other => ?_, fun live other => ?_, fun live other => ?_, fun live other key => ?_,
      ⟨[], (List.append_nil _).symm, by simp⟩, same.1, same.2, rfl, rfl, rfl⟩
    · simp only [unlinked, Heap.get?_modify, own.2 info live0, if_neg other]
    · rw [unlinked_infos, if_neg (ne_of_owns own live other)]
      exact live
    · rw [unlinked_infos] at live
      split at live
      · cases live
      · exact .inl live
    · simp [unlinked, Queue.mem_cancel, ne_of_owns own live other]
  | delSta s =>
    refine .of_eq rfl rfl rfl rfl ⟨le_refl _, fun {s' sta'} _ live => ?_⟩ rfl rfl rfl
    simp only [usteerStaDel, Heap.get?_free] at live
    split at live
    · cases live
    · exact ⟨sta', live, rfl⟩

theorem isolated_writes (writes : Writes env n d d') : Isolated n d d' := by
  induction writes with
  | refl => exact .refl d
  | tail _ write ih => exact ih.trans (isolated_write write)

/-! ### Sequences of writes -/

namespace Writes

theorem one (write : Write env n d d') : Writes env n d d' := .single write

theorem refl (d : Daemon) : Writes env n d d := Relation.ReflTransGen.refl

/-- One step after the other; the second may use what the first has left. -/
theorem bind {step : Except Fault α} {f : α → Except Fault β} {now : α → Daemon} {after : β → Daemon}
    (first : Post AnyFault step (fun a => Writes env n d (now a)))
    (second : ∀ a, Writes env n d (now a) → Post AnyFault (f a) (fun b => Writes env n (now a) (after b))) :
    Post AnyFault (step >>= f) (fun b => Writes env n d (after b)) := by
  rw [post_bind]
  exact first.mono fun a before => (second a before).mono fun b => before.trans

/-- A step that returns only the daemon. -/
theorem next {step : Except Fault Daemon} {f : Daemon → Except Fault β} {after : β → Daemon}
    (first : Post AnyFault step (Writes env n d))
    (second : ∀ d', Writes env n d d' → Post AnyFault (f d') (fun b => Writes env n d' (after b))) :
    Post AnyFault (step >>= f) (fun b => Writes env n d (after b)) :=
  bind first second

/-- An own entry is edited in the end. -/
theorem edit {f : StaInfo → StaInfo} (own : d.Owns n si) (before : Writes env n d d')
    (keeps : ∀ info, (f info).node = info.node) : Writes env n d (d'.modifyInfo si f) :=
  before.tail (.editInfo f (owns_writes before own) keeps)

/-- An event about an own entry is recorded in the end. -/
theorem record {e : Event} (own : d.Owns n si) (before : Writes env n d d') (about : e.entry = some si) :
    Writes env n d (d'.log e) :=
  before.tail (.log e about (owns_writes before own))

/-- What comes after a first write. -/
theorem after {step : Except Fault α} {now : α → Daemon} (before : Writes env n d d')
    (rest : Post AnyFault step (fun a => Writes env n d' (now a))) : Post AnyFault step (fun a => Writes env n d (now a)) :=
  rest.mono fun _ => before.trans

/-- A loop over entries of the node. -/
theorem foldlM {f : Daemon → SiId → Except Fault Daemon} (items : List SiId) (own : ∀ si ∈ items, d.Owns n si)
    (step : ∀ d si, d.Owns n si → Post AnyFault (f d si) (Writes env n d)) :
    Post AnyFault (items.foldlM f d) (Writes env n d) :=
  post_foldlM (I := Writes env n d) items
    (fun d' before si inside => before.after (step d' si (owns_writes before (own si inside)))) d (.refl d)

end Writes

open Undisturbed (reading)
open Writes

/-- An own entry is edited first. -/
theorem editing {step : Except Fault α} {now : α → Daemon} {f : StaInfo → StaInfo} (own : d.Owns n si)
    (rest : (d.modifyInfo si f).Owns n si → Post AnyFault step (fun a => Writes env n (d.modifyInfo si f) (now a)))
    (keeps : ∀ info, (f info).node = info.node) : Post AnyFault step (fun a => Writes env n d (now a)) := by
  have edits : Write env n d (d.modifyInfo si f) := .editInfo f own keeps
  exact (one edits).after (rest (owns_write edits own))

/-! ### Stations and their entries -/

variable (env n) in
theorem writes_usteerStaGet (addr : MacAddr) (create : Bool) :
    Post AnyFault (d.usteerStaGet addr create) (fun r => Writes env n d r.2) := by
  refine reading fun found => ?_
  cases found with
  | some s => exact .refl d
  | none =>
    cases create with
    | false => exact .refl d
    | true => exact one (.newSta addr)

/-- What a search returns fits. -/
theorem search_fits {γ : Type} {follow : Nat → Except Fault γ} {fits : γ → Bool} (list : List Nat) :
    Post AnyFault (search follow fits list) (fun r => ∀ k, r = some k → ∃ value, follow k = .ok value ∧ fits value = true) := by
  induction list with
  | nil => exact fun k impossible => by cases impossible
  | cons k rest ih =>
    refine post_of_ok fun r run => ?_
    obtain ⟨value, followed, run⟩ := bind_ok run
    split at run
    · rename_i fit
      cases run
      rintro _ ⟨rfl⟩
      exact ⟨value, followed, fit⟩
    · exact ih.of_ok run

theorem info_of_ok {info : StaInfo} (run : d.info si = .ok info) : d.infos.get? si = some info := by
  unfold Daemon.info at run
  split at run
  · rename_i found
    cases run
    exact found
  · cases run

theorem node_of_ok {node : UsteerNode} (run : d.node n = .ok node) : d.nodes.get? n = some node := by
  unfold Daemon.node at run
  split at run
  · rename_i found
    cases run
    exact found
  · cases run

variable (env n) in
/-- The entry found or made is one of the node that was asked for. -/
theorem writes_usteerStaInfoGet (s : StaId) (m : NodeId) :
    Post AnyFault (d.usteerStaInfoGet s m) (fun r => Writes env n d r.2.2 ∧ r.2.2.Owns m r.1) := by
  unfold usteerStaInfoGet
  refine reading fun sta => ?_
  rw [post_bind]
  refine (search_fits sta.nodes).mono fun found fits => ?_
  cases found with
  | some si =>
    obtain ⟨info, followed, here⟩ := fits si rfl
    have live := info_of_ok followed
    refine ⟨.refl d, Heap.lt_next live, fun info' live' => ?_⟩
    rw [live] at live'
    cases live'
    exact of_decide_eq_true here
  | none =>
    refine reading fun node => ⟨one (.newInfo s m node.freq), Nat.lt_succ_self _, fun info live => ?_⟩
    simp only [newInfo, modifySta, Daemon.modifyNode, Heap.get?_alloc, if_true, Option.some.injEq] at live
    rw [← live]
    rfl

theorem writes_usteerStaInfoDel (own : d.Owns n si) : Post AnyFault (d.usteerStaInfoDel env cfg si) (Writes env n d) := by
  refine post_of_ok fun d' run => ?_
  obtain ⟨info, found, run⟩ := bind_ok run
  obtain ⟨_, _, run⟩ := bind_ok run
  obtain ⟨_, _, run⟩ := bind_ok run
  obtain ⟨sta, _, run⟩ := bind_ok run
  have unlinks : Writes env n d (unlinked env d si info) := one (.unlink (info_of_ok found) own)
  cases run
  split
  · exact unlinks.tail (.delSta info.sta)
  · exact unlinks

theorem writes_updateTimeout (timeout : Int32) (own : d.Owns n si) :
    Post AnyFault (d.usteerStaInfoUpdateTimeout env cfg si timeout) (Writes env n d) := by
  refine reading fun info => ?_
  split
  · exact one (.cancel own)
  · split
    · exact one (.set timeout own)
    · exact writes_usteerStaInfoDel own

theorem writes_usteerStaInfoUpdate (signal : Int32) (avg : Bool) (own : d.Owns n si) :
    Post AnyFault (d.usteerStaInfoUpdate env cfg si signal avg) (Writes env n d) := by
  refine reading fun _ => ?_
  exact editing own (fun own' => writes_updateTimeout _ own') fun _ => rfl

variable (env) in
theorem writes_fetchEntry (addr : MacAddr) {mark : Sta → Sta} (keeps : ∀ sta, (mark sta).addr = sta.addr) :
    Post AnyFault (fetchEntry d n addr mark) (fun r => Writes env n d r.2.2 ∧ r.2.2.Owns n r.1) := by
  unfold fetchEntry
  rw [post_bind]
  refine (writes_usteerStaGet env n addr true).mono fun r writes => reading fun s => ?_
  refine (writes_usteerStaInfoGet env n s n).mono fun r' later => ⟨?_, later.2⟩
  exact (writes.tail (.editSta s mark keeps)).trans later.1

/-! ### Requests -/

variable (env n) in
theorem writes_findBetterCandidate : Post AnyFault (d.findBetterCandidate cfg si) (fun r => Writes env n d r.2) := by
  refine reading fun ref => reading fun heard => ?_
  cases heard with
  | none => exact reading fun sta => reading fun node => reading fun best => .refl d
  | some found =>
    obtain ⟨br, m⟩ := found
    refine reading fun owner => ?_
    rw [post_bind]
    exact (writes_usteerStaInfoGet env n owner.sta m).mono fun r later => later.1

variable (env n) in
theorem writes_usteerCheckRequest (type : EventType) :
    Post AnyFault (d.usteerCheckRequest cfg si type) (fun r => Writes env n d r.2) := by
  refine reading fun info => ?_
  split
  · exact .refl d
  · split
    · exact .refl d
    · refine reading fun node => ?_
      split
      · exact .refl d
      · split
        · exact .refl d
        · exact bind (writes_findBetterCandidate env n) fun r _ => .refl _

/-- Writes for the node, and at the end at most one message about an entry of it. -/
inductive Answers (env : Platform) (cfg : Config) (n : NodeId) (d : Daemon) : Daemon → Prop
  | quiet {d1} (writes : Writes env n d d1) : Answers env cfg n d d1
  | sends {d1 si msg} (writes : Writes env n d d1) (own : d1.Owns n si)
      (built : d1.usteerSendNode cfg n (some si) = .ok msg) : Answers env cfg n d (d1.usteerUpdateSend cfg [msg])

theorem Answers.after (before : Writes env n d d') (answers : Answers env cfg n d' d'') : Answers env cfg n d d'' := by
  cases answers with
  | quiet writes => exact .quiet (before.trans writes)
  | sends writes own built => exact .sends (before.trans writes) own built

variable (env) in
theorem answers_usteerSendStaUpdate (own : d.Owns n si) :
    Post AnyFault (d.usteerSendStaUpdate cfg si) (Answers env cfg n d) := by
  refine post_of_ok fun d' run => ?_
  obtain ⟨info, found, run⟩ := bind_ok run
  obtain ⟨msg, built, run⟩ := bind_ok run
  cases run
  rw [own.2 info (info_of_ok found)] at built
  exact .sends (.refl d) own built

variable (env) in
theorem answers_answerRequest (create : Bool) (type : EventType) (own : d.Owns n si) :
    Post AnyFault (answerRequest cfg d si create type) (fun r => Answers env cfg n d r.2) := by
  unfold answerRequest
  refine reading fun _ => ?_
  have counts : Write env n d (d.modifyInfo si fun info =>
      setStats type (countRequest cfg d.currentTime) { info with roamScanDone := d.currentTime }) :=
    .editInfo _ own fun _ => rfl
  rw [post_bind]
  refine (writes_usteerCheckRequest env n type).mono fun r writes => ?_
  have answers : Write env n r.2 (r.2.modifyInfo si (setStats type (countAnswer r.2.currentTime r.1))) :=
    .editInfo _ (owns_writes writes (owns_write counts own)) fun _ => rfl
  have before : Writes env n d _ := ((one counts).trans writes).tail answers
  cases create with
  | false => exact .quiet before
  | true =>
    show Post AnyFault (_ >>= _) _
    rw [post_bind]
    exact (answers_usteerSendStaUpdate env (owns_writes before own)).mono fun d' sends => sends.after before

theorem answers_usteerHandleStaEvent (addr : MacAddr) (type : EventType) (freq signal : Int32) :
    Post AnyFault (d.usteerHandleStaEvent env cfg n addr type freq signal) (fun r => Answers env cfg n d r.2) := by
  rw [usteerHandleStaEvent_eq, post_bind]
  refine (writes_fetchEntry env addr fun sta => (keeps_markBand freq sta).1).mono fun r fetched => ?_
  rw [post_bind]
  refine (writes_usteerStaInfoUpdate signal false fetched.2).mono fun d' updated => ?_
  exact (answers_answerRequest env r.2.1 type (owns_writes updated fetched.2)).mono fun r' answers =>
    answers.after (fetched.1.trans updated)

/-! ### Client tables -/

theorem writes_usteerBeaconRequestCheck (own : d.Owns n si) :
    Post AnyFault (d.usteerBeaconRequestCheck env cfg si) (Writes env n d) := by
  refine reading fun info => reading fun node => ?_
  dsimp only
  split
  · exact .refl d
  · refine reading fun next => ?_
    split
    · exact edit own (edit own (edit own (record own (edit own (.refl d) fun _ => rfl) rfl) fun _ => rfl) fun _ => rfl)
        fun _ => rfl
    · exact edit own (record own (edit own (.refl d) fun _ => rfl) rfl) fun _ => rfl

theorem writes_nl80211UpdateSta (station : Option (Option Int8)) (own : d.Owns n si) :
    Post AnyFault (d.nl80211UpdateSta env cfg n si station) (Writes env n d) := by
  refine reading fun node => ?_
  split
  · exact writes_usteerStaInfoUpdate _ true own
  · exact .refl d

theorem writes_usteerLocalNodeAssocUpdate (assoc : Option Bool) (own : d.Owns n si) :
    Post AnyFault (d.usteerLocalNodeAssocUpdate si assoc) (Writes env n d) := by
  unfold usteerLocalNodeAssocUpdate
  by_cases joins : assoc = some true
  · rw [if_pos joins]
    exact editing own (fun _ => reading fun info => reading fun node => reading fun _ =>
      one (.editSta _ _ fun sta => (keeps_markBand _ sta).1)) fun _ => rfl
  · rw [if_neg joins]
    exact reading fun info => reading fun node => reading fun _ => one (.editSta _ _ fun sta => (keeps_markBand _ sta).1)

theorem writes_confirmClient (nAssoc : Int32) (client : ClientEntry) (own : d.Owns n si) :
    Post AnyFault (confirmClient env cfg d si nAssoc client) (fun r => Writes env n d r.2) := by
  refine bind (writes_usteerLocalNodeAssocUpdate client.assoc own) fun d1 marked => reading fun info => ?_
  exact editing (owns_writes marked own) (fun own2 => bind (writes_usteerBeaconRequestCheck own2) fun d' _ => .refl d')
    fun _ => rfl

theorem writes_listClient (nAssoc : Int32) (client : ClientEntry) :
    Post AnyFault (listClient env cfg n (nAssoc, d) client) (fun r => Writes env n d r.2) := by
  cases named : client.addr with
  | none =>
    unfold listClient
    simp only [named]
    exact .refl d
  | some addr =>
    rw [listClient_eq env cfg named, post_bind]
    refine (writes_fetchEntry env addr fun _ => rfl).mono fun r fetched => ?_
    refine fetched.1.after (bind (writes_nl80211UpdateSta client.station fetched.2) fun d' updated => ?_)
    exact writes_confirmClient nAssoc client (owns_writes updated fetched.2)

theorem writes_usteerLocalNodeSetAssoc (clients : List ClientEntry) (listed : d.OwnsListed n) :
    Post AnyFault (d.usteerLocalNodeSetAssoc env cfg n clients) (Writes env n d) := by
  refine post_of_ok fun d' run => ?_
  obtain ⟨node, found, run⟩ := bind_ok run
  refine Post.of_ok (F := AnyFault) ?_ run
  refine next ?_ fun d1 awaited => ?_
  · refine Writes.foldlM node.staInfo (listed node (node_of_ok found)) fun d si own => reading fun info => ?_
    split
    · exact one (.editInfo _ own fun _ => rfl)
    · exact .refl d
  · have confirmed : Post AnyFault (clients.foldlM (listClient env cfg n) (0, d1)) (fun r => Writes env n d1 r.2) :=
      post_foldlM (I := fun r : Int32 × Daemon => Writes env n d1 r.2) clients
        (fun r before client _ => before.after (writes_listClient r.1 client)) _ (.refl d1)
    refine bind confirmed fun r before => ?_
    have counted : Write env n r.2 (r.2.modifyNode n fun node => { node with nAssoc := r.1 }) :=
      .editNode _ (fun _ => rfl) fun node => profile_counts node.freq r.1 node
    refine (one counted).after (post_of_ok fun d' run => ?_)
    obtain ⟨node', found', run⟩ := bind_ok run
    have listed' := ownsListed_write counted (ownsListed_writes before (ownsListed_writes awaited listed))
    refine (Writes.foldlM node'.staInfo (listed' node' (node_of_ok found')) fun d si own => reading fun info => ?_).of_ok run
    split
    · exact .refl d
    · exact editing own (fun own' => next (writes_updateTimeout _ own') fun d' _ => reading fun _ => .refl d') fun _ => rfl

theorem writes_usteerLocalNodeListCb (msg : ClientsReply) (listed : d.OwnsListed n) :
    Post AnyFault (d.usteerLocalNodeListCb env cfg n msg) (Writes env n d) := by
  unfold usteerLocalNodeListCb
  split
  · rename_i freq clients _ _
    have tuned : Write env n d (d.modifyNode n fun node => { node with freq := freq }) :=
      .editNode _ (fun _ => rfl) fun node => profile_counts freq node.nAssoc node
    exact (one tuned).after (writes_usteerLocalNodeSetAssoc clients (ownsListed_write tuned listed))
  · exact .refl d

/-! ### Beacon reports -/

theorem writes_storeBeaconReport (br : BeaconReport) (own : d.Owns n si) : Writes env n d (d.storeBeaconReport cfg si br) :=
  edit own (edit own (edit own (.refl d) fun _ => rfl) fun _ => rfl) fun _ => rfl

theorem writes_beaconReport (msg : BeaconReportMsg) :
    Post AnyFault (d.usteerHandleEventBeaconReport cfg n msg) (Writes env n d) := by
  unfold usteerHandleEventBeaconReport
  split
  · refine reading fun addrSta => bind (writes_usteerStaGet env n addrSta false) fun r _ => ?_
    obtain ⟨found, d1⟩ := r
    cases found with
    | none => exact .refl d1
    | some s =>
      show Post AnyFault (d1.usteerStaInfoFind s n >>= _) _
      rw [post_bind]
      unfold usteerStaInfoFind
      refine reading fun sta => (search_fits sta.nodes).mono fun known fits => ?_
      cases known with
      | none => exact .refl d1
      | some si =>
        obtain ⟨info, followed, here⟩ := fits si rfl
        have live := info_of_ok followed
        have own : d1.Owns n si := by
          refine ⟨Heap.lt_next live, fun info' live' => ?_⟩
          rw [live] at live'
          cases live'
          exact of_decide_eq_true here
        refine reading fun addr => reading fun heard => ?_
        cases heard with
        | none => exact .refl d1
        | some m =>
          exact reading fun rcpi => reading fun rsni => reading fun opClass => reading fun channel =>
            writes_storeBeaconReport _ own
  · exact .refl d

/-! ### Policy ticks -/

theorem writes_usteerRoamTriggerSm (own : d.Owns n si) :
    Post AnyFault (d.usteerRoamTriggerSm cfg si) (fun r => Writes env n d r.2) := by
  refine reading fun info => reading fun node => ?_
  dsimp only
  split
  · split
    · exact .refl d
    · refine bind (writes_findBetterCandidate env n) fun r before => ?_
      have own1 := owns_writes before own
      split
      · exact edit own1 (.refl _) fun _ => rfl
      · split
        · exact edit own1 (.refl _) fun _ => rfl
        · refine next (reading fun info => record own1 (edit own1 (.refl _) fun _ => rfl) rfl) fun d' later => ?_
          exact edit (owns_writes later own1) (.refl d') fun _ => rfl
  · refine bind (writes_findBetterCandidate env n) fun r before => ?_
    have own1 := owns_writes before own
    split
    · exact edit own1 (.refl _) fun _ => rfl
    · exact edit own1 (.refl _) fun _ => rfl
  · split
    · exact edit own (.refl d) fun _ => rfl
    · refine bind (writes_findBetterCandidate env n) fun r before => ?_
      split
      · exact .refl _
      · exact edit (owns_writes before own) (.refl _) fun _ => rfl
  · split
    · exact .refl d
    · exact record own (edit own (.refl d) fun _ => rfl) rfl
  · split
    · exact .refl d
    · exact edit own (.refl d) fun _ => rfl
  · exact edit own (edit own (record own (.refl d) rfl) fun _ => rfl) fun _ => rfl

theorem writes_roamVisits (minSignal : Int32) (list : List SiId) :
    ∀ {d : Daemon}, (∀ si ∈ list, d.Owns n si) → Post AnyFault (roamVisits cfg minSignal list d) (Writes env n d) := by
  induction list with
  | nil => exact fun {d} _ => .refl d
  | cons si rest ih =>
    intro d owns
    have own := owns si List.mem_cons_self
    have others : ∀ {d'}, Writes env n d d' → ∀ si' ∈ rest, d'.Owns n si' :=
      fun before si' inside => owns_writes before (owns si' (List.mem_cons_of_mem _ inside))
    refine reading fun info => reading fun node => ?_
    have looks : Writes env n d (d.log (.visit d.currentTime si info node)) := record own (.refl d) rfl
    refine reading fun eligible => ?_
    cases eligible with
    | true =>
      refine looks.after (bind (writes_usteerRoamTriggerSm (owns_writes looks own)) fun r decides => ?_)
      obtain ⟨kicked, d1⟩ := r
      cases kicked with
      | true => exact .refl d1
      | false => exact ih (others (looks.trans decides))
    | false =>
      have idles : Writes env n d ((d.log (.visit d.currentTime si info node)).usteerRoamSetState si .idle) :=
        edit own looks fun _ => rfl
      exact idles.after (ih (others idles))

theorem writes_countedKick (why : KickReason) (own : d.Owns n si) : Writes env n d (d.countedKick si why) :=
  edit own (record own (edit own (.refl d) fun _ => rfl) rfl) fun _ => rfl

theorem snrVictim_listed (minSignal : Int32) (list : List SiId) :
    Post AnyFault (d.snrVictim cfg minSignal list) (fun r => ∀ si, r = some si → si ∈ list) := by
  induction list with
  | nil => exact fun si impossible => by cases impossible
  | cons si rest ih =>
    have later := ih.mono fun r listed si' found => List.mem_cons_of_mem si (listed si' found)
    refine reading fun info => ?_
    split
    · exact later
    · refine reading fun active => ?_
      split
      · exact later
      · split
        · exact later
        · rintro _ ⟨rfl⟩
          exact List.mem_cons_self

variable (env) in
/-- The clients picked for a load kick are the node's own. -/
theorem writes_loadVictims (list : List SiId) :
    ∀ {kick1 kick2 candidate : Option SiId} {d : Daemon}, (∀ si ∈ list, d.Owns n si) →
      (∀ si, kick1 = some si → d.Owns n si) → (∀ si, kick2 = some si → d.Owns n si) →
      Post AnyFault (loadVictims cfg list kick1 kick2 candidate d) (fun r => Writes env n d r.2.2.2 ∧
        (∀ si, r.1 = some si → r.2.2.2.Owns n si) ∧ ∀ si, r.2.1 = some si → r.2.2.2.Owns n si) := by
  induction list with
  | nil => exact fun {_ _ _ d} _ own1 own2 => ⟨.refl d, own1, own2⟩
  | cons si rest ih =>
    intro kick1 kick2 candidate d owns own1 own2
    have own := owns si List.mem_cons_self
    have others := fun si' inside => owns si' (List.mem_cons_of_mem si inside)
    refine reading fun info => ?_
    split
    · exact ih others own1 own2
    · refine reading fun active => ?_
      split
      · exact ih others own1 own2
      · refine reading fun more => ?_
        have picked : ∀ si', (if more = true then some si else kick1) = some si' → d.Owns n si' := by
          intro si' chosen
          split at chosen
          · cases chosen
            exact own
          · exact own1 si' chosen
        rw [post_bind]
        refine (writes_findBetterCandidate env n).mono fun r before => ?_
        obtain ⟨tmp, d1⟩ := r
        have others' := fun si' inside => owns_writes before (others si' inside)
        have picked' := fun si' chosen => owns_writes before (picked si' chosen)
        have own2' := fun si' chosen => owns_writes before (own2 si' chosen)
        cases tmp with
        | none => exact (ih others' picked' own2').mono fun r later => ⟨before.trans later.1, later.2⟩
        | some better =>
          refine reading fun more => ?_
          cases more with
          | true =>
            refine (ih others' picked' ?_).mono fun r later => ⟨before.trans later.1, later.2⟩
            rintro _ ⟨rfl⟩
            exact owns_writes before own
          | false => exact (ih others' picked' own2').mono fun r later => ⟨before.trans later.1, later.2⟩

theorem writes_loadKick (listed : d.OwnsListed n) : Post AnyFault (d.loadKick cfg n) (Writes env n d) := by
  have counted : ∀ {d : Daemon} (count : Int32), Write env n d (d.modifyNode n fun node => node.setLoadThrCount count) := by
    refine fun count => .editNode _ (fun node => ?_) fun node => ?_
    · unfold UsteerNode.setLoadThrCount
      split
      · rfl
      · rfl
    · obtain ⟨kind⟩ := node
      cases kind with
      | loc ln => rfl
      | remote rn => rfl
  unfold loadKick
  split
  · exact .refl d
  · refine post_of_ok fun d' run => ?_
    obtain ⟨node, found, run⟩ := bind_ok run
    have owns := listed node (node_of_ok found)
    refine Post.of_ok (F := AnyFault) ?_ run
    split
    · exact one (counted 0)
    · refine reading fun count => (one (counted (count + 1))).after (reading fun limit => ?_)
      split
      · exact .refl _
      · refine (one (counted 0)).after ?_
        split
        · exact .refl _
        · rw [post_bind]
          have owns' : ∀ si ∈ node.staInfo, Owns _ n si := fun si inside =>
            owns_write (counted 0) (owns_write (counted (count + 1)) (owns si inside))
          refine (writes_loadVictims env node.staInfo owns' (by simp) (by simp)).mono fun r picked => ?_
          obtain ⟨kick1, kick2, candidate, d1⟩ := r
          cases kick1 with
          | none => exact picked.1
          | some kick1 =>
            refine picked.1.trans (writes_countedKick .load ?_)
            cases kick2 with
            | none => exact picked.2.1 kick1 rfl
            | some kick2 => exact picked.2.2 kick2 rfl

theorem writes_usteerLocalNodeKick (listed : d.OwnsListed n) :
    Post AnyFault (d.usteerLocalNodeKick cfg n) (Writes env n d) := by
  refine next ?_ fun d1 roamed => next ?_ fun d2 kicked => writes_loadKick (ownsListed_writes kicked (ownsListed_writes roamed listed))
  · unfold usteerLocalNodeRoamCheck
    split
    · exact .refl d
    · have timed : Write env n d d.usteerUpdateTime := .time
      refine post_of_ok fun d' run => ?_
      obtain ⟨node, found, run⟩ := bind_ok run
      refine (one timed).trans ((writes_roamVisits _ node.staInfo ?_).of_ok run)
      exact ownsListed_write timed listed node (node_of_ok found)
  · unfold usteerLocalNodeSnrKick
    split
    · exact .refl _
    · refine post_of_ok fun d' run => ?_
      obtain ⟨node, found, run⟩ := bind_ok run
      obtain ⟨victim, chosen, run⟩ := bind_ok run
      cases victim with
      | none =>
        cases run
        exact .refl _
      | some si =>
        cases run
        refine writes_countedKick .snr (ownsListed_writes roamed listed node (node_of_ok found) si ?_)
        exact (snrVictim_listed _ node.staInfo).of_ok chosen si rfl

/-! ### Inputs about a node -/

theorem isolated_usteerUpdateSend (nodes : List ApmsgNode) : Isolated n d (d.usteerUpdateSend cfg nodes) := by
  unfold usteerUpdateSend
  dsimp only
  split
  · exact .of_eq rfl rfl rfl rfl (.refl d) rfl rfl rfl
  · refine { Isolated.refl d with events := ⟨[_], rfl, ?_⟩ }
    intro e inside si about
    rw [List.mem_singleton.mp inside] at about
    cases about

theorem isolated_answers (answers : Answers env cfg n d d') : Isolated n d d' := by
  cases answers with
  | quiet writes => exact isolated_writes writes
  | sends writes own built => exact (isolated_writes writes).trans (isolated_usteerUpdateSend _)

/-- The local node that an input is about, registration and removal apart. -/
def Input.about : Input → Option NodeId
  | .staEvent n _ _ _ _ => some n
  | .beaconReport n _ => some n
  | .clients n _ => some n
  | .tick n => some n
  | .status n _ => some n
  | _ => none

/-- What the daemon does on an input about a node, when it is no change of its status. -/
theorem answers_handle {input : Input} (sound : Sound none d) (about : input.about = some n)
    (run : d.handle env cfg input = .ok d') (work : ∀ m status, input ≠ .status m status) : Answers env cfg n d d' := by
  have listed := ownsListed_of_sound sound n
  have timed : Writes env n d d.usteerUpdateTime := one .time
  cases input with
  | staEvent m addr type freq signal =>
    cases about
    refine Post.of_ok (F := AnyFault) ?_ run
    unfold handle
    rw [post_map]
    exact (answers_usteerHandleStaEvent addr type freq signal).mono fun r answers => answers.after timed
  | beaconReport m msg =>
    cases about
    exact .quiet (timed.trans ((writes_beaconReport msg).of_ok run))
  | clients m msg =>
    cases about
    exact .quiet ((writes_usteerLocalNodeListCb msg listed).of_ok run)
  | tick m =>
    cases about
    exact .quiet ((writes_usteerLocalNodeKick listed).of_ok run)
  | status m status => exact absurd rfl (work m status)
  | _ => cases about

theorem isolated_status (status : NodeStatus) : Isolated n d (d.modifyNode n status.apply) := by
  refine { Isolated.refl d with nodes := fun m other => ?_ }
  rw [modifyNode, Heap.get?_modify, if_neg other]

theorem isolated_of_about {input : Input} (sound : Sound none d) (about : input.about = some n)
    (run : d.handle env cfg input = .ok d') : Isolated n d d' := by
  cases input with
  | status m status =>
    cases about
    cases run
    exact isolated_status status
  | _ => exact isolated_answers (answers_handle sound about run fun _ _ same => by cases same)

end Writes

/-- In every run, handling a request, a client table, a beacon report, a status change or a
    policy tick of a local node leaves every other node, every entry on another node and
    its timer as they were and reports nothing about those entries; at most it adds zeroed
    entries there. -/
theorem isolated_handle (env : Platform) {cfg : Config} {d d' : Daemon} {input : Input} {n : NodeId}
    (reach : Reachable env cfg d) (about : input.about = some n) (run : d.handle env cfg input = .ok d') : Isolated n d d' :=
  isolated_of_about (reachable_sound reach) about run

/-- The client of the first node is heard by a second one. -/
def heardTwice : List Input :=
  associates ++ [.register (hostapdDot ++ [97]), .staEvent 1 1 .probe 5180 (-70)]

theorem isolated_handle_of_leaving_client : ∃ d d' info, plainRun usteerInitDefaults heardTwice = some d ∧
    d.handle plainPlatform usteerInitDefaults (.clients 0 ⟨some 2412, some []⟩) = .ok d' ∧ Isolated 0 d d' ∧
    d.infos.get? 1 = some info ∧ info.node = 1 ∧ d'.infos.get? 1 = some info := by
  have evaluates : ((plainRun usteerInitDefaults heardTwice).any fun d =>
      (d.handle plainPlatform usteerInitDefaults (.clients 0 ⟨some 2412, some []⟩)).toOption.isSome &&
        (d.infos.get? 1).any fun info => decide (info.node = 1)) = true := by decide +kernel
  obtain ⟨d, ran, evaluates⟩ := (Option.any_eq_true _ _).mp evaluates
  simp only [Bool.and_eq_true, decide_eq_true_eq, Option.any_eq_true] at evaluates
  obtain ⟨returns, info, live, onNode⟩ := evaluates
  obtain ⟨d', returns⟩ := Option.isSome_iff_exists.mp returns
  have run := ok_of_toOption returns
  have isolated := isolated_handle plainPlatform (reachable_plainRun ran) rfl run
  refine ⟨d, d', info, ran, run, isolated, live, onNode, isolated.kept live ?_⟩
  rw [onNode]
  decide

end Usteer
