import Usteer.Effects
import Usteer.RemoteIndex

/-!
What a daemon knows of the others, without addresses and without the order of any list
(`RemoteView`): its remote nodes by the sender's id and the node's name, and the entries of
their stations. A received message writes into both, and what it writes does not depend on
what was there (`RemoteView.recvMsg`). The daemon follows that, whatever else it holds
(`remoteView_recvMsg`).
-/
namespace Usteer
open SearchTree Timeout Function Daemon

/-- What is known of a station on a remote node; the deadline is that of its timer. -/
structure EntryState where
  connected : Fin 4
  signal : Int32
  seen : UInt64
  deadline : Option UInt32
  deriving DecidableEq

/-- Remote nodes without their lists of entries, and entries, by id, name and address. -/
@[ext] structure RemoteView where
  nodes : UInt32 → CString → Option UsteerNode
  entries : UInt32 → CString → MacAddr → Option EntryState

/-- What the handling of a message reads of the receiver. -/
structure Setting where
  localId : UInt32
  currentTime : UInt64
  clock : UInt64
  valid : CString → Bool

namespace Daemon

/-- The setting in which the daemon receives a message. -/
def setting (d : Daemon) : Setting := ⟨d.localId, d.currentTime, d.clock, d.usteerIsValidSsid⟩

/-- When the timer of an entry is due. -/
def deadline (d : Daemon) (si : SiId) : Option UInt32 := (d.tq.items.find? (fun e => e.2 = si)).map Prod.fst

/-- What is known of a station by its entry. -/
def entryState (d : Daemon) (si : SiId) (info : StaInfo) : EntryState :=
  ⟨info.connected, info.signal, info.seen, d.deadline si⟩

end Daemon

/-! ### What a message writes -/

/-- The entry after a record. -/
def Setting.entry (setting : Setting) (msg : ApmsgSta) : EntryState where
  connected := if msg.connected then 1 else 0
  signal := msg.signal
  seen := setting.currentTime - msg.seen.toInt64.toUInt64
  deadline := if msg.connected then none else some (ampgrTimeoutCurrentTime setting.clock.toNat + msg.timeout.toUInt32)

namespace RemoteView

/-- A record with time left overwrites the entry of its station. -/
def addStation (setting : Setting) (id : UInt32) (name : CString) (view : RemoteView) (msg : ApmsgSta) : RemoteView :=
  if 0 < msg.timeout then
    { view with entries := fun id' name' a =>
        if id' = id ∧ name' = name ∧ a = msg.addr then some (setting.entry msg) else view.entries id' name' a }
  else view

/-- The node of that id and name becomes another one. -/
def setNode (view : RemoteView) (id : UInt32) (name : CString) (node : UsteerNode) : RemoteView where
  nodes id' name' := if id' = id ∧ name' = name then some node else view.nodes id' name'
  entries := view.entries

/-- The node of that id and name, or a new one. -/
def getNode (view : RemoteView) (text : CString) (id : UInt32) (name : CString) : UsteerNode :=
  (view.nodes id name).getD (newRemoteNode text id.toUInt64 name)

/-- The node of that id and name takes over the fields of a message. -/
def takeNode (text : CString) (id : UInt32) (msg : ApmsgNode) (view : RemoteView) : RemoteView :=
  view.setNode id msg.name (takeOver msg (msg.bssid.getD 0) (view.getNode text id msg.name))

/-- A node of a message. -/
def addNode (setting : Setting) (text : CString) (id : UInt32) (view : RemoteView) (msg : ApmsgNode) : RemoteView :=
  if setting.valid msg.ssid then msg.stations.foldl (addStation setting id msg.name) (view.takeNode text id msg) else view

end RemoteView

/-! ### The view is what the references lead to -/

section View

variable {env : Platform} {cfg : Config} {base id : UInt32} {d d' : Daemon} {addr : MacAddr} {n m : NodeId}

/-- What a search finds when at most one element fits. -/
theorem find?_iff {α : Type} {p : α → Bool} {list : List α} {x : α}
    (unique : ∀ y ∈ list, ∀ z ∈ list, p y = true → p z = true → y = z) :
    list.find? p = some x ↔ x ∈ list ∧ p x = true := by
  constructor
  · intro found
    exact ⟨List.mem_of_find?_eq_some found, List.find?_some found⟩
  · rintro ⟨inside, fits⟩
    cases found : list.find? p with
    | none => exact absurd fits (List.find?_eq_none.mp found x inside)
    | some y => rw [unique y (List.mem_of_find?_eq_some found) x inside (List.find?_some found) fits]

theorem deadline_iff (once : (d.tq.items.map Prod.snd).Nodup) {si : SiId} {key : UInt32} :
    d.deadline si = some key ↔ (key, si) ∈ d.tq.items := by
  have search : ∀ e, d.tq.items.find? (fun e => e.2 = si) = some e ↔ e ∈ d.tq.items ∧ decide (e.2 = si) = true :=
    fun e => find?_iff fun y inside z inside' here here' => List.inj_on_of_nodup_map once inside inside'
      ((of_decide_eq_true here).trans (of_decide_eq_true here').symm)
  unfold deadline
  rw [Option.map_eq_some_iff]
  simp only [search, decide_eq_true_eq]
  constructor
  · rintro ⟨⟨key', j⟩, ⟨inside, rfl⟩, rfl⟩
    exact inside
  · exact fun inside => ⟨(key, si), ⟨inside, rfl⟩, rfl⟩

/-- What is known of a station on a node. -/
def Shown (d : Daemon) (a : MacAddr) (n : NodeId) (e : EntryState) : Prop :=
  ∃ si info, EntryOf d a n si info ∧ d.entryState si info = e

theorem deadline_settled_self {si : SiId} {info : StaInfo} {timeout : Int32} (once : (d.tq.items.map Prod.snd).Nodup) :
    (d.settled env si info timeout).deadline si =
      if info.connected = 1 then none else some (ampgrTimeoutCurrentTime d.clock.toNat + timeout.toUInt32) := by
  refine Option.ext fun key => ?_
  rw [deadline_iff (once_settled once)]
  unfold settled
  dsimp only
  split
  · simp [Queue.mem_cancel]
  · simp [Queue.mem_set, eq_comm]

theorem deadline_settled_other {si j : SiId} {info : StaInfo} {timeout : Int32} (once : (d.tq.items.map Prod.snd).Nodup)
    (other : j ≠ si) : (d.settled env si info timeout).deadline j = d.deadline j := by
  refine Option.ext fun key => ?_
  rw [deadline_iff (once_settled once), deadline_iff once]
  unfold settled
  dsimp only
  split
  · simp [Queue.mem_cancel, other]
  · simp [Queue.mem_set, other]

/-- The entry that a record settles is its own station's; the others stay. -/
theorem shown_settled {si : SiId} {create : Bool} {d1 : Daemon} {info info' : StaInfo} {timeout : Int32}
    (sound : Sound none d) (sound' : Sound none (d1.settled env si info' timeout)) (got : Fetched d addr n si create d1)
    (survives : Survives d d1) (live : d1.infos.get? si = some info)
    (keeps : info'.sta = info.sta ∧ info'.node = info.node) (a : MacAddr) (m : NodeId) (e : EntryState) :
    Shown (d1.settled env si info' timeout) a m e ↔
      if a = addr ∧ m = n then (d1.settled env si info' timeout).entryState si info' = e else Shown d a m e := by
  have edited : Survives d1 (d1.settled env si info' timeout) := by
    have modified : Survives d1 (d1.modifyInfo si (fun _ => info')) := by
      refine survives_modifyInfo fun before liveBefore => ?_
      rw [live] at liveBefore
      cases liveBefore
      exact keeps
    exact { modified with infos := modified.infos, stas := modified.stas }
  have overall := survives.trans edited
  have own : (d1.settled env si info' timeout).infos.get? si = some info' := infos_settled_self live
  have entry : EntryOf (d1.settled env si info' timeout) addr n si info' := by
    obtain ⟨info1, entry1⟩ := got.entry
    obtain ⟨info2, entry2⟩ := edited.entryOf entry1
    have agree := own.symm.trans entry2.1
    cases agree
    exact entry2
  have tq1 : d1.tq = d.tq := by rw [got.rest]
  have others : ∀ j, j ≠ si → (d1.settled env si info' timeout).infos.get? j = d.infos.get? j ∧
      ∀ info, (d1.settled env si info' timeout).entryState j info = d.entryState j info := by
    intro j other
    constructor
    · rw [infos_settled_other other]
      cases create with
      | false => rw [(got.found rfl).1]
      | true =>
        obtain ⟨_, _, s, freq, infos⟩ := got.fresh rfl
        rw [infos, if_neg other]
    · intro info3
      have waits : (d1.settled env si info' timeout).deadline j = d.deadline j := by
        rw [deadline_settled_other (by rw [tq1]; exact sound.once) other, deadline, tq1, deadline]
      rw [entryState, waits, entryState]
  split
  · rename_i here
    obtain ⟨rfl, rfl⟩ := here
    constructor
    · rintro ⟨j, info3, entry3, same⟩
      obtain rfl := entry3.unique sound' entry
      have agree := own.symm.trans entry3.1
      cases agree
      exact same
    · exact fun same => ⟨si, info', entry, same⟩
  · rename_i elsewhere
    constructor
    · rintro ⟨j, info3, entry3, same⟩
      have other : j ≠ si := by
        rintro rfl
        exact elsewhere (entry.same entry3)
      obtain ⟨infos, states⟩ := others j other
      refine ⟨j, info3, entry3.back overall sound ?_, by rw [← states]; exact same⟩
      rw [← infos]
      exact entry3.1
    · rintro ⟨j, info3, entry3, same⟩
      obtain ⟨info4, entry4⟩ := overall.entryOf entry3
      have other : j ≠ si := by
        rintro rfl
        exact elsewhere (entry.same entry4)
      obtain ⟨infos, states⟩ := others j other
      have agree := entry4.1.symm.trans (infos.trans entry3.1)
      cases agree
      exact ⟨j, info3, entry4, by rw [states]; exact same⟩

/-- A record with time left overwrites what is known of its station on the node. -/
theorem shown_addStation {node : UsteerNode} {msg : ApmsgSta} (sound : Sound none d)
    (liveNode : d.nodes.get? n = some node) (isRemote : node.isLocal = false)
    (run : d.interfaceAddStation env cfg n msg = .ok d') (a : MacAddr) (m : NodeId) (e : EntryState) :
    Shown d' a m e ↔ if (a = msg.addr ∧ m = n) ∧ 0 < msg.timeout then d.setting.entry msg = e else Shown d a m e := by
  have moves := (post_interfaceAddStation (F := AnyFault) env cfg .plain sound liveNode isRemote fun _ _ => id).of_ok run
  have sound' : Sound none d' := sound_moves (a := (none, d)) sound moves
  rcases (returns_interfaceAddStation msg sound liveNode).of_ok run with ⟨expired, rfl⟩ |
    ⟨positive, si, create, d1, info, got, survives, live, rfl⟩
  · rw [if_neg fun both => expired both.2]
  · rw [shown_settled sound sound' got survives live ⟨rfl, rfl⟩, entryState,
      deadline_settled_self (by rw [got.rest]; exact sound.once)]
    have time : d1.currentTime = d.currentTime := by rw [got.rest]
    simp only [positive, and_true, time, survives.clock]
    have state : ∀ connected : Bool, (if (if connected then 1 else 0 : Fin 4) = 1 then none
        else some (ampgrTimeoutCurrentTime d.clock.toNat + msg.timeout.toUInt32)) =
        if connected then none else some (ampgrTimeoutCurrentTime d.clock.toNat + msg.timeout.toUInt32) := by
      intro connected
      cases connected with
      | true => rfl
      | false => rfl
    rw [state]
    rfl

/-! ### What the view does not show -/

theorem shown_of_eq (infos : d'.infos = d.infos) (stas : d'.stas = d.stas) (tq : d'.tq = d.tq) (a : MacAddr) (m : NodeId)
    (e : EntryState) : Shown d' a m e ↔ Shown d a m e := by
  unfold Shown EntryOf entryState deadline
  rw [infos, stas, tq]

theorem setting_of {setting : Setting} (localId : d.localId = setting.localId) (time : d.currentTime = setting.currentTime)
    (clock : d.clock = setting.clock) (valid : d.usteerIsValidSsid = setting.valid) : d.setting = setting := by
  unfold Daemon.setting
  rw [localId, time, clock, valid]

/-- A record changes entries only. -/
theorem frame_addStation {node : UsteerNode} {msg : ApmsgSta} (sound : Sound none d) (live : d.nodes.get? n = some node)
    (isRemote : node.isLocal = false) (run : d.interfaceAddStation env cfg n msg = .ok d') :
    Moves env cfg .plain (none, d) (none, d') ∧ d'.setting = d.setting ∧
      ∀ m, (d'.nodes.get? m).map bare = (d.nodes.get? m).map bare := by
  have moves := (post_interfaceAddStation (F := AnyFault) env cfg .plain sound live isRemote fun _ _ => id).of_ok run
  have survives : Survives d d' := survives_moves moves
  obtain ⟨time, bares⟩ : d'.currentTime = d.currentTime ∧ ∀ m, (d'.nodes.get? m).map bare = (d.nodes.get? m).map bare := by
    rcases (returns_interfaceAddStation msg sound live).of_ok run with ⟨_, rfl⟩ |
      ⟨_, si, create, d1, info, got, _, _, rfl⟩
    · exact ⟨rfl, fun _ => rfl⟩
    · refine ⟨by rw [got.rest]; rfl, fun m => ?_⟩
      obtain ⟨list, nodes⟩ := got.nodes m
      show (d1.nodes.get? m).map bare = _
      rw [nodes, Option.map_map]
      rfl
  refine ⟨moves, setting_of survives.localId time survives.clock ?_, bares⟩
  funext ssid
  unfold usteerIsValidSsid
  rw [survives.ssidList]
  rfl

end View

end Usteer
