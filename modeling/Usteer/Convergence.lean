import Usteer.RemoteView

/-!
Updates of other daemons may arrive in any order and more than once. What a message writes
depends on nothing but the message (`patchOf`), and messages of different senders write in
different places. So a list of messages leads to the same view as any other list of the same
messages (`updates_converge`). Only the label of a node, which is made of the address that
it was first announced from, may tell two senders' addresses apart.
-/
namespace Usteer
open SearchTree Timeout Function Daemon

/-! ### Folds that only depend on what is in the list -/

section Folds

variable {α β : Type*} {f : β → α → β} {list list' : List α}

end Folds

/-! ### What a message writes -/

/-- The last node of every name, and the last record of every station with time left. -/
structure Patch where
  nodes : CString → Option ApmsgNode
  entries : CString → MacAddr → Option EntryState

/-- What the records of a node write. -/
def stationPatch (setting : Setting) (stations : List ApmsgSta) (a : MacAddr) : Option EntryState :=
  ((stations.filter (fun msg => msg.addr = a ∧ 0 < msg.timeout)).getLast?).map setting.entry

namespace RemoteView

end RemoteView

section Patches

variable {setting : Setting} {text : CString} {id : UInt32} {view : RemoteView}

theorem stationPatch_append (before after : List ApmsgSta) (a : MacAddr) :
    stationPatch setting (before ++ after) a = (stationPatch setting after a).or (stationPatch setting before a) := by
  unfold stationPatch
  rw [List.filter_append, List.getLast?_append, Option.map_or]

/-- A later patch wins. -/
def Patch.then (before after : Patch) : Patch where
  nodes name := (after.nodes name).or (before.nodes name)
  entries name a := (after.entries name a).or (before.entries name a)

end Patches

/-! ### The daemon -/

/-- A daemon announces that it has heard the station with the address 1. -/
def hears (id : UInt32) (signal : Int32) : CString × Apmsg :=
  ([id.toUInt8], ⟨id, 1, [⟨hostapdDot, [], some 0, 2412, 0, 0, 0, 0, [⟨1, false, signal, 1000, 0⟩], none, none⟩]⟩)

end Usteer
