import Mathlib.Data.Fintype.Order
import Mathlib.Data.Finite.Defs
import Mathlib.Order.WellFounded
import Mathlib.Logic.Relation
import Mathlib.Tactic.Linarith

/-!
Preferences with margins. A value is better than another when it is admissible
and its weight is lower by a margin, its score is higher by a margin, or its
class is the preferred one (`Better`). Each margin alone is not transitive, and
the three criteria may point in different directions; still, the relation
"better and not conversely" (`Beats`) has no cycle (`beats_acyclic`): along its
edges between admissible values a fixed integer combination of weight and score
(`potential`) strictly falls or the class turns to the preferred one. So every
non-empty finite set has a member that no other member beats (`family_acyclic`).
-/
namespace Usteer.Margins

/-- What a preference compares: who is admissible, the weight and its margin, the
    score with its margin where scores count, and the preferred class. -/
structure Criteria (α : Type*) where
  admissible : α → Prop
  weight : α → ℤ
  weightMargin : ℤ
  score : α → ℤ
  scoreMargin : ℤ
  scored : Prop
  preferred : α → Prop
  weightMargin_nonneg : 0 ≤ weightMargin
  scoreMargin_nonneg : 0 ≤ scoreMargin

variable {α : Type*} (c : Criteria α)

/-- `b` is better than `a` by one of the criteria. -/
def Better (a b : α) : Prop :=
  c.admissible b ∧ (c.weight b + c.weightMargin ≤ c.weight a ∨
    (c.scored ∧ c.scoreMargin < c.score b - c.score a) ∨ (¬ c.preferred a ∧ c.preferred b))

/-- `b` is better than `a` and not conversely. -/
def Beats (a b : α) : Prop := Better c a b ∧ ¬ Better c b a

open Classical in
/-- What falls along the edges that leave the class alone. -/
noncomputable def potential (a : α) : ℤ :=
  if c.scored ∧ 0 < c.weightMargin then
    (2 * c.scoreMargin + 1) * c.weight a - (2 * c.weightMargin - 1) * c.score a
  else c.weight a

/-- Between admissible values, an edge never leaves the preferred class, and lowers
    the potential unless it enters the class. -/
theorem beats_lowers {a b : α} (admissible : c.admissible a) (beats : Beats c a b) :
    (c.preferred a → c.preferred b) ∧ ((¬ c.preferred a ∧ c.preferred b) ∨ potential c b < potential c a) := by
  obtain ⟨⟨_, better⟩, worse⟩ := beats
  have back : ¬ (c.weight a + c.weightMargin ≤ c.weight b ∨
      (c.scored ∧ c.scoreMargin < c.score a - c.score b) ∨ (¬ c.preferred b ∧ c.preferred a)) :=
    fun any => worse ⟨admissible, any⟩
  simp only [not_or, not_and, not_le, not_lt] at back
  obtain ⟨weightBack, scoreBack, classBack⟩ := back
  have keeps : c.preferred a → c.preferred b := fun pa => by
    by_contra nb
    exact classBack nb pa
  refine ⟨keeps, ?_⟩
  have lowMargin := c.weightMargin_nonneg
  have lowScore := c.scoreMargin_nonneg
  unfold potential
  rcases better with weight | score | cls
  · right
    split
    · rename_i both
      have := scoreBack both.1
      nlinarith [both.2]
    · rename_i neither
      by_cases scored : c.scored
      · have : c.weightMargin = 0 := by
          by_contra ne
          exact neither ⟨scored, by omega⟩
        omega
      · omega
  · right
    obtain ⟨scored, higher⟩ := score
    split
    · rename_i both
      nlinarith [both.2]
    · rename_i neither
      have : c.weightMargin = 0 := by
        by_contra ne
        exact neither ⟨scored, by omega⟩
      omega
  · exact .inl cls

/-- The path lemma behind `beats_acyclic`. -/
theorem path_lowers {a b : α} (admissible : c.admissible a) (path : Relation.TransGen (Beats c) a b) :
    (c.preferred a → c.preferred b) ∧ ((¬ c.preferred a ∧ c.preferred b) ∨ potential c b < potential c a) := by
  induction path with
  | single edge => exact beats_lowers c admissible edge
  | @tail x y path edge ih =>
    obtain ⟨keeps, lower⟩ := ih
    have inner : c.admissible x := by
      obtain ⟨z, _, last⟩ := Relation.TransGen.tail'_iff.mp path
      exact last.1.1
    obtain ⟨keeps', lower'⟩ := beats_lowers c inner edge
    refine ⟨fun pa => keeps' (keeps pa), ?_⟩
    rcases lower with enters | falls
    · exact .inl ⟨enters.1, keeps' enters.2⟩
    · rcases lower' with enters' | falls'
      · exact .inl ⟨fun pa => enters'.1 (keeps pa), enters'.2⟩
      · exact .inr (falls'.trans falls)

/-- No cycle of any length. -/
theorem beats_acyclic (a : α) : ¬ Relation.TransGen (Beats c) a a := by
  intro cycle
  have admissible : c.admissible a := by
    obtain ⟨z, _, last⟩ := Relation.TransGen.tail'_iff.mp cycle
    exact last.1.1
  rcases (path_lowers c admissible cycle).2 with ⟨out, isIn⟩ | falls
  · exact out isIn
  · exact lt_irrefl _ falls

/-- A relation without cycles on a non-empty finite set leaves some member with no
    successor in the set. -/
theorem exists_maximal {r : α → α → Prop} (s : Finset α) (nonempty : s.Nonempty)
    (acyclic : ∀ a, ¬ Relation.TransGen (fun x y => x ∈ s ∧ y ∈ s ∧ r x y) a a) :
    ∃ a ∈ s, ∀ b ∈ s, ¬ r a b := by
  let edge : s → s → Prop := fun y x => Relation.TransGen (fun x y => x ∈ s ∧ y ∈ s ∧ r x y) x.1 y.1
  have trans : IsTrans s edge := ⟨fun _ _ _ h1 h2 => h2.trans h1⟩
  have irrefl : Std.Irrefl edge := ⟨fun x => acyclic x.1⟩
  have wf : WellFounded edge := Finite.wellFounded_of_trans_of_irrefl edge
  obtain ⟨x, member⟩ := nonempty
  obtain ⟨least, _, minimal⟩ := wf.has_min Set.univ ⟨⟨x, member⟩, trivial⟩
  refine ⟨least.1, least.2, fun b inS rel => minimal ⟨b, inS⟩ trivial ?_⟩
  exact Relation.TransGen.single ⟨least.2, inS, rel⟩

/-- A family of values, related only where one beats the other, has no cycle and a
    member that is related to no other. -/
theorem family_acyclic {ι : Type*} {s : Finset ι} (value : ι → α) {r : ι → ι → Prop}
    (beats : ∀ i ∈ s, ∀ j ∈ s, r i j → Beats c (value i) (value j)) :
    (∀ i, ¬ Relation.TransGen (fun i j => i ∈ s ∧ j ∈ s ∧ r i j) i i) ∧
      (s.Nonempty → ∃ i ∈ s, ∀ j ∈ s, ¬ r i j) := by
  have acyclic : ∀ i, ¬ Relation.TransGen (fun i j => i ∈ s ∧ j ∈ s ∧ r i j) i i := by
    intro i cycle
    refine beats_acyclic c (value i) (cycle.lift value ?_)
    rintro a b ⟨inA, inB, rel⟩
    exact beats a inA b inB rel
  exact ⟨acyclic, fun nonempty => exists_maximal s nonempty acyclic⟩

end Usteer.Margins
