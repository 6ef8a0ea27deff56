/-
  Gherkin.Expression.Specificity

  How closely an expression describes what it matches: the more literal
  characters the more, and among equals the fewer placeholders the more.
-/
import Gherkin.Choice

namespace Gherkin

/-- The rank of an expression among those that match the same text. -/
@[ext]
structure Specificity where
  /-- The number of literal characters. -/
  literals : Nat := 0
  placeholders : Nat := 0
  deriving DecidableEq, Repr

namespace Specificity

/-- The order: by literal characters, then by fewer placeholders. -/
def compare (a b : Specificity) : Ordering :=
  (Ord.compare a.literals b.literals).then (Ord.compare b.placeholders a.placeholders)

instance : Ord Specificity := ⟨compare⟩

/-- What two parts of an expression have together. -/
def add (a b : Specificity) : Specificity :=
  ⟨a.literals + b.literals, a.placeholders + b.placeholders⟩

/-- The sum over the parts of an expression. -/
def sum (scores : List Specificity) : Specificity := scores.foldr add {}

/-- The place of the greatest score, of the last one if there are several. -/
def lastGreatest? (scores : List Specificity) : Option Nat :=
  (firstBest (fun x y => (compare x.1 y.1).isGE) scores.zipIdx).map (·.2)

@[simp] theorem sum_nil : sum [] = {} := rfl

@[simp] theorem sum_cons (score : Specificity) (scores : List Specificity) :
    sum (score :: scores) = score.add (sum scores) := rfl

theorem compare_eq_gt_iff {a b : Specificity} :
    compare a b = .gt ↔
      b.literals < a.literals ∨ (a.literals = b.literals ∧ a.placeholders < b.placeholders) := by
  simp only [compare, Ordering.then_eq_gt, Nat.compare_eq_gt, Nat.compare_eq_eq]

end Specificity

end Gherkin
