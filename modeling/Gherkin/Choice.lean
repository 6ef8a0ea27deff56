/-
  Gherkin.Choice

  The first best element of a list: a later element replaces an earlier one only
  if it is strictly better. Keyword matching and step binding both choose so.
-/

namespace Gherkin

/-- The better of the choice so far and a new candidate; a tie keeps the choice. -/
def prefer (better : α → α → Bool) (best : Option α) (x : α) : Option α :=
  match best with
  | none => some x
  | some b => if better x b then some x else some b

/-- The earliest element of `xs` that no element of `xs` is better than, for an order `better`
    that is strict and total up to ties. -/
def firstBest (better : α → α → Bool) (xs : List α) : Option α :=
  xs.foldl (prefer better) none

@[simp] theorem firstBest_nil (better : α → α → Bool) : firstBest better [] = none := rfl

theorem prefer_mem {better : α → α → Bool} {best : Option α} {x y : α}
    (h : prefer better best x = some y) : y = x ∨ best = some y := by
  unfold prefer at h
  grind

theorem foldl_prefer_mem {better : α → α → Bool} {xs : List α} {best : Option α} {y : α}
    (h : xs.foldl (prefer better) best = some y) : y ∈ xs ∨ best = some y := by
  induction xs generalizing best with
  | nil => exact .inr h
  | cons x xs ih =>
    rcases ih h with h | h
    · exact .inl (.tail _ h)
    · rcases prefer_mem h with rfl | h
      · exact .inl (.head _)
      · exact .inr h

theorem firstBest_mem {better : α → α → Bool} {xs : List α} {y : α}
    (h : firstBest better xs = some y) : y ∈ xs := by
  rcases foldl_prefer_mem h with h | h
  · exact h
  · cases h

theorem foldl_prefer_some (better : α → α → Bool) (xs : List α) (b : α) :
    ∃ y, xs.foldl (prefer better) (some b) = some y := by
  induction xs generalizing b with
  | nil => exact ⟨b, rfl⟩
  | cons x xs ih =>
    simp only [List.foldl_cons, prefer]
    split <;> exact ih _

theorem firstBest_eq_none_iff {better : α → α → Bool} {xs : List α} :
    firstBest better xs = none ↔ xs = [] := by
  cases xs with
  | nil => simp
  | cons x xs =>
    obtain ⟨y, hy⟩ := foldl_prefer_some better xs x
    simp [firstBest, prefer, hy]

end Gherkin
