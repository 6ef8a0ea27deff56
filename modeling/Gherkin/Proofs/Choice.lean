/-
  Gherkin.Proofs.Choice

  The first best element of a list stands before all that it is only as good as,
  and is strictly better than all that stand before it. So elements can be left
  out of the list that repeat the key of an earlier one and are no better.
-/
import Gherkin.Choice

namespace Gherkin

variable {α : Type u} {β : Type v} {better : α → α → Bool}

/-! ## Orders up to ties -/

/-- `better` is strict, and ties of it are an equivalence. -/
structure OrdersUpToTies (better : α → α → Bool) : Prop where
  asymm : ∀ a b, better a b = true → better b a = false
  /-- What is better than one of two is better than the other, or the other is better itself. -/
  split : ∀ a b c, better a c = true → better a b = true ∨ better b c = true

theorem OrdersUpToTies.trans (h : OrdersUpToTies better) {a b c : α} (hab : better a b = true)
    (hbc : better b c = true) : better a c = true := by
  rcases h.split a c b hab with hac | hcb
  · exact hac
  · have hno := h.asymm b c hbc
    rw [hcb] at hno
    cases hno

/-! ## The choice -/

/-- The choice so far stays, or the first best of those after it that are better takes over. -/
theorem foldl_prefer_split (h : OrdersUpToTies better) {xs : List α} {b y : α}
    (hfold : xs.foldl (prefer better) (some b) = some y) :
    (y = b ∧ ∀ x ∈ xs, better x b = false) ∨
      ∃ before after, xs = before ++ y :: after ∧ better y b = true ∧
        (∀ x ∈ before, better y x = true) ∧ ∀ x ∈ after, better x y = false := by
  induction xs generalizing b with
  | nil =>
    left
    exact ⟨(Option.some.inj hfold).symm, by simp⟩
  | cons x xs ih =>
    rw [List.foldl_cons, prefer] at hfold
    by_cases hx : better x b = true
    · rw [if_pos hx] at hfold
      right
      -- the new choice is better than the old one, and so is all that replaces it
      rcases ih hfold with ⟨rfl, hrest⟩ | ⟨before, after, rfl, hy, hbefore, hafter⟩
      · exact ⟨[], xs, rfl, hx, by simp, hrest⟩
      · refine ⟨x :: before, after, rfl, h.trans hy hx, ?_, hafter⟩
        intro z hz
        rcases List.mem_cons.1 hz with rfl | hz
        · exact hy
        · exact hbefore z hz
    · rw [if_neg hx] at hfold
      rcases ih hfold with ⟨rfl, hrest⟩ | ⟨before, after, rfl, hy, hbefore, hafter⟩
      · left
        refine ⟨rfl, ?_⟩
        intro z hz
        rcases List.mem_cons.1 hz with rfl | hz
        · exact Bool.eq_false_iff.2 hx
        · exact hrest z hz
      · right
        refine ⟨x :: before, after, rfl, hy, ?_, hafter⟩
        intro z hz
        rcases List.mem_cons.1 hz with rfl | hz
        -- `z` was passed over: it is not better than `b`, so what is better than `b` beats it
        · rcases h.split y z b hy with hyz | hzb
          · exact hyz
          · exact absurd hzb hx
        · exact hbefore z hz

/-- The first best is better than all before it, and none after it is better. -/
theorem firstBest_split (h : OrdersUpToTies better) {xs : List α} {y : α}
    (hbest : firstBest better xs = some y) :
    ∃ before after, xs = before ++ y :: after ∧
      (∀ x ∈ before, better y x = true) ∧ ∀ x ∈ after, better x y = false := by
  cases xs with
  | nil => cases hbest
  | cons x xs =>
    rcases foldl_prefer_split h hbest with ⟨rfl, hrest⟩ | ⟨before, after, rfl, hy, hbefore, hafter⟩
    · exact ⟨[], xs, rfl, by simp, hrest⟩
    · refine ⟨x :: before, after, rfl, ?_, hafter⟩
      intro z hz
      rcases List.mem_cons.1 hz with rfl | hz
      · exact hy
      · exact hbefore z hz

theorem OrdersUpToTies.irrefl (h : OrdersUpToTies better) (a : α) : better a a = false := by
  cases hself : better a a with
  | false => rfl
  | true => exact hself.symm.trans (h.asymm a a hself)

/-- The first best of what `f` makes of a list comes from one place of it. Nothing that comes from
    another place is better, and what comes from an earlier one is worse. -/
theorem firstBest_filterMap (h : OrdersUpToTies better) {f : β → Option α} {xs : List β} {y : α}
    (hbest : firstBest better (xs.filterMap f) = some y) :
    ∃ place x, xs[place]? = some x ∧ f x = some y ∧
      ∀ (other : Nat) z b, xs[other]? = some z → f z = some b →
        better b y = false ∧ (other < place → better y b = true) := by
  -- the list is split where `f` makes the best: what comes out before is worse, and `skipped` gives
  -- nothing
  obtain ⟨worse, rest, hsplit, hworse, hrest⟩ := firstBest_split h hbest
  obtain ⟨first, tail, rfl, hfirst, htail⟩ := List.filterMap_eq_append_iff.1 hsplit
  obtain ⟨skipped, x, last, rfl, hskipped, hx, hlast⟩ := List.filterMap_eq_cons_iff.1 htail
  refine ⟨(first ++ skipped).length, x, ?_, hx, ?_⟩
  · rw [← List.append_assoc, List.getElem?_append_right (Nat.le_refl _), Nat.sub_self]
    rfl
  intro other z b hz hb
  rw [← List.append_assoc] at hz
  rcases Nat.lt_trichotomy other (first ++ skipped).length with hlt | rfl | hgt
  · -- an earlier place gives nothing, or something worse
    rw [List.getElem?_append_left hlt] at hz
    have hbetter : better y b = true := by
      rcases List.mem_append.1 (List.mem_of_getElem? hz) with hmem | hmem
      · apply hworse
        rw [← hfirst]
        exact List.mem_filterMap.2 ⟨z, hmem, hb⟩
      · rw [hskipped z hmem] at hb
        cases hb
    exact ⟨h.asymm y b hbetter, fun _ => hbetter⟩
  · rw [List.getElem?_append_right (Nat.le_refl _), Nat.sub_self] at hz
    obtain rfl : x = z := Option.some.inj hz
    obtain rfl : y = b := Option.some.inj (hx.symm.trans hb)
    exact ⟨h.irrefl y, fun hlt => absurd hlt (Nat.lt_irrefl _)⟩
  · rw [List.getElem?_append_right (Nat.le_of_lt hgt)] at hz
    obtain ⟨n, hn⟩ : ∃ n, other - (first ++ skipped).length = n + 1 :=
      ⟨other - (first ++ skipped).length - 1, by omega⟩
    rw [hn, List.getElem?_cons_succ] at hz
    refine ⟨hrest b ?_, fun hlt => absurd hlt (Nat.lt_asymm hgt)⟩
    rw [← hlast]
    exact List.mem_filterMap.2 ⟨z, List.mem_of_getElem? hz, hb⟩

/-! ## Repeated keys -/

variable {κ : Type w} [BEq κ] [LawfulBEq κ] {key : β → κ}

/-- The elements whose key is not among `seen` and not that of an element before. -/
def firstOfKey (key : β → κ) (seen : List κ) : List β → List β
  | [] => []
  | x :: xs =>
    if seen.contains (key x) then firstOfKey key seen xs
    else x :: firstOfKey key (key x :: seen) xs

theorem firstOfKey_cons_of_mem {x : β} {seen : List κ} (h : key x ∈ seen) (xs : List β) :
    firstOfKey key seen (x :: xs) = firstOfKey key seen xs := by
  rw [firstOfKey, if_pos (List.contains_iff_mem.2 h)]

theorem firstOfKey_cons_of_not_mem {x : β} {seen : List κ} (h : key x ∉ seen) (xs : List β) :
    firstOfKey key seen (x :: xs) = x :: firstOfKey key (key x :: seen) xs := by
  rw [firstOfKey, if_neg (mt List.contains_iff_mem.1 h)]

/-- Of every key there is an element that is kept, and it is not behind those of that key. -/
theorem exists_mem_firstOfKey {R : β → β → Prop} {xs : List β} (hsorted : xs.Pairwise R)
    (hrefl : ∀ x, R x x) {seen : List κ} {x : β} (hx : x ∈ xs) (hseen : key x ∉ seen) :
    ∃ y ∈ firstOfKey key seen xs, key y = key x ∧ R y x := by
  induction xs generalizing seen with
  | nil => cases hx
  | cons first xs ih =>
    obtain ⟨hfirst, hrest⟩ := List.pairwise_cons.1 hsorted
    by_cases hkept : key first ∈ seen
    · have hne : x ≠ first := by
        rintro rfl
        exact hseen hkept
      rw [firstOfKey_cons_of_mem hkept]
      exact ih hrest (List.mem_of_ne_of_mem hne hx) hseen
    · rw [firstOfKey_cons_of_not_mem hkept]
      by_cases hsame : key first = key x
      · refine ⟨first, List.mem_cons_self, hsame, ?_⟩
        rcases List.mem_cons.1 hx with rfl | hx
        · exact hrefl x
        · exact hfirst x hx
      · have hne : x ≠ first := fun h => hsame (h ▸ rfl)
        have hunseen : key x ∉ key first :: seen := by
          rw [List.mem_cons, not_or]
          exact ⟨Ne.symm hsame, hseen⟩
        obtain ⟨y, hy, hkey, hR⟩ := ih hrest (List.mem_of_ne_of_mem hne hx) hunseen
        exact ⟨y, List.mem_cons_of_mem _ hy, hkey, hR⟩

/-- A new candidate that is no better than something the choice has seen leaves the choice as it
    is. -/
theorem prefer_of_not_better {best : Option α} {y : α}
    (h : ∃ b, best = some b ∧ better y b = false) : prefer better best y = best := by
  obtain ⟨b, rfl, hb⟩ := h
  rw [prefer, hb, if_neg Bool.false_ne_true]

/-- What is no better than the choice so far is no better than the next choice. -/
theorem not_better_prefer (h : OrdersUpToTies better) {best : Option α} {x y : α}
    (hy : ∃ b, best = some b ∧ better y b = false) :
    ∃ b, prefer better best x = some b ∧ better y b = false := by
  obtain ⟨b, rfl, hb⟩ := hy
  rw [prefer]
  split
  next hx =>
    refine ⟨x, rfl, Bool.eq_false_iff.2 fun hyx => ?_⟩
    rw [h.trans hyx hx] at hb
    cases hb
  next => exact ⟨b, rfl, hb⟩

/-- What is no better than the candidate that is considered is no better than the choice after
    it. -/
theorem not_better_prefer_self (h : OrdersUpToTies better) (best : Option α) {x y : α}
    (hy : better y x = false) : ∃ b, prefer better best x = some b ∧ better y b = false := by
  cases best with
  | none => exact ⟨x, rfl, hy⟩
  | some b =>
    rw [prefer]
    split
    next => exact ⟨x, rfl, hy⟩
    next hx =>
      refine ⟨b, rfl, Bool.eq_false_iff.2 fun hyb => ?_⟩
      rcases h.split y x b hyb with hyx | hxb
      · rw [hyx] at hy
        cases hy
      · exact hx hxb

section Repeated

variable {f : β → Option α}

/-- Whether `y` gives nothing better than `x`. -/
def NoBetter (better : α → α → Bool) (f : β → Option α) (x y : β) : Prop :=
  ∀ b, f y = some b → ∃ a, f x = some a ∧ better b a = false

/-- Leaving out what repeats a key and is no better does not change a choice that has seen the
    keys before. -/
theorem foldl_prefer_firstOfKey (h : OrdersUpToTies better) {xs : List β}
    (hlater : xs.Pairwise fun x y => key y = key x → NoBetter better f x y) {seen : List κ}
    {best : Option α}
    (hseen : ∀ x ∈ xs, key x ∈ seen → ∀ b, f x = some b → ∃ a, best = some a ∧ better b a = false) :
    ((firstOfKey key seen xs).filterMap f).foldl (prefer better) best =
      (xs.filterMap f).foldl (prefer better) best := by
  induction xs generalizing seen best with
  | nil => rfl
  | cons x xs ih =>
    obtain ⟨hx, hxs⟩ := List.pairwise_cons.1 hlater
    obtain ⟨hfirst, hrest⟩ := List.forall_mem_cons.1 hseen
    by_cases hkey : key x ∈ seen
    · rw [firstOfKey_cons_of_mem hkey, ih hxs hrest]
      cases hfx : f x with
      | none => rw [List.filterMap_cons_none hfx]
      | some b =>
        rw [List.filterMap_cons_some hfx, List.foldl_cons, prefer_of_not_better (hfirst hkey b hfx)]
    · rw [firstOfKey_cons_of_not_mem hkey]
      cases hfx : f x with
      | none =>
        rw [List.filterMap_cons_none hfx, List.filterMap_cons_none hfx]
        apply ih hxs
        intro y hy hmem b hb
        rcases List.mem_cons.1 hmem with hsame | hmem
        -- what repeats a key of nothing gives nothing
        · obtain ⟨a, ha, -⟩ := hx y hy hsame b hb
          rw [hfx] at ha
          cases ha
        · exact hrest y hy hmem b hb
      | some a =>
        rw [List.filterMap_cons_some hfx, List.filterMap_cons_some hfx, List.foldl_cons,
          List.foldl_cons]
        apply ih hxs
        intro y hy hmem b hb
        rcases List.mem_cons.1 hmem with hsame | hmem
        · obtain ⟨a', ha, hbetter⟩ := hx y hy hsame b hb
          obtain rfl : a' = a := Option.some.inj (ha.symm.trans hfx)
          exact not_better_prefer_self h best hbetter
        · exact not_better_prefer h (hrest y hy hmem b hb)

/-- The first best of a list is that of the elements that do not repeat a key, if none that does is
    better than the one that it repeats. -/
theorem firstBest_firstOfKey (h : OrdersUpToTies better) {xs : List β}
    (hlater : xs.Pairwise fun x y => key y = key x → NoBetter better f x y) :
    firstBest better ((firstOfKey key [] xs).filterMap f) = firstBest better (xs.filterMap f) :=
  foldl_prefer_firstOfKey h hlater (by simp)

end Repeated

end Gherkin
