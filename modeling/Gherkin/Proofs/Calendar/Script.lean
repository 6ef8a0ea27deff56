/-
  Gherkin.Proofs.Calendar.Script

  Layouts take no digits but those of ASCII. Whatever an item takes from a text has
  no other digits in it, so that a text that is read to its end has none.
-/
import Gherkin.Calendar.Layout
import Gherkin.Proofs.Number.Decimal

namespace Gherkin.Layout

open Number (HasPlainDigits)

variable {s t rest : List Char} {found next : Found} {item : Item} {items : List Item}

/-! ## What is taken -/

/-- Whether a text is left when characters are taken among which all digits are those of ASCII. -/
def Leaves (s rest : List Char) : Prop := ∃ taken, s = taken ++ rest ∧ HasPlainDigits taken

theorem Leaves.refl (s : List Char) : Leaves s s := ⟨[], rfl, by simp [HasPlainDigits]⟩

theorem Leaves.trans (h : Leaves s t) (hrest : Leaves t rest) : Leaves s rest := by
  obtain ⟨first, rfl, hfirst⟩ := h
  obtain ⟨second, rfl, hsecond⟩ := hrest
  refine ⟨first ++ second, by rw [List.append_assoc], fun c hc => ?_⟩
  exact (List.mem_append.1 hc).elim (hfirst c) (hsecond c)

theorem Leaves.cons {c : Char} (hc : Text.isDigit c = false) : Leaves (c :: s) s := by
  refine ⟨[c], rfl, fun d hd hdigit => ?_⟩
  rw [List.mem_singleton.1 hd, hc] at hdigit
  cases hdigit

theorem Leaves.mark {c : Char} (hascii : c.toNat < 128) (hc : c.isDigit = false) :
    Leaves (c :: s) s :=
  .cons (Number.isDigit_eq_false hascii hc)

theorem Leaves.dropWhile {p : Char → Bool} (hp : ∀ c, p c = true → Text.isDigit c = false) :
    Leaves s (s.dropWhile p) := by
  refine ⟨s.takeWhile p, List.takeWhile_append_dropWhile.symm, fun c hc hdigit => ?_⟩
  rw [hp c (List.mem_takeWhile_imp hc)] at hdigit
  cases hdigit

theorem leaves_dropBlanks : Leaves s (Text.dropBlanks s) :=
  .dropWhile fun _ => Number.isDigit_of_isBlank

theorem leaves_of_takeNumber? {least most n : Nat} (h : takeNumber? least most s = some (n, rest)) :
    Leaves s rest := by
  rw [takeNumber?, Option.ite_none_left_eq_some] at h
  obtain ⟨-, heq⟩ := h
  obtain ⟨-, rfl⟩ := Prod.mk.inj (Option.some.inj heq)
  have hprefix : (s.take most).takeWhile Char.isDigit <+: s :=
    (List.takeWhile_prefix _).trans (List.take_prefix _ _)
  exact ⟨_, (List.prefix_iff_eq_append.1 hprefix).symm, fun c hc _ => List.mem_takeWhile_imp hc⟩

theorem leaves_of_takeLoose? {field : Field} {n : Int} (h : takeLoose? field s = some (n, rest)) :
    Leaves s rest := by
  refine leaves_dropBlanks.trans ?_
  unfold takeLoose? at h
  split at h
  · next heq =>
    obtain ⟨⟨m, left⟩, htaken, hleft⟩ := Option.map_eq_some_iff.1 h
    obtain ⟨-, rfl⟩ := Prod.mk.inj hleft
    rw [heq]
    exact (Leaves.mark (by decide) rfl).trans (leaves_of_takeNumber? htaken)
  · next heq =>
    obtain ⟨⟨m, left⟩, htaken, hleft⟩ := Option.map_eq_some_iff.1 h
    obtain ⟨-, rfl⟩ := Prod.mk.inj hleft
    rw [heq]
    exact (Leaves.mark (by decide) rfl).trans (leaves_of_takeNumber? htaken)
  · obtain ⟨⟨m, left⟩, htaken, hleft⟩ := Option.map_eq_some_iff.1 h
    obtain ⟨-, rfl⟩ := Prod.mk.inj hleft
    exact leaves_of_takeNumber? htaken

theorem leaves_of_takeFraction? {n : Nat} (h : takeFraction? s = some (n, rest)) :
    Leaves s rest := by
  unfold takeFraction? at h
  split at h
  · next s =>
    dsimp only at h
    rw [Option.ite_none_left_eq_some] at h
    obtain ⟨-, rfl⟩ := Prod.mk.inj (Option.some.inj h.2)
    refine (Leaves.mark (by decide) rfl).trans ⟨(s.takeWhile Char.isDigit), ?_, ?_⟩
    · rw [Number.spanDigits, List.span_eq_takeWhile_dropWhile, List.takeWhile_append_dropWhile]
    · exact fun c hc _ => List.mem_takeWhile_imp hc
  · obtain ⟨-, rfl⟩ := Prod.mk.inj (Option.some.inj h)
    exact .refl _

theorem leaves_of_takeOffsetSign? {negative : Bool}
    (h : takeOffsetSign? s = some (negative, rest)) : Leaves s rest := by
  unfold takeOffsetSign? at h
  split at h
  · obtain ⟨-, rfl⟩ := Prod.mk.inj (Option.some.inj h)
    exact .mark (by decide) rfl
  · obtain ⟨-, rfl⟩ := Prod.mk.inj (Option.some.inj h)
    exact .mark (by decide) rfl
  · obtain ⟨-, rfl⟩ := Prod.mk.inj (Option.some.inj h)
    -- the minus sign of typography is not of ASCII, and no digit either
    exact .cons (by decide +kernel)
  · cases h

theorem leaves_of_takeOffset? {separator : List Char → Option (List Char)} {n : Int}
    (hseparator : ∀ s t, separator s = some t → Leaves s t)
    (h : takeOffset? separator s = some (n, rest)) : Leaves s rest := by
  simp only [takeOffset?, Option.bind_eq_bind, Option.bind_eq_some_iff] at h
  obtain ⟨⟨negative, s₁⟩, hsign, ⟨hours, s₂⟩, hhours, s₃, hmiddle, ⟨minutes, s₄⟩, hminutes, hend⟩ := h
  rw [Option.ite_none_left_eq_some] at hend
  obtain ⟨-, rfl⟩ := Prod.mk.inj (Option.some.inj hend.2)
  exact (leaves_of_takeOffsetSign? hsign).trans ((leaves_of_takeNumber? hhours).trans
    ((hseparator _ _ hmiddle).trans (leaves_of_takeNumber? hminutes)))

theorem leaves_of_colon? (h : colon? s = some t) : Leaves s t := by
  unfold colon? at h
  split at h
  · obtain rfl := Option.some.inj h
    exact .mark (by decide) rfl
  · cases h

theorem leaves_colonsOrBlanks : Leaves s (colonsOrBlanks s) := by
  refine .dropWhile fun c hc => ?_
  rcases Bool.or_eq_true_iff.1 hc with hcolon | hblank
  · rw [of_decide_eq_true hcolon]
    exact Number.isDigit_eq_false (by decide) rfl
  · exact Number.isDigit_of_isBlank hblank

/-! ## Layouts -/

/-- The characters that an item wants one of are no digits. -/
def Item.IsMarked : Item → Prop
  | .oneOf chars => ∀ c ∈ chars, Text.isDigit c = false
  | _ => True

instance : DecidablePred Item.IsMarked := fun item =>
  match item with
  | .oneOf chars => List.decidableBAll (fun c => Text.isDigit c = false) chars
  | .exact _ | .loose _ | .fraction | .blanks | .zone | .looseZone => isTrue trivial

theorem leaves_of_take? (hitem : item.IsMarked) (h : take? found s item = some (next, rest)) :
    Leaves s rest := by
  -- numbers, fractions and offsets take digits of ASCII only, and nothing else takes a digit
  cases item with
  | exact field =>
    simp only [take?, Option.bind_eq_bind, Option.bind_eq_some_iff] at h
    obtain ⟨⟨n, left⟩, htaken, stored, -, heq⟩ := h
    obtain ⟨-, rfl⟩ := Prod.mk.inj (Option.some.inj heq)
    exact leaves_of_takeNumber? htaken
  | loose field =>
    simp only [take?, Option.bind_eq_bind, Option.bind_eq_some_iff] at h
    obtain ⟨⟨n, left⟩, htaken, stored, -, heq⟩ := h
    obtain ⟨-, rfl⟩ := Prod.mk.inj (Option.some.inj heq)
    exact leaves_of_takeLoose? htaken
  | fraction =>
    simp only [take?, Option.bind_eq_bind, Option.bind_eq_some_iff] at h
    obtain ⟨⟨n, left⟩, htaken, heq⟩ := h
    obtain ⟨-, rfl⟩ := Prod.mk.inj (Option.some.inj heq)
    exact leaves_of_takeFraction? htaken
  | oneOf chars =>
    cases s with
    | nil => cases h
    | cons c s =>
      rw [take?, Option.ite_none_right_eq_some] at h
      obtain ⟨-, rfl⟩ := Prod.mk.inj (Option.some.inj h.2)
      exact .cons (hitem c (List.contains_iff_mem.1 h.1))
  | blanks =>
    obtain ⟨-, rfl⟩ := Prod.mk.inj (Option.some.inj h)
    exact leaves_dropBlanks
  | zone =>
    rw [take?.eq_def] at h
    dsimp only at h
    split at h
    · obtain ⟨-, rfl⟩ := Prod.mk.inj (Option.some.inj h)
      exact .mark (by decide) rfl
    · obtain ⟨-, rfl⟩ := Prod.mk.inj (Option.some.inj h)
      exact .mark (by decide) rfl
    · simp only [Option.bind_eq_bind, Option.bind_eq_some_iff] at h
      obtain ⟨⟨n, left⟩, htaken, heq⟩ := h
      obtain ⟨-, rfl⟩ := Prod.mk.inj (Option.some.inj heq)
      exact leaves_of_takeOffset? (fun _ _ => leaves_of_colon?) htaken
  | looseZone =>
    simp only [take?, Option.bind_eq_bind, Option.bind_eq_some_iff] at h
    obtain ⟨⟨n, left⟩, htaken, heq⟩ := h
    obtain ⟨-, rfl⟩ := Prod.mk.inj (Option.some.inj heq)
    refine leaves_dropBlanks.trans (leaves_of_takeOffset? (fun s t hst => ?_) htaken)
    obtain rfl := Option.some.inj hst
    exact leaves_colonsOrBlanks

/-- A text that is read has no digits but those of ASCII. -/
theorem plain_of_readFrom? (hitems : ∀ item ∈ items, item.IsMarked)
    (h : readFrom? found s items = some next) : HasPlainDigits s := by
  induction items generalizing found s with
  | nil =>
    rw [readFrom?, Option.ite_none_right_eq_some, List.isEmpty_iff] at h
    rw [h.1]
    simp [HasPlainDigits]
  | cons item items ih =>
    obtain ⟨hitem, hitems⟩ := List.forall_mem_cons.1 hitems
    simp only [readFrom?, Option.bind_eq_bind, Option.bind_eq_some_iff] at h
    obtain ⟨⟨middle, rest⟩, htake, hrest⟩ := h
    obtain ⟨taken, rfl, htaken⟩ := leaves_of_take? hitem htake
    exact fun c hc => (List.mem_append.1 hc).elim (htaken c) (ih hitems hrest c)

theorem plain_of_readMoment? {text : String} {moment : Moment}
    (h : readMoment? text = some moment) : HasPlainDigits text.toList := by
  obtain ⟨layout, hlayout, hread⟩ := List.exists_of_findSome?_eq_some h
  obtain ⟨found, hfound, -⟩ := Option.bind_eq_some_iff.1 hread
  have hmarked : ∀ layout ∈ layouts, ∀ item ∈ layout, item.IsMarked := by
    decide +kernel
  exact plain_of_readFrom? (hmarked layout hlayout) hfound

end Gherkin.Layout
