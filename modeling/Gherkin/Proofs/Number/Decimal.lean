/-
  Gherkin.Proofs.Number.Decimal

  Which decimal numerals are read. A sign, digits with a point before the last of
  them or in front, and an exponent make up a numeral, in the digits of any
  script. It is read as a number just in case its digits are those of ASCII,
  since nothing but ASCII is ever read.
-/
import Gherkin.Number.Binary64
import Gherkin.Proofs.Number.Integer

namespace Gherkin

open Number (AreDigits IsSign HasPlainDigits spanDigits)

namespace Number

variable {digit : Char → Bool} {s : List Char}

/-! ## Numerals -/

/-- Digits, or a point with digits behind it and maybe in front. -/
def IsMantissa (digit : Char → Bool) (s : List Char) : Prop :=
  AreDigits digit s ∨
    ∃ whole fraction, s = whole ++ '.' :: fraction ∧ (whole = [] ∨ AreDigits digit whole) ∧
      AreDigits digit fraction

/-- Nothing, or the mark of an exponent with a sign and digits. -/
def IsExponent (digit : Char → Bool) (s : List Char) : Prop :=
  s = [] ∨
    ∃ mark sign negative digits, s = mark :: (sign ++ digits) ∧ (mark = 'e' ∨ mark = 'E') ∧
      IsSign sign negative ∧ AreDigits digit digits

/-- A numeral. -/
def IsNumeral (digit : Char → Bool) (s : List Char) : Prop :=
  ∃ sign negative mantissa exponent, s = sign ++ (mantissa ++ exponent) ∧ IsSign sign negative ∧
    IsMantissa digit mantissa ∧ IsExponent digit exponent

theorem HasPlainDigits.of_subset {t : List Char} (h : HasPlainDigits t) (hsub : s ⊆ t) :
    HasPlainDigits s :=
  fun c hc => h c (hsub hc)

/-- The digits of a numeral are those of ASCII if all digits in it are. -/
theorem IsNumeral.plain (h : IsNumeral Text.isDigit s) (hplain : HasPlainDigits s) :
    IsNumeral Char.isDigit s := by
  obtain ⟨sign, negative, mantissa, exponent, rfl, hsign, hmantissa, hexponent⟩ := h
  refine ⟨sign, negative, mantissa, exponent, rfl, hsign, ?_, ?_⟩
  · rcases hmantissa with hdigits | ⟨whole, fraction, rfl, hwhole, hfraction⟩
    · exact .inl (hdigits.plain (hplain.of_subset fun c hc => by simp [hc]))
    · refine .inr ⟨whole, fraction, rfl, hwhole.imp_right fun h => h.plain ?_,
        hfraction.plain ?_⟩
      · exact hplain.of_subset fun c hc => by simp [hc]
      · exact hplain.of_subset fun c hc => by simp [hc]
  · rcases hexponent with rfl | ⟨mark, sign', negative', digits, rfl, hmark, hsign', hdigits⟩
    · exact .inl rfl
    · exact .inr ⟨mark, sign', negative', digits, rfl, hmark, hsign',
        hdigits.plain (hplain.of_subset fun c hc => by simp [hc])⟩

end Number

namespace Binary64

open Number (IsMantissa IsExponent IsNumeral spanDigits_append)

variable {s : List Char} {text : String}

/-! ## Numerals are read -/

theorem readExponent?_isSome (h : IsExponent Char.isDigit s) : (readExponent? s).isSome = true := by
  rcases h with rfl | ⟨mark, sign, negative, digits, rfl, hmark, hsign, hdigits⟩
  · rfl
  · have hhead := hdigits.script.head_ne_sign []
    rw [List.append_nil] at hhead
    rw [readExponent?, hsign.takeSign hhead]
    dsimp only
    rw [if_pos]
    · rfl
    · exact ⟨hmark, by simpa using hdigits.1, List.all_eq_true.2 hdigits.2⟩

theorem head_ne_digit_of_isExponent (h : IsExponent Char.isDigit s) :
    ∀ c ∈ s.head?, c.isDigit = false := by
  rcases h with rfl | ⟨mark, sign, negative, digits, rfl, hmark, -, -⟩
  · simp
  · rintro c hc
    obtain rfl : mark = c := by simpa using hc
    rcases hmark with rfl | rfl <;> rfl

theorem takeFraction_of_isExponent (h : IsExponent Char.isDigit s) : takeFraction s = ([], s) := by
  rcases h with rfl | ⟨mark, sign, negative, digits, rfl, hmark, -, -⟩
  · rfl
  · rcases hmark with rfl | rfl <;> rfl

theorem readNumeral?_isSome {mantissa exponent : List Char} (negative : Bool)
    (hmantissa : IsMantissa Char.isDigit mantissa) (hexponent : IsExponent Char.isDigit exponent) :
    (readNumeral? negative (mantissa ++ exponent)).isSome = true := by
  -- the mark of the exponent is where the digits before it end
  have hexponentHead := head_ne_digit_of_isExponent hexponent
  rcases hmantissa with hdigits | ⟨whole, fraction, rfl, hwhole, hfraction⟩
  · have hempty : mantissa.isEmpty = false := List.isEmpty_eq_false_iff.2 hdigits.1
    simp only [readNumeral?, spanDigits_append hdigits.2 hexponentHead,
      takeFraction_of_isExponent hexponent, hempty, Bool.false_and, Bool.false_eq_true, if_false,
      Option.isSome_map, readExponent?_isSome hexponent]
  · have hwhole' : ∀ c ∈ whole, c.isDigit = true := by
      rcases hwhole with rfl | hwhole
      · simp
      · exact hwhole.2
    have hspan : spanDigits (whole ++ '.' :: fraction ++ exponent) =
        (whole, '.' :: (fraction ++ exponent)) := by
      rw [List.append_assoc, List.cons_append]
      exact spanDigits_append hwhole' (by simp)
    have hempty : fraction.isEmpty = false := List.isEmpty_eq_false_iff.2 hfraction.1
    simp only [readNumeral?, hspan, takeFraction, spanDigits_append hfraction.2 hexponentHead,
      hempty, Bool.and_false, Bool.false_eq_true, if_false, Option.isSome_map,
      readExponent?_isSome hexponent]

theorem read_of_isNumeral (h : IsNumeral Char.isDigit text.toList) :
    ∃ number, read text = .ok number := by
  obtain ⟨sign, negative, mantissa, exponent, htext, hsign, hmantissa, hexponent⟩ := h
  -- neither a digit nor a point is taken for a sign
  have hhead : ∀ c ∈ (mantissa ++ exponent).head?, c ≠ '+' ∧ c ≠ '-' := by
    rcases hmantissa with hdigits | ⟨whole, fraction, rfl, rfl | hwhole, -⟩
    · exact hdigits.script.head_ne_sign exponent
    · rintro c hc
      obtain rfl : '.' = c := by simpa using hc
      exact ⟨by decide, by decide⟩
    · rw [List.append_assoc]
      exact hwhole.script.head_ne_sign _
  have hne : mantissa ≠ [] := by
    rcases hmantissa with hdigits | ⟨whole, fraction, rfl, -⟩
    · exact hdigits.1
    · simp
  have hempty : text.isEmpty = false := by
    rw [Bool.eq_false_iff]
    intro hempty
    rw [String.isEmpty_iff.1 hempty] at htext
    simp_all
  obtain ⟨number, hnumber⟩ := Option.isSome_iff_exists.1
    (readNumeral?_isSome negative hmantissa hexponent)
  rw [read, hempty, if_neg Bool.false_ne_true, htext, hsign.takeSign hhead]
  dsimp only
  rw [hnumber]
  split
  · exact ⟨_, rfl⟩
  · split
    · exact ⟨_, rfl⟩
    · exact ⟨number, rfl⟩

/-! ## Only ASCII is read -/

/-- Whether all characters are those of ASCII. -/
def IsAscii (s : List Char) : Prop := ∀ c ∈ s, c.toNat < 128

instance (s : List Char) : Decidable (IsAscii s) :=
  List.decidableBAll _ s

theorem isAscii_of_digit {c : Char} (h : c.isDigit = true) : c.toNat < 128 := by
  simp only [Char.isDigit, Bool.and_eq_true, decide_eq_true_eq] at h
  have hlast : c.toNat ≤ 57 := h.2
  omega

theorem isAscii_of_toLower {c : Char} (h : c.toLower.toNat < 128) : c.toNat < 128 := by
  unfold Char.toLower at h
  split at h
  · next hupper =>
    have hlast : c.toNat ≤ 90 := hupper.2
    omega
  · exact h

/-- The digits that are taken are those of ASCII, so that only what is left counts. -/
theorem isAscii_of_spanDigits (h : IsAscii (spanDigits s).2) : IsAscii s := by
  intro c hc
  rw [spanDigits, List.span_eq_takeWhile_dropWhile] at h
  rw [← List.takeWhile_append_dropWhile (p := Char.isDigit) (l := s)] at hc
  rcases List.mem_append.1 hc with hc | hc
  · exact isAscii_of_digit (List.mem_takeWhile_imp hc)
  · exact h c hc

theorem isAscii_of_takeSign (h : IsAscii (Number.takeSign s).2) : IsAscii s := by
  unfold Number.takeSign at h
  split at h
  · exact List.forall_mem_cons.2 ⟨by decide, h⟩
  · exact List.forall_mem_cons.2 ⟨by decide, h⟩
  · exact h

theorem isAscii_of_takeFraction (h : IsAscii (takeFraction s).2) : IsAscii s := by
  unfold takeFraction at h
  split at h
  · exact List.forall_mem_cons.2 ⟨by decide, isAscii_of_spanDigits h⟩
  · exact h

theorem isAscii_of_readExponent? (h : (readExponent? s).isSome = true) : IsAscii s := by
  cases s with
  | nil => simp [IsAscii]
  | cons c s =>
    rw [readExponent?] at h
    dsimp only at h
    split at h
    · next hexponent =>
      obtain ⟨hmark, -, hdigits⟩ := hexponent
      refine List.forall_mem_cons.2 ⟨?_, isAscii_of_takeSign fun d hd => ?_⟩
      · rcases hmark with rfl | rfl <;> decide
      · exact isAscii_of_digit (List.all_eq_true.1 hdigits d hd)
    · cases h

theorem isAscii_of_readNumeral? {negative : Bool} (h : (readNumeral? negative s).isSome = true) :
    IsAscii s := by
  rw [readNumeral?] at h
  dsimp only at h
  split at h
  · cases h
  · rw [Option.isSome_map] at h
    exact isAscii_of_spanDigits (isAscii_of_takeFraction (isAscii_of_readExponent? h))

theorem isAscii_of_name {name : String} (hname : String.ofList (s.map Char.toLower) = name)
    (hascii : IsAscii name.toList) : IsAscii s := by
  intro c hc
  refine isAscii_of_toLower (hascii _ ?_)
  rw [← hname, String.toList_ofList]
  exact List.mem_map_of_mem hc

theorem isAscii_of_read {number : Binary64} (h : read text = .ok number) : IsAscii text.toList := by
  rw [read] at h
  split at h
  · cases h
  · refine isAscii_of_takeSign ?_
    dsimp only at h
    split at h
    · next hname =>
      rcases hname with hname | hname
      · exact isAscii_of_name hname (by decide)
      · exact isAscii_of_name hname (by decide)
    · split at h
      · next hname => exact isAscii_of_name hname (by decide)
      · split at h
        · next hnumber => exact isAscii_of_readNumeral? (by rw [hnumber]; rfl)
        · cases h

/-! ## Numerals in any script -/

/-- A numeral is read just in case its digits are those of ASCII. -/
theorem read_ok_iff (h : IsNumeral Text.isDigit text.toList) :
    (∃ number, read text = .ok number) ↔ HasPlainDigits text.toList := by
  constructor
  · rintro ⟨number, hnumber⟩ c hc hdigit
    exact Number.isDigit_of_ascii hdigit (isAscii_of_read hnumber c hc)
  · exact fun hplain => read_of_isNumeral (h.plain hplain)

end Binary64

end Gherkin
