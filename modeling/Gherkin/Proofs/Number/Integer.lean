/-
  Gherkin.Proofs.Number.Integer

  Reading a whole number. An optional sign and ASCII digits have the value that
  the digits stand for in base ten, however many of them there are; it is the
  value that is read if it fits into 64 bits, and the fault tells on which side
  it does not.
-/
import Gherkin.Number.Numeral
import Gherkin.Text.Blank
import Gherkin.Text.Digit
import Mathlib.Data.List.TakeDrop
import Mathlib.Data.List.TakeWhile

namespace Gherkin.Number

/-! ## Digits and signs -/

/-- At least one character, each of them a digit of some sort. -/
def AreDigits (digit : Char → Bool) (s : List Char) : Prop := s ≠ [] ∧ ∀ c ∈ s, digit c = true

instance (digit : Char → Bool) (s : List Char) : Decidable (AreDigits digit s) :=
  @instDecidableAnd (s ≠ []) (∀ c ∈ s, digit c = true) inferInstance (List.decidableBAll _ s)

/-- Whether all digits of a text are those of ASCII. -/
def HasPlainDigits (s : List Char) : Prop := ∀ c ∈ s, Text.isDigit c = true → c.isDigit = true

instance (s : List Char) : Decidable (HasPlainDigits s) :=
  List.decidableBAll _ s

theorem isDigit_of_plain {c : Char} (h : c.isDigit = true) : Text.isDigit c = true := by
  simp only [Char.isDigit, Bool.and_eq_true, decide_eq_true_eq] at h
  exact Text.Ranges.contains_iff.2 ⟨(0x30, 0x39), by simp [Text.digitRanges], h⟩

/-- The digits of other scripts stand far behind those of ASCII. -/
theorem isDigit_of_ascii {c : Char} (h : Text.isDigit c = true) (hascii : c.toNat < 128) :
    c.isDigit = true := by
  obtain ⟨range, hrange, hfirst, hlast⟩ := Text.Ranges.contains_iff.1 h
  have hall : ∀ range ∈ Text.digitRanges, range = (0x30, 0x39) ∨ 128 ≤ range.1 := by
    decide +kernel
  rcases hall range hrange with rfl | hbeyond
  · simp only [Char.isDigit, Bool.and_eq_true, decide_eq_true_eq]
    exact ⟨hfirst, hlast⟩
  · omega

/-- What is no digit in ASCII is none at all. -/
theorem isDigit_eq_false {c : Char} (hascii : c.toNat < 128) (hc : c.isDigit = false) :
    Text.isDigit c = false := by
  rw [Bool.eq_false_iff] at hc ⊢
  exact fun hdigit => hc (isDigit_of_ascii hdigit hascii)

/-- Blanks are no digits. -/
theorem isDigit_of_isBlank {c : Char} (h : Text.isBlank c = true) : Text.isDigit c = false := by
  have hapart : ∀ blanks ∈ Text.blankRanges, ∀ digits ∈ Text.digitRanges,
      blanks.2 < digits.1 ∨ digits.2 < blanks.1 := by
    decide +kernel
  obtain ⟨blanks, hblanks, hfirst, hlast⟩ := Text.Ranges.contains_iff.1 h
  rw [Bool.eq_false_iff]
  intro hdigit
  obtain ⟨digits, hdigits, hfirst', hlast'⟩ := Text.Ranges.contains_iff.1 hdigit
  have := hapart blanks hblanks digits hdigits
  omega

theorem AreDigits.plain {s : List Char} (h : AreDigits Text.isDigit s) (hplain : HasPlainDigits s) :
    AreDigits Char.isDigit s :=
  ⟨h.1, fun c hc => hplain c hc (h.2 c hc)⟩

theorem AreDigits.script {s : List Char} (h : AreDigits Char.isDigit s) :
    AreDigits Text.isDigit s :=
  ⟨h.1, fun c hc => isDigit_of_plain (h.2 c hc)⟩

/-- What may stand before digits, and whether it is a minus. -/
inductive IsSign : List Char → Bool → Prop
  | nothing : IsSign [] false
  | plus : IsSign ['+'] false
  | minus : IsSign ['-'] true

theorem digitsValue_eq (digits : List Char) : digitsValue digits = Nat.ofDigitChars 10 digits 0 := by
  rw [Nat.ofDigitChars_eq_foldl, digitsValue]
  simp only [digitValue, Nat.mul_comm]

theorem IsSign.plain_append {sign : List Char} {negative : Bool} (h : IsSign sign negative)
    {s : List Char} (hs : HasPlainDigits s) : HasPlainDigits (sign ++ s) := by
  have hplus : Text.isDigit '+' = false := isDigit_eq_false (by decide) rfl
  have hminus : Text.isDigit '-' = false := isDigit_eq_false (by decide) rfl
  have hnone : ∀ c ∈ sign, Text.isDigit c = false := by
    cases h <;> simp [hplus, hminus]
  intro c hc hdigit
  rcases List.mem_append.1 hc with hc | hc
  · cases (hnone c hc).symm.trans hdigit
  · exact hs c hc hdigit

/-- A sign is taken off whatever starts with none. -/
theorem IsSign.takeSign {sign : List Char} {negative : Bool} (h : IsSign sign negative)
    {s : List Char} (hs : ∀ c ∈ s.head?, c ≠ '+' ∧ c ≠ '-') :
    Number.takeSign (sign ++ s) = (negative, s) := by
  cases h with
  | nothing =>
    rw [List.nil_append]
    cases s with
    | nil => rfl
    | cons c s =>
      obtain ⟨hplus, hminus⟩ := hs c rfl
      rw [Number.takeSign]
      · exact fun t heq => hminus (List.cons.inj heq).1
      · exact fun t heq => hplus (List.cons.inj heq).1
  | plus => rfl
  | minus => rfl

theorem AreDigits.head_ne_sign {s : List Char} (h : AreDigits Text.isDigit s) (t : List Char) :
    ∀ c ∈ (s ++ t).head?, c ≠ '+' ∧ c ≠ '-' := by
  obtain ⟨hne, hall⟩ := h
  obtain ⟨d, s, rfl⟩ := List.exists_cons_of_ne_nil hne
  intro c hc
  obtain rfl : d = c := by simpa using hc
  have hdigit := hall d (by simp)
  constructor
  · rintro rfl
    cases hdigit.symm.trans (isDigit_eq_false (by decide) rfl)
  · rintro rfl
    cases hdigit.symm.trans (isDigit_eq_false (by decide) rfl)

/-- Digits are taken as far as they go. -/
theorem spanDigits_append {s rest : List Char} (hs : ∀ c ∈ s, c.isDigit = true)
    (hrest : ∀ c ∈ rest.head?, c.isDigit = false) : spanDigits (s ++ rest) = (s, rest) := by
  have hend : rest.takeWhile Char.isDigit = [] ∧ rest.dropWhile Char.isDigit = rest := by
    cases rest with
    | nil => exact ⟨rfl, rfl⟩
    | cons c rest =>
      have hc : ¬ c.isDigit = true := by simpa using hrest c rfl
      exact ⟨List.takeWhile_cons_of_neg hc, List.dropWhile_cons_of_neg hc⟩
  rw [spanDigits, List.span_eq_takeWhile_dropWhile, List.takeWhile_append_of_pos hs,
    List.dropWhile_append_of_pos hs, hend.1, hend.2, List.append_nil]

/-! ## Magnitudes -/

variable {negative : Bool} {n : Nat} {s : List Char}

theorem tenPow_pos (n : Nat) : 0 < tenPow n := Nat.pow_pos (by decide)

theorem tenPow_succ (n : Nat) : tenPow (n + 1) = tenPow n * 10 := rfl

theorem tenPow_add (m n : Nat) : tenPow (m + n) = tenPow m * tenPow n := Nat.pow_add 10 m n

theorem tenPow_le {m n : Nat} (h : m ≤ n) : tenPow m ≤ tenPow n :=
  Nat.pow_le_pow_right (by decide) h

/-- Digits behind a number move it up by as many places. -/
theorem ofDigitChars_eq (n : Nat) (s : List Char) :
    Nat.ofDigitChars 10 s n = tenPow s.length * n + Nat.ofDigitChars 10 s 0 :=
  Nat.ofDigitChars_eq_ofDigitChars_zero

/-- Further digits make a number no smaller. -/
theorem le_ofDigitChars (n : Nat) (s : List Char) : n ≤ Nat.ofDigitChars 10 s n := by
  rw [ofDigitChars_eq]
  calc n ≤ tenPow s.length * n := Nat.le_mul_of_pos_left n (tenPow_pos _)
    _ ≤ _ := Nat.le_add_right _ _

/-- So many digits stand for no more than the power of ten. -/
theorem ofDigitChars_lt (hs : ∀ c ∈ s, c.isDigit = true) :
    Nat.ofDigitChars 10 s 0 < tenPow s.length := by
  induction s with
  | nil => exact Nat.one_pos
  | cons c s ih =>
    obtain ⟨hc, hs⟩ := List.forall_mem_cons.1 hs
    have hdigit : c.toNat - '0'.toNat ≤ 9 := by
      simp only [Char.isDigit, Bool.and_eq_true, decide_eq_true_eq] at hc
      have hlast : c.toNat ≤ 57 := hc.2
      have hzero : '0'.toNat = 48 := rfl
      omega
    rw [Nat.ofDigitChars_cons, ofDigitChars_eq, List.length_cons, Nat.mul_zero, Nat.zero_add,
      tenPow_succ]
    calc tenPow s.length * (c.toNat - '0'.toNat) + Nat.ofDigitChars 10 s 0
        < tenPow s.length * (c.toNat - '0'.toNat) + tenPow s.length :=
          Nat.add_lt_add_left (ih hs) _
      _ = tenPow s.length * (c.toNat - '0'.toNat + 1) := (Nat.mul_succ _ _).symm
      _ ≤ tenPow s.length * 10 := Nat.mul_le_mul_left _ (by omega)

/-- The fault of a number that does not fit. -/
def outOfRange (negative : Bool) : IntegerFault := if negative then .tooSmall else .tooLarge

/-- Digits are read as far as their number fits. The number only grows on the way, so that it does
    not fit in the end if it did not once. -/
theorem readMagnitude_digits (hs : ∀ c ∈ s, c.isDigit = true) (hn : n ≤ magnitudeLimit negative) :
    readMagnitude negative n s =
      if Nat.ofDigitChars 10 s n ≤ magnitudeLimit negative then .ok (Nat.ofDigitChars 10 s n)
      else .error (outOfRange negative) := by
  induction s generalizing n with
  | nil => rw [readMagnitude, Nat.ofDigitChars_nil, if_pos hn]
  | cons c s ih =>
    obtain ⟨hc, hs⟩ := List.forall_mem_cons.1 hs
    have hvalue : Nat.ofDigitChars 10 (c :: s) n = Nat.ofDigitChars 10 s (n * 10 + digitValue c) := by
      rw [Nat.ofDigitChars_cons, Nat.mul_comm, digitValue]
    rw [readMagnitude, hc, Bool.not_true, if_neg Bool.false_ne_true, hvalue]
    by_cases hfits : n * 10 + digitValue c ≤ magnitudeLimit negative
    · rw [if_neg (Nat.not_lt.2 hfits), ih hs hfits]
    · have hbeyond : ¬ Nat.ofDigitChars 10 s (n * 10 + digitValue c) ≤ magnitudeLimit negative :=
        fun h => hfits (Nat.le_trans (le_ofDigitChars _ s) h)
      rw [if_pos (Nat.lt_of_not_le hfits), if_neg hbeyond]
      rfl

/-- Nothing but digits is read. -/
theorem readMagnitude_other (hs : ¬ ∀ c ∈ s, c.isDigit = true) :
    ∃ fault, readMagnitude negative n s = .error fault := by
  induction s generalizing n with
  | nil => exact absurd (by simp) hs
  | cons c s ih =>
    rw [readMagnitude]
    by_cases hc : c.isDigit = true
    · rw [hc, Bool.not_true, if_neg Bool.false_ne_true]
      split
      · exact ⟨_, rfl⟩
      · exact ih fun hrest => hs (List.forall_mem_cons.2 ⟨hc, hrest⟩)
    · rw [if_pos (by simpa using hc)]
      exact ⟨_, rfl⟩

/-! ## Whole numbers -/

variable {sign digits : List Char} {text : String}

/-- The whole number with a sign and a magnitude. -/
def signed (negative : Bool) (n : Nat) : Int := if negative then -(n : Int) else n

/-- The whole numbers on 64 bits. -/
def FitsInteger (n : Int) : Prop := -(twoPow 63 : Int) ≤ n ∧ n < twoPow 63

instance (n : Int) : Decidable (FitsInteger n) :=
  inferInstanceAs (Decidable (-(twoPow 63 : Int) ≤ n ∧ n < twoPow 63))

theorem fitsInteger_signed_iff : FitsInteger (signed negative n) ↔ n ≤ magnitudeLimit negative := by
  have hpow : twoPow 63 = 9223372036854775808 := rfl
  cases negative with
  | false =>
    have hlimit : magnitudeLimit false = 9223372036854775807 := by decide
    rw [hlimit, FitsInteger, signed, hpow]
    simp only [Bool.false_eq_true, if_false]
    omega
  | true =>
    have hlimit : magnitudeLimit true = 9223372036854775808 := by decide
    rw [hlimit, FitsInteger, signed, hpow]
    simp only [if_true]
    omega

theorem readInteger_eq (hsign : IsSign sign negative) (hdigits : AreDigits Text.isDigit digits)
    (htext : text.toList = sign ++ digits) :
    readInteger text = (readMagnitude negative 0 digits).map (signed negative) := by
  have hne : text.isEmpty = false := by
    rw [Bool.eq_false_iff]
    intro hempty
    rw [String.isEmpty_iff.1 hempty] at htext
    exact hdigits.1 (List.append_eq_nil_iff.1 htext.symm).2
  have hhead := hdigits.head_ne_sign []
  rw [List.append_nil] at hhead
  rw [readInteger, hne, if_neg Bool.false_ne_true, htext, hsign.takeSign hhead]
  dsimp only
  rw [List.isEmpty_eq_false_iff.2 hdigits.1, if_neg Bool.false_ne_true]
  cases readMagnitude negative 0 digits with
  | error fault => rfl
  | ok n => rfl

/-- A sign and ASCII digits are read as the number that they stand for, if it fits. -/
theorem readInteger_of_digits (hsign : IsSign sign negative) (hdigits : AreDigits Char.isDigit digits)
    (htext : text.toList = sign ++ digits) :
    readInteger text =
      if FitsInteger (signed negative (Nat.ofDigitChars 10 digits 0)) then
        .ok (signed negative (Nat.ofDigitChars 10 digits 0))
      else .error (outOfRange negative) := by
  rw [readInteger_eq hsign hdigits.script htext, readMagnitude_digits hdigits.2 (Nat.zero_le _)]
  by_cases hfits : Nat.ofDigitChars 10 digits 0 ≤ magnitudeLimit negative
  · rw [if_pos hfits, if_pos (fitsInteger_signed_iff.2 hfits)]
    rfl
  · rw [if_neg hfits, if_neg fun h => hfits (fitsInteger_signed_iff.1 h)]
    rfl

/-- Digits of other scripts are refused, although they are digits. -/
theorem readInteger_of_other (hsign : IsSign sign negative) (hdigits : AreDigits Text.isDigit digits)
    (hother : ¬ HasPlainDigits digits) (htext : text.toList = sign ++ digits) :
    ∃ fault, readInteger text = .error fault := by
  have hnot : ¬ ∀ c ∈ digits, c.isDigit = true := fun h => hother fun c hc _ => h c hc
  obtain ⟨fault, hfault⟩ : ∃ fault, readMagnitude negative 0 digits = .error fault :=
    readMagnitude_other hnot
  rw [readInteger_eq hsign hdigits htext, hfault]
  exact ⟨fault, rfl⟩

end Gherkin.Number
