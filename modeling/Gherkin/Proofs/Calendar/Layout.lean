/-
  Gherkin.Proofs.Calendar.Layout

  What the items of a layout do to the characters of a spelling, with the rest of
  the text left open: numbers, marks, fractions of a second and zones are taken,
  and stored if there can be such a value. Several layouts that start alike go on
  together behind what they share.
-/
import Gherkin.Proofs.Calendar.Spelling
import Gherkin.Proofs.Number.Decimal

namespace Gherkin.Layout

open Number (tenPow tenPow_add tenPow_pos)

variable {found : Found} {s rest : List Char} {item : Item} {items : List Item}
  {layout : List Item} {layouts : List (List Item)}

/-! ## Numbers -/

section Numbers

variable {least most : Nat} {digits : List Char}

theorem takeWhile_take_of_head (hrest : ∀ c ∈ rest.head?, c.isDigit = false) (n : Nat) :
    (rest.take n).takeWhile Char.isDigit = [] := by
  cases rest with
  | nil => rw [List.take_nil, List.takeWhile_nil]
  | cons c rest =>
    cases n with
    | zero => rfl
    | succ n => rw [List.take_succ_cons, List.takeWhile_cons_of_neg (by simpa using hrest c rfl)]

/-- Digits are taken up to the greatest number of them, or up to what is no digit. -/
theorem takeNumber?_append (hdigits : ∀ c ∈ digits, c.isDigit = true) (hleast : least ≤ digits.length)
    (hmost : digits.length ≤ most)
    (hrest : digits.length = most ∨ ∀ c ∈ rest.head?, c.isDigit = false) :
    takeNumber? least most (digits ++ rest) = some (Nat.ofDigitChars 10 digits 0, rest) := by
  have hend : (rest.take (most - digits.length)).takeWhile Char.isDigit = [] := by
    rcases hrest with heq | hrest
    · rw [heq, Nat.sub_self, List.take_zero, List.takeWhile_nil]
    · exact takeWhile_take_of_head hrest _
  have htaken : ((digits ++ rest).take most).takeWhile Char.isDigit = digits := by
    rw [List.take_append, List.take_of_length_le hmost, List.takeWhile_append_of_pos hdigits, hend,
      List.append_nil]
  rw [takeNumber?, htaken, if_neg (Nat.not_lt.2 hleast), List.drop_left, Number.digitsValue_eq]

/-- Too few digits are not taken. -/
theorem takeNumber?_short (hdigits : ∀ c ∈ digits, c.isDigit = true) (hshort : digits.length < least)
    (hrest : ∀ c ∈ rest.head?, c.isDigit = false) :
    takeNumber? least most (digits ++ rest) = none := by
  have htaken : ((digits ++ rest).take most).takeWhile Char.isDigit = digits.take most := by
    rw [List.take_append, List.takeWhile_append_of_pos fun c hc =>
      hdigits c (List.mem_of_mem_take hc), takeWhile_take_of_head hrest, List.append_nil]
  rw [takeNumber?, htaken, if_pos]
  exact Nat.lt_of_le_of_lt (List.length_take_le' _ _) hshort

theorem isBlank_of_isDigit {c : Char} (hc : c.isDigit = true) : Text.isBlank c = false := by
  rw [Bool.eq_false_iff]
  intro hblank
  cases (Number.isDigit_of_isBlank hblank).symm.trans (Number.isDigit_of_plain hc)

/-- A loose number that starts with a digit has no sign. -/
theorem takeLoose?_cons (field : Field) {c : Char} (hc : c.isDigit = true) :
    takeLoose? field (c :: s) =
      (takeNumber? 1 field.width (c :: s)).map fun (n, rest) => ((n : Int), rest) := by
  have hdrop : Text.dropBlanks (c :: s) = c :: s := by
    rw [Text.dropBlanks, List.dropWhile_cons_of_neg (by simp [isBlank_of_isDigit hc])]
  have hplus : c ≠ '+' := by
    rintro rfl
    exact absurd hc (by decide)
  have hminus : c ≠ '-' := by
    rintro rfl
    exact absurd hc (by decide)
  unfold takeLoose?
  rw [hdrop]
  split
  · next heq => exact absurd (List.cons.inj heq).1 hminus
  · next heq => exact absurd (List.cons.inj heq).1 hplus
  · rfl

theorem Digits.exists_cons {most : Option Nat} (digits : Digits (least + 1) most) :
    ∃ c s, digits.chars = c :: s ∧ c.isDigit = true := by
  obtain ⟨c, s, hchars⟩ := List.exists_cons_of_length_pos (Nat.lt_of_lt_of_le (Nat.succ_pos _)
    digits.least_le)
  exact ⟨c, s, hchars, digits.isDigit c (by simp [hchars])⟩

end Numbers

/-! ## Items -/

theorem readFrom?_cons : readFrom? found s (item :: items) =
    (take? found s item).bind fun next => readFrom? next.1 next.2 items :=
  rfl

theorem readFrom?_oneOf (c : Char) (chars : List Char) :
    readFrom? found (c :: s) (.oneOf chars :: items) =
      if chars.contains c then readFrom? found s items else none := by
  rw [readFrom?_cons, take?]
  split <;> rfl

/-- The item of a number, exact or loose. -/
def number (exact : Bool) (field : Field) : Item := if exact then .exact field else .loose field

/-- A loose number is read if its field can have that value. -/
theorem readFrom?_loose (field : Field) {most : Option Nat} (digits : Digits 1 most)
    (hmost : digits.chars.length ≤ field.width)
    (hs : digits.chars.length = field.width ∨ ∀ c ∈ s.head?, c.isDigit = false) :
    readFrom? found (digits.chars ++ s) (.loose field :: items) =
      (field.store found digits.value).bind fun found => readFrom? found s items := by
  have htaken : takeNumber? 1 field.width (digits.chars ++ s) = some (digits.value, s) :=
    takeNumber?_append digits.isDigit digits.least_le hmost hs
  obtain ⟨c, t, hchars, hc⟩ := digits.exists_cons
  rw [hchars, List.cons_append] at htaken ⊢
  rw [readFrom?_cons, take?, takeLoose?_cons field hc, htaken]
  cases h : field.store found digits.value with
  | none => simp [h]
  | some found => simp [h]

/-- An exact number is read if its field can have that value. -/
theorem readFrom?_exact (field : Field) {width : Nat} (digits : Digits width (some width))
    (hwidth : field.width = width) :
    readFrom? found (digits.chars ++ s) (.exact field :: items) =
      (field.store found digits.value).bind fun found => readFrom? found s items := by
  have hlength : digits.chars.length = width :=
    Nat.le_antisymm (digits.le_most width rfl) digits.least_le
  have htaken : takeNumber? field.width field.width (digits.chars ++ s) = some (digits.value, s) := by
    rw [hwidth]
    exact takeNumber?_append digits.isDigit digits.least_le (Nat.le_of_eq hlength) (.inl hlength)
  rw [readFrom?_cons, take?, htaken]
  cases h : field.store found digits.value with
  | none => simp [h]
  | some found => simp [h]

/-- A number that has all its digits is read in the same way, whether the item is exact or not. -/
theorem readFrom?_number (exact : Bool) (field : Field) {width : Nat}
    (digits : Digits width (some width)) (hwidth : field.width = width) :
    readFrom? found (digits.chars ++ s) (number exact field :: items) =
      (field.store found digits.value).bind fun found => readFrom? found s items := by
  cases exact with
  | true => exact readFrom?_exact field digits hwidth
  | false =>
    have hlength : digits.chars.length = field.width := by
      rw [hwidth]
      exact Nat.le_antisymm (digits.le_most width rfl) digits.least_le
    have hleast : 1 ≤ width := by
      rw [← hwidth]
      cases field <;> decide
    exact readFrom?_loose field (digits.relax hleast) (Nat.le_of_eq hlength) (.inl hlength)

/-! ## Layouts that fail -/

/-- A layout that wants one of some characters fails at another, and at the end. -/
theorem readFrom?_oneOf_of_head {chars : List Char} (hs : ∀ c ∈ s.head?, chars.contains c = false) :
    readFrom? found s (.oneOf chars :: items) = none := by
  cases s with
  | nil => rfl
  | cons c s => rw [readFrom?_oneOf, hs c rfl, if_neg Bool.false_ne_true]

/-- A layout that wants a number fails at what starts with no digit, blank or sign. -/
theorem readFrom?_loose_of_head (field : Field)
    (hs : ∀ c ∈ s.head?, c.isDigit = false ∧ Text.isBlank c = false ∧ c ≠ '-' ∧ c ≠ '+') :
    readFrom? found s (.loose field :: items) = none := by
  have hdrop : Text.dropBlanks s = s := by
    rw [Text.dropBlanks]
    cases s with
    | nil => rfl
    | cons c s => rw [List.dropWhile_cons_of_neg (by simp [hs c rfl])]
  have hnone : takeNumber? 1 field.width ([] ++ s) = none :=
    takeNumber?_short (List.forall_mem_nil _) (by decide) fun c hc => (hs c hc).1
  rw [List.nil_append] at hnone
  have hloose : takeLoose? field s = none := by
    unfold takeLoose?
    rw [hdrop]
    split
    · exact absurd rfl (hs _ rfl).2.2.1
    · exact absurd rfl (hs _ rfl).2.2.2
    · rw [hnone, Option.map_none]
  rw [readFrom?_cons, take?, hloose]
  rfl

/-- A loose number of more digits than its field has fails, if what follows fails at the next of
    them. -/
theorem readFrom?_loose_of_more (field : Field) {digits : List Char}
    (hdigits : ∀ c ∈ digits, c.isDigit = true) (hmore : field.width < digits.length)
    (hitems : ∀ found c s, c.isDigit = true → readFrom? found (c :: s) items = none) :
    readFrom? found (digits ++ s) (.loose field :: items) = none := by
  have hwidth : 1 ≤ field.width := by cases field <;> decide
  have hlength : (digits.take field.width).length = field.width :=
    List.length_take_of_le (Nat.le_of_lt hmore)
  let taken : Digits 1 (some field.width) :=
    { chars := digits.take field.width
      isDigit := fun c hc => hdigits c (List.mem_of_mem_take hc)
      least_le := by rw [hlength]; exact hwidth
      le_most := fun bound hbound => by rw [hlength, Option.some.inj hbound] }
  obtain ⟨c, t, hleft⟩ := List.exists_cons_of_length_pos
    (l := digits.drop field.width) (by rw [List.length_drop]; omega)
  have hc : c.isDigit = true :=
    hdigits c (List.mem_of_mem_drop (hleft ▸ List.mem_cons_self))
  have hchars : digits ++ s = taken.chars ++ (c :: t ++ s) := by
    rw [← hleft, ← List.append_assoc, List.take_append_drop]
  rw [hchars, readFrom?_loose field taken (Nat.le_of_eq hlength) (.inl hlength)]
  cases field.store found taken.value with
  | none => rfl
  | some found => exact hitems found c (t ++ s) hc

/-! ## Several layouts -/

/-- Reads a moment by the first of several layouts that fits, after something was found already. -/
def readAny? (found : Found) (s : List Char) (layouts : List (List Item)) : Option Moment :=
  layouts.findSome? fun layout => (readFrom? found s layout).bind Found.moment?

@[simp] theorem readAny?_nil : readAny? found s [] = none := rfl

theorem readAny?_cons : readAny? found s (layout :: layouts) =
    ((readFrom? found s layout).bind Found.moment?).or (readAny? found s layouts) := by
  rw [readAny?, List.findSome?_cons]
  cases (readFrom? found s layout).bind Found.moment? <;> rfl

/-- A layout that fails is left out. -/
theorem readAny?_cons_of_none (h : readFrom? found s layout = none) :
    readAny? found s (layout :: layouts) = readAny? found s layouts := by
  rw [readAny?_cons, h, Option.bind_none, Option.none_or]

theorem readAny?_append (more : List (List Item)) :
    readAny? found s (layouts ++ more) = (readAny? found s layouts).or (readAny? found s more) :=
  List.findSome?_append

/-- Layouts that go on alike after the same part go on together. -/
theorem readAny?_map {α : Type} {x : Option Found} {layout tail : α → List Item} {as : List α}
    (h : ∀ a ∈ as, readFrom? found s (layout a) =
      x.bind fun found => readFrom? found rest (tail a)) :
    readAny? found s (as.map layout) =
      x.bind fun found => readAny? found rest (as.map tail) := by
  induction as with
  | nil => cases x <;> rfl
  | cons a as ih =>
    obtain ⟨ha, has⟩ := List.forall_mem_cons.1 h
    have hrest := ih has
    rw [List.map_cons, List.map_cons]
    cases x with
    | none => rw [readAny?_cons_of_none ha, hrest, Option.bind_none, Option.bind_none]
    | some next =>
      rw [Option.bind_some] at ha hrest ⊢
      rw [readAny?_cons, readAny?_cons, ha, hrest]

/-! ## Dates and times -/

/-- The items of a date with hyphens. -/
def dateItems (exact : Bool) : List Item :=
  [number exact .year, .oneOf ['-'], number exact .month, .oneOf ['-'], number exact .day]

/-- The items of a time to the minute. -/
def timeItems (exact : Bool) : List Item :=
  [number exact .hour, .oneOf [':'], number exact .minute]

/-- The items of seconds with their fraction. -/
def secondItems (exact : Bool) : List Item := [.oneOf [':'], number exact .second, .fraction]

/-- Stores the numbers of a date. -/
def storeDate? (found : Found) (year month day : Nat) : Option Found :=
  (Field.year.store found year).bind fun found =>
    (Field.month.store found month).bind fun found => Field.day.store found day

/-- Stores the numbers of a time to the minute. -/
def storeTime? (found : Found) (hour minute : Nat) : Option Found :=
  (Field.hour.store found hour).bind fun found => Field.minute.store found minute

theorem readFrom?_date (exact : Bool) (year : Digits 4 (some 4)) (month day : Digits 2 (some 2)) :
    readFrom? found (year.chars ++ '-' :: (month.chars ++ '-' :: (day.chars ++ s)))
        (dateItems exact ++ items) =
      (storeDate? found year.value month.value day.value).bind fun found =>
        readFrom? found s items := by
  simp only [dateItems, List.cons_append, List.nil_append, readFrom?_number exact .year year rfl,
    readFrom?_number exact .month month rfl, readFrom?_number exact .day day rfl, readFrom?_oneOf,
    List.contains_cons, beq_self_eq_true, Bool.true_or, if_true, storeDate?, Option.bind_assoc]

theorem readFrom?_time (exact : Bool) (hour minute : Digits 2 (some 2)) :
    readFrom? found (hour.chars ++ ':' :: (minute.chars ++ s)) (timeItems exact ++ items) =
      (storeTime? found hour.value minute.value).bind fun found => readFrom? found s items := by
  simp only [timeItems, List.cons_append, List.nil_append, readFrom?_number exact .hour hour rfl,
    readFrom?_number exact .minute minute rfl, readFrom?_oneOf, List.contains_cons,
    beq_self_eq_true, Bool.true_or, if_true, storeTime?, Option.bind_assoc]

/-! ## Seconds -/

/-- The first nine digits of a fraction tell its whole nanoseconds. -/
theorem nanoseconds_eq {least : Nat} {most : Option Nat} (digits : Digits least most) :
    nanoseconds digits.chars = digits.nanoseconds := by
  have hvalue : nanoseconds digits.chars = Nat.ofDigitChars 10 (digits.chars.take 9) 0 *
      tenPow (9 - (digits.chars.take 9).length) := by
    rw [nanoseconds, Number.digitsValue_eq]
  rw [hvalue, Digits.nanoseconds, Digits.value]
  rcases Nat.le_total digits.chars.length 9 with hshort | hlong
  · rw [List.take_of_length_le hshort]
    have hpow : tenPow 9 = tenPow (9 - digits.chars.length) * tenPow digits.chars.length := by
      rw [← tenPow_add, Nat.sub_add_cancel hshort]
    rw [hpow, ← Nat.mul_assoc, Nat.mul_div_cancel _ (tenPow_pos _)]
  · -- the digits from the tenth on stand for less than one nanosecond
    have hrest : ∀ c ∈ digits.chars.drop 9, c.isDigit = true :=
      fun c hc => digits.isDigit c (List.mem_of_mem_drop hc)
    have hsplit : Nat.ofDigitChars 10 digits.chars 0 =
        tenPow (digits.chars.drop 9).length * Nat.ofDigitChars 10 (digits.chars.take 9) 0 +
          Nat.ofDigitChars 10 (digits.chars.drop 9) 0 := by
      rw [← Number.ofDigitChars_eq, ← Nat.ofDigitChars_append, List.take_append_drop]
    have hpow : tenPow digits.chars.length = tenPow 9 * tenPow (digits.chars.drop 9).length := by
      rw [List.length_drop, ← tenPow_add, Nat.add_sub_cancel' hlong]
    have hone : tenPow 0 = 1 := rfl
    rw [List.length_take_of_le hlong, Nat.sub_self, hone, Nat.mul_one, hsplit, hpow,
      Nat.mul_comm _ (tenPow 9), Nat.mul_div_mul_left _ _ (tenPow_pos 9),
      Nat.mul_add_div (tenPow_pos _), Nat.div_eq_of_lt (Number.ofDigitChars_lt hrest),
      Nat.add_zero]

/-- Stores seconds and their fraction. -/
def storeSeconds? (found : Found) (seconds : Seconds) : Option Found :=
  (Field.second.store found seconds.whole.value).bind fun found =>
    some { found with nanosecond := seconds.fraction.elim 0 (·.nanoseconds) }

theorem readFrom?_fraction (fraction : Option (Digits 1 none))
    (hs : ∀ c ∈ s.head?, c.isDigit = false ∧ c ≠ '.') :
    readFrom? found ((fraction.elim [] fun digits => '.' :: digits.chars) ++ s)
        (.fraction :: items) =
      readFrom? { found with nanosecond := fraction.elim 0 (·.nanoseconds) } s items := by
  rw [readFrom?_cons, take?]
  cases fraction with
  | none =>
    have htaken : takeFraction? s = some (0, s) := by
      unfold takeFraction?
      split
      · exact absurd rfl (hs _ rfl).2
      · rfl
    rw [Option.elim_none, List.nil_append, htaken]
    rfl
  | some digits =>
    have hspan : Number.spanDigits (digits.chars ++ s) = (digits.chars, s) :=
      Number.spanDigits_append digits.isDigit fun c hc => (hs c hc).1
    obtain ⟨c, t, hchars, -⟩ := digits.exists_cons
    have htaken : takeFraction? ('.' :: (digits.chars ++ s)) = some (digits.nanoseconds, s) := by
      rw [takeFraction?, hspan]
      dsimp only
      rw [nanoseconds_eq, hchars, List.isEmpty_cons, if_neg Bool.false_ne_true]
    rw [Option.elim_some, List.cons_append, htaken]
    rfl

theorem readFrom?_seconds (exact : Bool) (seconds : Seconds)
    (hs : ∀ c ∈ s.head?, c.isDigit = false ∧ c ≠ '.') :
    readFrom? found (seconds.chars ++ s) (secondItems exact ++ items) =
      (storeSeconds? found seconds).bind fun found => readFrom? found s items := by
  simp only [secondItems, Seconds.chars, List.cons_append, List.nil_append, List.append_assoc,
    readFrom?_oneOf, List.contains_cons, beq_self_eq_true, Bool.true_or, if_true,
    readFrom?_number exact .second seconds.whole rfl, readFrom?_fraction seconds.fraction hs,
    storeSeconds?, Option.bind_assoc, Option.bind_some]

/-! ## Zones -/

/-- Stores the offset of a zone, if there is such an offset. -/
def storeZone? (found : Found) : Zone → Option Found
  | .letter => some { found with offset := some 0 }
  | .offset negative hours colon minutes =>
    if 59 < minutes.value ∨ 23 < hours.value then none
    else some { found with offset := some (Zone.offset negative hours colon minutes).minutes }

/-- Whether a zone is one of the exact layout. -/
def Zone.isExact : Zone → Bool
  | letter => true
  | offset _ _ colon _ => colon

/-- Whether a zone has an offset. -/
def Zone.isOffset : Zone → Bool
  | letter => false
  | offset _ _ _ _ => true

section Offsets

variable {separator : List Char → Option (List Char)}

theorem takeNumber?_two (digits : Digits 2 (some 2)) (s : List Char) :
    takeNumber? 2 2 (digits.chars ++ s) = some (digits.value, s) :=
  have hlength : digits.chars.length = 2 := Nat.le_antisymm (digits.le_most 2 rfl) digits.least_le
  takeNumber?_append digits.isDigit digits.least_le (Nat.le_of_eq hlength) (.inl hlength)

/-- The sign and the hours of an offset are taken; then it is for the separator to go on. -/
theorem takeOffset?_chars (negative colon : Bool) (hours minutes : Digits 2 (some 2)) :
    takeOffset? separator (Zone.offset negative hours colon minutes).chars =
      (separator ((if colon then [':'] else []) ++ minutes.chars)).bind fun s =>
        (takeNumber? 2 2 s).bind fun next =>
          if 59 < next.1 ∨ 23 < hours.value then none
          else some (Number.signed negative (hours.value * 60 + next.1), next.2) := by
  have hsign : takeOffsetSign? (Zone.offset negative hours colon minutes).chars = some (negative,
      hours.chars ++ ((if colon then [':'] else []) ++ minutes.chars)) := by
    cases negative <;> rfl
  rw [takeOffset?, hsign]
  simp only [Option.bind_eq_bind, Option.bind_some, takeNumber?_two]
  rfl

/-- An offset is taken if the separator leaves the minutes. -/
theorem takeOffset?_of_separator {negative colon : Bool} {hours minutes : Digits 2 (some 2)}
    (h : separator ((if colon then [':'] else []) ++ minutes.chars) = some minutes.chars) :
    takeOffset? separator (Zone.offset negative hours colon minutes).chars =
      if 59 < minutes.value ∨ 23 < hours.value then none
      else some ((Zone.offset negative hours colon minutes).minutes, []) := by
  have hminutes := takeNumber?_two minutes []
  rw [List.append_nil] at hminutes
  rw [takeOffset?_chars, h, Option.bind_some, hminutes]
  rfl

end Offsets

/-- The exact layout reads the letter and offsets with a colon. -/
theorem readFrom?_zone (zone : Zone) :
    readFrom? found zone.chars [.zone] = if zone.isExact then storeZone? found zone else none := by
  cases zone with
  | letter => rfl
  | offset negative hours colon minutes =>
    have htake : take? found (Zone.offset negative hours colon minutes).chars .zone =
        (takeOffset? colon? (Zone.offset negative hours colon minutes).chars).bind fun next =>
          some ({ found with offset := some next.1 }, next.2) := by
      cases negative <;> rfl
    rw [readFrom?_cons, htake]
    cases colon with
    | true =>
      rw [takeOffset?_of_separator rfl, Zone.isExact, if_pos rfl, storeZone?]
      split <;> rfl
    | false =>
      obtain ⟨c, s, hchars, hc⟩ := minutes.exists_cons
      have hnone : colon? minutes.chars = none := by
        rw [hchars]
        unfold colon?
        split
        · next heq => exact absurd ((List.cons.inj heq).1 ▸ hc) (by decide)
        · rfl
      rw [takeOffset?_chars, if_neg Bool.false_ne_true, List.nil_append, hnone, Zone.isExact,
        if_neg Bool.false_ne_true]
      rfl

/-- The other layouts read offsets, with a colon or without. -/
theorem readFrom?_looseZone (zone : Zone) :
    readFrom? found zone.chars [.looseZone] =
      if zone.isOffset then storeZone? found zone else none := by
  cases zone with
  | letter => rfl
  | offset negative hours colon minutes =>
    have hblanks : Text.dropBlanks (Zone.offset negative hours colon minutes).chars =
        (Zone.offset negative hours colon minutes).chars := by
      cases negative <;> rfl
    -- after the colon, or at once, digits follow, which are not passed over
    have hseparator : (some ∘ colonsOrBlanks) ((if colon then [':'] else []) ++ minutes.chars) =
        some minutes.chars := by
      obtain ⟨c, s, hchars, hc⟩ := minutes.exists_cons
      have hstop : ¬ ((decide (c = ':') || Text.isBlank c) = true) := by
        rw [isBlank_of_isDigit hc, Bool.or_false, decide_eq_true_eq]
        rintro rfl
        exact absurd hc (by decide)
      have hdrop : colonsOrBlanks minutes.chars = minutes.chars := by
        rw [colonsOrBlanks, hchars]
        exact List.dropWhile_cons_of_neg hstop
      cases colon with
      | true =>
        have hcolon : colonsOrBlanks (':' :: minutes.chars) = colonsOrBlanks minutes.chars :=
          List.dropWhile_cons_of_pos rfl
        exact congrArg some (hcolon.trans hdrop)
      | false => exact congrArg some hdrop
    rw [readFrom?_cons, take?, hblanks, takeOffset?_of_separator hseparator, Zone.isOffset,
      if_pos rfl, storeZone?]
    split <;> rfl

end Gherkin.Layout
