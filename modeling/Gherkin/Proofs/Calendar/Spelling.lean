/-
  Gherkin.Proofs.Calendar.Spelling

  Spellings of dates. A date is written in one of three layouts; the one with
  hyphens may go on with a clock, which may have seconds, a fraction of a second
  and a zone. A spelling carries its digits and says what it is about: a day and a
  time of day, the offset of its zone, and whether there is such a day and time.
-/
import Gherkin.Calendar.Layout
import Gherkin.Proofs.Calendar.Count
import Gherkin.Proofs.Number.Integer

namespace Gherkin.Layout

/-! ## Digits -/

/-- Digits of ASCII, so many at least and at most. -/
structure Digits (least : Nat) (most : Option Nat) where
  chars : List Char
  isDigit : ∀ c ∈ chars, c.isDigit = true
  least_le : least ≤ chars.length
  le_most : ∀ bound ∈ most, chars.length ≤ bound

namespace Digits

variable {least : Nat} {most : Option Nat}

/-- The number that the digits stand for. -/
def value (digits : Digits least most) : Nat := Nat.ofDigitChars 10 digits.chars 0

/-- The digits that make up a text. -/
def ofText (text : String) (hdigits : text.toList.all Char.isDigit = true)
    (hleast : least ≤ text.toList.length) (hmost : ∀ bound ∈ most, text.toList.length ≤ bound) :
    Digits least most :=
  ⟨text.toList, List.all_eq_true.1 hdigits, hleast, hmost⟩

/-- The same digits, where one would do. -/
def relax (digits : Digits least most) (h : 1 ≤ least) : Digits 1 most :=
  { digits with least_le := Nat.le_trans h digits.least_le }

/-- The whole nanoseconds in the fraction of a second that the digits stand for behind a point. -/
def nanoseconds (digits : Digits least most) : Nat :=
  digits.value * Number.tenPow 9 / Number.tenPow digits.chars.length

end Digits

/-! ## Spellings -/

/-- A zone: the letter `Z`, or an offset with a colon or without. -/
inductive Zone where
  | letter
  | offset (negative : Bool) (hours : Digits 2 (some 2)) (colon : Bool) (minutes : Digits 2 (some 2))

/-- Seconds with a fraction or without. -/
structure Seconds where
  whole : Digits 2 (some 2)
  fraction : Option (Digits 1 none)

/-- A time of day behind the letter `T` or a blank. -/
structure Clock where
  blank : Bool
  hour : Digits 2 (some 2)
  minute : Digits 2 (some 2)
  seconds : Option Seconds
  zone : Option Zone

/-- A date in one of the three layouts. -/
inductive Spelling where
  | hyphens (year : Digits 4 (some 4)) (month day : Digits 2 (some 2)) (clock : Option Clock)
  | monthFirst (month day : Digits 1 (some 2)) (year : Digits 4 (some 4))
  | yearFirst (year : Digits 4 (some 4)) (month day : Digits 1 (some 2))

/-! ## Characters -/

def Zone.chars : Zone → List Char
  | letter => ['Z']
  | offset negative hours colon minutes =>
    (if negative then '-' else '+') ::
      (hours.chars ++ ((if colon then [':'] else []) ++ minutes.chars))

def Seconds.chars (seconds : Seconds) : List Char :=
  ':' :: (seconds.whole.chars ++ seconds.fraction.elim [] fun digits => '.' :: digits.chars)

/-- The characters of a clock behind the mark in front. -/
def Clock.timeChars (clock : Clock) : List Char :=
  clock.hour.chars ++ (':' :: (clock.minute.chars ++
    (clock.seconds.elim [] Seconds.chars ++ clock.zone.elim [] Zone.chars)))

def Clock.chars (clock : Clock) : List Char :=
  (if clock.blank then ' ' else 'T') :: clock.timeChars

def Spelling.chars : Spelling → List Char
  | hyphens year month day clock =>
    year.chars ++ '-' :: (month.chars ++ '-' :: (day.chars ++ clock.elim [] Clock.chars))
  | monthFirst month day year => month.chars ++ '/' :: (day.chars ++ '/' :: year.chars)
  | yearFirst year month day => year.chars ++ '/' :: (month.chars ++ '/' :: day.chars)

/-- The text of a spelling. -/
def Spelling.text (spelling : Spelling) : String := .ofList spelling.chars

/-! ## Meaning -/

/-- The offset of a zone in minutes. -/
def Zone.minutes : Zone → Int
  | letter => 0
  | offset negative hours _ minutes => Number.signed negative (hours.value * 60 + minutes.value)

/-- Whether there is such an offset. -/
def Zone.IsPossible : Zone → Prop
  | letter => True
  | offset _ hours _ minutes => hours.value ≤ 23 ∧ minutes.value ≤ 59

/-- Whether there is such a time of day; a minute may have a leap second. -/
structure Clock.IsPossible (clock : Clock) : Prop where
  hour : clock.hour.value ≤ 23
  minute : clock.minute.value ≤ 59
  second : ∀ seconds ∈ clock.seconds, seconds.whole.value ≤ 60
  zone : ∀ zone ∈ clock.zone, zone.IsPossible

namespace Spelling

/-- The clock behind the date. -/
def clock? : Spelling → Option Clock
  | hyphens _ _ _ clock => clock
  | monthFirst _ _ _ => none
  | yearFirst _ _ _ => none

/-- The day that is meant. -/
def date : Spelling → Date
  | hyphens year month day _ => ⟨year.value, month.value, day.value⟩
  | monthFirst month day year => ⟨year.value, month.value, day.value⟩
  | yearFirst year month day => ⟨year.value, month.value, day.value⟩

/-- The day and the time of day where the spelling is from; without a clock it is midnight. -/
def moment (spelling : Spelling) : Moment where
  date := spelling.date
  hour := spelling.clock?.elim 0 (·.hour.value)
  minute := spelling.clock?.elim 0 (·.minute.value)
  second := (spelling.clock?.bind (·.seconds)).elim 0 (·.whole.value)
  nanosecond := ((spelling.clock?.bind (·.seconds)).bind (·.fraction)).elim 0 (·.nanoseconds)

/-- The zone of the clock, if there is one. -/
def zone? (spelling : Spelling) : Option Zone := spelling.clock?.bind (·.zone)

/-- The minutes that clocks where the spelling is from are ahead of Greenwich. -/
def offset (spelling : Spelling) : Int := spelling.zone?.elim 0 Zone.minutes

/-- Whether there is such a day, such a time of day and such an offset. -/
structure IsPossible (spelling : Spelling) : Prop where
  date : spelling.date.isValid = true
  clock : ∀ clock ∈ spelling.clock?, clock.IsPossible

end Spelling

/-- Whether a clock is in a form for which there is no layout: with the letter `Z` and no seconds,
    or with an offset behind a blank, unless there are seconds and a colon. -/
def Clock.isUnread (clock : Clock) : Bool :=
  match clock.zone with
  | none => false
  | some .letter => clock.seconds.isNone
  | some (.offset _ _ colon _) => clock.blank && (clock.seconds.isNone || !colon)

/-- Whether the clock is in a form for which there is no layout. -/
def Spelling.isUnread (spelling : Spelling) : Bool := spelling.clock?.any Clock.isUnread

/-! ## Instants -/

variable {spelling : Spelling}

theorem Digits.value_lt {n : Nat} {least : Nat} (digits : Digits least (some n)) :
    digits.value < Number.tenPow n :=
  Nat.lt_of_lt_of_le (Number.ofDigitChars_lt digits.isDigit)
    (Number.tenPow_le (digits.le_most n rfl))

/-- Years have four digits. -/
theorem Spelling.year_bounds (spelling : Spelling) :
    0 ≤ spelling.date.year ∧ spelling.date.year ≤ 9999 := by
  have hyear (year : Digits 4 (some 4)) : (0 : Int) ≤ year.value ∧ (year.value : Int) ≤ 9999 := by
    have hlast : year.value < 10000 := year.value_lt
    omega
  cases spelling with
  | hyphens year month day clock => exact hyear year
  | monthFirst month day year => exact hyear year
  | yearFirst year month day => exact hyear year

theorem Spelling.IsPossible.isValid (h : spelling.IsPossible) : spelling.moment.IsValid where
  date := h.date
  hour := by
    rw [moment]
    cases hclock : spelling.clock? with
    | none => exact Nat.zero_lt_succ _
    | some clock => exact Nat.lt_succ_of_le (h.clock clock hclock).hour
  minute := by
    rw [moment]
    cases hclock : spelling.clock? with
    | none => exact Nat.zero_lt_succ _
    | some clock => exact Nat.lt_succ_of_le (h.clock clock hclock).minute
  second := by
    rw [moment]
    cases hclock : spelling.clock? with
    | none => exact Nat.zero_le _
    | some clock =>
      cases hseconds : clock.seconds with
      | none => simp [hseconds]
      | some seconds => simpa [hseconds] using (h.clock clock hclock).second seconds hseconds

theorem Zone.IsPossible.minutes_bounds {zone : Zone} (h : zone.IsPossible) :
    -1440 < zone.minutes ∧ zone.minutes < 1440 := by
  cases zone with
  | letter => exact ⟨by decide, by decide⟩
  | offset negative hours colon minutes =>
    obtain ⟨hhours, hminutes⟩ := h
    rw [Zone.minutes, Number.signed]
    split <;> omega

theorem Spelling.IsPossible.offset_bounds (h : spelling.IsPossible) :
    -1440 < spelling.offset ∧ spelling.offset < 1440 := by
  rw [offset, zone?]
  cases hclock : spelling.clock? with
  | none => exact ⟨by decide, by decide⟩
  | some clock =>
    rw [Option.bind_some]
    cases hzone : clock.zone with
    | none => exact ⟨by decide, by decide⟩
    | some zone => exact ((h.clock clock hclock).zone zone hzone).minutes_bounds

/-- Whether a moment is what a spelling means: the instant at which clocks where the spelling is
    from show its time, told by the clocks of Greenwich. -/
structure Spelling.Means (spelling : Spelling) (moment : Moment) : Prop where
  isValid : moment.IsValid
  minutes : moment.minutes = spelling.moment.minutes - spelling.offset
  second : moment.second = spelling.moment.second
  nanosecond : moment.nanosecond = spelling.moment.nanosecond

/-- A spelling means one moment only. -/
theorem Spelling.Means.unique {first second : Moment} (h : spelling.Means first)
    (hother : spelling.Means second) : first = second :=
  Moment.eq_of_minutes_eq h.isValid hother.isValid (h.minutes.trans hother.minutes.symm)
    (h.second.trans hother.second.symm) (h.nanosecond.trans hother.nanosecond.symm)

/-- A possible spelling means the moment at which it is carried to Greenwich. -/
theorem Spelling.IsPossible.means (h : spelling.IsPossible) :
    spelling.Means (spelling.moment.toGreenwich spelling.offset) where
  isValid := by
    have hyear : 0 ≤ spelling.moment.date.year ∧ spelling.moment.date.year ≤ 9999 :=
      spelling.year_bounds
    exact Moment.isValid_toGreenwich h.isValid (by omega)
  minutes := Moment.minutes_toGreenwich h.isValid h.offset_bounds
  second := rfl
  nanosecond := rfl

end Gherkin.Layout
