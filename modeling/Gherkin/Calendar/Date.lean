/-
  Gherkin.Calendar.Date

  Dates of the Gregorian calendar, carried back before its introduction, and
  moments: a date with a time of day, without a zone. The second 60 is a leap
  second.
-/

namespace Gherkin

/-! ## Dates -/

/-- A day of the calendar. -/
structure Date where
  year : Int
  month : Nat
  day : Nat
  deriving DecidableEq, Repr

namespace Date

/-- Whether a year has a 29th of February. -/
def isLeapYear (year : Int) : Bool := year % 4 = 0 && (year % 100 != 0 || year % 400 = 0)

/-- The number of days of a month. -/
def daysInMonth (year : Int) (month : Nat) : Nat :=
  if month = 2 then (if isLeapYear year then 29 else 28)
  else if month = 4 ∨ month = 6 ∨ month = 9 ∨ month = 11 then 30
  else 31

/-- The years that dates may have. -/
def isYear (year : Int) : Bool := -262143 ≤ year && year ≤ 262142

/-- Whether there is such a day. -/
def isValid (date : Date) : Bool :=
  isYear date.year && 1 ≤ date.month && date.month ≤ 12 && 1 ≤ date.day &&
    date.day ≤ daysInMonth date.year date.month

/-- The day after. -/
def next (date : Date) : Date :=
  if date.day < daysInMonth date.year date.month then { date with day := date.day + 1 }
  else if date.month < 12 then { date with month := date.month + 1, day := 1 }
  else { year := date.year + 1, month := 1, day := 1 }

/-- The day before. -/
def previous (date : Date) : Date :=
  if 1 < date.day then { date with day := date.day - 1 }
  else if 1 < date.month then
    { date with month := date.month - 1, day := daysInMonth date.year (date.month - 1) }
  else { year := date.year - 1, month := 12, day := 31 }

end Date

/-! ## Moments -/

/-- A day and a time of day. -/
structure Moment where
  date : Date
  hour : Nat := 0
  minute : Nat := 0
  second : Nat := 0
  nanosecond : Nat := 0
  deriving DecidableEq, Repr

namespace Moment

/-- The moment that clocks in Greenwich show when clocks `offset` minutes ahead of them show
    `moment`. The offset is less than a day, so at most one midnight is passed. -/
def toGreenwich (moment : Moment) (offset : Int) : Moment :=
  let minutes := (moment.hour * 60 + moment.minute : Int) - offset
  let date :=
    if minutes < 0 then moment.date.previous
    else if 1440 ≤ minutes then moment.date.next
    else moment.date
  let minuteOfDay := (minutes % 1440).toNat
  { moment with date, hour := minuteOfDay / 60, minute := minuteOfDay % 60 }

/-! ## Writing -/

/-- A number on at least `width` places. -/
def padded (width n : Nat) : String :=
  let digits := Nat.toDigits 10 n
  .ofList (List.replicate (width - digits.length) '0' ++ digits)

/-- A year on at least four places, with a sign unless it has exactly four. -/
def yearText (year : Int) : String :=
  let sign := if year < 0 then "-" else if 9999 < year then "+" else ""
  sign ++ padded 4 year.natAbs

/-- A moment to the second, as in `2024-02-29T08:30:00`. -/
def text (moment : Moment) : String :=
  s!"{yearText moment.date.year}-{padded 2 moment.date.month}-{padded 2 moment.date.day}T" ++
    s!"{padded 2 moment.hour}:{padded 2 moment.minute}:{padded 2 moment.second}"

/-- The fraction of a second in the fewest groups of three digits. -/
def fractionText (nanosecond : Nat) : String :=
  if nanosecond = 0 then ""
  else if nanosecond % 1000000 = 0 then "." ++ padded 3 (nanosecond / 1000000)
  else if nanosecond % 1000 = 0 then "." ++ padded 6 (nanosecond / 1000)
  else "." ++ padded 9 nanosecond

/-- A moment in full. -/
def fullText (moment : Moment) : String := moment.text ++ fractionText moment.nanosecond

end Moment

end Gherkin
