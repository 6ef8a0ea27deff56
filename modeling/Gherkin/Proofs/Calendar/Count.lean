/-
  Gherkin.Proofs.Calendar.Count

  Days counted from the first day of the year 0. The days before a year, those
  before its month and those of the month add up to the number of a day, and the
  day after has the number after. A moment has a number of minutes in the same
  way, by which it is known which instant it is: carrying a moment to Greenwich
  takes its offset off that number.
-/
import Gherkin.Calendar.Date
import Mathlib.Tactic.ByContra
import Mathlib.Tactic.SplitIfs
import Mathlib.Tactic.Tauto

namespace Gherkin

namespace Date

variable {date other : Date} {year : Int} {month : Nat}

/-! ## The number of a day -/

/-- The days from the year 0 to the start of a year: one more in every fourth year, but not in
    every hundredth, and yet in every four hundredth. -/
def daysBefore (year : Int) : Int :=
  365 * year + (year + 3) / 4 - (year + 99) / 100 + (year + 399) / 400

/-- The days of the first `months` months of a year. -/
def daysOfMonths (year : Int) : Nat → Nat
  | 0 => 0
  | months + 1 => daysOfMonths year months + daysInMonth year (months + 1)

/-- The number of a day, counted from the first of the year 0. -/
def number (date : Date) : Int :=
  daysBefore date.year + daysOfMonths date.year (date.month - 1) + (date.day - 1)

example : number ⟨0, 1, 1⟩ = 0 ∧ number ⟨1970, 1, 1⟩ = 719528 := by decide

/-! ## Months and years -/

theorem daysOfMonths_succ (year : Int) (months : Nat) :
    daysOfMonths year (months + 1) = daysOfMonths year months + daysInMonth year (months + 1) :=
  rfl

theorem daysOfMonths_le {months more : Nat} (h : months ≤ more) :
    daysOfMonths year months ≤ daysOfMonths year more := by
  induction h with
  | refl => exact Nat.le_refl _
  | step _ ih =>
    rw [daysOfMonths_succ]
    exact Nat.le_trans ih (Nat.le_add_right _ _)

theorem isLeapYear_iff :
    isLeapYear year = true ↔ year % 4 = 0 ∧ (year % 100 ≠ 0 ∨ year % 400 = 0) := by
  simp [isLeapYear]

/-- The twelve months make up the year. -/
theorem daysBefore_succ (year : Int) :
    daysBefore (year + 1) = daysBefore year + daysOfMonths year 12 := by
  have hmonths : daysOfMonths year 12 = if isLeapYear year then 366 else 365 := by
    cases h : isLeapYear year <;>
      simp [daysOfMonths, daysInMonth, h]
  rw [hmonths, daysBefore, daysBefore]
  split
  · next h =>
    obtain ⟨hfour, hcentury⟩ := isLeapYear_iff.1 h
    omega
  · next h =>
    have hno := mt isLeapYear_iff.2 h
    omega

theorem daysBefore_le {later : Int} (h : year ≤ later) : daysBefore year ≤ daysBefore later := by
  rcases Int.lt_or_eq_of_le h with hlt | rfl
  · rw [daysBefore, daysBefore]
    omega
  · exact Int.le_refl _

/-! ## Days of the calendar -/

theorem isValid_iff :
    date.isValid = true ↔ (-262143 ≤ date.year ∧ date.year ≤ 262142) ∧
      (1 ≤ date.month ∧ date.month ≤ 12) ∧
        1 ≤ date.day ∧ date.day ≤ daysInMonth date.year date.month := by
  simp only [isValid, isYear, Bool.and_eq_true, decide_eq_true_eq]
  tauto

theorem daysInMonth_pos (year : Int) (month : Nat) :
    28 ≤ daysInMonth year month ∧ daysInMonth year month ≤ 31 := by
  unfold daysInMonth
  split_ifs <;> decide

/-- The day after has the next number. -/
theorem number_next (h : date.isValid = true) : date.next.number = date.number + 1 := by
  obtain ⟨-, ⟨hfirst, hlast⟩, hday, hdays⟩ := isValid_iff.1 h
  obtain ⟨before, hmonth⟩ : ∃ before, date.month = before + 1 := ⟨date.month - 1, by omega⟩
  have hstep := daysOfMonths_succ date.year before
  rw [← hmonth] at hstep
  unfold next
  split
  · simp only [number]
    omega
  · split
    · -- the first of the next month
      have hprevious : date.month + 1 - 1 = before + 1 := by omega
      have hbefore : date.month - 1 = before := by omega
      simp only [number, hprevious, hbefore]
      rw [daysOfMonths_succ, ← hmonth]
      omega
    · -- the first of the next year
      have hbefore : date.month - 1 = before := by omega
      have hyear := daysBefore_succ date.year
      rw [show (12 : Nat) = before + 1 by omega, daysOfMonths_succ, ← hmonth] at hyear
      have hnone : daysOfMonths (date.year + 1) (1 - 1) = 0 := rfl
      simp only [number, hbefore, hnone]
      omega

/-- The day before has the number before. -/
theorem number_previous (h : date.isValid = true) : date.previous.number = date.number - 1 := by
  obtain ⟨-, ⟨hfirst, hlast⟩, hday, hdays⟩ := isValid_iff.1 h
  unfold previous
  split
  · simp only [number]
    omega
  · split
    · -- the last of the month before
      obtain ⟨before, hmonth⟩ : ∃ before, date.month = before + 2 := ⟨date.month - 2, by omega⟩
      have hone : date.month - 1 = before + 1 := by omega
      have htwo : before + 1 - 1 = before := rfl
      have hlong := daysInMonth_pos date.year (before + 1)
      simp only [number, hone, htwo]
      rw [daysOfMonths_succ]
      omega
    · -- the last of the year before
      have hyear := daysBefore_succ (date.year - 1)
      have hdecember : daysOfMonths (date.year - 1) 12 = daysOfMonths (date.year - 1) 11 + 31 :=
        daysOfMonths_succ _ 11
      have hone : date.month - 1 = 0 := by omega
      have hnone : daysOfMonths date.year 0 = 0 := rfl
      have heleven : 12 - 1 = 11 := rfl
      rw [Int.sub_add_cancel, hdecember] at hyear
      simp only [number, hone, hnone, heleven]
      omega

theorem isValid_next (h : date.isValid = true) (hyear : date.year < 262142) :
    date.next.isValid = true := by
  obtain ⟨hyears, ⟨hfirst, hlast⟩, hday, hdays⟩ := isValid_iff.1 h
  rw [isValid_iff]
  unfold next
  split
  · exact ⟨hyears, ⟨hfirst, hlast⟩, by simp, by assumption⟩
  · split
    · refine ⟨hyears, ⟨by simp, by assumption⟩, by simp, ?_⟩
      have hlong := daysInMonth_pos date.year (date.month + 1)
      dsimp only
      omega
    · exact ⟨by dsimp only; omega, by simp, by simp, by simp [daysInMonth]⟩

theorem isValid_previous (h : date.isValid = true) (hyear : -262143 < date.year) :
    date.previous.isValid = true := by
  obtain ⟨hyears, ⟨hfirst, hlast⟩, hday, hdays⟩ := isValid_iff.1 h
  rw [isValid_iff]
  unfold previous
  split
  · exact ⟨hyears, ⟨hfirst, hlast⟩, by dsimp only; omega, by dsimp only; omega⟩
  · split
    · have hlong := daysInMonth_pos date.year (date.month - 1)
      exact ⟨hyears, ⟨by dsimp only; omega, by dsimp only; omega⟩, by dsimp only; omega,
        Nat.le_refl _⟩
    · exact ⟨by dsimp only; omega, by simp, by simp, by simp [daysInMonth]⟩

/-! ## One day for each number -/

/-- The days of a year have numbers between its start and that of the next. -/
theorem number_bounds (h : date.isValid = true) :
    daysBefore date.year + daysOfMonths date.year (date.month - 1) ≤ date.number ∧
      date.number < daysBefore date.year + daysOfMonths date.year date.month := by
  obtain ⟨-, ⟨hfirst, hlast⟩, hday, hdays⟩ := isValid_iff.1 h
  obtain ⟨before, hmonth⟩ : ∃ before, date.month = before + 1 := ⟨date.month - 1, by omega⟩
  have hstep := daysOfMonths_succ date.year before
  rw [← hmonth] at hstep
  have hbefore : date.month - 1 = before := by omega
  simp only [number, hbefore]
  omega

theorem year_le_of_number_le (h : date.isValid = true) (hother : other.isValid = true)
    (hle : date.number ≤ other.number) : date.year ≤ other.year := by
  by_contra hlt
  have hmonths := (isValid_iff.1 hother).2.1.2
  have hlow := (number_bounds h).1
  have hhigh := (number_bounds hother).2
  have hyears : daysBefore (other.year + 1) ≤ daysBefore date.year := daysBefore_le (by omega)
  have hyear := daysBefore_succ other.year
  have hpart : daysOfMonths other.year other.month ≤ daysOfMonths other.year 12 :=
    daysOfMonths_le hmonths
  omega

theorem month_le_of_number_le (h : date.isValid = true) (hother : other.isValid = true)
    (hyear : date.year = other.year) (hle : date.number ≤ other.number) :
    date.month ≤ other.month := by
  by_contra hlt
  have hlow := (number_bounds h).1
  have hhigh := (number_bounds hother).2
  have hpart : daysOfMonths other.year other.month ≤ daysOfMonths other.year (date.month - 1) :=
    daysOfMonths_le (by omega)
  rw [hyear] at hlow
  omega

/-- A day of the calendar is known by its number. -/
theorem eq_of_number_eq (h : date.isValid = true) (hother : other.isValid = true)
    (hnumber : date.number = other.number) : date = other := by
  have hyear : date.year = other.year :=
    Int.le_antisymm (year_le_of_number_le h hother (Int.le_of_eq hnumber))
      (year_le_of_number_le hother h (Int.le_of_eq hnumber.symm))
  have hmonth : date.month = other.month :=
    Nat.le_antisymm (month_le_of_number_le h hother hyear (Int.le_of_eq hnumber))
      (month_le_of_number_le hother h hyear.symm (Int.le_of_eq hnumber.symm))
  have hday : date.day = other.day := by
    simp only [number, hyear, hmonth] at hnumber
    omega
  obtain ⟨year, month, day⟩ := date
  obtain ⟨year', month', day'⟩ := other
  obtain ⟨rfl, rfl, rfl⟩ : year = year' ∧ month = month' ∧ day = day' := ⟨hyear, hmonth, hday⟩
  rfl

end Date

namespace Moment

variable {moment other : Moment} {offset : Int}

/-! ## Minutes -/

/-- The number of a minute, counted from the start of the year 0. -/
def minutes (moment : Moment) : Int :=
  moment.date.number * 1440 + (moment.hour * 60 + moment.minute)

/-- A day of the calendar and a time of day; a minute may have a leap second. -/
structure IsValid (moment : Moment) : Prop where
  date : moment.date.isValid = true
  hour : moment.hour < 24
  minute : moment.minute < 60
  second : moment.second ≤ 60

/-- A minute is known by its number. -/
theorem eq_of_minutes_eq (h : moment.IsValid) (hother : other.IsValid)
    (hminutes : moment.minutes = other.minutes) (hsecond : moment.second = other.second)
    (hnanosecond : moment.nanosecond = other.nanosecond) : moment = other := by
  have hhour := h.hour
  have hminute := h.minute
  have hhour' := hother.hour
  have hminute' := hother.minute
  rw [minutes, minutes] at hminutes
  have hdate : moment.date = other.date := Date.eq_of_number_eq h.date hother.date (by omega)
  rw [hdate] at hminutes
  obtain ⟨date, hour, minute, second, nanosecond⟩ := moment
  obtain ⟨date', hour', minute', second', nanosecond'⟩ := other
  obtain rfl : hour = hour' := by dsimp only at *; omega
  obtain rfl : minute = minute' := by dsimp only at *; omega
  obtain rfl : date = date' := hdate
  obtain rfl : second = second' := hsecond
  obtain rfl : nanosecond = nanosecond' := hnanosecond
  rfl

/-! ## Greenwich time -/

/-- In Greenwich it is so many minutes earlier as the offset says. -/
theorem minutes_toGreenwich (h : moment.IsValid) (hoffset : -1440 < offset ∧ offset < 1440) :
    (moment.toGreenwich offset).minutes = moment.minutes - offset := by
  have hhour := h.hour
  have hminute := h.minute
  have hnext := Date.number_next h.date
  have hprevious := Date.number_previous h.date
  simp only [toGreenwich, minutes]
  split_ifs <;> omega

theorem isValid_toGreenwich (h : moment.IsValid)
    (hyear : -262143 < moment.date.year ∧ moment.date.year < 262142) :
    (moment.toGreenwich offset).IsValid where
  date := by
    simp only [toGreenwich]
    split_ifs
    · exact Date.isValid_previous h.date hyear.1
    · exact Date.isValid_next h.date hyear.2
    · exact h.date
  hour := by
    simp only [toGreenwich]
    omega
  minute := by
    simp only [toGreenwich]
    omega
  second := h.second

end Moment

end Gherkin
