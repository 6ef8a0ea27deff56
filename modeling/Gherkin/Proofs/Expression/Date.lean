/-
  Gherkin.Proofs.Expression.Date

  The fragment for dates and the layouts. In ASCII digits the fragment accepts the
  texts of spellings and no others. Of these the layouts read each that is possible
  as the moment that it means, but for some forms of a clock with a zone, for which
  there is no layout.
-/
import Gherkin.Proofs.Calendar.Reading
import Gherkin.Proofs.Expression.Acceptance

namespace Gherkin

open Layout (Clock Digits Seconds Spelling Zone)
open Number (HasPlainDigits)
open Regex (Denotes denotes_optional_iff)

namespace BuiltinKind

variable {s : List Char} {raw : String} {spelling : Spelling}

/-! ## Digits and marks -/

theorem denotes_digits {least : Nat} {most : Option Nat} (d : Digits least most) :
    Denotes (digits least most) d.chars := by
  refine denotes_digits_iff.2 ⟨fun c hc => Number.isDigit_of_plain (d.isDigit c hc), d.least_le,
    fun bound hbound => ?_⟩
  exact Nat.le_trans (d.le_most bound hbound) (Nat.le_max_right _ _)

theorem exists_digits {least : Nat} {most : Option Nat} (hmost : ∀ bound ∈ most, least ≤ bound)
    (h : Denotes (digits least most) s) (hplain : HasPlainDigits s) :
    ∃ d : Digits least most, d.chars = s := by
  obtain ⟨hdigits, hleast, hbound⟩ := denotes_digits_iff.1 h
  refine ⟨⟨s, fun c hc => hplain c hc (hdigits c hc), hleast, fun bound hmem => ?_⟩, rfl⟩
  have := hbound bound hmem
  rwa [Nat.max_eq_right (hmost bound hmem)] at this

theorem denotes_mark_iff {mark : Char} {r : Regex} :
    Denotes (.seq (.text [mark]) r) s ↔ ∃ rest, s = mark :: rest ∧ Denotes r rest := by
  simp only [Denotes]
  constructor
  · rintro ⟨_, rest, rfl, rfl, h⟩
    exact ⟨rest, rfl, h⟩
  · rintro ⟨rest, rfl, h⟩
    exact ⟨_, rest, rfl, rfl, h⟩

theorem denotes_optional_of_none (r : Regex) : Denotes (optional r) [] :=
  denotes_optional_iff.2 (.inl rfl)

theorem denotes_optional_of_some {r : Regex} (h : Denotes r s) : Denotes (optional r) s :=
  denotes_optional_iff.2 (.inr h)

theorem plain_cons {c : Char} (h : HasPlainDigits (c :: s)) : HasPlainDigits s :=
  h.of_subset (List.subset_cons_self c s)

theorem plain_left {t : List Char} (h : HasPlainDigits (s ++ t)) : HasPlainDigits s :=
  h.of_subset (List.subset_append_left s t)

theorem plain_right {t : List Char} (h : HasPlainDigits (s ++ t)) : HasPlainDigits t :=
  h.of_subset (List.subset_append_right s t)

/-! ## What the fragment stands for -/

theorem denotes_seconds (part : Seconds) : Denotes seconds part.chars := by
  refine denotes_mark_iff.2 ⟨_, rfl, _, _, rfl, denotes_digits part.whole, ?_⟩
  cases part.fraction with
  | none => exact denotes_optional_of_none _
  | some fraction =>
    exact denotes_optional_of_some (denotes_mark_iff.2 ⟨_, rfl, denotes_digits fraction⟩)

theorem exists_seconds (h : Denotes seconds s) (hplain : HasPlainDigits s) :
    ∃ part : Seconds, part.chars = s := by
  obtain ⟨_, rfl, _, _, rfl, hwhole, hfraction⟩ := denotes_mark_iff.1 h
  obtain ⟨whole, rfl⟩ := exists_digits (by simp) hwhole (plain_left (plain_cons hplain))
  rcases denotes_optional_iff.1 hfraction with rfl | hfraction
  · exact ⟨⟨whole, none⟩, rfl⟩
  · obtain ⟨_, rfl, hdigits⟩ := denotes_mark_iff.1 hfraction
    obtain ⟨fraction, rfl⟩ := exists_digits (by simp) hdigits
      (plain_cons (plain_right (plain_cons hplain)))
    exact ⟨⟨whole, some fraction⟩, rfl⟩

theorem denotes_zone (part : Zone) : Denotes zone part.chars := by
  cases part with
  | letter => exact .inl rfl
  | offset negative hours colon minutes =>
    have hsign : Denotes plusOrMinus [if negative then '-' else '+'] :=
      denotes_plusOrMinus_iff.2 (by cases negative <;> simp)
    have hcolon : Denotes (optional (.text [':'])) (if colon then [':'] else []) := by
      cases colon with
      | true => exact denotes_optional_of_some rfl
      | false => exact denotes_optional_of_none _
    exact .inr ⟨_, _, rfl, hsign, _, _, rfl, denotes_digits hours, _, _, rfl, hcolon,
      denotes_digits minutes⟩

theorem exists_zone (h : Denotes zone s) (hplain : HasPlainDigits s) :
    ∃ part : Zone, part.chars = s := by
  rcases h with rfl | ⟨sign, _, rfl, hsign, _, _, rfl, hhours, mark, _, rfl, hmark, hminutes⟩
  · exact ⟨.letter, rfl⟩
  · have hrest := plain_right hplain
    obtain ⟨hours, rfl⟩ := exists_digits (by simp) hhours (plain_left hrest)
    obtain ⟨minutes, rfl⟩ := exists_digits (by simp) hminutes (plain_right (plain_right hrest))
    obtain ⟨colon, rfl⟩ : ∃ colon : Bool, (if colon then [':'] else []) = mark := by
      rcases denotes_optional_iff.1 hmark with rfl | rfl
      · exact ⟨false, rfl⟩
      · exact ⟨true, rfl⟩
    rcases denotes_plusOrMinus_iff.1 hsign with rfl | rfl
    · exact ⟨.offset false hours colon minutes, rfl⟩
    · exact ⟨.offset true hours colon minutes, rfl⟩

theorem contains_blankOrLetter_iff (c : Char) :
    (⟨[(0x20, 0x20), (0x54, 0x54)], true⟩ : CharClass).contains c = true ↔ c = ' ' ∨ c = 'T' :=
  contains_two_iff ' ' 'T' c

theorem denotes_clock (part : Clock) : Denotes clock part.chars := by
  refine ⟨[if part.blank then ' ' else 'T'], _, rfl, ⟨_, rfl, ?_⟩, _, _, rfl,
    denotes_digits part.hour, denotes_mark_iff.2 ⟨_, rfl, _, _, rfl, denotes_digits part.minute,
      _, _, rfl, ?_, ?_⟩⟩
  · rw [contains_blankOrLetter_iff]
    cases part.blank <;> simp
  · cases part.seconds with
    | none => exact denotes_optional_of_none _
    | some part => exact denotes_optional_of_some (denotes_seconds part)
  · cases part.zone with
    | none => exact denotes_optional_of_none _
    | some part => exact denotes_optional_of_some (denotes_zone part)

theorem exists_clock (h : Denotes clock s) (hplain : HasPlainDigits s) :
    ∃ part : Clock, part.chars = s := by
  obtain ⟨_, _, rfl, ⟨mark, rfl, hmark⟩, _, _, rfl, hhour, hrest⟩ := h
  obtain ⟨_, rfl, _, _, rfl, hminute, first, last, rfl, hseconds, hzone⟩ := denotes_mark_iff.1 hrest
  have htime := plain_cons hplain
  have hbehind := plain_cons (plain_right htime)
  obtain ⟨hour, rfl⟩ := exists_digits (by simp) hhour (plain_left htime)
  obtain ⟨minute, rfl⟩ := exists_digits (by simp) hminute (plain_left hbehind)
  obtain ⟨seconds, rfl⟩ : ∃ part : Option Seconds, part.elim [] Seconds.chars = first := by
    rcases denotes_optional_iff.1 hseconds with rfl | hseconds
    · exact ⟨none, rfl⟩
    · obtain ⟨part, rfl⟩ := exists_seconds hseconds (plain_left (plain_right hbehind))
      exact ⟨some part, rfl⟩
  obtain ⟨zone, rfl⟩ : ∃ part : Option Zone, part.elim [] Zone.chars = last := by
    rcases denotes_optional_iff.1 hzone with rfl | hzone
    · exact ⟨none, rfl⟩
    · obtain ⟨part, rfl⟩ := exists_zone hzone (plain_right (plain_right hbehind))
      exact ⟨some part, rfl⟩
  rcases (contains_blankOrLetter_iff mark).1 hmark with rfl | rfl
  · exact ⟨⟨true, hour, minute, seconds, zone⟩, rfl⟩
  · exact ⟨⟨false, hour, minute, seconds, zone⟩, rfl⟩

/-! ## Acceptance -/

theorem denotes_slashes {r₁ r₂ r₃ : Regex} {s₁ s₂ s₃ : List Char} (h₁ : Denotes r₁ s₁)
    (h₂ : Denotes r₂ s₂) (h₃ : Denotes r₃ s₃) :
    Denotes (slashes r₁ r₂ r₃) (s₁ ++ '/' :: (s₂ ++ '/' :: s₃)) :=
  ⟨_, _, rfl, h₁, denotes_mark_iff.2 ⟨_, rfl, _, _, rfl, h₂, denotes_mark_iff.2 ⟨_, rfl, h₃⟩⟩⟩

theorem exists_slashes {r₁ r₂ r₃ : Regex} (h : Denotes (slashes r₁ r₂ r₃) s)
    (hplain : HasPlainDigits s) :
    ∃ s₁ s₂ s₃, s = s₁ ++ '/' :: (s₂ ++ '/' :: s₃) ∧ (Denotes r₁ s₁ ∧ HasPlainDigits s₁) ∧
      (Denotes r₂ s₂ ∧ HasPlainDigits s₂) ∧ Denotes r₃ s₃ ∧ HasPlainDigits s₃ := by
  obtain ⟨s₁, _, rfl, h₁, hrest⟩ := h
  obtain ⟨_, rfl, s₂, _, rfl, h₂, hlast⟩ := denotes_mark_iff.1 hrest
  obtain ⟨s₃, rfl, h₃⟩ := denotes_mark_iff.1 hlast
  have hbehind := plain_cons (plain_right hplain)
  exact ⟨s₁, s₂, s₃, rfl, ⟨h₁, plain_left hplain⟩, ⟨h₂, plain_left hbehind⟩, h₃,
    plain_cons (plain_right hbehind)⟩

theorem accepts_date_iff :
    date.Accepts raw ↔ Denotes hyphens raw.toList ∨
      Denotes (slashes (digits 1 (some 2)) (digits 1 (some 2)) (digits 4 (some 4))) raw.toList ∨
      Denotes (slashes (digits 4 (some 4)) (digits 1 (some 2)) (digits 1 (some 2))) raw.toList := by
  rw [accepts_iff_denotes_expression rfl, Denotes, Denotes]

/-- The text of a spelling is accepted. -/
theorem accepts_text (spelling : Spelling) : date.Accepts spelling.text := by
  rw [accepts_date_iff, Spelling.text, String.toList_ofList]
  cases spelling with
  | hyphens year month day part =>
    refine .inl ⟨_, _, rfl, denotes_digits year, denotes_mark_iff.2 ⟨_, rfl, _, _, rfl,
      denotes_digits month, denotes_mark_iff.2 ⟨_, rfl, _, _, rfl, denotes_digits day, ?_⟩⟩⟩
    cases part with
    | none => exact denotes_optional_of_none _
    | some part => exact denotes_optional_of_some (denotes_clock part)
  | monthFirst month day year =>
    exact .inr (.inl
      (denotes_slashes (denotes_digits month) (denotes_digits day) (denotes_digits year)))
  | yearFirst year month day =>
    exact .inr (.inr
      (denotes_slashes (denotes_digits year) (denotes_digits month) (denotes_digits day)))

/-- A text in ASCII digits that is accepted is that of a spelling. -/
theorem exists_spelling (h : date.Accepts raw) (hplain : HasPlainDigits raw.toList) :
    ∃ spelling : Spelling, raw = spelling.text := by
  suffices hchars : ∃ spelling : Spelling, spelling.chars = raw.toList by
    obtain ⟨spelling, hchars⟩ := hchars
    exact ⟨spelling, by rw [Spelling.text, hchars, String.ofList_toList]⟩
  rcases accepts_date_iff.1 h with hhyphens | hmonth | hyear
  · obtain ⟨_, _, htext, hyear, hrest⟩ := hhyphens
    obtain ⟨_, rfl, _, _, rfl, hmonth, hrest⟩ := denotes_mark_iff.1 hrest
    obtain ⟨_, rfl, _, last, rfl, hday, hclock⟩ := denotes_mark_iff.1 hrest
    rw [htext] at hplain ⊢
    -- what is left behind each mark has no other digits than the whole text
    have hbehindYear := plain_cons (plain_right hplain)
    have hbehindMonth := plain_cons (plain_right hbehindYear)
    obtain ⟨year, rfl⟩ := exists_digits (by simp) hyear (plain_left hplain)
    obtain ⟨month, rfl⟩ := exists_digits (by simp) hmonth (plain_left hbehindYear)
    obtain ⟨day, rfl⟩ := exists_digits (by simp) hday (plain_left hbehindMonth)
    rcases denotes_optional_iff.1 hclock with rfl | hclock
    · exact ⟨.hyphens year month day none, rfl⟩
    · obtain ⟨part, rfl⟩ := exists_clock hclock (plain_right hbehindMonth)
      exact ⟨.hyphens year month day (some part), rfl⟩
  · obtain ⟨_, _, _, htext, hmonth, hday, hyear⟩ := exists_slashes hmonth hplain
    obtain ⟨month, rfl⟩ := exists_digits (by simp) hmonth.1 hmonth.2
    obtain ⟨day, rfl⟩ := exists_digits (by simp) hday.1 hday.2
    obtain ⟨year, rfl⟩ := exists_digits (by simp) hyear.1 hyear.2
    exact ⟨.monthFirst month day year, htext.symm⟩
  · obtain ⟨_, _, _, htext, hyear, hmonth, hday⟩ := exists_slashes hyear hplain
    obtain ⟨year, rfl⟩ := exists_digits (by simp) hyear.1 hyear.2
    obtain ⟨month, rfl⟩ := exists_digits (by simp) hmonth.1 hmonth.2
    obtain ⟨day, rfl⟩ := exists_digits (by simp) hday.1 hday.2
    exact ⟨.yearFirst year month day, htext.symm⟩

/-! ## Conversion -/

/-- A spelling that is possible and not in a form without a layout has the moment that it means. -/
theorem convert_text_of_possible (hpossible : spelling.IsPossible)
    (hread : spelling.isUnread = false) :
    ∃ moment, date.convert spelling.text = .ok (.moment moment) ∧ spelling.Means moment := by
  refine ⟨_, ?_, hpossible.means⟩
  have hmoment := Layout.readMoment?_eq_some_iff.2 ⟨hread, hpossible, rfl⟩
  rw [convert, hmoment]

/-- Other spellings have no value. -/
theorem convert_text_of_not (h : ¬ (spelling.IsPossible ∧ spelling.isUnread = false)) :
    date.convert spelling.text = .error (.date spelling.text) := by
  have hnone : Layout.readMoment? spelling.text = none := by
    rw [Option.eq_none_iff_forall_ne_some]
    intro moment hmoment
    obtain ⟨hread, hpossible, -⟩ := Layout.readMoment?_eq_some_iff.1 hmoment
    exact h ⟨hpossible, hread⟩
  rw [convert, hnone]

/-- In ASCII digits the fragment for dates accepts just the texts of spellings. A spelling is
    converted to the moment that it means, in Greenwich time and at midnight without a clock, if
    there is such a day, time and offset; unless the zone of its clock is in a form without a
    layout. Otherwise it is refused. -/
theorem convert_date_of_accepts (hplain : HasPlainDigits raw.toList) :
    (date.Accepts raw ↔ ∃ spelling : Spelling, raw = spelling.text) ∧
      ∀ spelling : Spelling, raw = spelling.text →
        (spelling.IsPossible → spelling.isUnread = false →
          ∃ moment, date.convert raw = .ok (.moment moment) ∧ spelling.Means moment) ∧
        (¬ (spelling.IsPossible ∧ spelling.isUnread = false) →
          date.convert raw = .error (.date raw)) := by
  refine ⟨⟨fun h => exists_spelling h hplain, ?_⟩, ?_⟩
  · rintro ⟨spelling, rfl⟩
    exact accepts_text spelling
  · rintro spelling rfl
    exact ⟨convert_text_of_possible, convert_text_of_not⟩

/-- Half past ten on the 16th of March 2024 where clocks are two hours ahead, behind a blank or the
    letter `T`. -/
def springMorning (blank : Bool) : Spelling :=
  .hyphens (.ofText "2024" (by decide) (by decide) (by decide))
    (.ofText "03" (by decide) (by decide) (by decide))
    (.ofText "16" (by decide) (by decide) (by decide))
    (some {
      blank
      hour := .ofText "10" (by decide) (by decide) (by decide)
      minute := .ofText "30" (by decide) (by decide) (by decide)
      seconds := none
      zone := some (.offset false (.ofText "02" (by decide) (by decide) (by decide)) true
        (.ofText "00" (by decide) (by decide) (by decide))) })

theorem isPossible_springMorning (blank : Bool) : (springMorning blank).IsPossible where
  date := rfl
  clock := by
    rintro _ ⟨⟩
    refine ⟨Nat.le_of_ble_eq_true rfl, Nat.le_of_ble_eq_true rfl, by rintro _ ⟨⟩, ?_⟩
    rintro _ ⟨⟩
    exact ⟨by decide, by decide⟩

/-- With the letter it is converted to half past eight in Greenwich. -/
theorem convert_date_of_accepts_letter :
    HasPlainDigits "2024-03-16T10:30+02:00".toList ∧
      date.convert "2024-03-16T10:30+02:00" =
        .ok (.moment { date := ⟨2024, 3, 16⟩, hour := 8, minute := 30 }) := by
  have hplain : HasPlainDigits "2024-03-16T10:30+02:00".toList := by
    decide +kernel
  obtain ⟨moment, hmoment, hmeans⟩ := ((convert_date_of_accepts hplain).2 (springMorning false)
    (by decide)).1 (isPossible_springMorning false) (by decide)
  have height : (springMorning false).Means
      { date := ⟨2024, 3, 16⟩, hour := 8, minute := 30 } :=
    ⟨⟨by decide, by decide, by decide, by decide⟩, by decide, by decide, by decide⟩
  exact ⟨hplain, by rw [hmoment, hmeans.unique height]⟩

/-- With a blank it is accepted and refused, although there is such a day, time and offset. -/
theorem convert_date_behind_blank :
    date.Accepts "2024-03-16 10:30+02:00" ∧
      (springMorning true).text = "2024-03-16 10:30+02:00" ∧ (springMorning true).IsPossible ∧
      date.convert "2024-03-16 10:30+02:00" = .error (.date "2024-03-16 10:30+02:00") := by
  have htext : (springMorning true).text = "2024-03-16 10:30+02:00" := by decide
  refine ⟨htext ▸ accepts_text (springMorning true), htext, isPossible_springMorning true, ?_⟩
  rw [← htext]
  exact convert_text_of_not fun hboth => absurd hboth.2 (by decide)

end BuiltinKind

end Gherkin
