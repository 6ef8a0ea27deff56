/-
  Gherkin.Proofs.Calendar.Reading

  Spellings are read. Part by part the layouts that fail are left out, so that in
  the end there are only a few ways to read a zone, and it is seen which of them
  fit. A possible spelling is read as the moment that it means, if there is a
  layout for its form at all.
-/
import Gherkin.Proofs.Calendar.Layout

namespace Gherkin.Layout

variable {found : Found} {s : List Char} {items : List Item}

/-! ## Layouts behind a date -/

/-- What follows a date in the layouts that start with one, and whether its numbers are exact. -/
def behindDate : List (Bool × List Item) :=
  [(true, .oneOf ['T', 't', ' '] :: (timeItems true ++ (secondItems true ++ [Item.zone]))),
   (false, .oneOf ['T'] :: (timeItems false ++ secondItems false)),
   (false, .blanks :: (timeItems false ++ secondItems false)),
   (false, .oneOf ['T'] :: timeItems false),
   (false, .blanks :: timeItems false),
   (false, .oneOf ['T'] :: (timeItems false ++ (secondItems false ++ [Item.looseZone]))),
   (false, .oneOf ['T'] :: (timeItems false ++ [Item.looseZone])),
   (false, [])]

/-- What follows the minutes in the layouts for a clock behind a blank or behind the letter. -/
def behindTime (blank : Bool) : List (Bool × List Item) :=
  if blank then [(true, secondItems true ++ [Item.zone]), (false, secondItems false), (false, [])]
  else [(true, secondItems true ++ [Item.zone]), (false, secondItems false), (false, []),
    (false, secondItems false ++ [Item.looseZone]), (false, [.looseZone])]

/-- What follows the seconds. -/
def behindSeconds (blank : Bool) : List (Bool × List Item) :=
  if blank then [(true, [.zone]), (false, [])]
  else [(true, [.zone]), (false, []), (false, [.looseZone])]

/-- The layouts with slashes. -/
def slashLayouts : List (List Item) :=
  [[.loose .month, .oneOf ['/'], .loose .day, .oneOf ['/'], .loose .year],
   [.loose .year, .oneOf ['/'], .loose .month, .oneOf ['/'], .loose .day]]

theorem layouts_eq :
    Layout.layouts = behindDate.map (fun tail => dateItems tail.1 ++ tail.2) ++ slashLayouts :=
  rfl

/-- Behind a date that is all, the layout of a date alone fits. -/
theorem readAny?_date_alone : readAny? found [] (behindDate.map (·.2)) = found.moment? := by
  have hblanks (items : List Item) :
      readFrom? found [] (.blanks :: .loose .hour :: items) = none := rfl
  have hall : readFrom? found [] [] = some found := rfl
  simp only [behindDate, List.map_cons, List.map_nil, readAny?_cons, readAny?_nil, timeItems,
    number, Bool.false_eq_true, if_false, List.cons_append,
    readFrom?_oneOf_of_head (s := []) (by simp), hblanks, hall, Option.bind_none, Option.none_or,
    Option.bind_some, Option.or_none]

/-- Behind its mark a clock goes on with the time. -/
theorem readAny?_mark (clock : Clock) :
    readAny? found clock.chars (behindDate.map (·.2)) =
      readAny? found clock.timeChars
        ((behindTime clock.blank).map fun tail => timeItems tail.1 ++ tail.2) := by
  obtain ⟨c, t, hchars, hc⟩ := clock.hour.exists_cons
  have hone (mark : Char) (chars : List Char) (h : chars.contains mark = true) (items : List Item) :
      readFrom? found (mark :: clock.timeChars) (.oneOf chars :: items) =
        readFrom? found clock.timeChars items := by
    rw [readFrom?_oneOf, h, if_pos rfl]
  have hend (mark : Char) : readFrom? found (mark :: clock.timeChars) [] = none := rfl
  rw [Clock.chars]
  cases hblank : clock.blank with
  | true =>
    have hblanks (items : List Item) :
        readFrom? found (' ' :: clock.timeChars) (.blanks :: items) =
          readFrom? found clock.timeChars items := by
      have hdrop : Text.dropBlanks (' ' :: clock.timeChars) = clock.timeChars := by
        rw [Text.dropBlanks, List.dropWhile_cons_of_pos (by decide), Clock.timeChars, hchars,
          List.cons_append, List.dropWhile_cons_of_neg (by simp [isBlank_of_isDigit hc])]
      rw [readFrom?_cons, take?, hdrop]
      rfl
    have hletter (items : List Item) :
        readFrom? found (' ' :: clock.timeChars) (.oneOf ['T'] :: items) = none := rfl
    simp only [behindDate, behindTime, List.map_cons, List.map_nil, readAny?_cons, readAny?_nil,
      if_true, hone ' ' ['T', 't', ' '] (by decide), hblanks, hletter, hend,
      Option.bind_none, Option.none_or, Option.or_none, List.append_nil]
  | false =>
    -- layouts with blanks skip none and want an hour where the letter is
    have hhead : ∀ c ∈ ('T' :: clock.timeChars).head?,
        c.isDigit = false ∧ Text.isBlank c = false ∧ c ≠ '-' ∧ c ≠ '+' := by
      rintro c hc
      obtain rfl : 'T' = c := by simpa using hc
      decide
    have hloose (items : List Item) :
        readFrom? found ('T' :: clock.timeChars) (.loose .hour :: items) = none :=
      readFrom?_loose_of_head .hour hhead
    have hblanks (items : List Item) :
        readFrom? found ('T' :: clock.timeChars) (.blanks :: (timeItems false ++ items)) = none :=
      hloose (.oneOf [':'] :: .loose .minute :: items)
    have hblanks' : readFrom? found ('T' :: clock.timeChars) (.blanks :: timeItems false) = none :=
      hloose [.oneOf [':'], .loose .minute]
    simp only [behindDate, behindTime, List.map_cons, List.map_nil, readAny?_cons, readAny?_nil,
      Bool.false_eq_true, if_false, hone 'T' ['T', 't', ' '] (by decide),
      hone 'T' ['T'] (by decide), hblanks, hblanks', hend,
      Option.bind_none, Option.none_or, Option.or_none, List.append_nil]

/-- Behind the minutes, seconds are read where there are any. -/
theorem readAny?_seconds (blank : Bool) (seconds : Seconds)
    (hs : ∀ c ∈ s.head?, c.isDigit = false ∧ c ≠ '.') :
    readAny? found (seconds.chars ++ s) ((behindTime blank).map (·.2)) =
      (storeSeconds? found seconds).bind fun found =>
        readAny? found s ((behindSeconds blank).map (·.2)) := by
  have hend : readFrom? found (seconds.chars ++ s) [] = none := rfl
  have hzone : readFrom? found (seconds.chars ++ s) [.looseZone] = none := rfl
  have hfit : readAny? found (seconds.chars ++ s) ((behindTime blank).map (·.2)) =
      readAny? found (seconds.chars ++ s)
        ((behindSeconds blank).map fun tail => secondItems tail.1 ++ tail.2) := by
    cases blank with
    | true =>
      simp only [behindTime, behindSeconds, if_true, List.map_cons, List.map_nil, readAny?_cons,
        readAny?_nil, hend, Option.bind_none, Option.or_none, List.append_nil]
    | false =>
      simp only [behindTime, behindSeconds, Bool.false_eq_true, if_false, List.map_cons,
        List.map_nil, readAny?_cons, readAny?_nil, hend, hzone, Option.bind_none, Option.none_or,
        Option.or_none, List.append_nil]
  rw [hfit]
  exact readAny?_map fun tail _ => readFrom?_seconds tail.1 seconds hs

/-- Behind the minutes, no seconds are read where there are none. -/
theorem readAny?_no_seconds (blank : Bool) (hs : ∀ c ∈ s.head?, c ≠ ':') :
    readAny? found s ((behindTime blank).map (·.2)) =
      readAny? found s (if blank then [[]] else [[], [.looseZone]]) := by
  have hcolon (exact : Bool) (items : List Item) :
      readFrom? found s (secondItems exact ++ items) = none :=
    readFrom?_oneOf_of_head fun c hc => by simpa using hs c hc
  have hcolon' (exact : Bool) : readFrom? found s (secondItems exact) = none :=
    readFrom?_oneOf_of_head fun c hc => by simpa using hs c hc
  cases blank with
  | true =>
    simp only [behindTime, if_true, List.map_cons, List.map_nil, readAny?_cons, readAny?_nil,
      hcolon, hcolon', Option.bind_none, Option.none_or]
  | false =>
    simp only [behindTime, Bool.false_eq_true, if_false, List.map_cons, List.map_nil,
      readAny?_cons, readAny?_nil, hcolon, hcolon', Option.bind_none, Option.none_or]

/-! ## Dates with slashes -/

theorem readFrom?_slash_of_digit {c : Char} (hc : c.isDigit = true) :
    readFrom? found (c :: s) (.oneOf ['/'] :: items) = none := by
  refine readFrom?_oneOf_of_head fun d hd => ?_
  obtain rfl : c = d := by simpa using hd
  rw [List.contains_cons, List.contains_nil, Bool.or_false, beq_eq_false_iff_ne]
  rintro rfl
  exact absurd hc (by decide)

/-- A date with slashes is none with hyphens. -/
theorem readFrom?_hyphens_of_slash (exact : Bool) {width : Nat} (digits : Digits 1 (some width))
    (hwidth : width ≤ 4) :
    readFrom? found (digits.chars ++ '/' :: s) (dateItems exact ++ items) = none := by
  have hslash : ∀ c ∈ ('/' :: s).head?, c.isDigit = false := by simp
  have hlength : digits.chars.length ≤ 4 := Nat.le_trans (digits.le_most width rfl) hwidth
  have hyphen (found : Found) (items : List Item) :
      readFrom? found ('/' :: s) (.oneOf ['-'] :: items) = none := rfl
  cases exact with
  | false =>
    rw [dateItems, List.cons_append]
    exact (readFrom?_loose .year digits hlength (.inr hslash)).trans (by simp [hyphen])
  | true =>
    rcases Nat.lt_or_ge digits.chars.length 4 with hshort | hfull
    · have hnone : takeNumber? 4 4 (digits.chars ++ '/' :: s) = none :=
        takeNumber?_short digits.isDigit hshort hslash
      rw [dateItems, List.cons_append, readFrom?_cons, number, if_pos rfl, take?]
      simp only [Field.width, hnone]
      rfl
    · exact (readFrom?_exact .year ⟨digits.chars, digits.isDigit, hfull, by simpa using hlength⟩
        rfl).trans (by simp [hyphen])

/-- The layouts with hyphens fail at slashes. -/
theorem readAny?_of_slash {width : Nat} (digits : Digits 1 (some width)) (hwidth : width ≤ 4) :
    readAny? found (digits.chars ++ '/' :: s) Layout.layouts =
      readAny? found (digits.chars ++ '/' :: s) slashLayouts := by
  have hnone : readAny? found (digits.chars ++ '/' :: s)
      (behindDate.map fun tail => dateItems tail.1 ++ tail.2) = none :=
    List.findSome?_eq_none_iff.2 fun layout hlayout => by
      obtain ⟨tail, -, rfl⟩ := List.mem_map.1 hlayout
      rw [readFrom?_hyphens_of_slash tail.1 digits hwidth, Option.bind_none]
  rw [layouts_eq, readAny?_append, hnone, Option.none_or]

/-- Behind a date that is read, the layouts go on that start with one. -/
theorem readAny?_date (year : Digits 4 (some 4)) (month day : Digits 2 (some 2)) :
    readAny? found (year.chars ++ '-' :: (month.chars ++ '-' :: (day.chars ++ s))) Layout.layouts =
      (storeDate? found year.value month.value day.value).bind fun found =>
        readAny? found s (behindDate.map (·.2)) := by
  -- a year has more digits than the month before a slash, and a hyphen is no slash
  have hmonth : readFrom? found (year.chars ++ '-' :: (month.chars ++ '-' :: (day.chars ++ s)))
      [.loose .month, .oneOf ['/'], .loose .day, .oneOf ['/'], .loose .year] = none :=
    readFrom?_loose_of_more .month year.isDigit (Nat.lt_of_lt_of_le (by decide) year.least_le)
      fun found c s hc => readFrom?_slash_of_digit hc
  have hyear : readFrom? found (year.chars ++ '-' :: (month.chars ++ '-' :: (day.chars ++ s)))
      [.loose .year, .oneOf ['/'], .loose .month, .oneOf ['/'], .loose .day] = none :=
    (readFrom?_number false .year year rfl).trans (by simp [readFrom?_oneOf])
  have hslashes : readAny? found (year.chars ++ '-' :: (month.chars ++ '-' :: (day.chars ++ s)))
      slashLayouts = none := by
    rw [slashLayouts, readAny?_cons_of_none hmonth, readAny?_cons_of_none hyear, readAny?_nil]
  rw [layouts_eq, readAny?_append, hslashes, Option.or_none]
  exact readAny?_map fun tail _ => readFrom?_date tail.1 year month day

/-! ## Zones behind a clock -/

/-- Stores the zone of a clock, if there is one. -/
def storeEnd? (found : Found) (zone : Option Zone) : Option Found :=
  zone.elim (some found) (storeZone? found)

theorem Zone.head_chars (zone : Option Zone) :
    ∀ c ∈ (zone.elim [] Zone.chars).head?, c.isDigit = false ∧ c ≠ '.' ∧ c ≠ ':' := by
  match zone with
  | none => simp
  | some .letter =>
    rintro c hc
    obtain rfl : 'Z' = c := by simpa [Zone.chars] using hc
    decide
  | some (.offset true hours colon minutes) =>
    rintro c hc
    obtain rfl : '-' = c := by simpa [Zone.chars] using hc
    decide
  | some (.offset false hours colon minutes) =>
    rintro c hc
    obtain rfl : '+' = c := by simpa [Zone.chars] using hc
    decide

theorem readFrom?_zone_end (zone : Zone) : readFrom? found zone.chars [] = none := by
  cases zone <;> rfl

/-- Behind seconds the letter and offsets with a colon are read, and after the letter `T` also
    those without. -/
theorem readAny?_zone_of_seconds (blank : Bool) (zone : Option Zone) :
    readAny? found (zone.elim [] Zone.chars) ((behindSeconds blank).map (·.2)) =
      if zone.any (fun zone => blank && !zone.isExact) then none
      else (storeEnd? found zone).bind Found.moment? := by
  cases zone with
  | none =>
    have hall : readFrom? found [] [] = some found := rfl
    have hzone : readFrom? found [] [.zone] = none := rfl
    have hloose : readFrom? found [] [.looseZone] = none := rfl
    cases blank <;>
      simp [behindSeconds, readAny?_cons, hall, hzone, hloose, storeEnd?]
  | some zone =>
    cases zone with
    | letter =>
      have hoffset : Zone.letter.isOffset = false := rfl
      have hexact : Zone.letter.isExact = true := rfl
      cases blank <;>
        simp [behindSeconds, readAny?_cons, readFrom?_zone_end, readFrom?_zone, readFrom?_looseZone,
          hexact, hoffset, storeEnd?]
    | offset negative hours colon minutes =>
      have hoffset : (Zone.offset negative hours colon minutes).isOffset = true := rfl
      have hexact : (Zone.offset negative hours colon minutes).isExact = colon := rfl
      cases blank <;> cases colon <;>
        simp [behindSeconds, readAny?_cons, readFrom?_zone_end, readFrom?_zone, readFrom?_looseZone,
          hexact, hoffset, storeEnd?]

/-- Behind the minutes only offsets are read, and only after the letter `T`. -/
theorem readAny?_zone_of_minutes (blank : Bool) (zone : Option Zone) :
    readAny? found (zone.elim [] Zone.chars) (if blank then [[]] else [[], [.looseZone]]) =
      if zone.any (fun zone => blank || !zone.isOffset) then none
      else (storeEnd? found zone).bind Found.moment? := by
  cases zone with
  | none =>
    have hall : readFrom? found [] [] = some found := rfl
    have hloose : readFrom? found [] [.looseZone] = none := rfl
    cases blank <;> simp [readAny?_cons, hall, hloose, storeEnd?]
  | some zone =>
    cases blank <;> cases hoffset : zone.isOffset <;>
      simp [readAny?_cons, readFrom?_zone_end, readFrom?_looseZone, hoffset, storeEnd?]

/-! ## Clocks -/

/-- Stores the numbers of a clock. -/
def storeClock? (found : Found) (clock : Clock) : Option Found :=
  (storeTime? found clock.hour.value clock.minute.value).bind fun found =>
    (clock.seconds.elim (some found) (storeSeconds? found)).bind fun found =>
      storeEnd? found clock.zone

theorem Clock.isUnread_of_minutes {clock : Clock} (h : clock.seconds = none) :
    clock.isUnread = clock.zone.any fun zone => clock.blank || !zone.isOffset := by
  rw [isUnread, h]
  match clock.zone with
  | none => rfl
  | some .letter => simp [Zone.isOffset]
  | some (.offset _ _ colon _) => simp [Zone.isOffset]

theorem Clock.isUnread_of_seconds {clock : Clock} {seconds : Seconds}
    (h : clock.seconds = some seconds) :
    clock.isUnread = clock.zone.any fun zone => clock.blank && !zone.isExact := by
  rw [isUnread, h]
  match clock.zone with
  | none => rfl
  | some .letter => simp [Zone.isExact]
  | some (.offset _ _ colon _) => simp [Zone.isExact]

/-- A clock is read and stored, unless there is no layout for its form. -/
theorem readAny?_clock (clock : Clock) :
    readAny? found clock.chars (behindDate.map (·.2)) =
      if clock.isUnread then none else (storeClock? found clock).bind Found.moment? := by
  have hhead := Zone.head_chars clock.zone
  have htime : readAny? found clock.timeChars
      ((behindTime clock.blank).map fun tail => timeItems tail.1 ++ tail.2) =
      (storeTime? found clock.hour.value clock.minute.value).bind fun found =>
        readAny? found (clock.seconds.elim [] Seconds.chars ++ clock.zone.elim [] Zone.chars)
          ((behindTime clock.blank).map (·.2)) :=
    readAny?_map fun tail _ => readFrom?_time tail.1 clock.hour clock.minute
  rw [readAny?_mark, htime, storeClock?]
  -- layouts with seconds and without are told apart by what follows the minutes
  cases hseconds : clock.seconds with
  | none =>
    rw [Clock.isUnread_of_minutes hseconds]
    simp only [Option.elim_none, List.nil_append, Option.bind_some,
      readAny?_no_seconds clock.blank fun c hc => (hhead c hc).2.2, readAny?_zone_of_minutes]
    split
    · simp
    · rw [Option.bind_assoc]
  | some seconds =>
    rw [Clock.isUnread_of_seconds hseconds]
    simp only [Option.elim_some,
      readAny?_seconds clock.blank seconds fun c hc => ⟨(hhead c hc).1, (hhead c hc).2.1⟩,
      readAny?_zone_of_seconds]
    split
    · simp
    · simp only [Option.bind_assoc]

/-! ## What is stored -/

theorem storeDate?_eq_some_iff {year month day : Nat} {next : Found} :
    storeDate? found year month day = some next ↔
      ((1 ≤ month ∧ month ≤ 12) ∧ 1 ≤ day ∧ day ≤ 31) ∧
        { found with year := year, month := month, day := day } = next := by
  have hmonth : (1 ≤ (month : Int) ∧ (month : Int) ≤ 12) ↔ 1 ≤ month ∧ month ≤ 12 := by omega
  have hday : (1 ≤ (day : Int) ∧ (day : Int) ≤ 31) ↔ 1 ≤ day ∧ day ≤ 31 := by omega
  simp only [storeDate?, Field.store, Option.bind_some, Option.bind_eq_some_iff,
    Option.ite_none_right_eq_some, Option.some.injEq, hmonth, hday, Int.toNat_natCast]
  constructor
  · rintro ⟨_, ⟨h, rfl⟩, h', rfl⟩
    exact ⟨⟨h, h'⟩, rfl⟩
  · rintro ⟨⟨h, h'⟩, rfl⟩
    exact ⟨_, ⟨h, rfl⟩, h', rfl⟩

theorem storeTime?_eq_some_iff {hour minute : Nat} {next : Found} :
    storeTime? found hour minute = some next ↔
      (hour ≤ 23 ∧ minute ≤ 59) ∧ { found with hour := hour, minute := minute } = next := by
  have hhour : (0 ≤ (hour : Int) ∧ (hour : Int) ≤ 23) ↔ hour ≤ 23 := by omega
  have hminute : (0 ≤ (minute : Int) ∧ (minute : Int) ≤ 59) ↔ minute ≤ 59 := by omega
  simp only [storeTime?, Field.store, Option.bind_eq_some_iff, Option.ite_none_right_eq_some,
    Option.some.injEq, hhour, hminute, Int.toNat_natCast]
  constructor
  · rintro ⟨_, ⟨h, rfl⟩, h', rfl⟩
    exact ⟨⟨h, h'⟩, rfl⟩
  · rintro ⟨⟨h, h'⟩, rfl⟩
    exact ⟨_, ⟨h, rfl⟩, h', rfl⟩

theorem storeSeconds?_eq_some_iff {seconds : Seconds} {next : Found} :
    storeSeconds? found seconds = some next ↔ seconds.whole.value ≤ 60 ∧
      { found with
        second := seconds.whole.value
        nanosecond := seconds.fraction.elim 0 (·.nanoseconds) } = next := by
  have hsecond : (0 ≤ (seconds.whole.value : Int) ∧ (seconds.whole.value : Int) ≤ 60) ↔
      seconds.whole.value ≤ 60 := by omega
  simp only [storeSeconds?, Field.store, Option.bind_eq_some_iff, Option.ite_none_right_eq_some,
    Option.some.injEq, hsecond, Int.toNat_natCast]
  constructor
  · rintro ⟨_, ⟨h, rfl⟩, rfl⟩
    exact ⟨h, rfl⟩
  · rintro ⟨h, rfl⟩
    exact ⟨_, ⟨h, rfl⟩, rfl⟩

theorem storeZone?_eq_some_iff {zone : Zone} {next : Found} :
    storeZone? found zone = some next ↔
      zone.IsPossible ∧ { found with offset := some zone.minutes } = next := by
  cases zone with
  | letter => simp [storeZone?, Zone.IsPossible, Zone.minutes]
  | offset negative hours colon minutes =>
    rw [storeZone?, Zone.IsPossible, Option.ite_none_left_eq_some, Option.some.injEq]
    refine and_congr_left fun _ => ?_
    omega

theorem elim_storeSeconds?_eq_some_iff {seconds : Option Seconds} {next : Found} :
    seconds.elim (some found) (storeSeconds? found) = some next ↔
      (∀ present ∈ seconds, present.whole.value ≤ 60) ∧
        { found with
          second := seconds.elim found.second (·.whole.value)
          nanosecond := seconds.elim found.nanosecond fun seconds =>
            seconds.fraction.elim 0 (·.nanoseconds) } = next := by
  cases seconds with
  | none => simp
  | some seconds => simp [storeSeconds?_eq_some_iff]

theorem storeEnd?_eq_some_iff {zone : Option Zone} {next : Found} :
    storeEnd? found zone = some next ↔
      (∀ present ∈ zone, present.IsPossible) ∧
        { found with offset := zone.elim found.offset fun zone => some zone.minutes } = next := by
  cases zone with
  | none => simp [storeEnd?]
  | some zone => simp [storeEnd?, storeZone?_eq_some_iff]

/-- The numbers of a clock are stored just in case there is such a time of day. -/
theorem storeClock?_eq_some_iff {clock : Clock} {next : Found} :
    storeClock? found clock = some next ↔ clock.IsPossible ∧
      { found with
        hour := clock.hour.value
        minute := clock.minute.value
        second := clock.seconds.elim found.second (·.whole.value)
        nanosecond := clock.seconds.elim found.nanosecond fun seconds =>
          seconds.fraction.elim 0 (·.nanoseconds)
        offset := clock.zone.elim found.offset fun zone => some zone.minutes } = next := by
  simp only [storeClock?, Option.bind_eq_some_iff, storeTime?_eq_some_iff,
    elim_storeSeconds?_eq_some_iff, storeEnd?_eq_some_iff]
  constructor
  · rintro ⟨_, ⟨⟨hhour, hminute⟩, rfl⟩, _, ⟨hseconds, rfl⟩, hzone, rfl⟩
    exact ⟨⟨hhour, hminute, hseconds, hzone⟩, rfl⟩
  · rintro ⟨⟨hhour, hminute, hseconds, hzone⟩, rfl⟩
    exact ⟨_, ⟨⟨hhour, hminute⟩, rfl⟩, _, ⟨hseconds, rfl⟩, hzone, rfl⟩

/-! ## Spellings -/

/-- Stores the numbers of a spelling. -/
def Spelling.store? (spelling : Spelling) : Option Found :=
  (storeDate? {} spelling.date.year.toNat spelling.date.month spelling.date.day).bind fun found =>
    spelling.clock?.elim (some found) (storeClock? found)

/-- The numbers of a date are stored in whichever order. -/
theorem storeDate?_yearLast (found : Found) (year month day : Nat) :
    ((Field.month.store found month).bind fun found =>
      (Field.day.store found day).bind fun found => Field.year.store found year) =
        storeDate? found year month day := by
  by_cases hmonth : 1 ≤ (month : Int) ∧ (month : Int) ≤ 12
  · by_cases hday : 1 ≤ (day : Int) ∧ (day : Int) ≤ 31
    · simp only [storeDate?, Field.store, if_pos hmonth, if_pos hday, Option.bind_some]
    · simp only [storeDate?, Field.store, if_pos hmonth, if_neg hday, Option.bind_some,
        Option.bind_none]
  · simp only [storeDate?, Field.store, if_neg hmonth, Option.bind_some, Option.bind_none]

section Slashes

variable (month day : Digits 1 (some 2)) (year : Digits 4 (some 4))

theorem readFrom?_slash {most : Nat} (field : Field) (digits : Digits 1 (some most))
    (hmost : most ≤ field.width) :
    readFrom? found (digits.chars ++ '/' :: s) (.loose field :: .oneOf ['/'] :: items) =
      (field.store found digits.value).bind fun found => readFrom? found s items :=
  readFrom?_loose field digits (Nat.le_trans (digits.le_most most rfl) hmost) (.inr (by simp))

theorem readFrom?_end {least most : Nat} (field : Field) (digits : Digits (least + 1) (some most))
    (hmost : most ≤ field.width) :
    readFrom? found digits.chars [.loose field] = field.store found digits.value := by
  have hread : readFrom? found (digits.chars ++ []) [.loose field] =
      (field.store found digits.value).bind fun found => readFrom? found [] [] :=
    readFrom?_loose field (digits.relax (Nat.le_add_left _ _))
      (Nat.le_trans (digits.le_most most rfl) hmost) (.inr (by simp))
  rw [List.append_nil] at hread
  exact hread.trans (Option.bind_fun_some _)

theorem readAny?_monthFirst :
    readAny? {} (month.chars ++ '/' :: (day.chars ++ '/' :: year.chars)) Layout.layouts =
      (storeDate? {} year.value month.value day.value).bind Found.moment? := by
  have hfirst : readFrom? {} (month.chars ++ '/' :: (day.chars ++ '/' :: year.chars))
      [.loose .month, .oneOf ['/'], .loose .day, .oneOf ['/'], .loose .year] =
        storeDate? {} year.value month.value day.value := by
    simp only [readFrom?_slash .month month (Nat.le_refl 2), readFrom?_slash .day day (Nat.le_refl 2),
      readFrom?_end .year year (Nat.le_refl 4), storeDate?_yearLast]
  -- the year has too many digits for the day that the other layout looks for
  have hday (found : Found) : readFrom? found year.chars [.loose .day] = none := by
    have hnone : readFrom? found (year.chars ++ []) [.loose .day] = none :=
      readFrom?_loose_of_more .day year.isDigit
        (Nat.lt_of_lt_of_le (by decide) year.least_le) fun found c s hc => rfl
    rwa [List.append_nil] at hnone
  have hsecond : readFrom? {} (month.chars ++ '/' :: (day.chars ++ '/' :: year.chars))
      [.loose .year, .oneOf ['/'], .loose .month, .oneOf ['/'], .loose .day] = none := by
    simp only [readFrom?_slash .year month (by decide), readFrom?_slash .month day (Nat.le_refl 2),
      hday, Option.bind_fun_none]
  rw [readAny?_of_slash month (by decide), slashLayouts, readAny?_cons, hfirst,
    readAny?_cons_of_none hsecond, readAny?_nil, Option.or_none]

theorem readAny?_yearFirst :
    readAny? {} (year.chars ++ '/' :: (month.chars ++ '/' :: day.chars)) Layout.layouts =
      (storeDate? {} year.value month.value day.value).bind Found.moment? := by
  let digits : Digits 1 (some 4) := year.relax (by decide)
  have hfirst : readFrom? {} (digits.chars ++ '/' :: (month.chars ++ '/' :: day.chars))
      [.loose .month, .oneOf ['/'], .loose .day, .oneOf ['/'], .loose .year] = none :=
    readFrom?_loose_of_more .month year.isDigit (Nat.lt_of_lt_of_le (by decide) year.least_le)
      fun found c s hc => readFrom?_slash_of_digit hc
  have hsecond : readFrom? {} (digits.chars ++ '/' :: (month.chars ++ '/' :: day.chars))
      [.loose .year, .oneOf ['/'], .loose .month, .oneOf ['/'], .loose .day] =
        storeDate? {} year.value month.value day.value := by
    simp only [readFrom?_slash .year digits (Nat.le_refl 4),
      readFrom?_slash .month month (Nat.le_refl 2), readFrom?_end .day day (Nat.le_refl 2)]
    rfl
  have hslash : readAny? {} (digits.chars ++ '/' :: (month.chars ++ '/' :: day.chars))
      Layout.layouts = readAny? {} (digits.chars ++ '/' :: (month.chars ++ '/' :: day.chars))
        slashLayouts :=
    readAny?_of_slash digits (Nat.le_refl 4)
  rw [slashLayouts, readAny?_cons_of_none hfirst, readAny?_cons, hsecond, readAny?_nil,
    Option.or_none] at hslash
  exact hslash

end Slashes

/-- A spelling is read and stored, unless there is no layout for its form. -/
theorem readMoment?_text (spelling : Spelling) :
    readMoment? spelling.text =
      if spelling.isUnread then none else spelling.store?.bind Found.moment? := by
  have hread : readMoment? spelling.text = readAny? {} spelling.chars Layout.layouts := by
    rw [readMoment?, Spelling.text, String.toList_ofList]
    rfl
  rw [hread]
  cases spelling with
  | hyphens year month day clock =>
    rw [Spelling.chars, readAny?_date, Spelling.store?, Spelling.isUnread]
    cases clock with
    | none =>
      simp [Spelling.clock?, Spelling.date, readAny?_date_alone]
    | some clock =>
      simp only [Spelling.clock?, Spelling.date, Option.elim_some, readAny?_clock, Option.any_some,
        Int.toNat_natCast]
      by_cases hunread : clock.isUnread = true
      · simp [hunread]
      · simp [hunread, Option.bind_assoc]
  | monthFirst month day year =>
    rw [Spelling.chars, readAny?_monthFirst]
    simp [Spelling.isUnread, Spelling.store?, Spelling.clock?, Spelling.date]
  | yearFirst year month day =>
    rw [Spelling.chars, readAny?_yearFirst]
    simp [Spelling.isUnread, Spelling.store?, Spelling.clock?, Spelling.date]

/-! ## Possible spellings -/

variable {spelling : Spelling}

/-- The numbers that are to be found in a spelling. -/
def Spelling.numbers (spelling : Spelling) : Found where
  year := spelling.date.year
  month := spelling.date.month
  day := spelling.date.day
  hour := spelling.moment.hour
  minute := spelling.moment.minute
  second := spelling.moment.second
  nanosecond := spelling.moment.nanosecond
  offset := spelling.zone?.map Zone.minutes

theorem Spelling.store?_eq_some_iff {next : Found} :
    spelling.store? = some next ↔
      ((1 ≤ spelling.date.month ∧ spelling.date.month ≤ 12) ∧
        1 ≤ spelling.date.day ∧ spelling.date.day ≤ 31) ∧
        (∀ clock ∈ spelling.clock?, clock.IsPossible) ∧ spelling.numbers = next := by
  have hyear : ((spelling.date.year.toNat : Nat) : Int) = spelling.date.year :=
    Int.toNat_of_nonneg spelling.year_bounds.1
  rw [store?, numbers, moment, zone?]
  cases spelling.clock? with
  | none =>
    simp only [Option.elim_none, Option.bind_fun_some, storeDate?_eq_some_iff, hyear]
    simp
  | some clock =>
    simp only [Option.elim_some, Option.bind_some, Option.bind_eq_some_iff,
      storeDate?_eq_some_iff, storeClock?_eq_some_iff, hyear]
    constructor
    · rintro ⟨_, ⟨hdate, rfl⟩, hclock, rfl⟩
      refine ⟨hdate, by simpa using hclock, ?_⟩
      cases clock.seconds <;> cases clock.zone <;> rfl
    · rintro ⟨hdate, hclock, rfl⟩
      refine ⟨_, ⟨hdate, rfl⟩, hclock clock rfl, ?_⟩
      cases clock.seconds <;> cases clock.zone <;> rfl

theorem Spelling.moment?_numbers :
    spelling.numbers.moment? =
      if spelling.date.isValid &&
          (spelling.moment.toGreenwich spelling.offset).date.isValid then
        some (spelling.moment.toGreenwich spelling.offset)
      else none := by
  have hoffset : spelling.numbers.offset.getD 0 = spelling.offset := by
    rw [numbers, offset]
    cases spelling.zone? <;> rfl
  rw [Found.moment?, hoffset]
  rfl

/-- A spelling is read just in case there is a layout for its form and such a day and time; it is
    then carried to Greenwich. -/
theorem readMoment?_eq_some_iff {moment : Moment} :
    readMoment? spelling.text = some moment ↔
      spelling.isUnread = false ∧ spelling.IsPossible ∧
        spelling.moment.toGreenwich spelling.offset = moment := by
  rw [readMoment?_text, Option.ite_none_left_eq_some, Bool.not_eq_true]
  refine and_congr_right fun _ => ?_
  simp only [Option.bind_eq_some_iff, Spelling.store?_eq_some_iff]
  constructor
  · rintro ⟨_, ⟨-, hclock, rfl⟩, hmoment⟩
    rw [Spelling.moment?_numbers, Option.ite_none_right_eq_some, Bool.and_eq_true] at hmoment
    exact ⟨⟨hmoment.1.1, hclock⟩, Option.some.inj hmoment.2⟩
  · rintro ⟨hpossible, rfl⟩
    obtain ⟨-, hmonth, hday, hdays⟩ := Date.isValid_iff.1 hpossible.date
    have hlong := Date.daysInMonth_pos spelling.date.year spelling.date.month
    refine ⟨_, ⟨⟨hmonth, hday, Nat.le_trans hdays hlong.2⟩, hpossible.clock, rfl⟩, ?_⟩
    rw [Spelling.moment?_numbers, hpossible.date, hpossible.means.isValid.date, Bool.and_self,
      if_pos rfl]

end Gherkin.Layout
