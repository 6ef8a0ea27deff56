/-
  Gherkin.Calendar.Layout

  Reading dates and moments by layouts. A layout is a sequence of items; each
  takes what it describes from the front of the text, and nothing may be left.
  Exact items want their full number of digits; loose ones may have fewer, and
  blanks before them.
-/
import Gherkin.Calendar.Date
import Gherkin.Number.Numeral
import Gherkin.Text.Blank

namespace Gherkin.Layout

/-! ## Items -/

/-- The numbers of a moment. -/
inductive Field where
  | year
  | month
  | day
  | hour
  | minute
  | second
  deriving DecidableEq, Repr

/-- The items of a layout. -/
inductive Item where
  /-- A number with all its digits. -/
  | exact (field : Field)
  /-- A number with at most its digits; a year with a sign may have any number of them. -/
  | loose (field : Field)
  /-- A point and digits, or nothing. Digits after the ninth do not count. -/
  | fraction
  /-- One of the characters. -/
  | oneOf (chars : List Char)
  /-- Any number of blanks. -/
  | blanks
  /-- The letter `Z`, or a sign, hours, a colon and minutes. -/
  | zone
  /-- A sign, hours and minutes; colons and blanks may stand between the numbers. -/
  | looseZone
  deriving DecidableEq, Repr

/-- What the items have found so far. An offset is in minutes. -/
structure Found where
  year : Int := 0
  month : Nat := 1
  day : Nat := 1
  hour : Nat := 0
  minute : Nat := 0
  second : Nat := 0
  nanosecond : Nat := 0
  offset : Option Int := none

namespace Field

/-- The number of digits of a field. -/
def width : Field → Nat
  | year => 4
  | _ => 2

/-- Takes the value of a field if it can have that value; whether there is such a day is not
    asked yet. -/
def store (found : Found) (value : Int) : Field → Option Found
  | year => some { found with year := value }
  | month => if 1 ≤ value ∧ value ≤ 12 then some { found with month := value.toNat } else none
  | day => if 1 ≤ value ∧ value ≤ 31 then some { found with day := value.toNat } else none
  | hour => if 0 ≤ value ∧ value ≤ 23 then some { found with hour := value.toNat } else none
  | minute => if 0 ≤ value ∧ value ≤ 59 then some { found with minute := value.toNat } else none
  | second => if 0 ≤ value ∧ value ≤ 60 then some { found with second := value.toNat } else none

end Field

/-- Takes at least `least` and at most `most` digits. -/
def takeNumber? (least most : Nat) (s : List Char) : Option (Nat × List Char) :=
  let digits := (s.take most).takeWhile Char.isDigit
  if digits.length < least then none
  else some (Number.digitsValue digits, s.drop digits.length)

/-- Takes a loose number. -/
def takeLoose? (field : Field) (s : List Char) : Option (Int × List Char) :=
  match field, Text.dropBlanks s with
  | .year, '-' :: s => (takeNumber? 1 s.length s).map fun (n, rest) => (-(n : Int), rest)
  | .year, '+' :: s => (takeNumber? 1 s.length s).map fun (n, rest) => ((n : Int), rest)
  | _, s => (takeNumber? 1 field.width s).map fun (n, rest) => ((n : Int), rest)

/-- The nanoseconds written by the digits of a fraction. -/
def nanoseconds (digits : List Char) : Nat :=
  -- what is less than a nanosecond is cut off
  let digits := digits.take 9
  Number.digitsValue digits * Number.tenPow (9 - digits.length)

/-- Takes a fraction, if there is one. -/
def takeFraction? : List Char → Option (Nat × List Char)
  | '.' :: s =>
    let (digits, rest) := Number.spanDigits s
    if digits.isEmpty then none else some (nanoseconds digits, rest)
  | s => some (0, s)

/-- Takes the sign of an offset: whether it is negative. The minus sign of typography counts. -/
def takeOffsetSign? : List Char → Option (Bool × List Char)
  | '+' :: s => some (false, s)
  | '-' :: s => some (true, s)
  | '\u2212' :: s => some (true, s)
  | _ => none

/-- Takes an offset in minutes; `separator` takes what stands between hours and minutes. -/
def takeOffset? (separator : List Char → Option (List Char)) (s : List Char) :
    Option (Int × List Char) := do
  let (negative, s) ← takeOffsetSign? s
  let (hours, s) ← takeNumber? 2 2 s
  let (minutes, s) ← takeNumber? 2 2 (← separator s)
  -- an offset is less than a day
  if 59 < minutes ∨ 23 < hours then none
  else
    let offset : Int := hours * 60 + minutes
    return (if negative then -offset else offset, s)

/-- Takes a colon. -/
def colon? : List Char → Option (List Char)
  | ':' :: s => some s
  | _ => none

/-- Takes any number of colons and blanks. -/
def colonsOrBlanks (s : List Char) : List Char := s.dropWhile fun c => c = ':' || Text.isBlank c

/-- Takes one item. -/
def take? (found : Found) (s : List Char) : Item → Option (Found × List Char)
  | .exact field => do
    let (value, rest) ← takeNumber? field.width field.width s
    return (← field.store found value, rest)
  | .loose field => do
    let (value, rest) ← takeLoose? field s
    return (← field.store found value, rest)
  | .fraction => do
    let (nanosecond, rest) ← takeFraction? s
    return ({ found with nanosecond }, rest)
  | .oneOf chars =>
    match s with
    | c :: rest => if chars.contains c then some (found, rest) else none
    | [] => none
  | .blanks => some (found, Text.dropBlanks s)
  | .zone =>
    match s with
    | 'Z' :: rest => some ({ found with offset := some 0 }, rest)
    | 'z' :: rest => some ({ found with offset := some 0 }, rest)
    | s => do
      let (offset, rest) ← takeOffset? colon? s
      return ({ found with offset := some offset }, rest)
  | .looseZone => do
    let (offset, rest) ← takeOffset? (some ∘ colonsOrBlanks) (Text.dropBlanks s)
    return ({ found with offset := some offset }, rest)

/-! ## Layouts -/

/-- Takes all items of a layout; nothing may be left. -/
def readFrom? (found : Found) (s : List Char) : List Item → Option Found
  | [] => if s.isEmpty then some found else none
  | item :: items => do
    let (found, rest) ← take? found s item
    readFrom? found rest items

/-- The moment found, in Greenwich time if an offset was. Its day must be one of the calendar
    both as found and in Greenwich. -/
def Found.moment? (found : Found) : Option Moment :=
  let moment : Moment :=
    { date := { year := found.year, month := found.month, day := found.day }
      hour := found.hour, minute := found.minute, second := found.second
      nanosecond := found.nanosecond }
  let shifted := moment.toGreenwich (found.offset.getD 0)
  if moment.date.isValid && shifted.date.isValid then some shifted else none

/-- Reads a moment by a layout. -/
def read? (layout : List Item) (s : List Char) : Option Moment :=
  (readFrom? {} s layout).bind Found.moment?

/-- The items of a date, its numbers divided by hyphens. -/
def hyphenDate : List Item :=
  [.loose .year, .oneOf ['-'], .loose .month, .oneOf ['-'], .loose .day]

/-- The items of a time to the minute. -/
def hourMinute : List Item := [.loose .hour, .oneOf [':'], .loose .minute]

/-- The items of a time to the second and beyond. -/
def fullTime : List Item := hourMinute ++ [Item.oneOf [':'], .loose .second, .fraction]

/-- The layouts in which a moment may be written, in the order in which they are tried. -/
def layouts : List (List Item) :=
  -- the exact layout with a zone
  [[.exact .year, .oneOf ['-'], .exact .month, .oneOf ['-'], .exact .day, .oneOf ['T', 't', ' '],
    .exact .hour, .oneOf [':'], .exact .minute, .oneOf [':'], .exact .second, .fraction, .zone],
   -- a date and a time without a zone
   hyphenDate ++ [Item.oneOf ['T']] ++ fullTime,
   hyphenDate ++ [Item.blanks] ++ fullTime,
   hyphenDate ++ [Item.oneOf ['T']] ++ hourMinute,
   hyphenDate ++ [Item.blanks] ++ hourMinute,
   -- a date and a time with a zone
   hyphenDate ++ [Item.oneOf ['T']] ++ fullTime ++ [Item.looseZone],
   hyphenDate ++ [Item.oneOf ['T']] ++ hourMinute ++ [Item.looseZone],
   -- a date alone
   hyphenDate,
   [.loose .month, .oneOf ['/'], .loose .day, .oneOf ['/'], .loose .year],
   [.loose .year, .oneOf ['/'], .loose .month, .oneOf ['/'], .loose .day]]

/-- Reads a moment in any of the layouts. A date alone means its midnight. -/
def readMoment? (text : String) : Option Moment :=
  layouts.findSome? (read? · text.toList)

end Gherkin.Layout
