/-
  Gherkin.Number.Numeral

  Decimal numerals in ASCII digits, and whole numbers on 64 bits with a sign.
  A whole number is read from the left, and the first thing that goes wrong is
  reported: a character that is no digit, or a value that no longer fits.
-/

namespace Gherkin.Number

/-- The `n`-th power of two. -/
def twoPow (n : Nat) : Nat := Nat.pow 2 n

/-- The `n`-th power of ten. -/
def tenPow (n : Nat) : Nat := Nat.pow 10 n

/-- The value of an ASCII digit. -/
def digitValue (c : Char) : Nat := c.toNat - '0'.toNat

/-- The value of a list of ASCII digits. -/
def digitsValue (digits : List Char) : Nat :=
  digits.foldl (fun n c => n * 10 + digitValue c) 0

/-- The leading ASCII digits of `s` and the rest. -/
def spanDigits (s : List Char) : List Char × List Char := s.span Char.isDigit

/-- Takes a sign, if there is one; tells whether it was a minus. -/
def takeSign : List Char → Bool × List Char
  | '-' :: s => (true, s)
  | '+' :: s => (false, s)
  | s => (false, s)

/-- Why a text is no whole number on 64 bits. -/
inductive IntegerFault where
  | empty
  | invalidDigit
  | tooLarge
  | tooSmall
  deriving DecidableEq, Repr

/-- The wording of a fault. -/
def IntegerFault.message : IntegerFault → String
  | empty => "cannot parse integer from empty string"
  | invalidDigit => "invalid digit found in string"
  | tooLarge => "number too large to fit in target type"
  | tooSmall => "number too small to fit in target type"

/-- The greatest magnitude of a whole number with the sign. -/
def magnitudeLimit (negative : Bool) : Nat := if negative then twoPow 63 else twoPow 63 - 1

/-- The magnitude written by the digits after those of value `n`. -/
def readMagnitude (negative : Bool) (n : Nat) : List Char → Except IntegerFault Nat
  | [] => .ok n
  | c :: s =>
    if !c.isDigit then .error .invalidDigit
    else if magnitudeLimit negative < n * 10 + digitValue c then
      .error (if negative then .tooSmall else .tooLarge)
    else readMagnitude negative (n * 10 + digitValue c) s

/-- Reads a whole number: an optional sign and at least one digit. -/
def readInteger (text : String) : Except IntegerFault Int :=
  if text.isEmpty then .error .empty
  else
    let (negative, digits) := takeSign text.toList
    if digits.isEmpty then .error .invalidDigit
    else
      match readMagnitude negative 0 digits with
      | .error fault => .error fault
      | .ok n => .ok (if negative then -(n : Int) else n)

end Gherkin.Number
