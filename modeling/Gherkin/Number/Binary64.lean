/-
  Gherkin.Number.Binary64

  Numbers of the format binary64 by their bits: a sign, eleven bits of exponent
  and 52 bits of mantissa. A quotient of natural numbers is rounded to the
  nearest such number, a half to the even neighbour, in exact arithmetic.
-/
import Gherkin.Number.Numeral

namespace Gherkin

/-- A number of the format binary64. -/
structure Binary64 where
  bits : UInt64
  deriving DecidableEq, Repr

open Number (twoPow tenPow)

namespace Binary64

/-! ## Rounding -/

/-- The quotient rounded to the nearest whole number, a half to the even neighbour. -/
def roundQuotient (num den : Nat) : Nat :=
  let q := num / den
  let r := num % den
  if 2 * r < den then q
  else if den < 2 * r then q + 1
  else q + q % 2

/-- The bits of infinity. -/
def infinityBits : Nat := 0x7ff0000000000000

/-- The bits of a number that is not a number. -/
def nanBits : Nat := 0x7ff8000000000000

/-- The quotient of `num` by `den * 2 ^ e`, rounded. -/
def roundAt (num den : Nat) (e : Int) : Nat :=
  roundQuotient (num * twoPow (-e).toNat) (den * twoPow e.toNat)

/-- The exponent of the last place of the number nearest to `num / den`. The quotient lies
    strictly between `2 ^ (b - 1)` and `2 ^ (b + 1)` for the difference `b` of the lengths, so one
    of two exponents leaves 53 bits; no exponent is below that of the least number. -/
def lastPlace (num den : Nat) : Int :=
  let e := max ((num.log2 : Int) - den.log2 - 53) (-1074)
  if num * twoPow (-e).toNat < twoPow 53 * (den * twoPow e.toNat) then e else e + 1

/-- The bits of the number nearest to `num / den`. A mantissa of 53 bits carries into the exponent
    by itself, also when rounding makes it a power of two. -/
def ratioBits (num den : Nat) : Nat :=
  if num = 0 then 0
  else
    let e := lastPlace num den
    min infinityBits ((e + 1074).toNat * twoPow 52 + roundAt num den e)

/-- The number with a sign and the other bits. -/
def ofParts (negative : Bool) (bits : Nat) : Binary64 :=
  ⟨UInt64.ofNat (if negative then twoPow 63 + bits else bits)⟩

/-- The number nearest to `± mantissa * 10 ^ exponent`. Beyond 400 places the answer is known
    without working out the power. -/
def ofDecimal (negative : Bool) (mantissa : Nat) (exponent : Int) : Binary64 :=
  let places := exponent + (Nat.toDigits 10 mantissa).length
  ofParts negative <|
    if mantissa = 0 ∨ places < -400 then 0
    else if 400 < places then infinityBits
    else ratioBits (mantissa * tenPow exponent.toNat) (tenPow (-exponent).toNat)

/-- The number nearest to a whole number. -/
def ofInt (n : Int) : Binary64 := ofParts (n < 0) (ratioBits n.natAbs 1)

/-! ## Reading -/

/-- Why a text is no number. -/
inductive Fault where
  | empty
  | invalid
  deriving DecidableEq, Repr

/-- The wording of a fault. -/
def Fault.message : Fault → String
  | empty => "cannot parse float from empty string"
  | invalid => "invalid float literal"

/-- The exponent at the end of a numeral; none means that something else is there. -/
def readExponent? : List Char → Option Int
  | [] => some 0
  | c :: s =>
    let (negative, digits) := Number.takeSign s
    if (c = 'e' ∨ c = 'E') ∧ !digits.isEmpty ∧ digits.all Char.isDigit then
      some (if negative then -(Number.digitsValue digits : Int) else Number.digitsValue digits)
    else none

/-- The digits after a point, if one is there, and the rest. -/
def takeFraction : List Char → List Char × List Char
  | '.' :: s => Number.spanDigits s
  | s => ([], s)

/-- A numeral without sign: digits with a point anywhere among them or none, then an exponent or
    none. -/
def readNumeral? (negative : Bool) (s : List Char) : Option Binary64 :=
  let (whole, rest) := Number.spanDigits s
  let (fraction, rest) := takeFraction rest
  if whole.isEmpty && fraction.isEmpty then none
  else
    (readExponent? rest).map fun exponent =>
      ofDecimal negative (Number.digitsValue (whole ++ fraction)) (exponent - fraction.length)

/-- Reads a number: an optional sign, then a numeral or the name of a special number in letters
    of any case. -/
def read (text : String) : Except Fault Binary64 :=
  if text.isEmpty then .error .empty
  else
    let (negative, s) := Number.takeSign text.toList
    let name := String.ofList (s.map Char.toLower)
    if name = "inf" ∨ name = "infinity" then .ok (ofParts negative infinityBits)
    else if name = "nan" then .ok (ofParts negative nanBits)
    else
      match readNumeral? negative s with
      | some number => .ok number
      | none => .error .invalid

end Binary64

end Gherkin
