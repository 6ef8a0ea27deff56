/-
  Gherkin.Number.Shortest

  The shortest decimal of a binary64 number: the fewest digits that read back as
  the number, and of those the nearest to it. It is found on grids of powers of
  ten, from coarse to fine: the first grid with a point in the interval of reals
  that round to the number has the fewest digits.
-/
import Gherkin.Number.Binary64

namespace Gherkin.Binary64

open Number (twoPow tenPow)

/-! ## Parts of a number -/

/-- Whether the sign bit is set. -/
def isNegative (x : Binary64) : Bool := twoPow 63 ≤ x.bits.toNat

/-- The bits without the sign. -/
def magnitudeBits (x : Binary64) : Nat := x.bits.toNat % twoPow 63

/-- The biased exponent. -/
def biasedExponent (x : Binary64) : Nat := x.magnitudeBits / twoPow 52

/-- The magnitude is `mantissa * 2 ^ exponent`. -/
def mantissa (x : Binary64) : Nat :=
  if x.biasedExponent = 0 then x.magnitudeBits else twoPow 52 + x.magnitudeBits % twoPow 52

/-- The exponent of the last place. -/
def exponent (x : Binary64) : Int := (max x.biasedExponent 1 : Nat) - 1075

/-! ## The search -/

/-- `digits * 10 ^ place`. -/
structure Decimal where
  digits : Nat
  place : Int
  deriving DecidableEq, Repr

/-- The reals that round to `m * 2 ^ e`, in quarters of the last place: from `4 m - below` to
    `4 m + 2`, ends included if `closed`. -/
structure Interval where
  mantissa : Nat
  exponent : Int
  below : Nat
  closed : Bool

/-- The interval of a number. Below a power of two the next number is twice as near. -/
def interval (x : Binary64) : Interval :=
  { mantissa := x.mantissa
    exponent := x.exponent
    below := if x.mantissa = twoPow 52 ∧ 1 < x.biasedExponent then 1 else 2
    closed := x.mantissa % 2 = 0 }

namespace Interval

/-- The size of a step of the grid `10 ^ place`, on the scale on which a quarter of the last
    place has the size `quarter`. -/
def step (i : Interval) (place : Int) : Nat :=
  tenPow place.toNat * twoPow (2 - i.exponent).toNat

/-- The size of a quarter of the last place, on the scale of `step`. -/
def quarter (i : Interval) (place : Int) : Nat :=
  twoPow (i.exponent - 2).toNat * tenPow (-place).toNat

/-- Whether a point, on the scale of a grid, lies in the interval. -/
def holds (i : Interval) (place : Int) (point : Nat) : Bool :=
  let low := (4 * i.mantissa - i.below) * i.quarter place
  let high := (4 * i.mantissa + 2) * i.quarter place
  if i.closed then low ≤ point && point ≤ high else low < point && point < high

/-- The nearest point of a grid in the interval; of two equally near, the greater one. -/
def nearest? (i : Interval) (place : Int) : Option Decimal :=
  let step := i.step place
  let value := 4 * i.mantissa * i.quarter place
  let lower := value / step
  let upper := lower + 1
  let lowerFits := 0 < lower && i.holds place (lower * step)
  let upperFits := i.holds place (upper * step)
  let toLower := value - lower * step
  let toUpper := upper * step - value
  let pick := if toLower < toUpper then lower else upper
  if lowerFits && upperFits then some ⟨pick, place⟩
  else if lowerFits then some ⟨lower, place⟩
  else if upperFits then some ⟨upper, place⟩
  else none

/-- A place at which the number has no digit any more: `m * 2 ^ e < 2 ^ b` for the length `b`, and
    the decimal logarithm of two is a little less than 30103 / 100000. -/
def topPlace (i : Interval) : Int :=
  (i.exponent + i.mantissa.log2 + 1) * 30103 / 100000 + 1

/-- The shortest decimal in the interval. Seventeen digits always suffice, so the search over
    twenty grids finds it. -/
def shortest (i : Interval) : Decimal :=
  ((List.range 20).findSome? fun n : Nat => i.nearest? (i.topPlace - n)).getD ⟨i.mantissa, 0⟩

end Interval

/-! ## Writing -/

/-- A decimal in positional notation. -/
def Decimal.positional (d : Decimal) : String :=
  let digits := Nat.toDigits 10 d.digits
  if 0 ≤ d.place then .ofList (digits ++ List.replicate d.place.toNat '0')
  else
    let places := (-d.place).toNat
    let padded := List.replicate (places + 1 - digits.length) '0' ++ digits
    .ofList (padded.take (padded.length - places) ++ '.' :: padded.drop (padded.length - places))

/-- The text of a number: the shortest decimal in positional notation; zero keeps its sign. -/
def text (x : Binary64) : String :=
  let sign := if x.isNegative then "-" else ""
  if infinityBits < x.magnitudeBits then "NaN"
  else if x.magnitudeBits = infinityBits then sign ++ "inf"
  else if x.magnitudeBits = 0 then sign ++ "0"
  else sign ++ x.interval.shortest.positional

/-- The bits in sixteen hexadecimal digits. -/
def hexBits (x : Binary64) : String :=
  let digits := Nat.toDigits 16 x.bits.toNat
  .ofList (List.replicate (16 - digits.length) '0' ++ digits)

end Gherkin.Binary64
