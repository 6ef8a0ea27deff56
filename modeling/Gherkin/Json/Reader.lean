/-
  Gherkin.Json.Reader

  Reading JSON text. The readers below take a list of characters and give the
  value read and the characters that are left; `Json.read?` wants none left but
  blanks.
-/
import Gherkin.Json.Basic
import Gherkin.Number.Numeral

namespace Gherkin.Json

open Number (spanDigits digitsValue twoPow)

/-- The blanks of JSON. -/
def isSpace (c : Char) : Bool := c = ' ' || c = '\t' || c = '\n' || c = '\r'

/-- `s` without its leading blanks. -/
def skipSpace (s : List Char) : List Char := s.dropWhile isSpace

/-! ## Strings -/

/-- The value of a hexadecimal digit. -/
def hexDigit? (c : Char) : Option Nat :=
  if '0' ≤ c ∧ c ≤ '9' then some (c.toNat - '0'.toNat)
  else if 'a' ≤ c ∧ c ≤ 'f' then some (c.toNat - 'a'.toNat + 10)
  else if 'A' ≤ c ∧ c ≤ 'F' then some (c.toNat - 'A'.toNat + 10)
  else none

/-- The value of four hexadecimal digits. -/
def hexValue? (a b c d : Char) : Option Nat := do
  return (← hexDigit? a) * 4096 + (← hexDigit? b) * 256 + (← hexDigit? c) * 16 + (← hexDigit? d)

/-- A piece of a string: a character, or a code unit written by number. -/
inductive Piece where
  | char (c : Char)
  | unit (n : Nat)

/-- The character of an escape of one letter. -/
def escape? (c : Char) : Option Char :=
  match c with
  | '"' => some '"'
  | '\\' => some '\\'
  | '/' => some '/'
  | 'b' => some '\x08'
  | 'f' => some '\x0c'
  | 'n' => some '\n'
  | 'r' => some '\r'
  | 't' => some '\t'
  | _ => none

/-- The pieces of a string up to its closing quotation mark, and what follows. -/
def readPieces? : List Char → Option (List Piece × List Char)
  | [] => none
  | '"' :: s => some ([], s)
  | '\\' :: 'u' :: a :: b :: c :: d :: s => do
    let n ← hexValue? a b c d
    let (pieces, rest) ← readPieces? s
    return (.unit n :: pieces, rest)
  | '\\' :: c :: s => do
    let c ← escape? c
    let (pieces, rest) ← readPieces? s
    return (.char c :: pieces, rest)
  | c :: s =>
    if c.toNat < 0x20 ∨ c = '\\' then none
    else do
      let (pieces, rest) ← readPieces? s
      return (.char c :: pieces, rest)

/-- The first half of a surrogate pair. -/
def isHigh (n : Nat) : Bool := 0xd800 ≤ n && n < 0xdc00

/-- The second half of a surrogate pair. -/
def isLow (n : Nat) : Bool := 0xdc00 ≤ n && n < 0xe000

/-- The text of the pieces, if every half of a surrogate pair has its other half. -/
def joinPieces? : List Piece → Option (List Char)
  | [] => some []
  | .char c :: pieces => (joinPieces? pieces).map (c :: ·)
  | .unit n :: .unit m :: pieces =>
    if isHigh n && isLow m then
      (joinPieces? pieces).map (Char.ofNat (0x10000 + (n - 0xd800) * 1024 + (m - 0xdc00)) :: ·)
    else if isHigh n || isLow n then none
    else (joinPieces? (.unit m :: pieces)).map (Char.ofNat n :: ·)
  | .unit n :: pieces =>
    if isHigh n || isLow n then none else (joinPieces? pieces).map (Char.ofNat n :: ·)

/-- The content of a string after its opening quotation mark. -/
def readString? (s : List Char) : Option (Option String × List Char) := do
  let (pieces, rest) ← readPieces? s
  return ((joinPieces? pieces).map String.ofList, rest)

/-! ## Numbers -/

/-- The part of `s` in front of `rest`, which is what is left of it. -/
def consumed (s rest : List Char) : String := .ofList (s.take (s.length - rest.length))

/-- Takes a fraction, if there is one; tells whether there was. -/
def readFraction? : List Char → Option (Bool × List Char)
  | '.' :: s =>
    let (digits, rest) := spanDigits s
    if digits.isEmpty then none else some (true, rest)
  | s => some (false, s)

/-- `s` without a leading sign. -/
def dropSign : List Char → List Char
  | '+' :: s => s
  | '-' :: s => s
  | s => s

/-- Takes an exponent, if there is one; tells whether there was. -/
def readExponent? : List Char → Option (Bool × List Char)
  | c :: s =>
    if c = 'e' ∨ c = 'E' then
      let (digits, rest) := spanDigits (dropSign s)
      if digits.isEmpty then none else some (true, rest)
    else some (false, c :: s)
  | [] => some (false, [])

/-- Takes a number without sign: no leading zero but in zero itself. -/
def readUnsigned? (s : List Char) : Option (Json × List Char) :=
  let (digits, rest) := spanDigits s
  if digits.isEmpty || (digits.head? == some '0' && digits.length != 1) then none
  else do
    let (fraction, rest) ← readFraction? rest
    let (exponent, rest) ← readExponent? rest
    let n := digitsValue digits
    if fraction || exponent || twoPow 64 ≤ n then return (.otherNumber (consumed s rest), rest)
    else return (.number n, rest)

/-- Takes a number. -/
def readNumber? : List Char → Option (Json × List Char)
  | '-' :: s =>
    (readUnsigned? s).map fun (_, rest) => (.otherNumber (consumed ('-' :: s) rest), rest)
  | s => readUnsigned? s

/-! ## Values -/

mutual

/-- Takes a value. `fuel` bounds the number of values within. -/
def readValue? (fuel : Nat) (s : List Char) : Option (Json × List Char) :=
  match fuel with
  | 0 => none
  | fuel + 1 =>
    match skipSpace s with
    | 'n' :: 'u' :: 'l' :: 'l' :: rest => some (.null, rest)
    | 't' :: 'r' :: 'u' :: 'e' :: rest => some (.bool true, rest)
    | 'f' :: 'a' :: 'l' :: 's' :: 'e' :: rest => some (.bool false, rest)
    | '"' :: rest => (readString? rest).map fun (content, rest) => (.string content, rest)
    | '[' :: rest =>
      match skipSpace rest with
      | ']' :: rest => some (.array [], rest)
      | rest => (readItems? fuel rest).map fun (items, rest) => (.array items, rest)
    | '\x7b' :: rest =>
      match skipSpace rest with
      | '\x7d' :: rest => some (.object [], rest)
      | rest => (readMembers? fuel rest).map fun (members, rest) => (.object members, rest)
    | s => readNumber? s

/-- Takes the items of an array up to its closing bracket. -/
def readItems? (fuel : Nat) (s : List Char) : Option (List Json × List Char) :=
  match fuel with
  | 0 => none
  | fuel + 1 => do
    let (item, rest) ← readValue? fuel s
    match skipSpace rest with
    | ']' :: rest => return ([item], rest)
    | ',' :: rest =>
      let (items, rest) ← readItems? fuel rest
      return (item :: items, rest)
    | _ => none

/-- Takes the members of an object up to its closing brace. -/
def readMembers? (fuel : Nat) (s : List Char) :
    Option (List (Option String × Json) × List Char) :=
  match fuel with
  | 0 => none
  | fuel + 1 =>
    match skipSpace s with
    | '"' :: rest => do
      let (key, rest) ← readString? rest
      match skipSpace rest with
      | ':' :: rest =>
        let (value, rest) ← readValue? fuel rest
        match skipSpace rest with
        | '\x7d' :: rest => return ([(key, value)], rest)
        | ',' :: rest =>
          let (members, rest) ← readMembers? fuel rest
          return ((key, value) :: members, rest)
        | _ => none
      | _ => none
    | _ => none

end

/-- Reads a JSON text. Each value and each member takes a character of its own, so the length of
    the text is fuel enough. -/
def read? (text : String) : Option Json := do
  let s := text.toList
  let (json, rest) ← readValue? (2 * s.length + 2) s
  if (skipSpace rest).isEmpty then return json else none

end Gherkin.Json
