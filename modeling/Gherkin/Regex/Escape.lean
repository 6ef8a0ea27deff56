/-
  Gherkin.Regex.Escape

  Characters with a meaning in the notation of regular expressions, the way to
  write them so that they mean themselves, and the reading of what may follow a
  backslash.
-/
import Gherkin.Regex.Basic
import Gherkin.Regex.Flags
import Gherkin.Text.Property.Query

namespace Gherkin.Regex

/-! ## Writing -/

/-- The characters that are written with a backslash to mean themselves. -/
def metaCharacters : List Char :=
  ['\\', '.', '+', '*', '?', '(', ')', '|', '[', ']', '\x7b', '\x7d', '^', '$', '#', '&', '-', '~']

/-- Whether a character has a meaning in the notation. -/
def isMeta (c : Char) : Bool := metaCharacters.contains c

/-- The notation for one character. -/
def escapeChar (c : Char) : List Char := if isMeta c then ['\\', c] else [c]

/-- The notation for a text. -/
def escape (text : String) : String := .ofList (text.toList.flatMap escapeChar)

/-! ## Code points -/

/-- What a backslash and the characters after it stand for. -/
inductive Escaped where
  | char (c : Char)
  | set (s : Text.Ranges)
  | look (l : Look)
  deriving DecidableEq, Repr

/-- The value of a hexadecimal digit. -/
def hexDigit? (c : Char) : Option Nat :=
  if c.isDigit then some (c.toNat - '0'.toNat)
  else if 'a' ≤ c ∧ c ≤ 'f' then some (c.toNat - 'a'.toNat + 10)
  else if 'A' ≤ c ∧ c ≤ 'F' then some (c.toNat - 'A'.toNat + 10)
  else none

/-- The character whose code point the hexadecimal digits give. -/
def codePoint? (digits : List Char) : Option Char := do
  let values ← digits.mapM hexDigit?
  let n := values.foldl (fun n d => n * 16 + d) 0
  -- halves of surrogate pairs are no characters
  if values.isEmpty ∨ ¬ n.isValidChar then none else some (Char.ofNat n)

/-- The next `n` characters, and the rest. -/
def takeChars? (flags : Flags) : Nat → List Char → Option (List Char × List Char)
  | 0, s => some ([], s)
  | _ + 1, [] => none
  | n + 1, c :: s => (takeChars? flags n (flags.skip s)).map fun (taken, rest) => (c :: taken, rest)

/-- A code point in braces. -/
def readBraced? (flags : Flags) (s : List Char) : Option (Char × List Char) :=
  let (digits, rest) := flags.span (· ≠ '\x7d') (flags.skip s)
  if rest.isEmpty then none else (codePoint? digits).map fun c => (c, flags.skip rest.tail)

/-- A code point in braces, or else in `width` digits. -/
def readCodePoint? (flags : Flags) (width : Nat) (s : List Char) : Option (Char × List Char) :=
  match flags.skip s with
  | '\x7b' :: s => readBraced? flags s
  | s => do
    let (digits, rest) ← takeChars? flags width s
    return (← codePoint? digits, rest)

/-- A code point of two digits, or in braces. A byte in two digits that is no ASCII character
    stands for none, if characters are of ASCII only. -/
def readShort? (flags : Flags) (s : List Char) : Option (Char × List Char) := do
  let (c, rest) ← readCodePoint? flags 2 s
  if flags.everyScript || c.toNat < 128 || (flags.skip s).head? == some '\x7b' then some (c, rest)
  else none

/-! ## Classes and boundaries -/

/-- The set with the case variants of its characters, if case is ignored. -/
def Flags.fold (flags : Flags) (s : Text.Ranges) : Text.Ranges :=
  if flags.ignoreCase then s.fold flags.everyScript else s

/-- One character of a set. -/
def Flags.one (flags : Flags) (s : Text.Ranges) : Regex :=
  ofClass { ranges := s, everyScript := flags.everyScript }

/-- A set, negated or not. ASCII has no sets that are negated. -/
def Flags.negate? (flags : Flags) (negated : Bool) (s : Text.Ranges) : Option Text.Ranges :=
  if negated then (if flags.everyScript then some s.complement else none) else some s

/-- A set of every script or its ASCII part, negated or not. -/
def shorthand? (flags : Flags) (negated : Bool) (every : Text.Ranges) (name : String) :
    Option Escaped := do
  let s ← if flags.everyScript then some every else CharClass.ascii? name
  return .set (← flags.negate? negated s)

/-- A condition on word characters. -/
def wordLook (flags : Flags) (l : WordLook) : Escaped := .look (.word flags.everyScript l)

/-- What a letter or an angle after a backslash stands for. -/
def escapedSign? (flags : Flags) (c : Char) : Option Escaped :=
  match c with
  | 'd' => shorthand? flags false Text.digitRanges "digit"
  | 'D' => shorthand? flags true Text.digitRanges "digit"
  | 's' => shorthand? flags false Text.blankRanges "space"
  | 'S' => shorthand? flags true Text.blankRanges "space"
  | 'w' => shorthand? flags false Text.wordRanges "word"
  | 'W' => shorthand? flags true Text.wordRanges "word"
  | 'a' => some (.char '\x07')
  | 'f' => some (.char '\x0c')
  | 't' => some (.char '\t')
  | 'n' => some (.char '\n')
  | 'r' => some (.char '\r')
  | 'v' => some (.char '\x0b')
  | 'A' => some (.look .textStart)
  | 'z' => some (.look .textEnd)
  | 'B' => some (wordLook flags .noBoundary)
  | '<' => some (wordLook flags .start)
  | '>' => some (wordLook flags .stop)
  | _ => none

/-- Characters that a backslash leaves as they are: ASCII without letters, digits and angles. -/
def isEscapable (c : Char) : Bool :=
  c.toNat < 128 && !c.isAlphanum && c != '<' && c != '>'

/-- The condition at the boundary of a word with a name. -/
def boundary? (name : String) : Option WordLook :=
  match name with
  | "start" => some .start
  | "end" => some .stop
  | "start-half" => some .startHalf
  | "end-half" => some .stopHalf
  | _ => none

/-- Reads what follows the sign of a word boundary: a name in braces, or else nothing that belongs
    to it. -/
def readBoundary? (flags : Flags) (s : List Char) : Option (WordLook × List Char) :=
  match s with
  | '\x7b' :: t =>
    match flags.span (fun c => c.isAlpha || c = '-') (flags.skip t) with
    -- without a name the brace is left to be read as that of counts
    | ([], _) => some (.boundary, s)
    | (name, '\x7d' :: rest) => (boundary? (.ofList name)).map fun l => (l, rest)
    | _ => none
  | _ => some (.boundary, s)

/-! ## Properties -/

/-- Reads the name of a property: one letter, or a query in braces. -/
def readQuery? (flags : Flags) (s : List Char) : Option (Text.Property.Query × List Char) :=
  match flags.skip s with
  | [] => none
  | '\\' :: _ => none
  | '\x7b' :: s =>
    let (query, rest) := flags.span (· ≠ '\x7d') (flags.skip s)
    if rest.isEmpty then none else some (.read query, rest.tail)
  | c :: s => some (.named [c], s)

/-- Reads the set of the characters with a property, negated or not. ASCII has no properties. -/
def readProperty? (flags : Flags) (negated : Bool) (s : List Char) :
    Option (Escaped × List Char) := do
  let (query, rest) ← readQuery? flags s
  let found ← if flags.everyScript then query.ranges? else none
  return (.set (← flags.negate? (negated != query.isNegated) (flags.fold found)), rest)

/-! ## All escapes -/

/-- Reads what follows a backslash. -/
def readEscape? (flags : Flags) : List Char → Option (Escaped × List Char)
  | [] => none
  | 'b' :: s => (readBoundary? flags s).map fun (l, rest) => (wordLook flags l, rest)
  | 'p' :: s => readProperty? flags false s
  | 'P' :: s => readProperty? flags true s
  | 'x' :: s => (readShort? flags s).map fun (c, rest) => (.char c, rest)
  | 'u' :: s => (readCodePoint? flags 4 s).map fun (c, rest) => (.char c, rest)
  | 'U' :: s => (readCodePoint? flags 8 s).map fun (c, rest) => (.char c, rest)
  | c :: s =>
    if isEscapable c then some (.char c, s) else (escapedSign? flags c).map fun e => (e, s)

end Gherkin.Regex
