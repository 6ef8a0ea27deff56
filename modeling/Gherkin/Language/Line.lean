/-
  Gherkin.Language.Line

  What a line says in a language: whether it is a header, such as
  `Scenario: a name`, or a step, such as `Given some text`.

  A header is a header keyword, then blanks, then a colon; the longest keyword
  wins. A step is a step keyword at the start of the line or after a blank; the
  leftmost occurrence wins, and of several keywords there the longest.
-/
import Gherkin.Choice
import Gherkin.Language.Table

namespace Gherkin

/-- A header line: its role, the keyword as spelled, and the text after the colon. -/
structure Header where
  kind : HeaderKeyword
  keyword : String
  name : String
  deriving DecidableEq, Repr

/-- Longer keywords, in bytes, are better. -/
def Header.longer (a b : Header) : Bool :=
  b.keyword.utf8ByteSize < a.keyword.utf8ByteSize

/-- A step line: its role, the keyword as spelled, and the text after it. -/
structure StepLine where
  kind : StepKeyword
  keyword : String
  details : String
  deriving DecidableEq, Repr

namespace Language

/-! ## Headers -/

/-- The text after a colon, of either width, that blanks may precede. -/
def afterColon? (s : List Char) : Option (List Char) :=
  match Text.dropBlanks s with
  | ':' :: rest => some rest
  | '：' :: rest => some rest
  | _ => none

/-- The header that one spelling makes of a stripped line. -/
def headerWith? (line : List Char) (kind : HeaderKeyword) (keyword : String) : Option Header := do
  let rest ← keyword.toList.isPrefixOf? line
  let name ← afterColon? rest
  return { kind, keyword, name := .ofList (Text.strip name) }

/-- All headers that the spellings of a language make of a stripped line, in table order. -/
def headerCandidates (language : Language) (line : List Char) : List Header :=
  HeaderKeyword.all.flatMap fun kind =>
    (language.headers kind).filterMap (headerWith? line kind)

/-- The header on a line. -/
def header? (language : Language) (line : String) : Option Header :=
  firstBest Header.longer (language.headerCandidates (Text.strip line.toList))

/-! ## Steps -/

/-- An occurrence of a step keyword: the number of characters before it and the text after it. -/
structure Occurrence where
  kind : StepKeyword
  keyword : String
  position : Nat
  rest : List Char

/-- The places at which `keyword` stands in a text, from left to right, none reaching into the one
    before: the characters before the place, last one first, and the text after it. `before` are the
    characters before the text; the first ones of the text, as many as `taken`, belong to a place
    before. -/
def placesFrom (keyword before : List Char) (taken : Nat) :
    List Char → List (List Char × List Char)
  | [] => []
  | c :: s =>
    match taken with
    | n + 1 => placesFrom keyword (c :: before) n s
    | 0 =>
      match keyword.isPrefixOf? (c :: s) with
      | none => placesFrom keyword (c :: before) 0 s
      | some rest => (before, rest) :: placesFrom keyword (c :: before) (keyword.length - 1) s

/-- Whether a step keyword may stand behind some characters, the last one first: at the start of a
    line, or after a blank. -/
def isBoundary (before : List Char) : Bool := before.head?.all Text.isBlank

/-- Where a keyword occurs first. A bullet counts only at the start of the line. -/
def occurrence? (line : List Char) (keyword : List Char) : Option (Nat × List Char) :=
  match keyword with
  | '*' :: _ => (keyword.isPrefixOf? line).map fun rest => (0, rest)
  | _ =>
    ((placesFrom keyword [] 0 line).find? fun place => isBoundary place.1).map fun place =>
      (place.1.length, place.2)

/-- The first occurrence of each spelling of each step keyword, in table order. -/
def occurrences (language : Language) (line : List Char) : List Occurrence :=
  StepKeyword.all.flatMap fun kind =>
    (language.steps kind).filterMap fun keyword =>
      (occurrence? line keyword.toList).map fun (position, rest) =>
        { kind, keyword, position, rest }

/-- Further left is better; at the same place, longer in bytes. -/
def Occurrence.better (a b : Occurrence) : Bool :=
  a.position < b.position ||
    (a.position == b.position && b.keyword.utf8ByteSize < a.keyword.utf8ByteSize)

/-- The step on a line. -/
def step? (language : Language) (line : String) : Option StepLine :=
  (firstBest Occurrence.better (language.occurrences (Text.strip line.toList))).map fun found =>
    { kind := found.kind
      keyword := Text.trimEnd found.keyword
      details := .ofList (Text.strip found.rest) }

end Language

end Gherkin
