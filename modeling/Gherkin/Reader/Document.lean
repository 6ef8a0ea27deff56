/-
  Gherkin.Reader.Document

  Reading whole documents: line after line until one is refused, then the
  checks that need the end of the document.
-/
import Gherkin.Reader.Line

namespace Gherkin

namespace Reader

/-- Reads lines up to the first that is refused. -/
def readAll (reader : Reader) : List String → Outcome
  | [] => { reader }
  | line :: lines =>
    let outcome := reader.read line
    match outcome.fault with
    | some _ => outcome
    | none => (outcome.reader.readAll lines).after outcome.notices

/-- The reader after lines, the refused ones included. -/
def readEach (reader : Reader) (lines : List String) : Reader :=
  lines.foldl (fun reader line => (reader.read line).reader) reader

/-- The first scenario with rows that miss their examples keyword. -/
def firstMissing? (feature : Feature) : Option Scenario :=
  (feature.allScenarios.map (·.2)).find? (·.missesKeyword)

/-- Whether the document read is accepted; in strict mode all example rows must stand under an
    examples keyword. -/
def check (strict : Bool) (feature : Option Feature) : Except DocumentFault (Option Feature) :=
  match if strict then feature.bind firstMissing? else none with
  | some scenario => .error (.missingExamplesKeyword scenario.line scenario.name)
  | none => .ok feature

/-- Ends a document. Tags that still wait for an entity are dropped. -/
def finish (reader : Reader) (strict : Bool) : Noted (Except DocumentFault (Option Feature)) :=
  match reader.docString with
  | some doc => pure (.error (.unterminatedDocString doc.line))
  | none =>
    let settled := reader.flush
    let discarded :=
      if reader.pendingTags.isEmpty then [] else [Notice.tagsDiscarded reader.pendingTags.names]
    { value := check strict settled.value.feature
      notices := settled.notices ++ discarded }

end Reader

/-- How to read documents: the code of the language they are in unless they say so, and whether
    example rows must stand under an examples keyword. -/
structure ReadingMode where
  language : String := "en"
  strict : Bool := false

namespace ReadingMode

/-- Reads the lines of a document; none if it has no feature. -/
def readLines (mode : ReadingMode) (lines : List String) :
    Noted (Except DocumentFault (Option Feature)) := do
  let reader ← Reader.ofLanguage mode.language
  let outcome := reader.readAll lines
  let finished := outcome.reader.finish mode.strict
  match outcome.fault with
  | some fault => ⟨.error fault, outcome.notices⟩
  | none => ⟨finished.value, outcome.notices ++ finished.notices⟩

/-- The feature of a document, which must have one. -/
def requireFeature : Except DocumentFault (Option Feature) → Except DocumentFault Feature
  | .error fault => .error fault
  | .ok none => .error .missingFeature
  | .ok (some feature) => .ok feature

/-- Reads the text of a document. -/
def readText (mode : ReadingMode) (text : String) : Noted (Except DocumentFault Feature) := do
  return requireFeature (← mode.readLines (Text.lines text))

end ReadingMode

end Gherkin
