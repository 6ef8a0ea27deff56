/-
  Gherkin.Reader.Form

  The form of a line outside doc-strings: what it is by its own text in the
  language of the document, before it is known where it stands.
-/
import Gherkin.Language.Line
import Gherkin.Reader.Fence
import Gherkin.Reader.Row

namespace Gherkin

/-- The forms of a line. -/
inductive LineForm where
  /-- A comment, with the text after the number sign. -/
  | comment (text : String)
  | header (header : Header)
  | row (cells : List String)
  | blank
  | tags (tags : List String)
  /-- The opening fence of a doc-string. -/
  | fence (fence : Fence) (mediaType : Option String)
  | step (step : StepLine)
  /-- Anything else. -/
  | prose
  deriving DecidableEq, Repr

/-- The text, if it is not empty. -/
def nonempty? (s : String) : Option String := if s.isEmpty then none else some s

/-- The form of a stripped line that is no comment, header or row. -/
def Language.plainForm (language : Language) (line : String) : LineForm :=
  match line.toList with
  | [] => .blank
  | '@' :: _ => .tags ((Text.words line).filter fun word => word.toList.head? == some '@')
  | s =>
    match Fence.ofLine? s with
    | some (fence, rest) => .fence fence (nonempty? (.ofList (Text.strip rest)))
    | none =>
      match language.step? line with
      | some step => .step step
      | none => .prose

/-- The form of a stripped line. -/
def Language.form (language : Language) (line : String) : LineForm :=
  match line.toList with
  | '#' :: comment => .comment (.ofList comment)
  | s =>
    match language.header? line with
    | some header => .header header
    | none =>
      match s with
      | '|' :: _ => .row (Row.cells line)
      | _ => language.plainForm line

/-- The language code that a comment declares. -/
def declaredLanguage? (comment : String) : Option String := do
  let rest ← "language".toList.isPrefixOf? (Text.strip comment.toList)
  match Text.dropBlanks rest with
  | ':' :: code => some (.ofList (Text.strip code))
  | _ => none

end Gherkin
