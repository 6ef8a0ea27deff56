/-
  Gherkin.Reader.Basic

  The state of a reader between two lines: the part of the document read so far
  and where in it the next line will land. The active section is the last rule,
  or the feature if it has none; the open block is a background or the last
  scenario of the active section.
-/
import Gherkin.Notice
import Gherkin.Reader.Fault
import Gherkin.Reader.Form

namespace Gherkin

/-- What the last accepted line was taken for. -/
inductive LineKind where
  | start
  | header
  | step
  | dataTableRow
  | exampleRow
  | tags
  | docString
  | description
  | blank
  deriving DecidableEq, Repr

/-- The name under which a kind is reported. -/
def LineKind.name : LineKind → String
  | start => "Start"
  | header => "Structural"
  | step => "Step"
  | dataTableRow => "DataTableRow"
  | exampleRow => "ExampleRow"
  | tags => "Tags"
  | docString => "DocString"
  | description => "Description"
  | blank => "Blank"

/-! ## Open blocks of text -/

/-- An examples table that is being read. Its rows join the outline when the table ends. -/
structure ExamplesBlock where
  headers : Option (List String) := none
  rows : List ExampleRow := []
  /-- The table stands under an examples keyword. -/
  explicit : Bool
  tags : TagSet := {}
  line : Nat
  deriving DecidableEq, Repr

namespace ExamplesBlock

/-- One row of values under the headers: missing cells are none, extra cells are dropped. -/
def values : List String → List String → List (String × Option String)
  | [], _ => []
  | header :: headers, [] => (header, none) :: values headers []
  | header :: headers, cell :: cells => (header, some cell) :: values headers cells

/-- The block with one more row: the first row gives the headers, every later one values. -/
def push (block : ExamplesBlock) (cells : List String) (line : Nat) : Noted ExamplesBlock :=
  match block.headers with
  | none => pure { block with headers := some cells }
  | some headers =>
    let row : ExampleRow := { values := values headers cells, tags := block.tags, line }
    { value := { block with rows := block.rows ++ [row] }
      notices :=
        if headers.length < cells.length then [.extraCells line cells.length headers.length]
        else [] }

/-- Blank lines do not end a block under a keyword that has no values yet. -/
def awaitsRows (block : ExamplesBlock) : Bool := block.explicit && block.rows.isEmpty

end ExamplesBlock

/-- A doc-string that is being read. -/
structure OpenDocString where
  fence : Fence
  /-- The indentation of the opening fence in bytes. -/
  indent : Nat
  lines : List String := []
  mediaType : Option String
  line : Nat
  deriving DecidableEq, Repr

/-- The doc-string made of the lines read. -/
def OpenDocString.close (doc : OpenDocString) : DocString :=
  { content := "\n".intercalate doc.lines, mediaType := doc.mediaType }

/-! ## Readers -/

/-- The state of a reader. -/
structure Reader where
  language : Language
  feature : Option Feature := none
  /-- The block of the active section that steps go to. -/
  place : Option Place := none
  /-- Tags waiting for the entity they belong to. -/
  pendingTags : TagSet := {}
  examples : Option ExamplesBlock := none
  docString : Option OpenDocString := none
  previous : LineKind := .start
  /-- The number of lines read. -/
  line : Nat := 0
  deriving DecidableEq, Repr

namespace Reader

/-- A reader at the start of a document in the language of a code. -/
def ofLanguage (code : String) : Noted Reader := do
  return { language := ← Language.ofCode code }

/-- The block that steps go to. -/
def block? (reader : Reader) : Option StepBlock := do
  (← reader.feature).active.block? (← reader.place)

/-- The scenario that steps go to. -/
def scenario? (reader : Reader) : Option Scenario :=
  match reader.place with
  | some .scenario => do (← reader.feature).active.scenarios.getLast?
  | _ => none

/-- Whether the open block has a step. -/
def hasStep (reader : Reader) : Bool := reader.block?.any (!·.steps.isEmpty)

/-- The reader with the active section changed by `f`. -/
def modifyActive (f : Section → Section) (reader : Reader) : Reader :=
  { reader with feature := reader.feature.map (·.modifyActive f) }

/-- The reader with the open block changed by `f`. -/
def modifyBlock (f : StepBlock → StepBlock) (reader : Reader) : Reader :=
  match reader.place with
  | none => reader
  | some place => reader.modifyActive (·.modifyBlock place f)

/-- The reader with the last scenario of the active section changed by `f`. -/
def modifyScenario (f : Scenario → Scenario) (reader : Reader) : Reader :=
  reader.modifyActive (·.modifyLastScenario f)

/-- The outline with more example rows. -/
def addRows (rows : List ExampleRow) (outline : Outline) : Outline :=
  { outline with examples := outline.examples ++ rows }

/-- Ends an open examples table: its rows join the outline. -/
def flush (reader : Reader) : Noted Reader :=
  match reader.examples with
  | none => pure reader
  | some block =>
    let settled := reader.modifyScenario (·.modifyOutline (addRows block.rows))
    { value := { settled with examples := none }
      notices := if block.headers.isNone then [.examplesWithoutTable block.line] else [] }

/-- What came of a line: the reader after it and, if the line was refused, why. -/
structure Outcome where
  reader : Reader
  fault : Option DocumentFault := none
  notices : List Notice := []

/-- The line was accepted as of a kind. -/
def accept (reader : Reader) (kind : LineKind) : Outcome :=
  { reader := { reader with previous := kind } }

/-- The line was refused. -/
def refuse (reader : Reader) (fault : DocumentFault) : Outcome :=
  { reader, fault := some fault }

/-- The outcome with notices that came before. -/
def Outcome.after (outcome : Outcome) (notices : List Notice) : Outcome :=
  { outcome with notices := notices ++ outcome.notices }

end Reader

end Gherkin
