/-
  Gherkin.Document.Step

  Steps and what may hang on them: a doc-string and a data table.
-/
import Gherkin.Language.Keyword

namespace Gherkin

/-! ## Arguments of a step -/

/-- A block of text under a step. -/
structure DocString where
  content : String
  mediaType : Option String := none
  deriving DecidableEq, Repr

/-- A table under a step, row by row; rows need not have the same width. -/
structure DataTable where
  rows : List (List String) := []
  deriving DecidableEq, Repr

namespace DataTable

/-- The first row. -/
def header? (table : DataTable) : Option (List String) := table.rows.head?

/-- The rows after the first, each cell under the header cell it stands below; cells without one,
    and header cells without a cell, are left out. -/
def records (table : DataTable) : List (List (String × String)) :=
  table.rows.tail.map (table.header?.getD []).zip

/-- The table with one more row. -/
def addRow (table : DataTable) (row : List String) : DataTable := ⟨table.rows ++ [row]⟩

/-- The table with every cell changed by `f`. -/
def mapCells (f : String → String) (table : DataTable) : DataTable := ⟨table.rows.map (·.map f)⟩

end DataTable

/-! ## Steps -/

/-- One step of a scenario or background. -/
structure Step where
  keyword : StepKeyword
  /-- The keyword as the document spells it. -/
  keywordText : String
  details : String
  docString : Option DocString := none
  dataTable : Option DataTable := none
  line : Nat := 0
  called : Bool := false
  deriving DecidableEq, Repr

namespace Step

/-- A step outside any document, with its keyword in English. -/
def ofKeyword (keyword : StepKeyword) (details : String) : Step :=
  { keyword, keywordText := keyword.name, details }

/-- The step as a reader sees it. -/
def title (step : Step) : String := s!"{step.keywordText} {step.details}"

/-- The step, marked as called. -/
def markCalled (step : Step) : Step := { step with called := true }

/-- The texts of a step in which an outline may have placeholders: the details, the content of
    the doc-string, and the cells of the table row by row. -/
def texts (step : Step) : List String :=
  step.details ::
    ((step.docString.map (·.content)).toList ++
      ((step.dataTable.map (·.rows)).getD []).flatten)

/-- A fresh step with every text changed by `f`. -/
def mapTexts (f : String → String) (step : Step) : Step :=
  { step with
    details := f step.details
    docString := step.docString.map fun doc => { doc with content := f doc.content }
    dataTable := step.dataTable.map (·.mapCells f)
    called := false }

/-- The step with one more row under it. -/
def addRow (row : List String) (step : Step) : Step :=
  { step with dataTable := some ((step.dataTable.getD {}).addRow row) }

/-- Changing the texts of a step changes each in its place. -/
theorem texts_mapTexts (f : String → String) (step : Step) :
    (step.mapTexts f).texts = step.texts.map f := by
  obtain ⟨_, _, _, docString, dataTable, _, _⟩ := step
  cases docString <;> cases dataTable <;>
    simp [texts, mapTexts, DataTable.mapCells, List.map_flatten]

end Step

end Gherkin
