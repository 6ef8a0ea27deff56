/-
  Gherkin.Outline.Expansion

  Expansion of scenario outlines: one set of steps for each example row, with
  the slots of every text filled from the row. An outline is checked as a whole
  before any row is expanded.
-/
import Gherkin.Document.Scenario
import Gherkin.Notice
import Gherkin.Outline.Template
import Gherkin.Value

namespace Gherkin

/-! ## Faults -/

/-- Why a scenario cannot be expanded. -/
inductive OutlineFault where
  | notAnOutline (scenario : String)
  /-- Rows stand without an examples keyword. -/
  | missingKeyword (scenario : String)
  | noExamples (scenario : String)
  /-- A slot that no row has a column for. -/
  | undeclaredSlot (scenario slot : String)
  /-- A column that no step has a slot for. -/
  | unusedColumn (scenario column : String)
  /-- A row, counted from one, without a cell for a column. -/
  | missingValue (scenario : String) (row : Nat) (column : String)
  deriving DecidableEq, Repr

/-- The wording of a fault. -/
def OutlineFault.message : OutlineFault → String
  | notAnOutline scenario => s!"scenario `{scenario}` is not a Scenario Outline"
  | missingKeyword scenario =>
    s!"scenario outline `{scenario}` has example rows without an Examples keyword"
  | noExamples scenario => s!"scenario outline `{scenario}` has no examples"
  | undeclaredSlot scenario slot =>
    s!"scenario outline `{scenario}` uses undeclared variable `<{slot}>`"
  | unusedColumn scenario column =>
    s!"scenario outline `{scenario}` never uses example column `{column}`"
  | missingValue scenario row column =>
    s!"scenario outline `{scenario}`: example row {row} has no value for `{column}`"

/-! ## Checks -/

/-- The columns of all rows, each once, in order of first appearance. -/
def exampleColumns (rows : List ExampleRow) : List String :=
  (rows.flatMap ExampleRow.columns).foldl
    (fun columns column => if columns.contains column then columns else columns ++ [column]) []

namespace Scenario

/-- The slots in the texts of the steps, in order. -/
def slots (scenario : Scenario) : List String :=
  (scenario.steps.flatMap Step.texts).flatMap Template.slots

/-- The first slot that is no column. -/
def undeclaredSlot? (scenario : Scenario) : Option String :=
  scenario.slots.find? fun slot => !(exampleColumns scenario.examples).contains slot

/-- The first column that is no slot. -/
def unusedColumn? (scenario : Scenario) : Option String :=
  (exampleColumns scenario.examples).find? fun column => !scenario.slots.contains column

/-- The first row, counted from one, that lacks a cell, and the first column it lacks. -/
def missingValue? (scenario : Scenario) : Option (Nat × String) :=
  scenario.examples.zipIdx.findSome? fun (row, index) =>
    ((exampleColumns scenario.examples).find? fun column => (row.get? column).isNone).map
      fun column => (index + 1, column)

/-- The first thing that keeps a scenario from being expanded. -/
def outlineFault? (scenario : Scenario) : Option OutlineFault :=
  let name := scenario.name
  if !scenario.isOutline then some (.notAnOutline name)
  else if scenario.missesKeyword then some (.missingKeyword name)
  else if scenario.examples.isEmpty then some (.noExamples name)
  else
    match scenario.undeclaredSlot? with
    | some slot => some (.undeclaredSlot name slot)
    | none =>
      match scenario.unusedColumn? with
      | some column => some (.unusedColumn name column)
      | none => scenario.missingValue?.map fun (row, column) => .missingValue name row column

end Scenario

/-! ## Values of cells -/

/-- Values that cells stand for; the latest entry for a cell counts. -/
structure ValueMapping where
  entries : List (String × Value) := []

namespace ValueMapping

/-- The mapping with one more entry. -/
def insert (mapping : ValueMapping) (raw : String) (value : Value) : ValueMapping :=
  ⟨(raw, value) :: mapping.entries⟩

/-- What a cell stands for; itself, if there is no entry. -/
def resolve (mapping : ValueMapping) (raw : String) : Value :=
  (mapping.entries.lookup raw).getD (.text raw)

end ValueMapping

/-! ## Expansion -/

/-- What an outline becomes for one row. -/
structure Expansion where
  /-- The columns of the row that have a cell, with the values the cells stand for. -/
  values : List (String × Value)
  steps : List Step
  /-- The tags of the outline followed by those of the row. -/
  tags : TagSet
  /-- The place of the row among all rows. -/
  row : Nat

/-- The value of a column. -/
def Expansion.get? (expansion : Expansion) (column : String) : Option Value :=
  (expansion.values.find? (·.1 = column)).map (·.2)

namespace Scenario

/-- A step as a reader sees it with the slots filled from a row. -/
def stepTitle (step : Step) (row : ExampleRow) : String :=
  s!"{step.keywordText} {Template.fill row.get? step.details}"

/-- The outline for one row. -/
def expandRow (scenario : Scenario) (mapping : ValueMapping) (row : ExampleRow) (index : Nat) :
    Expansion where
  values := row.values.filterMap fun (column, cell) =>
    cell.map fun raw => (column, mapping.resolve raw)
  steps := scenario.steps.map (Step.mapTexts (Template.fill row.get?))
  tags := row.tags.merged scenario.tags
  row := index

/-- The outline for each row, if nothing is wrong with it. -/
def expand (scenario : Scenario) (mapping : ValueMapping) :
    Noted (Except OutlineFault (List Expansion)) :=
  match scenario.outlineFault? with
  | some fault => pure (.error fault)
  | none => do
    let expansions := scenario.examples.zipIdx.map fun (row, index) =>
      scenario.expandRow mapping row index
    Noted.say (.outlineExpanded scenario.name expansions.length)
    return .ok expansions

end Scenario

end Gherkin
