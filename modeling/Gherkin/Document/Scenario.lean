/-
  Gherkin.Document.Scenario

  Blocks of steps: backgrounds, scenarios, and scenario outlines with the rows
  of their examples.
-/
import Gherkin.Document.Step
import Gherkin.Tag.Set

namespace Gherkin

/-! ## Blocks of steps -/

/-- A titled sequence of steps. -/
structure StepBlock where
  name : String
  keyword : String
  description : List String := []
  steps : List Step := []
  tags : TagSet := {}
  line : Nat := 0
  called : Bool := false
  deriving DecidableEq, Repr

namespace StepBlock

/-- The block with a step added at the end. -/
def addStep (block : StepBlock) (step : Step) : StepBlock :=
  { block with steps := block.steps ++ [step] }

/-- The block with a line added to its description. -/
def describe (block : StepBlock) (text : String) : StepBlock :=
  { block with description := block.description ++ [text] }

/-- The block with its last step changed by `f`. -/
def modifyLastStep (f : Step → Step) (block : StepBlock) : StepBlock :=
  { block with steps := block.steps.modify (block.steps.length - 1) f }

/-- The first step with this keyword and these details. -/
def findStep? (block : StepBlock) (keyword : StepKeyword) (details : String) : Option Step :=
  block.steps.find? fun step => step.keyword = keyword && step.details = details

/-- The first step that has not been called. -/
def firstUncalled? (block : StepBlock) : Option Step :=
  block.steps.find? (!·.called)

/-- Whether some step has not been called. -/
def hasUncalled (block : StepBlock) : Bool := block.firstUncalled?.isSome

/-- The block with the step at `index` marked as called, if there is one. -/
def markStep? (block : StepBlock) (index : Nat) : Option StepBlock :=
  if index < block.steps.length then
    some { block with steps := block.steps.modify index Step.markCalled }
  else
    none

/-- The block, marked as called. -/
def markCalled (block : StepBlock) : StepBlock := { block with called := true }

end StepBlock

/-! ## Backgrounds -/

/-- Steps that run before every scenario of a section. -/
abbrev Background := StepBlock

/-- A step keyword that a background does not take. -/
structure DisallowedStep where
  keyword : StepKeyword
  deriving DecidableEq, Repr

/-- The wording of a disallowed step. -/
def DisallowedStep.message (fault : DisallowedStep) : String :=
  s!"`{fault.keyword.name}` steps are not allowed in a Background"

namespace Background

/-- A background outside any document. -/
def ofName (name : String) : Background := { name, keyword := "Background" }

/-- The background with a step added at the end, if its keyword is allowed there. -/
def addAllowed (background : Background) (step : Step) : Except DisallowedStep Background :=
  if step.keyword.allowedInBackground then .ok (background.addStep step)
  else .error ⟨step.keyword⟩

end Background

/-! ## Scenarios -/

/-- One row of an examples table: a cell, or none, for each column. -/
structure ExampleRow where
  values : List (String × Option String) := []
  tags : TagSet := {}
  line : Nat := 0
  deriving DecidableEq, Repr

namespace ExampleRow

/-- The cell of the first column with this name, if the row has it. -/
def get? (row : ExampleRow) (column : String) : Option String :=
  (row.values.find? fun value => value.1 = column).bind (·.2)

/-- The columns of the row. -/
def columns (row : ExampleRow) : List String := row.values.map (·.1)

end ExampleRow

/-- What makes a scenario an outline. -/
structure Outline where
  examples : List ExampleRow := []
  /-- Some rows stand in the document without an examples keyword before them. -/
  missingKeyword : Bool := false
  deriving DecidableEq, Repr

/-- A scenario; an outline if it has examples or room for them. -/
structure Scenario extends StepBlock where
  outline : Option Outline := none
  deriving DecidableEq, Repr

namespace Scenario

/-- A plain scenario outside any document. -/
def ofName (name : String) : Scenario := { name, keyword := "Scenario" }

/-- An outline outside any document. -/
def ofRows (name : String) (examples : List ExampleRow) : Scenario :=
  { name, keyword := "Scenario Outline", outline := some { examples } }

/-- Whether the scenario is an outline. -/
def isOutline (scenario : Scenario) : Bool := scenario.outline.isSome

/-- The example rows; none for a plain scenario. -/
def examples (scenario : Scenario) : List ExampleRow :=
  (scenario.outline.map (·.examples)).getD []

/-- Whether some rows stand without an examples keyword. -/
def missesKeyword (scenario : Scenario) : Bool := scenario.outline.any (·.missingKeyword)

/-- The scenario with its block changed by `f`. -/
def modifyBlock (f : StepBlock → StepBlock) (scenario : Scenario) : Scenario :=
  { scenario with toStepBlock := f scenario.toStepBlock }

/-- The scenario as an outline with its outline changed by `f`. -/
def modifyOutline (f : Outline → Outline) (scenario : Scenario) : Scenario :=
  { scenario with outline := some (f (scenario.outline.getD {})) }

/-- What its outline gains the scenario gains, though it had no outline before. -/
theorem examples_modifyOutline {f : Outline → Outline} {rows : List ExampleRow}
    (hf : ∀ outline, (f outline).examples = outline.examples ++ rows) (scenario : Scenario) :
    (scenario.modifyOutline f).examples = scenario.examples ++ rows := by
  cases houtline : scenario.outline <;> simp [examples, modifyOutline, houtline, hf]

/-- The scenario, marked as called. -/
def markCalled (scenario : Scenario) : Scenario := scenario.modifyBlock StepBlock.markCalled

end Scenario

end Gherkin
