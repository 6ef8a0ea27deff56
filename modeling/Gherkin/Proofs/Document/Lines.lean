/-
  Gherkin.Proofs.Document.Lines

  The line numbers that a document records: those of its feature, rules,
  backgrounds and scenarios, of their steps and of the rows of their examples.
-/
import Gherkin.Document.Feature

namespace Gherkin

/-- The line numbers in a block: its own and those of its steps. -/
def StepBlock.lines (block : StepBlock) : List Nat := block.line :: block.steps.map (·.line)

/-- The line numbers in a scenario: those of its block and of its examples. -/
def Scenario.lines (scenario : Scenario) : List Nat :=
  scenario.toStepBlock.lines ++ scenario.examples.map (·.line)

/-- The line numbers inside a section: those of its background and scenarios. -/
def Section.inner (part : Section) : List Nat :=
  part.background.toList.flatMap StepBlock.lines ++ part.scenarios.flatMap Scenario.lines

/-- The line numbers in a section: its own and those inside. -/
def Section.lines (part : Section) : List Nat := part.line :: part.inner

/-- The line numbers in a feature: those of its own section and of its rules. -/
def Feature.lines (feature : Feature) : List Nat :=
  feature.toSection.lines ++ feature.rules.flatMap (·.toSection.lines)

end Gherkin
