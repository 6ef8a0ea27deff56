/-
  Gherkin.Proofs.Document.Renumber

  Documents under other line numbers. To renumber a document is to put another
  number in the place of every line number it records and to leave all else
  alone. Looking a part up and changing it commute with renumbering, so it does
  not matter which of the two is done first.
-/
import Gherkin.Proofs.Document.Lines

namespace Gherkin

/-! ## Renumbering each part -/

/-- The step under another line number. -/
def Step.renumber (f : Nat → Nat) (step : Step) : Step := { step with line := f step.line }

/-- The block with its own line number and those of its steps changed. -/
def StepBlock.renumber (f : Nat → Nat) (block : StepBlock) : StepBlock :=
  { block with steps := block.steps.map (·.renumber f), line := f block.line }

/-- The example row under another line number. -/
def ExampleRow.renumber (f : Nat → Nat) (row : ExampleRow) : ExampleRow :=
  { row with line := f row.line }

/-- The outline with the line numbers of its rows changed. -/
def Outline.renumber (f : Nat → Nat) (outline : Outline) : Outline :=
  { outline with examples := outline.examples.map (·.renumber f) }

/-- The scenario with the line numbers of its block and of its examples changed. -/
def Scenario.renumber (f : Nat → Nat) (scenario : Scenario) : Scenario :=
  { toStepBlock := scenario.toStepBlock.renumber f
    outline := scenario.outline.map (·.renumber f) }

/-- The section with its own line number and those inside changed. -/
def Section.renumber (f : Nat → Nat) (part : Section) : Section :=
  { part with
    background := part.background.map (StepBlock.renumber f)
    scenarios := part.scenarios.map (·.renumber f)
    line := f part.line }

/-- The rule with the line numbers of its section changed. -/
def Rule.renumber (f : Nat → Nat) (rule : Rule) : Rule := rule.modifySection (·.renumber f)

/-- The feature with the line numbers of its own section and of its rules changed. -/
def Feature.renumber (f : Nat → Nat) (feature : Feature) : Feature :=
  { feature.modifySection (·.renumber f) with rules := feature.rules.map (·.renumber f) }

/-! ## Changes of parts -/

variable {f : Nat → Nat}

/-- A change of one element commutes with a map if it does so on that element. -/
theorem map_modify_comm {g : α → α} {h : β → β} {f : α → β} (hgh : ∀ x, h (f x) = f (g x))
    (xs : List α) (index : Nat) : (xs.map f).modify index h = (xs.modify index g).map f := by
  induction xs generalizing index with
  | nil => cases index <;> rfl
  | cons x xs ih =>
    cases index with
    | zero => simp [hgh]
    | succ index => simp [ih]

namespace StepBlock

theorem renumber_addStep (block : StepBlock) (step : Step) :
    (block.renumber f).addStep (step.renumber f) = (block.addStep step).renumber f := by
  simp [addStep, renumber]

theorem renumber_modifyLastStep {g h : Step → Step}
    (hgh : ∀ step, h (step.renumber f) = (g step).renumber f) (block : StepBlock) :
    (block.renumber f).modifyLastStep h = (block.modifyLastStep g).renumber f := by
  simp only [modifyLastStep, renumber, List.length_map, map_modify_comm hgh]

end StepBlock

theorem Scenario.renumber_modifyBlock {g h : StepBlock → StepBlock}
    (hgh : ∀ block, h (block.renumber f) = (g block).renumber f) (scenario : Scenario) :
    (scenario.renumber f).modifyBlock h = (scenario.modifyBlock g).renumber f := by
  simp only [modifyBlock, renumber, hgh]

theorem Scenario.renumber_modifyOutline {g h : Outline → Outline}
    (hgh : ∀ outline, h (outline.renumber f) = (g outline).renumber f) (scenario : Scenario) :
    (scenario.renumber f).modifyOutline h = (scenario.modifyOutline g).renumber f := by
  have houtline : (scenario.outline.map (·.renumber f)).getD {} =
      (scenario.outline.getD {}).renumber f := by
    cases scenario.outline <;> rfl
  simp only [modifyOutline, renumber, houtline, hgh, Option.map_some]

namespace Section

theorem renumber_addScenario (part : Section) (scenario : Scenario) :
    (part.renumber f).addScenario (scenario.renumber f) =
      (part.addScenario scenario).renumber f := by
  simp [addScenario, renumber]

theorem renumber_modifyLastScenario {g h : Scenario → Scenario}
    (hgh : ∀ scenario, h (scenario.renumber f) = (g scenario).renumber f) (part : Section) :
    (part.renumber f).modifyLastScenario h = (part.modifyLastScenario g).renumber f := by
  simp only [modifyLastScenario, renumber, List.length_map, map_modify_comm hgh]

theorem getLast?_renumber (part : Section) :
    (part.renumber f).scenarios.getLast? = part.scenarios.getLast?.map (·.renumber f) := by
  simp only [renumber, List.getLast?_map]

theorem block?_renumber (part : Section) (place : Place) :
    (part.renumber f).block? place = (part.block? place).map (·.renumber f) := by
  cases place with
  | background => rfl
  | scenario =>
    simp only [block?, getLast?_renumber, Option.map_map]
    rfl

theorem renumber_modifyBlock {g h : StepBlock → StepBlock}
    (hgh : ∀ block, h (block.renumber f) = (g block).renumber f) (place : Place)
    (part : Section) :
    (part.renumber f).modifyBlock place h = (part.modifyBlock place g).renumber f := by
  cases place with
  | background =>
    cases hbackground : part.background with
    | none => simp [modifyBlock, renumber, hbackground]
    | some background => simp [modifyBlock, renumber, hbackground, hgh]
  | scenario => exact renumber_modifyLastScenario (Scenario.renumber_modifyBlock hgh) part

end Section

namespace Feature

theorem active_renumber (feature : Feature) :
    (feature.renumber f).active = feature.active.renumber f := by
  unfold active
  simp only [renumber, List.getLast?_map]
  cases feature.rules.getLast? <;> rfl

theorem renumber_modifyActive {g h : Section → Section}
    (hgh : ∀ part, h (part.renumber f) = (g part).renumber f) (feature : Feature) :
    (feature.renumber f).modifyActive h = (feature.modifyActive g).renumber f := by
  have hempty : (feature.renumber f).rules.isEmpty = feature.rules.isEmpty := by
    simp [renumber]
  unfold modifyActive
  rw [hempty]
  split
  · simp only [renumber, modifySection, hgh]
  · have hrule : ∀ rule : Rule, (rule.renumber f).modifySection h =
        (rule.modifySection g).renumber f := by
      intro rule
      simp only [Rule.renumber, Rule.modifySection, hgh]
    simp only [renumber, List.length_map, map_modify_comm hrule]
    rfl

theorem renumber_addRule (feature : Feature) (rule : Rule) :
    (feature.renumber f).addRule (rule.renumber f) = (feature.addRule rule).renumber f := by
  simp [addRule, renumber, modifySection]

theorem allScenarios_renumber (feature : Feature) :
    (feature.renumber f).allScenarios.map (·.2) =
      (feature.allScenarios.map (·.2)).map (·.renumber f) := by
  simp [allScenarios, renumber, modifySection, Rule.renumber, Rule.modifySection,
    Section.renumber, List.map_flatMap, List.flatMap_map, Function.comp_def]

end Feature

end Gherkin
