/-
  Gherkin.Proofs.Document.Inventory

  The inventory of a document: every section, block, line of description, step,
  row of a data table and row of examples in it, each with the line of what it
  stands in. Adding something to one part of a document adds just that to its
  inventory.
-/
import Gherkin.Document.Feature
import Gherkin.Language.Line

namespace Gherkin

open List (Perm)

/-! ## Items -/

/-- Something that a document holds. What it stands in is told by its line. -/
inductive Item where
  /-- A feature, rule, background or scenario on a line. -/
  | entity (line : Nat)
  /-- A line of description of the entity on a line. -/
  | description (entity : Nat) (text : String)
  /-- A step of the block on a line. -/
  | step (block : Option Nat) (line : Nat) (said : StepLine)
  /-- A row of the table under the step on a line. -/
  | dataRow (step : Option Nat) (cells : List String)
  /-- A row of examples of the outline on a line. -/
  | exampleRow (outline : Option Nat) (line : Nat) (values : List (String × Option String))
  deriving DecidableEq, Repr

/-- The line of an entity. -/
def Item.entityLine? : Item → Option Nat
  | .entity line => some line
  | _ => none

/-- What a step says. -/
def Step.said (step : Step) : StepLine := ⟨step.keyword, step.keywordText, step.details⟩

/-- The rows under a step. -/
def Step.rows (step : Step) : List (List String) := (step.dataTable.map (·.rows)).getD []

/-- The items of a step of the block on a line. -/
def Step.items (block : Nat) (step : Step) : List Item :=
  .step (some block) step.line step.said :: step.rows.map (.dataRow (some step.line))

/-- The items of a block. -/
def StepBlock.items (block : StepBlock) : List Item :=
  .entity block.line :: block.description.map (.description block.line) ++
    block.steps.flatMap (·.items block.line)

/-- The item of a row of examples. -/
def ExampleRow.item (outline : Option Nat) (row : ExampleRow) : Item :=
  .exampleRow outline row.line row.values

/-- The items of a scenario. -/
def Scenario.items (scenario : Scenario) : List Item :=
  scenario.toStepBlock.items ++ scenario.examples.map (·.item (some scenario.line))

/-- The items of a section. -/
def Section.items (part : Section) : List Item :=
  .entity part.line :: part.description.map (.description part.line) ++
    part.background.toList.flatMap StepBlock.items ++ part.scenarios.flatMap Scenario.items

/-- The inventory of a feature. -/
def Feature.items (feature : Feature) : List Item :=
  feature.toSection.items ++ feature.rules.flatMap (·.toSection.items)

/-! ## Additions to a part of a list -/

section Added

variable {α : Type u} {added xs ys : List α}

/-- What is added behind a list is added to the whole. -/
theorem perm_added_behind (zs : List α) (h : Perm xs (added ++ ys)) :
    Perm (zs ++ xs) (added ++ (zs ++ ys)) :=
  (h.append_left zs).trans (List.perm_append_comm_assoc zs added ys)

/-- What is added before a list is added to the whole. -/
theorem perm_added_before (zs : List α) (h : Perm xs (added ++ ys)) :
    Perm (xs ++ zs) (added ++ (ys ++ zs)) := by
  rw [← List.append_assoc]
  exact h.append_right zs

/-- What the last element gains, the whole list gains. -/
theorem flatMap_modify_last_perm {f : β → β} {g : β → List α} {bs : List β} {b : β}
    (hlast : bs.getLast? = some b) (h : Perm (g (f b)) (added ++ g b)) :
    Perm ((bs.modify (bs.length - 1) f).flatMap g) (added ++ bs.flatMap g) := by
  rcases List.eq_nil_or_concat bs with rfl | ⟨cs, c, rfl⟩
  · cases hlast
  · obtain rfl : c = b := by simpa using hlast
    have hmodify : (cs.concat c).modify ((cs.concat c).length - 1) f = cs ++ [f c] := by
      rw [List.concat_eq_append, List.length_append, List.length_singleton, Nat.add_sub_cancel,
        modify_length_append_singleton]
    rw [hmodify, List.concat_eq_append]
    simp only [List.flatMap_append, List.flatMap_singleton]
    exact perm_added_behind _ h

end Added

/-! ## Additions to a block -/

theorem Step.items_addRow (cells : List String) (block : Nat) (step : Step) :
    Perm ((step.addRow cells).items block)
      ([.dataRow (some step.line) cells] ++ step.items block) := by
  have hrows : (step.addRow cells).rows = step.rows ++ [cells] := by
    cases htable : step.dataTable <;>
      simp [Step.rows, Step.addRow, DataTable.addRow, htable]
  show Perm (Item.step (some block) step.line step.said :: (step.addRow cells).rows.map _) _
  rw [hrows, List.map_append]
  exact perm_added_behind [_] List.perm_append_comm

namespace StepBlock

theorem items_describe (block : StepBlock) (text : String) :
    Perm (block.describe text).items ([.description block.line text] ++ block.items) := by
  simp only [items, describe, List.map_append, List.map_singleton]
  exact perm_added_before _ (perm_added_behind [_] List.perm_append_comm)

theorem items_addStep (block : StepBlock) (step : Step) :
    Perm (block.addStep step).items (step.items block.line ++ block.items) := by
  simp only [items, addStep, List.flatMap_append, List.flatMap_singleton]
  exact perm_added_behind _ List.perm_append_comm

theorem getLast?_modifyLastStep (f : Step → Step) (block : StepBlock) :
    (block.modifyLastStep f).steps.getLast? = block.steps.getLast?.map f :=
  getLast?_modify_length_sub_one f block.steps

theorem items_modifyLastStep {f : Step → Step} {block : StepBlock} {step : Step}
    {added : List Item} (hlast : block.steps.getLast? = some step)
    (h : Perm ((f step).items block.line) (added ++ step.items block.line)) :
    Perm (block.modifyLastStep f).items (added ++ block.items) :=
  perm_added_behind _ (flatMap_modify_last_perm hlast h)

end StepBlock

/-! ## Additions to a section -/

namespace Section

theorem items_describe (part : Section) (text : String) :
    Perm (part.describe text).items ([.description part.line text] ++ part.items) := by
  simp only [items, describe, List.map_append, List.map_singleton]
  apply perm_added_before
  apply perm_added_before
  exact perm_added_behind [_] List.perm_append_comm

theorem items_addScenario (part : Section) (scenario : Scenario) :
    Perm (part.addScenario scenario).items (scenario.items ++ part.items) := by
  simp only [items, addScenario, List.flatMap_append, List.flatMap_singleton]
  exact perm_added_behind _ List.perm_append_comm

theorem items_setBackground {part : Section} (hnone : part.background = none)
    (background : Background) :
    Perm ({ part with background := some background } : Section).items
      (background.items ++ part.items) := by
  simp only [items, hnone, Option.toList_some, Option.toList_none, List.flatMap_singleton,
    List.flatMap_nil, List.append_nil]
  apply perm_added_before
  exact List.perm_append_comm

theorem items_modifyLastScenario {f : Scenario → Scenario} {part : Section}
    {scenario : Scenario} {added : List Item} (hlast : part.scenarios.getLast? = some scenario)
    (h : Perm (f scenario).items (added ++ scenario.items)) :
    Perm (part.modifyLastScenario f).items (added ++ part.items) :=
  perm_added_behind _ (flatMap_modify_last_perm hlast h)

/-- A block keeps its line, which its items and the examples of its scenario carry. -/
theorem items_modifyBlock {f : StepBlock → StepBlock} {part : Section} {place : Place}
    {block : StepBlock} {added : List Item} (hblock : part.block? place = some block)
    (hline : (f block).line = block.line) (h : Perm (f block).items (added ++ block.items)) :
    Perm (part.modifyBlock place f).items (added ++ part.items) := by
  cases place with
  | background =>
    have hbackground : part.background = some block := hblock
    simp only [items, modifyBlock, hbackground, Option.map_some, Option.toList_some,
      List.flatMap_singleton]
    exact perm_added_before _ (perm_added_behind _ h)
  | scenario =>
    obtain ⟨scenario, hlast, rfl⟩ := Option.map_eq_some_iff.1 hblock
    apply items_modifyLastScenario hlast
    have hexamples : (scenario.modifyBlock f).items =
        (f scenario.toStepBlock).items ++
          scenario.examples.map (·.item (some (f scenario.toStepBlock).line)) := rfl
    rw [hexamples, hline]
    exact perm_added_before _ h

end Section

/-! ## Additions to a feature -/

namespace Feature

theorem items_addRule (feature : Feature) (rule : Rule) :
    Perm (feature.addRule rule).items (rule.toSection.items ++ feature.items) := by
  simp only [items, addRule, List.flatMap_append, List.flatMap_singleton]
  exact perm_added_behind _ List.perm_append_comm

theorem items_modifyActive {f : Section → Section} {feature : Feature} {added : List Item}
    (h : Perm (f feature.active).items (added ++ feature.active.items)) :
    Perm (feature.modifyActive f).items (added ++ feature.items) := by
  unfold modifyActive
  cases hlast : feature.rules.getLast? with
  | none =>
    -- the feature is its own active section
    have hrules : feature.rules = [] := List.getLast?_eq_none_iff.1 hlast
    have hactive : feature.active = feature.toSection := by
      rw [active, hlast]
      rfl
    rw [hactive] at h
    simp only [hrules, List.isEmpty_nil, if_true]
    exact perm_added_before _ h
  | some rule =>
    -- the last rule is the active section
    have hrules : feature.rules.isEmpty = false := by
      cases hempty : feature.rules with
      | nil => simp [hempty] at hlast
      | cons => rfl
    have hactive : feature.active = rule.toSection := by
      rw [active, hlast]
      rfl
    rw [hactive] at h
    simp only [hrules]
    exact perm_added_behind _ (flatMap_modify_last_perm hlast h)

end Feature

end Gherkin
