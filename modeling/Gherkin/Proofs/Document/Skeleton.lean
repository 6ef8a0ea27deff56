/-
  Gherkin.Proofs.Document.Skeleton

  The skeleton of a document: its sections in order, with the titles and tags of
  what is in them and the outlines of the scenarios, but without descriptions and
  steps. Text, steps and what hangs on steps leave it alone.
-/
import Gherkin.Proofs.Document.Order

namespace Gherkin

/-- What the last element of a list becomes, seen through `φ`. -/
theorem map_modify_last {f : α → α} {g : β → β} {φ : α → β} (h : ∀ x, φ (f x) = g (φ x))
    (xs : List α) :
    (xs.modify (xs.length - 1) f).map φ = (xs.map φ).modify ((xs.map φ).length - 1) g := by
  rcases List.eq_nil_or_concat xs with rfl | ⟨ys, y, rfl⟩
  · rfl
  · have hmapped : ((ys ++ [y]).map φ).length - 1 = (ys.map φ).length := by simp
    rw [List.concat_eq_append, hmapped, List.length_append, List.length_singleton,
      Nat.add_sub_cancel, modify_length_append_singleton, List.map_append, List.map_append,
      List.map_singleton, List.map_singleton, modify_length_append_singleton, h]

/-! ## Blocks and scenarios -/

/-- The block without its description and its steps. -/
def StepBlock.skeleton (block : StepBlock) : StepBlock :=
  { block with description := [], steps := [] }

/-- The scenario without its description and its steps. -/
def Scenario.skeleton (scenario : Scenario) : Scenario :=
  scenario.modifyBlock StepBlock.skeleton

/-! ## Sections -/

namespace Section

/-- The section without descriptions and steps. -/
def skeleton (part : Section) : Section :=
  { part with
    description := []
    background := part.background.map StepBlock.skeleton
    scenarios := part.scenarios.map Scenario.skeleton }

theorem skeleton_addScenario (part : Section) (scenario : Scenario) :
    (part.addScenario scenario).skeleton = part.skeleton.addScenario scenario.skeleton := by
  simp [skeleton, addScenario]

theorem skeleton_modifyLastScenario {f g : Scenario → Scenario}
    (h : ∀ scenario, (f scenario).skeleton = g scenario.skeleton) (part : Section) :
    (part.modifyLastScenario f).skeleton = part.skeleton.modifyLastScenario g := by
  simp only [skeleton, modifyLastScenario, map_modify_last h]

/-- What changes the steps and the description of a block leaves the skeleton alone. -/
theorem skeleton_modifyBlock {f : StepBlock → StepBlock}
    (h : ∀ block, (f block).skeleton = block.skeleton) (place : Place) (part : Section) :
    (part.modifyBlock place f).skeleton = part.skeleton := by
  cases place with
  | background =>
    simp only [skeleton, modifyBlock, Option.map_map]
    congr 1
    cases part.background with
    | none => rfl
    | some block => exact congrArg some (h block)
  | scenario =>
    have hsame : ∀ scenario : Scenario,
        (scenario.modifyBlock f).skeleton = id scenario.skeleton := by
      intro scenario
      exact congrArg (fun block => ({ scenario with toStepBlock := block } : Scenario)) (h _)
    rw [modifyBlock, skeleton_modifyLastScenario hsame, modifyLastScenario, List.modify_id]

end Section

/-! ## Features -/

namespace Feature

/-- The sections of the feature without descriptions and steps. -/
def skeleton (feature : Feature) : List Section := feature.sections.map Section.skeleton

theorem scenarios_skeleton (feature : Feature) :
    feature.skeleton.flatMap (·.scenarios) =
      (feature.allScenarios.map (·.2)).map Scenario.skeleton := by
  rw [allScenarios_eq_flatMap, skeleton, List.flatMap_map, List.map_flatMap]
  rfl

theorem skeleton_addRule (feature : Feature) (rule : Rule) :
    (feature.addRule rule).skeleton = feature.skeleton ++ [rule.toSection.skeleton] := by
  simp [skeleton, sections, addRule]

/-- A change of the active section changes the last section of the skeleton. -/
theorem exists_skeleton (feature : Feature) :
    ∃ before, feature.skeleton = before ++ [feature.active.skeleton] ∧
      ∀ f, (feature.modifyActive f).skeleton = before ++ [(f feature.active).skeleton] := by
  obtain ⟨before, hsections, hmodified⟩ := feature.exists_sections
  refine ⟨before.map Section.skeleton, ?_, fun f => ?_⟩
  · rw [skeleton, hsections, List.map_append, List.map_singleton]
  · rw [skeleton, hmodified, List.map_append, List.map_singleton]

end Feature

end Gherkin
