/-
  Gherkin.Proofs.Document.Steps

  The steps of a document, block by block in order. A change of the active
  section leaves the steps of the other sections alone, and the inventory of a
  document tells which step stands in which block.
-/
import Gherkin.Proofs.Document.Inventory
import Gherkin.Proofs.Document.Order
import Mathlib.Data.List.Flatten

namespace Gherkin

/-! ## Blocks -/

namespace StepBlock

variable {block : StepBlock}

theorem mem_steps_addStep {step added : Step} :
    step ∈ (block.addStep added).steps ↔ step ∈ block.steps ∨ step = added := by
  simp [addStep]

/-- Of the steps of a block only the last one has changed. -/
theorem mem_steps_modifyLastStep {f : Step → Step} {step : Step}
    (h : step ∈ (block.modifyLastStep f).steps) :
    step ∈ block.steps ∨ ∃ last, block.steps.getLast? = some last ∧ step = f last := by
  rcases List.eq_nil_or_concat block.steps with hnil | ⟨steps, last, hlast⟩
  · rw [modifyLastStep, hnil] at h
    cases h
  · rw [List.concat_eq_append] at hlast
    rw [modifyLastStep, hlast, List.length_append, List.length_singleton, Nat.add_sub_cancel,
      modify_length_append_singleton, List.mem_append, List.mem_singleton] at h
    rw [hlast]
    rcases h with hbefore | hchanged
    · exact .inl (List.mem_append_left _ hbefore)
    · exact .inr ⟨last, List.getLast?_concat, hchanged⟩

end StepBlock

/-! ## Sections -/

namespace Section

variable {part : Section} {step : Step}

/-- The steps of a section. -/
def steps (part : Section) : List Step := part.blocks.flatMap (·.steps)

theorem mem_steps_iff : step ∈ part.steps ↔ ∃ block ∈ part.blocks, step ∈ block.steps :=
  List.mem_flatMap

theorem mem_blocks_of_block? {place : Place} {block : StepBlock}
    (h : part.block? place = some block) : block ∈ part.blocks := by
  cases place with
  | background =>
    have hbackground : part.background = some block := h
    simp [blocks, hbackground]
  | scenario =>
    obtain ⟨scenario, hlast, rfl⟩ := Option.map_eq_some_iff.1 h
    have hmem : scenario ∈ part.scenarios := List.mem_of_getLast? hlast
    exact List.mem_append_right _ (List.mem_map_of_mem hmem)

/-- A change of scenarios that leaves their blocks alone leaves all steps alone. -/
theorem steps_modifyLastScenario {f : Scenario → Scenario}
    (hf : ∀ scenario, (f scenario).toStepBlock = scenario.toStepBlock) (part : Section) :
    (part.modifyLastScenario f).steps = part.steps := by
  have hblocks : (part.modifyLastScenario f).blocks = part.blocks := by
    rcases List.eq_nil_or_concat part.scenarios with hnil | ⟨scenarios, last, hlast⟩
    · simp [blocks, modifyLastScenario, hnil]
    · rw [List.concat_eq_append] at hlast
      rw [blocks, blocks, modifyLastScenario, hlast, List.length_append, List.length_singleton,
        Nat.add_sub_cancel, modify_length_append_singleton]
      simp [hf]
  rw [steps, steps, hblocks]

/-- A background opens without steps. -/
theorem mem_steps_setBackground {background : Background} (hsteps : background.steps = [])
    (h : step ∈ ({ part with background := some background } : Section).steps) :
    step ∈ part.steps := by
  simp only [steps, blocks, Option.toList_some, List.singleton_append, List.flatMap_cons, hsteps,
    List.nil_append] at h
  rw [steps, blocks, List.flatMap_append]
  exact List.mem_append_right _ h

/-- So does a scenario. -/
theorem mem_steps_addScenario {scenario : Scenario} (hsteps : scenario.steps = [])
    (h : step ∈ (part.addScenario scenario).steps) : step ∈ part.steps := by
  simpa [steps, blocks, addScenario, hsteps] using h

theorem mem_steps_modifyBlock {place : Place} {f : StepBlock → StepBlock}
    (h : step ∈ (part.modifyBlock place f).steps) :
    step ∈ part.steps ∨ ∃ block, part.block? place = some block ∧ step ∈ (f block).steps := by
  obtain ⟨block, hblock, hstep⟩ := mem_steps_iff.1 h
  cases place with
  | background =>
    rcases List.mem_append.1 hblock with hbackground | hscenario
    · obtain ⟨old, hold, rfl⟩ := Option.map_eq_some_iff.1 (Option.mem_toList.1 hbackground)
      exact .inr ⟨old, hold, hstep⟩
    · exact .inl (mem_steps_iff.2 ⟨block, List.mem_append_right _ hscenario, hstep⟩)
  | scenario =>
    -- without a scenario there is nothing that changes
    rcases List.eq_nil_or_concat part.scenarios with hnil | ⟨scenarios, last, hlast⟩
    · have hsame : part.modifyBlock .scenario f = part := by
        rw [modifyBlock, modifyLastScenario, hnil]
        show { part with scenarios := [] } = part
        rw [← hnil]
      rw [hsame] at hblock
      exact .inl (mem_steps_iff.2 ⟨block, hblock, hstep⟩)
    · rw [List.concat_eq_append] at hlast
      have hmodified : (part.modifyBlock .scenario f).blocks =
          part.background.toList ++ scenarios.map (·.toStepBlock) ++ [f last.toStepBlock] := by
        rw [blocks, modifyBlock, modifyLastScenario, hlast, List.length_append,
          List.length_singleton, Nat.add_sub_cancel, modify_length_append_singleton,
          List.map_append, ← List.append_assoc]
        rfl
      rw [hmodified, List.mem_append, List.mem_singleton] at hblock
      rcases hblock with hbefore | rfl
      · refine .inl (mem_steps_iff.2 ⟨block, ?_, hstep⟩)
        rw [blocks, hlast, List.map_append, ← List.append_assoc]
        exact List.mem_append_left _ hbefore
      · exact .inr ⟨last.toStepBlock, by simp [block?, hlast], hstep⟩

/-- The lines of the steps are among those of the section. -/
theorem steps_lines_sublist (part : Section) : (part.steps.map (·.line)).Sublist part.lines := by
  have hblock (block : StepBlock) : (block.steps.map (·.line)).Sublist block.lines :=
    List.sublist_cons_self _ _
  have hsteps : part.steps.map (·.line) =
      part.background.toList.flatMap (·.steps.map (·.line)) ++
        part.scenarios.flatMap (·.steps.map (·.line)) := by
    simp [steps, blocks, List.map_flatMap, List.flatMap_map]
  rw [hsteps]
  refine List.Sublist.cons _ (List.Sublist.append ?_ ?_)
  · exact List.Sublist.flatMap_right _ fun block _ => hblock block
  · refine List.Sublist.flatMap_right _ fun scenario _ => ?_
    exact (hblock scenario.toStepBlock).trans (List.sublist_append_left _ _)

end Section

/-! ## Features -/

namespace Feature

variable {feature : Feature} {step : Step}

/-- The blocks of a feature that hold steps. -/
def blocks (feature : Feature) : List StepBlock := feature.sections.flatMap Section.blocks

/-- The steps of a feature. -/
def steps (feature : Feature) : List Step := feature.blocks.flatMap (·.steps)

theorem mem_steps_iff : step ∈ feature.steps ↔ ∃ part ∈ feature.sections, step ∈ part.steps := by
  rw [steps, blocks, List.flatMap_assoc]
  exact List.mem_flatMap

theorem active_mem_sections (feature : Feature) : feature.active ∈ feature.sections := by
  obtain ⟨before, hsections, -⟩ := feature.exists_sections
  rw [hsections]
  exact List.mem_append_right _ List.mem_cons_self

theorem mem_steps_modifyActive {f : Section → Section}
    (h : step ∈ (feature.modifyActive f).steps) :
    step ∈ feature.steps ∨ step ∈ (f feature.active).steps := by
  obtain ⟨before, hsections, hmodified⟩ := feature.exists_sections
  obtain ⟨part, hpart, hstep⟩ := mem_steps_iff.1 h
  rw [hmodified, List.mem_append, List.mem_singleton] at hpart
  rcases hpart with hbefore | rfl
  · refine .inl (mem_steps_iff.2 ⟨part, ?_, hstep⟩)
    rw [hsections]
    exact List.mem_append_left _ hbefore
  · exact .inr hstep

theorem steps_lines_sublist (feature : Feature) :
    (feature.steps.map (·.line)).Sublist feature.lines := by
  have hsteps : feature.steps.map (·.line) =
      feature.sections.flatMap (·.steps.map (·.line)) := by
    simp [steps, blocks, Section.steps, List.map_flatMap, List.flatMap_assoc]
  rw [hsteps, lines_eq_flatMap]
  exact List.Sublist.flatMap_right _ fun part _ => part.steps_lines_sublist

/-! ## The inventory -/

theorem items_eq_flatMap (feature : Feature) :
    feature.items = feature.sections.flatMap (·.items) := by
  rw [items, sections, List.flatMap_cons, List.flatMap_map]

end Feature

theorem StepBlock.mem_items_step {block : StepBlock} {container : Option Nat} {line : Nat}
    {said : StepLine} :
    .step container line said ∈ block.items ↔
      ∃ step ∈ block.steps, container = some block.line ∧ line = step.line ∧ said = step.said := by
  simp only [items, List.mem_append, List.mem_cons, List.mem_map, List.mem_flatMap, Step.items]
  grind

/-- The inventory tells in which block a step stands. -/
theorem Section.mem_items_step {part : Section} {container : Option Nat} {line : Nat}
    {said : StepLine} :
    .step container line said ∈ part.items ↔
      ∃ block ∈ part.blocks, ∃ step ∈ block.steps,
        container = some block.line ∧ line = step.line ∧ said = step.said := by
  simp only [items, blocks, Scenario.items, ExampleRow.item, List.mem_append, List.mem_cons,
    List.mem_map, List.mem_flatMap, StepBlock.mem_items_step]
  grind

theorem Feature.mem_items_step {feature : Feature} {container : Option Nat} {line : Nat}
    {said : StepLine} :
    .step container line said ∈ feature.items ↔
      ∃ block ∈ feature.blocks, ∃ step ∈ block.steps,
        container = some block.line ∧ line = step.line ∧ said = step.said := by
  simp only [items_eq_flatMap, blocks, List.mem_flatMap, Section.mem_items_step]
  grind

end Gherkin
