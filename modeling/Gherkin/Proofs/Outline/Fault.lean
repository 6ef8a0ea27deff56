/-
  Gherkin.Proofs.Outline.Fault

  Which scenarios can be expanded, and what is wrong with the others. `Expandable`
  lists what an outline must have; `FirstFault` says which of these conditions is
  the first to fail, and for which slot, column or row. A scenario is expanded
  just in case it is expandable, and every other one is refused for its first
  fault.
-/
import Gherkin.Proofs.Outline.Name

namespace Gherkin

/-! ## Numbered searches -/

section Search

variable {α β : Type} (f : α → Option β) {xs : List α}

theorem findSome?_zipIdx_eq_none_iff :
    (xs.zipIdx.findSome? fun (x, index) => (f x).map fun b => (index + 1, b)) = none ↔
      ∀ x ∈ xs, f x = none := by
  rw [List.findSome?_eq_none_iff]
  constructor
  · intro h x hx
    obtain ⟨index, hindex⟩ := List.mem_iff_getElem?.1 hx
    exact Option.map_eq_none_iff.1 (h (x, index) (List.mk_mem_zipIdx_iff_getElem?.2 hindex))
  · rintro h ⟨x, index⟩ hx
    exact Option.map_eq_none_iff.2 (h x (List.fst_mem_of_mem_zipIdx hx))

/-- What is found comes from the first element that gives something, and the number is that of
    the element, counted from one. -/
theorem findSome?_zipIdx_eq_some_iff {number : Nat} {b : β} :
    (xs.zipIdx.findSome? fun (x, index) => (f x).map fun b => (index + 1, b)) =
        some (number, b) ↔
      ∃ before x after, xs = before ++ x :: after ∧ number = before.length + 1 ∧ f x = some b ∧
        ∀ other ∈ before, f other = none := by
  rw [List.findSome?_eq_some_iff]
  constructor
  · rintro ⟨numbered, ⟨x, index⟩, rest, hsplit, hfound, hnone⟩
    obtain ⟨before, others, rfl, rfl, hothers⟩ := List.zipIdx_eq_append_iff.1 hsplit
    obtain ⟨first, after, rfl, hfirst, -⟩ := List.zipIdx_eq_cons_iff.1 hothers.symm
    obtain ⟨rfl, rfl⟩ := Prod.mk.inj hfirst
    obtain ⟨found, hx, hsame⟩ := Option.map_eq_some_iff.1 hfound
    obtain ⟨rfl, rfl⟩ := Prod.mk.inj hsame
    refine ⟨before, x, after, rfl, by omega, hx, ?_⟩
    intro other hother
    obtain ⟨place, hplace⟩ := List.mem_iff_getElem?.1 hother
    exact Option.map_eq_none_iff.1
      (hnone (other, place) (List.mk_mem_zipIdx_iff_getElem?.2 hplace))
  · rintro ⟨before, x, after, rfl, rfl, hx, hnone⟩
    refine ⟨before.zipIdx, (x, before.length), after.zipIdx (before.length + 1), ?_, ?_, ?_⟩
    · rw [List.zipIdx_append, List.zipIdx_cons, Nat.zero_add]
    · exact Option.map_eq_some_iff.2 ⟨b, hx, rfl⟩
    · rintro ⟨other, place⟩ hother
      exact Option.map_eq_none_iff.2 (hnone other (List.fst_mem_of_mem_zipIdx hother))

end Search

namespace Scenario

variable {scenario : Scenario}

/-! ## What an outline must have -/

/-- The scenario is an outline with rows, all of them under an examples keyword. -/
structure HasExamples (scenario : Scenario) : Prop where
  keyworded : ∃ outline, scenario.outline = some outline ∧ outline.missingKeyword = false
  notEmpty : scenario.examples ≠ []

/-- The scenario is an outline that can be expanded. -/
structure Expandable (scenario : Scenario) : Prop extends HasExamples scenario where
  /-- The slots are the columns. -/
  slots : ∀ name, scenario.HasSlot name ↔ scenario.HasColumn name
  /-- Every row has a cell for every column. -/
  cells : ∀ row ∈ scenario.examples, ∀ column, scenario.HasColumn column →
    ∃ cell, row.HasCell column cell

/-- What is wrong with a scenario, if all that is looked at before is right. -/
inductive FirstFault (scenario : Scenario) : OutlineFault → Prop
  | notAnOutline (h : scenario.outline = none) : FirstFault scenario (.notAnOutline scenario.name)
  | missingKeyword {outline : Outline} (h : scenario.outline = some outline)
      (hkeyword : outline.missingKeyword = true) :
      FirstFault scenario (.missingKeyword scenario.name)
  | noExamples {outline : Outline} (h : scenario.outline = some outline)
      (hkeyword : outline.missingKeyword = false) (hrows : outline.examples = []) :
      FirstFault scenario (.noExamples scenario.name)
  /-- The first slot without a column, in the first text with one, in the first step with one. -/
  | undeclaredSlot {stepsBefore stepsAfter : List Step} {step : Step} {text slot : String}
      {before after : List Template.Segment} (h : scenario.HasExamples)
      (hsteps : scenario.steps = stepsBefore ++ step :: stepsAfter)
      (hstepsBefore : ∀ other ∈ stepsBefore, ∀ text, other.HasText text → scenario.Declares text)
      (htext : step.FirstText (fun text => ¬ scenario.Declares text) text)
      (hcut : Template.Cut text.toList (before ++ .slot slot :: after))
      (hbefore : ∀ other, .slot other ∈ before → scenario.HasColumn other)
      (hslot : ¬ scenario.HasColumn slot) :
      FirstFault scenario (.undeclaredSlot scenario.name slot)
  /-- The first column, in the order of appearance, without a slot. -/
  | unusedColumn {column : String} (h : scenario.HasExamples)
      (hslots : ∀ slot, scenario.HasSlot slot → scenario.HasColumn slot)
      (hcolumn : scenario.FirstColumn (fun name => ¬ scenario.HasSlot name) column) :
      FirstFault scenario (.unusedColumn scenario.name column)
  /-- The first row that lacks a cell, and the first column that it has none for. -/
  | missingValue {rowsBefore rowsAfter : List ExampleRow} {row : ExampleRow} {column : String}
      (h : scenario.HasExamples)
      (hslots : ∀ name, scenario.HasSlot name ↔ scenario.HasColumn name)
      (hrows : scenario.examples = rowsBefore ++ row :: rowsAfter)
      (hrowsBefore : ∀ other ∈ rowsBefore, ∀ name, scenario.HasColumn name →
        ∃ cell, other.HasCell name cell)
      (hcolumn : scenario.FirstColumn (fun name => ¬ ∃ cell, row.HasCell name cell) column) :
      FirstFault scenario (.missingValue scenario.name (rowsBefore.length + 1) column)

/-! ## What is looked for -/

theorem contains_exampleColumns {name : String} :
    (exampleColumns scenario.examples).contains name = true ↔ scenario.HasColumn name := by
  rw [List.contains_iff_mem, mem_exampleColumns]

theorem contains_slots {name : String} :
    scenario.slots.contains name = true ↔ scenario.HasSlot name := by
  rw [List.contains_iff_mem, mem_slots]

/-- A slot without a column. -/
def lacksColumn (scenario : Scenario) (slot : String) : Bool :=
  !(exampleColumns scenario.examples).contains slot

theorem lacksColumn_iff {slot : String} :
    scenario.lacksColumn slot = true ↔ ¬ scenario.HasColumn slot := by
  rw [lacksColumn, Bool.not_eq_true', ← Bool.not_eq_true, contains_exampleColumns]

theorem lacksColumn_eq_false_iff {slot : String} :
    scenario.lacksColumn slot = false ↔ scenario.HasColumn slot := by
  rw [← Bool.not_eq_true, lacksColumn_iff, Classical.not_not]

theorem any_lacksColumn_iff {text : String} :
    (Template.slots text).any scenario.lacksColumn = true ↔ ¬ scenario.Declares text := by
  simp [Declares, Template.mem_slots_iff, lacksColumn_iff]

theorem any_lacksColumn_texts_iff {step : Step} :
    (step.texts.flatMap Template.slots).any scenario.lacksColumn = false ↔
      ∀ text, step.HasText text → scenario.Declares text := by
  rw [List.any_flatMap, List.any_eq_false]
  simp only [any_lacksColumn_iff, Classical.not_not, Step.mem_texts]

/-- The first slot without a column is looked for in one step after the other, and in one text of a
    step after the other. -/
theorem undeclaredSlot?_eq_some_iff {slot : String} :
    scenario.undeclaredSlot? = some slot ↔
      ∃ stepsBefore step stepsAfter text before after,
        scenario.steps = stepsBefore ++ step :: stepsAfter ∧
        (∀ other ∈ stepsBefore, ∀ text, other.HasText text → scenario.Declares text) ∧
        step.FirstText (fun text => ¬ scenario.Declares text) text ∧
        Template.Cut text.toList (before ++ .slot slot :: after) ∧
        (∀ other, .slot other ∈ before → scenario.HasColumn other) ∧
        ¬ scenario.HasColumn slot := by
  have hslots : scenario.undeclaredSlot? =
      (scenario.steps.flatMap fun step => step.texts.flatMap Template.slots).find?
        scenario.lacksColumn := by
    -- the library lists the texts of all steps before it cuts them
    rw [← List.flatMap_assoc]
    rfl
  rw [hslots, find?_flatMap_eq_some_iff]
  constructor
  · rintro ⟨step, hstep, hfind⟩
    obtain ⟨text, htext, hslot⟩ := find?_flatMap_eq_some_iff.1 hfind
    obtain ⟨stepsBefore, stepsAfter, hsteps, hstepsBefore, -⟩ := find?_eq_some_iff_split.1 hstep
    obtain ⟨before, after, hcut, hbefore, hlacks⟩ := Template.find?_slots_eq_some_iff.1 hslot
    simp only [Step.find?_texts_eq_some_iff, any_lacksColumn_iff] at htext
    refine ⟨stepsBefore, step, stepsAfter, text, before, after, hsteps, ?_, htext, hcut, ?_,
      lacksColumn_iff.1 hlacks⟩
    · exact fun other hother => any_lacksColumn_texts_iff.1 (hstepsBefore other hother)
    · exact fun other hother => lacksColumn_eq_false_iff.1 (hbefore other hother)
  · rintro ⟨stepsBefore, step, stepsAfter, text, before, after, hsteps, hstepsBefore, htext, hcut,
      hbefore, hslot⟩
    have hfind : (step.texts.flatMap Template.slots).find? scenario.lacksColumn = some slot := by
      refine find?_flatMap_eq_some_iff.2 ⟨text, ?_, ?_⟩
      · simp only [Step.find?_texts_eq_some_iff, any_lacksColumn_iff]
        exact htext
      · refine Template.find?_slots_eq_some_iff.2 ⟨before, after, hcut, ?_, lacksColumn_iff.2 hslot⟩
        exact fun other hother => lacksColumn_eq_false_iff.2 (hbefore other hother)
    refine ⟨step, find?_eq_some_iff_split.2 ⟨stepsBefore, stepsAfter, hsteps, ?_, ?_⟩, hfind⟩
    · exact fun other hother => any_lacksColumn_texts_iff.2 (hstepsBefore other hother)
    · rw [List.any_eq_true]
      exact ⟨slot, List.mem_of_find?_eq_some hfind, lacksColumn_iff.2 hslot⟩

theorem undeclaredSlot?_eq_none_iff :
    scenario.undeclaredSlot? = none ↔ ∀ slot, scenario.HasSlot slot → scenario.HasColumn slot := by
  simp only [undeclaredSlot?, List.find?_eq_none, Bool.not_eq_true', Bool.not_eq_false,
    contains_exampleColumns, mem_slots]

theorem unusedColumn?_eq_some_iff {column : String} :
    scenario.unusedColumn? = some column ↔
      scenario.FirstColumn (fun name => ¬ scenario.HasSlot name) column := by
  simp only [unusedColumn?, find?_exampleColumns_eq_some_iff, Bool.not_eq_true',
    ← Bool.not_eq_true, contains_slots]

theorem unusedColumn?_eq_none_iff :
    scenario.unusedColumn? = none ↔ ∀ name, scenario.HasColumn name → scenario.HasSlot name := by
  simp only [unusedColumn?, List.find?_eq_none, Bool.not_eq_true', Bool.not_eq_false,
    contains_slots, mem_exampleColumns]

/-- The first column that a row has no cell for. -/
def lackedColumn? (scenario : Scenario) (row : ExampleRow) : Option String :=
  (exampleColumns scenario.examples).find? fun column => (row.get? column).isNone

theorem lackedColumn?_eq_none_iff {row : ExampleRow} :
    scenario.lackedColumn? row = none ↔
      ∀ name, scenario.HasColumn name → ∃ cell, row.HasCell name cell := by
  simp only [lackedColumn?, List.find?_eq_none, mem_exampleColumns, Bool.not_eq_true,
    Option.isNone_eq_false_iff, ExampleRow.isSome_get?_iff]

theorem lackedColumn?_eq_some_iff {row : ExampleRow} {column : String} :
    scenario.lackedColumn? row = some column ↔
      scenario.FirstColumn (fun name => ¬ ∃ cell, row.HasCell name cell) column := by
  simp only [lackedColumn?, find?_exampleColumns_eq_some_iff, ← ExampleRow.isSome_get?_iff,
    Bool.not_eq_true, Option.isSome_eq_false_iff]

theorem missingValue?_eq_some_iff {number : Nat} {column : String} :
    scenario.missingValue? = some (number, column) ↔ ∃ rowsBefore row rowsAfter,
      scenario.examples = rowsBefore ++ row :: rowsAfter ∧ number = rowsBefore.length + 1 ∧
        (∀ other ∈ rowsBefore, ∀ name, scenario.HasColumn name →
          ∃ cell, other.HasCell name cell) ∧
        scenario.FirstColumn (fun name => ¬ ∃ cell, row.HasCell name cell) column := by
  refine (findSome?_zipIdx_eq_some_iff scenario.lackedColumn?).trans ?_
  simp only [lackedColumn?_eq_some_iff, lackedColumn?_eq_none_iff]
  constructor
  · rintro ⟨rowsBefore, row, rowsAfter, hrows, hnumber, hcolumn, hrowsBefore⟩
    exact ⟨rowsBefore, row, rowsAfter, hrows, hnumber, hrowsBefore, hcolumn⟩
  · rintro ⟨rowsBefore, row, rowsAfter, hrows, hnumber, hrowsBefore, hcolumn⟩
    exact ⟨rowsBefore, row, rowsAfter, hrows, hnumber, hcolumn, hrowsBefore⟩

theorem missingValue?_eq_none_iff :
    scenario.missingValue? = none ↔ ∀ row ∈ scenario.examples, ∀ name,
      scenario.HasColumn name → ∃ cell, row.HasCell name cell := by
  refine (findSome?_zipIdx_eq_none_iff scenario.lackedColumn?).trans ?_
  simp only [lackedColumn?_eq_none_iff]

/-! ## The first fault -/

theorem outlineFault?_of_plain (h : scenario.outline = none) :
    scenario.outlineFault? = some (.notAnOutline scenario.name) := by
  simp [outlineFault?, isOutline, h]

theorem outlineFault?_of_missingKeyword {outline : Outline} (h : scenario.outline = some outline)
    (hkeyword : outline.missingKeyword = true) :
    scenario.outlineFault? = some (.missingKeyword scenario.name) := by
  simp [outlineFault?, isOutline, missesKeyword, h, hkeyword]

theorem outlineFault?_of_noExamples {outline : Outline} (h : scenario.outline = some outline)
    (hkeyword : outline.missingKeyword = false) (hrows : outline.examples = []) :
    scenario.outlineFault? = some (.noExamples scenario.name) := by
  simp [outlineFault?, isOutline, missesKeyword, examples, h, hkeyword, hrows]

/-- A scenario with rows is looked at for slots, columns and cells, in this order. -/
theorem outlineFault?_of_hasExamples (h : scenario.HasExamples) :
    scenario.outlineFault? =
      match scenario.undeclaredSlot? with
      | some slot => some (.undeclaredSlot scenario.name slot)
      | none =>
        match scenario.unusedColumn? with
        | some column => some (.unusedColumn scenario.name column)
        | none => scenario.missingValue?.map fun (row, column) =>
            .missingValue scenario.name row column := by
  obtain ⟨⟨outline, houtline, hkeyword⟩, hrows⟩ := h
  have hisOutline : scenario.isOutline = true := by simp [isOutline, houtline]
  have hmisses : scenario.missesKeyword = false := by simp [missesKeyword, houtline, hkeyword]
  have hempty : scenario.examples.isEmpty = false := List.isEmpty_eq_false_iff.2 hrows
  simp only [outlineFault?, hisOutline, hmisses, hempty]
  rfl

/-- The conditions that come before those on slots and columns. -/
theorem hasExamples_or_firstFault (scenario : Scenario) :
    scenario.HasExamples ∨ ∃ fault, scenario.FirstFault fault := by
  cases houtline : scenario.outline with
  | none => exact .inr ⟨_, .notAnOutline houtline⟩
  | some outline =>
    cases hkeyword : outline.missingKeyword with
    | true => exact .inr ⟨_, .missingKeyword houtline hkeyword⟩
    | false =>
      by_cases hrows : outline.examples = []
      · exact .inr ⟨_, .noExamples houtline hkeyword hrows⟩
      · refine .inl ⟨⟨outline, houtline, hkeyword⟩, ?_⟩
        simpa [examples, houtline] using hrows

/-- A scenario that is not expandable has a first fault. -/
theorem expandable_or_firstFault (scenario : Scenario) :
    scenario.Expandable ∨ ∃ fault, scenario.FirstFault fault := by
  -- faults in the order in which they are looked for: where one kind is ruled out, the next is due
  rcases scenario.hasExamples_or_firstFault with h | hfault
  · cases hslot : scenario.undeclaredSlot? with
    | some slot =>
      obtain ⟨stepsBefore, step, stepsAfter, text, before, after, hsteps, hstepsBefore, htext, hcut,
        hbefore, hnot⟩ := undeclaredSlot?_eq_some_iff.1 hslot
      exact .inr ⟨_, .undeclaredSlot h hsteps hstepsBefore htext hcut hbefore hnot⟩
    | none =>
      have hslots := undeclaredSlot?_eq_none_iff.1 hslot
      cases hcolumn : scenario.unusedColumn? with
      | some column =>
        exact .inr ⟨_, .unusedColumn h hslots (unusedColumn?_eq_some_iff.1 hcolumn)⟩
      | none =>
        have hcolumns := unusedColumn?_eq_none_iff.1 hcolumn
        have hsame : ∀ name, scenario.HasSlot name ↔ scenario.HasColumn name :=
          fun name => ⟨hslots name, hcolumns name⟩
        cases hmissing : scenario.missingValue? with
        | some found =>
          obtain ⟨rowsBefore, row, rowsAfter, hrows, -, hrowsBefore, hlacked⟩ :=
            missingValue?_eq_some_iff.1 hmissing
          exact .inr ⟨_, .missingValue h hsame hrows hrowsBefore hlacked⟩
        | none => exact .inl ⟨h, hsame, missingValue?_eq_none_iff.1 hmissing⟩
  · exact .inr hfault

theorem FirstFault.eq_outlineFault? {fault : OutlineFault} (h : scenario.FirstFault fault) :
    scenario.outlineFault? = some fault := by
  cases h with
  | notAnOutline h => exact outlineFault?_of_plain h
  | missingKeyword h hkeyword => exact outlineFault?_of_missingKeyword h hkeyword
  | noExamples h hkeyword hrows => exact outlineFault?_of_noExamples h hkeyword hrows
  | undeclaredSlot h hsteps hstepsBefore htext hcut hbefore hslot =>
    rw [outlineFault?_of_hasExamples h, undeclaredSlot?_eq_some_iff.2
      ⟨_, _, _, _, _, _, hsteps, hstepsBefore, htext, hcut, hbefore, hslot⟩]
  | unusedColumn h hslots hcolumn =>
    rw [outlineFault?_of_hasExamples h, undeclaredSlot?_eq_none_iff.2 hslots,
      unusedColumn?_eq_some_iff.2 hcolumn]
  | missingValue h hslots hrows hrowsBefore hcolumn =>
    rw [outlineFault?_of_hasExamples h,
      undeclaredSlot?_eq_none_iff.2 fun name => (hslots name).1,
      unusedColumn?_eq_none_iff.2 fun name => (hslots name).2,
      missingValue?_eq_some_iff.2 ⟨_, _, _, hrows, rfl, hrowsBefore, hcolumn⟩]
    rfl

theorem Expandable.outlineFault?_eq_none (h : scenario.Expandable) :
    scenario.outlineFault? = none := by
  rw [outlineFault?_of_hasExamples h.toHasExamples,
    undeclaredSlot?_eq_none_iff.2 fun name => (h.slots name).1,
    unusedColumn?_eq_none_iff.2 fun name => (h.slots name).2,
    missingValue?_eq_none_iff.2 h.cells]
  rfl

theorem outlineFault?_eq_some_iff {fault : OutlineFault} :
    scenario.outlineFault? = some fault ↔ scenario.FirstFault fault := by
  constructor
  · intro hfault
    rcases scenario.expandable_or_firstFault with h | ⟨other, hother⟩
    · rw [h.outlineFault?_eq_none] at hfault
      cases hfault
    · rw [hother.eq_outlineFault?] at hfault
      obtain rfl := Option.some.inj hfault
      exact hother
  · exact FirstFault.eq_outlineFault?

theorem outlineFault?_eq_none_iff : scenario.outlineFault? = none ↔ scenario.Expandable := by
  constructor
  · intro hnone
    rcases scenario.expandable_or_firstFault with h | ⟨fault, hfault⟩
    · exact h
    · rw [hfault.eq_outlineFault?] at hnone
      cases hnone
  · exact Expandable.outlineFault?_eq_none

/-! ## Expansion -/

theorem expand_of_fault {fault : OutlineFault} (h : scenario.outlineFault? = some fault)
    (mapping : ValueMapping) : (scenario.expand mapping).value = .error fault := by
  rw [expand, h]
  rfl

theorem expand_of_expandable (h : scenario.Expandable) (mapping : ValueMapping) :
    (scenario.expand mapping).value =
      .ok (scenario.examples.zipIdx.map fun (row, index) =>
        scenario.expandRow mapping row index) := by
  rw [expand, h.outlineFault?_eq_none]
  rfl

/-- What is expanded is expandable, and each row is expanded by itself. -/
theorem expandable_of_expand {mapping : ValueMapping} {expansions : List Expansion}
    (h : (scenario.expand mapping).value = .ok expansions) :
    scenario.Expandable ∧ expansions = scenario.examples.zipIdx.map fun (row, index) =>
      scenario.expandRow mapping row index := by
  cases hfault : scenario.outlineFault? with
  | some fault =>
    rw [expand_of_fault hfault] at h
    cases h
  | none =>
    have hexpandable := outlineFault?_eq_none_iff.1 hfault
    rw [expand_of_expandable hexpandable] at h
    exact ⟨hexpandable, (Except.ok.inj h).symm⟩

/-- What expansion refuses a scenario for is its first fault. -/
theorem expand_eq_error_iff {mapping : ValueMapping} {fault : OutlineFault} :
    (scenario.expand mapping).value = .error fault ↔ scenario.FirstFault fault := by
  constructor
  · intro h
    cases hfault : scenario.outlineFault? with
    | some first =>
      rw [expand_of_fault hfault] at h
      obtain rfl := Except.error.inj h
      exact outlineFault?_eq_some_iff.1 hfault
    | none =>
      rw [expand_of_expandable (outlineFault?_eq_none_iff.1 hfault)] at h
      cases h
  · intro h
    exact expand_of_fault (outlineFault?_eq_some_iff.2 h) mapping

/-- A scenario is expanded just in case it is an outline with rows under an examples keyword, its
    slots are its columns, and each row has a cell for each column. Else it is refused for the
    first of these that does not hold. -/
theorem expand_value_iff (scenario : Scenario) (mapping : ValueMapping) :
    ((∃ expansions, (scenario.expand mapping).value = .ok expansions) ↔ scenario.Expandable) ∧
      ∀ fault, (scenario.expand mapping).value = .error fault ↔ scenario.FirstFault fault := by
  constructor
  · constructor
    · rintro ⟨expansions, h⟩
      exact (expandable_of_expand h).1
    · intro h
      exact ⟨_, expand_of_expandable h mapping⟩
  · exact fun _ => expand_eq_error_iff

end Scenario

end Gherkin
