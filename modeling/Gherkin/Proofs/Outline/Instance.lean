/-
  Gherkin.Proofs.Outline.Instance

  What an outline becomes for each of its rows: its steps with the slots filled
  from the row and all else as it was, the values of the row under its columns,
  and the tags of the outline with those of the row after them. The values a
  mapping gives to cells show nowhere else. A row whose cells hold no opening
  bracket leaves no slot.
-/
import Gherkin.Proofs.Outline.Fault
import Gherkin.Proofs.Tag.Set
import Mathlib.Data.List.Forall2

namespace Gherkin

/-! ## Rows -/

namespace ExampleRow

variable {row : ExampleRow} {column cell : String}

theorem mem_of_get?_eq_some (h : row.get? column = some cell) :
    (column, some cell) ∈ row.values := by
  obtain ⟨before, after, hvalues, -⟩ := get?_eq_some_iff.1 h
  rw [hvalues]
  exact List.mem_append_cons_self

/-- The first cell of a column is still the first when columns without a cell are left out. -/
theorem find?_filterMap_values (h : row.get? column = some cell) (f : String → Value) :
    (row.values.filterMap fun (name, found) => found.map fun raw => (name, f raw)).find?
        (·.1 = column) = some (column, f cell) := by
  obtain ⟨before, after, hvalues, hbefore⟩ := get?_eq_some_iff.1 h
  rw [List.find?_filterMap, List.find?_eq_some_iff_append.2 ⟨?_, before, after, hvalues, ?_⟩]
  · rfl
  · simp
  · rintro ⟨other, otherCell⟩ hother
    have hne := hbefore _ hother
    cases otherCell with
    | none => rfl
    | some raw => simpa using hne

/-- The text with its slots filled from the row, in one pass. -/
def Fills (row : ExampleRow) (text filled : String) : Prop :=
  Template.Filled row.get? text.toList filled.toList

theorem fills_fill {text : String}
    (h : ∀ name ∈ Template.slots text, (row.get? name).isSome = true) :
    row.Fills text (Template.fill row.get? text) :=
  (Template.filled_iff h).2 rfl

end ExampleRow

/-! ## Steps -/

namespace Step

/-- A fresh step that differs from an outline's only in that its texts are filled from a row. -/
structure InstanceOf (row : ExampleRow) (source step : Step) : Prop where
  keyword : step.keyword = source.keyword
  keywordText : step.keywordText = source.keywordText
  line : step.line = source.line
  notCalled : step.called = false
  details : row.Fills source.details step.details
  docString : Option.Rel
    (fun doc filled => filled.mediaType = doc.mediaType ∧ row.Fills doc.content filled.content)
    source.docString step.docString
  /-- The table has the same shape, and each cell is filled. -/
  dataTable : Option.Rel
    (fun table filled => List.Forall₂ (List.Forall₂ row.Fills) table.rows filled.rows)
    source.dataTable step.dataTable
  title : step.title = Scenario.stepTitle source row

variable {source : Step}

/-- Where each slot has a value in the row, filling the texts makes an instance. -/
theorem instanceOf_mapTexts {row : ExampleRow}
    (h : ∀ text, source.HasText text → ∀ name ∈ Template.slots text,
      (row.get? name).isSome = true) :
    InstanceOf row source (source.mapTexts (Template.fill row.get?)) where
  keyword := rfl
  keywordText := rfl
  line := rfl
  notCalled := rfl
  details := ExampleRow.fills_fill (h _ .details)
  docString := by
    cases hdoc : source.docString with
    | none =>
      rw [mapTexts, hdoc]
      exact .none
    | some doc =>
      rw [mapTexts, hdoc]
      exact .some ⟨rfl, ExampleRow.fills_fill (h _ (.content hdoc))⟩
  dataTable := by
    cases htable : source.dataTable with
    | none =>
      rw [mapTexts, htable]
      exact .none
    | some table =>
      rw [mapTexts, htable]
      refine .some (List.forall₂_map_right_iff.2 (List.forall₂_same.2 ?_))
      intro cells hcells
      refine List.forall₂_map_right_iff.2 (List.forall₂_same.2 ?_)
      intro cell hcell
      exact ExampleRow.fills_fill (h _ (.cell htable hcells hcell))
  title := rfl

end Step

/-! ## Expansions -/

namespace Expansion

/-- What an outline becomes for the row at an index. -/
structure InstanceOf (scenario : Scenario) (mapping : ValueMapping) (index : Nat)
    (row : ExampleRow) (expansion : Expansion) : Prop where
  place : expansion.row = index
  steps : List.Forall₂ (Step.InstanceOf row) scenario.steps expansion.steps
  /-- A column has the value that its cell stands for. -/
  values : ∀ column ∈ row.columns, ∃ cell, row.get? column = some cell ∧
    expansion.get? column = some (mapping.resolve cell)
  /-- The tags of the row that the outline does not have come after those of the outline. -/
  tags : (∀ tag ∈ row.tags.names, IsBareTag tag) → expansion.tags.names = scenario.tags.names ++
    (row.tags.names.filter fun tag => tag ≠ "" ∧ tag ∉ scenario.tags.names).eraseDups

/-- Two expansions that differ in nothing but the values of columns. -/
structure AlikeButValues (a b : Expansion) : Prop where
  row : a.row = b.row
  steps : a.steps = b.steps
  tags : a.tags = b.tags
  columns : a.values.map (·.1) = b.values.map (·.1)

end Expansion

namespace Scenario

variable {scenario : Scenario} {row : ExampleRow}

/-- In a scenario that can be expanded every row has a value for every slot. -/
theorem Expandable.isSome_get? (h : scenario.Expandable) (hrow : row ∈ scenario.examples)
    {step : Step} (hstep : step ∈ scenario.steps) {text : String} (htext : step.HasText text)
    {name : String} (hname : name ∈ Template.slots text) : (row.get? name).isSome = true := by
  have hslot : scenario.HasSlot name :=
    ⟨step, hstep, text, htext, Template.mem_slots_iff.1 hname⟩
  exact ExampleRow.isSome_get?_iff.2 (h.cells row hrow name ((h.slots name).1 hslot))

theorem get?_expandRow {mapping : ValueMapping} {index : Nat} {column cell : String}
    (h : row.get? column = some cell) :
    (scenario.expandRow mapping row index).get? column = some (mapping.resolve cell) := by
  rw [Expansion.get?, expandRow, ExampleRow.find?_filterMap_values h]
  rfl

theorem instanceOf_expandRow (h : scenario.Expandable) (hrow : row ∈ scenario.examples)
    (mapping : ValueMapping) (index : Nat) :
    (scenario.expandRow mapping row index).InstanceOf scenario mapping index row where
  place := rfl
  steps := by
    refine List.forall₂_map_right_iff.2 (List.forall₂_same.2 ?_)
    intro step hstep
    exact Step.instanceOf_mapTexts fun text htext name hname =>
      h.isSome_get? hrow hstep htext hname
  values := by
    intro column hcolumn
    obtain ⟨⟨_, found⟩, hentry, rfl⟩ := List.mem_map.1 hcolumn
    obtain ⟨cell, hcell⟩ := h.cells row hrow _ ⟨row, hrow, found, hentry⟩
    rw [← ExampleRow.get?_eq_some_iff] at hcell
    exact ⟨cell, hcell, get?_expandRow hcell⟩
  tags hbare := TagSet.names_extend_of_isBareTag scenario.tags hbare

theorem alikeButValues_expandRow (scenario : Scenario) (mapping other : ValueMapping)
    (row : ExampleRow) (index : Nat) :
    (scenario.expandRow mapping row index).AlikeButValues
      (scenario.expandRow other row index) where
  row := rfl
  steps := rfl
  tags := rfl
  columns := by
    simp only [expandRow, List.map_filterMap]
    apply congrArg (row.values.filterMap ·)
    funext ⟨column, cell⟩
    cases cell <;> rfl

variable {mapping : ValueMapping} {expansions : List Expansion}

theorem getElem?_expand (h : (scenario.expand mapping).value = .ok expansions) {index : Nat}
    (hrow : scenario.examples[index]? = some row) :
    expansions[index]? = some (scenario.expandRow mapping row index) := by
  obtain ⟨-, rfl⟩ := expandable_of_expand h
  rw [List.getElem?_map, List.getElem?_zipIdx, hrow, Option.map_some, Option.map_some,
    Nat.zero_add]

/-! ## Outlines -/

/-- What an outline becomes with a mapping, row by row. -/
structure Instances (scenario : Scenario) (mapping : ValueMapping)
    (expansions : List Expansion) : Prop where
  length : expansions.length = scenario.examples.length
  /-- Each row has its instance in its place. -/
  rows : ∀ index row, scenario.examples[index]? = some row → ∃ expansion : Expansion,
    expansions[index]? = some expansion ∧ expansion.InstanceOf scenario mapping index row
  /-- Another mapping changes nothing but the values of columns. -/
  mappings : ∀ other, ∃ others, (scenario.expand other).value = .ok others ∧
    List.Forall₂ Expansion.AlikeButValues expansions others

/-- An outline that can be expanded becomes an instance for each row, filled from that row. -/
theorem expand_instances (h : (scenario.expand mapping).value = .ok expansions) :
    scenario.Instances mapping expansions := by
  obtain ⟨hexpandable, hexpansions⟩ := expandable_of_expand h
  constructor
  · rw [hexpansions, List.length_map, List.length_zipIdx]
  · intro index row hrow
    exact ⟨_, getElem?_expand h hrow,
      instanceOf_expandRow hexpandable (List.mem_of_getElem? hrow) mapping index⟩
  · intro other
    refine ⟨_, expand_of_expandable hexpandable other, ?_⟩
    rw [hexpansions, List.forall₂_map_left_iff, List.forall₂_map_right_iff, List.forall₂_same]
    rintro ⟨row, index⟩ -
    exact alikeButValues_expandRow scenario mapping other row index

/-- An outline with slots in every kind of text. Its row has a column twice, a column with a
    bracket in its name, a cell that looks like a slot, and a tag that the outline has too. -/
def letters : Scenario where
  name := "letters"
  keyword := "Scenario Outline"
  steps := [{ Step.ofKeyword .Given "<to> <> <<n>" with
    docString := some { content := "Dear <to>,\n<n>", mediaType := some "text" }
    dataTable := some { rows := [["<n>"], ["<to>", "n"]] } }]
  tags := { names := ["web"] }
  outline := some { examples := [{
    values := [("to", some "<n>"), ("<n", some "2"), ("n", some "3"), ("to", none)]
    tags := { names := ["slow", "web"] } }] }

theorem expand_instances_letters :
    ∃ expansions, (letters.expand {}).value = .ok expansions ∧
      (expansions.map fun expansion =>
        (expansion.steps.map Step.texts, expansion.tags.names)) =
          [([["<n> <> 2", "Dear <n>,\n3", "3", "<n>", "n"]], ["web", "slow"])] ∧
      letters.Instances {} expansions := by
  have hvalue : (letters.expand {}).value.toOption.map
      (fun expansions => expansions.map fun expansion =>
        (expansion.steps.map Step.texts, expansion.tags.names)) =
      some [([["<n> <> 2", "Dear <n>,\n3", "3", "<n>", "n"]], ["web", "slow"])] := by
    decide +kernel
  obtain ⟨expansions, hexpand, htexts⟩ := exists_ok_of_map_toOption hvalue
  exact ⟨expansions, hexpand, htexts, expand_instances hexpand⟩

/-- An outline with a row that has one tag, the empty one. -/
def emptyTag : Scenario where
  name := "empty tag"
  keyword := "Scenario Outline"
  steps := [Step.ofKeyword .Given "<a>"]
  tags := { names := ["web"] }
  outline := some { examples := [{ values := [("a", some "1")], tags := { names := [""] } }] }

/-- An empty tag of a row is new to the outline and is not added to it. -/
theorem names_expand_emptyTag :
    ∃ expansions expansion row, (emptyTag.expand {}).value = .ok expansions ∧
      expansions[0]? = some expansion ∧ emptyTag.examples[0]? = some row ∧
      (∀ tag ∈ emptyTag.tags.names ++ row.tags.names, IsBareTag tag) ∧
      expansion.tags.names ≠ emptyTag.tags.names ++
        (row.tags.names.filter fun tag => tag ∉ emptyTag.tags.names).eraseDups := by
  have hvalue : (emptyTag.expand {}).value.toOption.map
      (fun expansions => expansions.map fun expansion => expansion.tags.names) =
      some [["web"]] := by
    decide +kernel
  obtain ⟨expansions, hexpand, hnames⟩ := exists_ok_of_map_toOption hvalue
  obtain ⟨expansion, rfl, hexpansion⟩ := List.map_eq_singleton_iff.1 hnames
  refine ⟨_, expansion, _, hexpand, rfl, rfl, ?_, ?_⟩
  · intro tag htag
    have hcases : tag = "web" ∨ tag = "" := by simpa [emptyTag] using htag
    rcases hcases with rfl | rfl
    · decide
    · decide
  · rw [hexpansion]
    decide

/-- The steps for a row without opening brackets in its cells have no slots: not in their details,
    not in their doc-strings, and not in the cells of their tables. -/
theorem slotless_expand (h : (scenario.expand mapping).value = .ok expansions) {index : Nat}
    (hrow : scenario.examples[index]? = some row)
    (hcells : ∀ column cell, (column, some cell) ∈ row.values → '<' ∉ cell.toList) :
    ∃ expansion, expansions[index]? = some expansion ∧ ∀ step ∈ expansion.steps,
      ∀ text, step.HasText text → Template.slots text = [] ∧ Template.Slotless text.toList := by
  refine ⟨_, getElem?_expand h hrow, ?_⟩
  intro step hstep text htext
  obtain ⟨source, hsource, rfl⟩ := List.mem_map.1 hstep
  rw [← Step.mem_texts, Step.texts_mapTexts] at htext
  obtain ⟨sourceText, hsourceText, rfl⟩ := List.mem_map.1 htext
  rw [Step.mem_texts] at hsourceText
  have hfills : row.Fills sourceText (Template.fill row.get? sourceText) :=
    ExampleRow.fills_fill fun name hname =>
      (expandable_of_expand h).1.isSome_get? (List.mem_of_getElem? hrow) hsource hsourceText hname
  have hslotless := hfills.slotless fun name cell hcell =>
    hcells name cell (ExampleRow.mem_of_get?_eq_some hcell)
  exact ⟨Template.slots_eq_nil_iff.2 hslotless, hslotless⟩

/-- An outline with brackets that are no slots in every kind of text, and a row whose cells are a
    closing bracket and nothing. -/
def brackets : Scenario where
  name := "brackets"
  keyword := "Scenario Outline"
  steps := [{ Step.ofKeyword .Given "< <close>x> <> <<none>><" with
      docString := some { content := "<\n<close>", mediaType := some "<none>" }
      dataTable := some { rows := [["<<none>", "<none>>"], [" < <close>"]] } },
    Step.ofKeyword .Then "<none> <x"]
  outline := some { examples := [{
    values := [("close", some ">"), ("<none", some ""), ("none", some "")] }] }

theorem slotless_expand_brackets :
    ∃ expansions, (brackets.expand {}).value = .ok expansions ∧
      (expansions.flatMap fun expansion => expansion.steps.map fun step =>
        (step.details, step.docString.map (·.content), step.dataTable.map (·.rows))) =
        [("< >x> <> ><", some "<\n>", some [["", ">"], [" < >"]]), (" <x", none, none)] ∧
      ∃ expansion, expansions[0]? = some expansion ∧ ∀ step ∈ expansion.steps,
        ∀ text, step.HasText text → Template.slots text = [] ∧ Template.Slotless text.toList := by
  have hvalue : (brackets.expand {}).value.toOption.map
      (fun expansions => expansions.flatMap fun expansion => expansion.steps.map fun step =>
        (step.details, step.docString.map (·.content), step.dataTable.map (·.rows))) =
      some [("< >x> <> ><", some "<\n>", some [["", ">"], [" < >"]]), (" <x", none, none)] := by
    decide +kernel
  obtain ⟨expansions, hexpand, hfields⟩ := exists_ok_of_map_toOption hvalue
  refine ⟨expansions, hexpand, hfields, slotless_expand hexpand rfl ?_⟩
  intro column cell hcell
  have hcases : cell = ">" ∨ cell = "" := by
    simp only [List.mem_cons, List.not_mem_nil, Prod.mk.injEq, Option.some.injEq] at hcell
    grind
  rcases hcases with rfl | rfl
  · decide
  · decide

end Scenario

end Gherkin
