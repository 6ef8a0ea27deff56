/-
  Gherkin.Proofs.Outline.Name

  The names in an outline. A name has a slot in a step if it has one in the
  details, in the content of the doc-string or in a cell of the table, and it has
  a column if some row has an entry for it. What comes first among the slots and
  among the columns is told by where it stands in these fields.
-/
import Gherkin.Outline.Expansion
import Gherkin.Proofs.Outline.Slot

namespace Gherkin

/-! ## What is found first -/

section Search

variable {α β : Type} {xs : List α}

/-- What is found first stands behind what is passed over. -/
theorem find?_eq_some_iff_split {p : α → Bool} {x : α} :
    xs.find? p = some x ↔ ∃ before after, xs = before ++ x :: after ∧
      (∀ other ∈ before, p other = false) ∧ p x = true := by
  rw [List.find?_eq_some_iff_append]
  constructor
  · rintro ⟨hx, before, after, hsplit, hbefore⟩
    exact ⟨before, after, hsplit, fun other hother => by simpa using hbefore other hother, hx⟩
  · rintro ⟨before, after, hsplit, hbefore, hx⟩
    exact ⟨hx, before, after, hsplit, fun other hother => by simpa using hbefore other hother⟩

/-- What is found first in lists, one after the other, is found first in the first of them that has
    such an element. -/
theorem find?_flatMap_eq_some_iff {f : α → List β} {p : β → Bool} {b : β} :
    (xs.flatMap f).find? p = some b ↔
      ∃ x, xs.find? (fun x => (f x).any p) = some x ∧ (f x).find? p = some b := by
  have hany : ∀ x, (f x).any p = false ↔ (f x).find? p = none := by
    intro x
    simp
  rw [List.find?_flatMap, List.findSome?_eq_some_iff]
  constructor
  · rintro ⟨before, x, after, hsplit, hx, hbefore⟩
    refine ⟨x, find?_eq_some_iff_split.2 ⟨before, after, hsplit, ?_, ?_⟩, hx⟩
    · exact fun other hother => (hany other).2 (hbefore other hother)
    · rw [← Bool.not_eq_false, hany, hx]
      exact Option.some_ne_none b
  · rintro ⟨x, hfind, hx⟩
    obtain ⟨before, after, hsplit, hbefore, -⟩ := find?_eq_some_iff_split.1 hfind
    exact ⟨before, x, after, hsplit, hx, fun other hother => (hany other).1 (hbefore other hother)⟩

end Search

/-! ## Texts of a step -/

namespace Step

/-- A text of a step that slots are looked for in: the details, the content of the doc-string or a
    cell of the table. -/
inductive HasText (step : Step) : String → Prop
  | details : HasText step step.details
  | content {doc : DocString} (h : step.docString = some doc) : HasText step doc.content
  | cell {table : DataTable} {cells : List String} {cell : String}
      (h : step.dataTable = some table) (hcells : cells ∈ table.rows) (hcell : cell ∈ cells) :
      HasText step cell

/-- The first text of a step with some property. The details come first, the doc-string comes
    second and the table last, row by row. -/
inductive FirstText (step : Step) (p : String → Prop) : String → Prop
  | details (h : p step.details) : FirstText step p step.details
  | content {doc : DocString} (hdetails : ¬ p step.details) (hdoc : step.docString = some doc)
      (h : p doc.content) : FirstText step p doc.content
  | cell {table : DataTable} {rowsBefore rowsAfter : List (List String)}
      {before after : List String} {cell : String} (hdetails : ¬ p step.details)
      (hcontent : ∀ doc, step.docString = some doc → ¬ p doc.content)
      (htable : step.dataTable = some table)
      (hrows : table.rows = rowsBefore ++ (before ++ cell :: after) :: rowsAfter)
      (hrowsBefore : ∀ cells ∈ rowsBefore, ∀ other ∈ cells, ¬ p other)
      (hbefore : ∀ other ∈ before, ¬ p other) (h : p cell) : FirstText step p cell

variable {step : Step} {text : String}

theorem mem_texts : text ∈ step.texts ↔ step.HasText text := by
  rw [texts, List.mem_cons, List.mem_append, Option.mem_toList, List.mem_flatten]
  constructor
  · rintro (rfl | hcontent | ⟨cells, hcells, hcell⟩)
    · exact .details
    · obtain ⟨doc, hdoc, rfl⟩ := Option.map_eq_some_iff.1 hcontent
      exact .content hdoc
    · cases htable : step.dataTable with
      | none => simp [htable] at hcells
      | some table =>
        refine .cell htable ?_ hcell
        simpa [htable] using hcells
  · rintro (_ | hdoc | ⟨htable, hcells, hcell⟩)
    · exact .inl rfl
    · exact .inr (.inl (by rw [hdoc]; rfl))
    · exact .inr (.inr ⟨_, by rwa [htable], hcell⟩)

theorem find?_texts_eq_some_iff {p : String → Bool} :
    step.texts.find? p = some text ↔ step.FirstText (p · = true) text := by
  have hnot : ∀ other, (!p other) = true ↔ ¬ p other = true := by simp
  -- the cases are the three fields in their order: a later one counts if the earlier ones fail
  constructor
  · intro h
    by_cases hdetails : p step.details = true
    · rw [texts, List.find?_cons_of_pos hdetails] at h
      obtain rfl := Option.some.inj h
      exact .details hdetails
    · rw [texts, List.find?_cons_of_neg hdetails, List.find?_append, Option.or_eq_some_iff] at h
      rcases h with hfound | ⟨hnone, hfound⟩
      · have hmem := List.mem_of_find?_eq_some hfound
        obtain ⟨doc, hdoc, rfl⟩ := Option.map_eq_some_iff.1 (Option.mem_toList.1 hmem)
        exact .content hdetails hdoc (List.find?_some hfound)
      · have hcontent : ∀ doc, step.docString = some doc → ¬ p doc.content = true := by
          intro doc hdoc
          exact List.find?_eq_none.1 hnone _ (by simp [hdoc])
        cases htable : step.dataTable with
        | none => simp [htable] at hfound
        | some table =>
          simp only [htable, Option.map_some, Option.getD_some, List.find?_flatten_eq_some_iff,
            hnot] at hfound
          obtain ⟨htext, rowsBefore, before, after, rowsAfter, hrows, hrowsBefore, hbefore⟩ :=
            hfound
          exact .cell hdetails hcontent htable hrows hrowsBefore hbefore htext
  · rintro (hdetails | ⟨hdetails, hdoc, h⟩ |
      ⟨hdetails, hcontent, htable, hrows, hrowsBefore, hbefore, h⟩)
    · rw [texts, List.find?_cons_of_pos hdetails]
    · rw [texts, List.find?_cons_of_neg hdetails, List.find?_append, hdoc]
      simp [h]
    · have hnone : (step.docString.map (·.content)).toList.find? p = none := by
        rw [List.find?_eq_none]
        intro content hmem
        obtain ⟨doc, hdoc, rfl⟩ := Option.map_eq_some_iff.1 (Option.mem_toList.1 hmem)
        exact hcontent doc hdoc
      rw [texts, List.find?_cons_of_neg hdetails, List.find?_append, hnone, Option.none_or, htable]
      simp only [Option.map_some, Option.getD_some, List.find?_flatten_eq_some_iff, hnot]
      exact ⟨h, _, _, _, _, hrows, hrowsBefore, hbefore⟩

end Step

/-! ## Cells of a row -/

namespace ExampleRow

/-- The cell that a row has for a column; the first entry of the column counts. -/
def HasCell (row : ExampleRow) (column cell : String) : Prop :=
  ∃ before after, row.values = before ++ (column, some cell) :: after ∧
    ∀ entry ∈ before, entry.1 ≠ column

theorem get?_eq_some_iff {row : ExampleRow} {column cell : String} :
    row.get? column = some cell ↔ row.HasCell column cell := by
  rw [get?, Option.bind_eq_some_iff]
  constructor
  · rintro ⟨⟨name, found⟩, hfind, hcell⟩
    obtain rfl : found = some cell := hcell
    obtain ⟨before, after, hvalues, hbefore, hname⟩ := find?_eq_some_iff_split.1 hfind
    obtain rfl : name = column := of_decide_eq_true hname
    exact ⟨before, after, hvalues, fun entry hentry => of_decide_eq_false (hbefore entry hentry)⟩
  · rintro ⟨before, after, hvalues, hbefore⟩
    refine ⟨(column, some cell), find?_eq_some_iff_split.2 ⟨before, after, hvalues, ?_, ?_⟩, rfl⟩
    · exact fun entry hentry => decide_eq_false (hbefore entry hentry)
    · exact decide_eq_true rfl

theorem isSome_get?_iff {row : ExampleRow} {column : String} :
    (row.get? column).isSome = true ↔ ∃ cell, row.HasCell column cell := by
  simp only [Option.isSome_iff_exists, get?_eq_some_iff]

end ExampleRow

/-! ## Columns -/

/-- Columns are kept at their first appearance, so what is found first among them is what is
    found first among all. -/
theorem find?_foldl_columns (p : String → Bool) (columns seen : List String) :
    (columns.foldl
      (fun columns column => if columns.contains column then columns else columns ++ [column])
      seen).find? p = (seen ++ columns).find? p := by
  induction columns generalizing seen with
  | nil => simp
  | cons first columns ih =>
    rw [List.foldl_cons, ih]
    by_cases hfirst : seen.contains first = true
    · rw [if_pos hfirst, List.find?_append, List.find?_append]
      cases hseen : seen.find? p with
      | some column => rfl
      | none =>
        have hmem : first ∈ seen := by simpa using hfirst
        rw [List.find?_cons_of_neg (List.find?_eq_none.1 hseen first hmem)]
    · rw [if_neg hfirst, List.append_assoc, List.singleton_append]

theorem find?_exampleColumns (p : String → Bool) (rows : List ExampleRow) :
    (exampleColumns rows).find? p = (rows.flatMap ExampleRow.columns).find? p := by
  rw [exampleColumns, find?_foldl_columns, List.nil_append]

namespace Scenario

/-- A name that some row has a column for. -/
def HasColumn (scenario : Scenario) (name : String) : Prop :=
  ∃ row ∈ scenario.examples, ∃ cell, (name, cell) ∈ row.values

/-- A name that some text of some step has a slot for. -/
def HasSlot (scenario : Scenario) (name : String) : Prop :=
  ∃ step ∈ scenario.steps, ∃ text, step.HasText text ∧ Template.HasSlot text name

/-- A text with a column for each of its slots. -/
def Declares (scenario : Scenario) (text : String) : Prop :=
  ∀ name, Template.HasSlot text name → scenario.HasColumn name

/-- The first column with some property, in the order of appearance: row by row, and from left to
    right in a row. -/
inductive FirstColumn (scenario : Scenario) (p : String → Prop) (column : String) : Prop
  | mk {rowsBefore rowsAfter : List ExampleRow} {row : ExampleRow}
      {before after : List (String × Option String)} {cell : Option String}
      (hrows : scenario.examples = rowsBefore ++ row :: rowsAfter)
      (hrowsBefore : ∀ other ∈ rowsBefore, ∀ entry ∈ other.values, ¬ p entry.1)
      (hvalues : row.values = before ++ (column, cell) :: after)
      (hbefore : ∀ entry ∈ before, ¬ p entry.1) (h : p column) : FirstColumn scenario p column

variable {scenario : Scenario}

theorem mem_slots {name : String} : name ∈ scenario.slots ↔ scenario.HasSlot name := by
  simp only [slots, List.mem_flatMap, HasSlot, Step.mem_texts, Template.mem_slots_iff]
  constructor
  · rintro ⟨text, ⟨step, hstep, htext⟩, hname⟩
    exact ⟨step, hstep, text, htext, hname⟩
  · rintro ⟨step, hstep, text, htext, hname⟩
    exact ⟨text, ⟨step, hstep, htext⟩, hname⟩

theorem find?_exampleColumns_eq_some_iff {p : String → Bool} {column : String} :
    (exampleColumns scenario.examples).find? p = some column ↔
      scenario.FirstColumn (p · = true) column := by
  have hcolumns : scenario.examples.flatMap ExampleRow.columns =
      scenario.examples.flatMap fun row => row.values.map (·.1) := rfl
  -- each column is kept once, but what is found first does not depend on that
  rw [find?_exampleColumns, hcolumns, find?_flatMap_eq_some_iff]
  constructor
  · rintro ⟨row, hrow, hfind⟩
    obtain ⟨rowsBefore, rowsAfter, hrows, hrowsBefore, -⟩ := find?_eq_some_iff_split.1 hrow
    rw [List.find?_map] at hfind
    obtain ⟨⟨_, cell⟩, hentry, rfl⟩ := Option.map_eq_some_iff.1 hfind
    obtain ⟨before, after, hvalues, hbefore, hp⟩ := find?_eq_some_iff_split.1 hentry
    refine .mk hrows ?_ hvalues ?_ hp
    · intro other hother entry hentry
      have hnone := List.any_eq_false.1 (hrowsBefore other hother)
      exact hnone _ (List.mem_map_of_mem hentry)
    · exact fun entry hentry => Bool.eq_false_iff.1 (hbefore entry hentry)
  · rintro ⟨hrows, hrowsBefore, hvalues, hbefore, hp⟩
    refine ⟨_, find?_eq_some_iff_split.2 ⟨_, _, hrows, ?_, ?_⟩, ?_⟩
    · intro other hother
      rw [List.any_map, List.any_eq_false]
      exact hrowsBefore other hother
    · rw [hvalues]
      simp [hp]
    · rw [List.find?_map, Option.map_eq_some_iff]
      refine ⟨_, find?_eq_some_iff_split.2 ⟨_, _, hvalues, ?_, hp⟩, rfl⟩
      exact fun entry hentry => Bool.eq_false_iff.2 (hbefore entry hentry)

theorem mem_exampleColumns {name : String} :
    name ∈ exampleColumns scenario.examples ↔ scenario.HasColumn name := by
  have hfind : ∀ columns : List String,
      name ∈ columns ↔ (columns.find? (· == name)).isSome = true := by
    intro columns
    simp [List.find?_isSome]
  rw [hfind, find?_exampleColumns, ← hfind, List.mem_flatMap]
  simp [HasColumn, ExampleRow.columns]

end Scenario

end Gherkin
