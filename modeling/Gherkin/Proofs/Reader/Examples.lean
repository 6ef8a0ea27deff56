/-
  Gherkin.Proofs.Reader.Examples

  The examples of a scenario are the rows of its tables. The tables of a document
  are told from its lines alone: an examples keyword opens one, and so does a row
  where none is open. A table belongs to the latest block before it; its first
  row names the columns and every later one is an example.
-/
import Gherkin.Proofs.Reader.Strictness
import Gherkin.Proofs.Reader.Tagging

namespace Gherkin

open LineEntry (latest? opensBlock opensEntity)

/-! ## Tables -/

/-- The example that a row gives under the names of the columns: the value in a column is the cell
    there, if the row has one, and cells behind the last column are dropped. -/
def exampleRow (tags : TagSet) (columns : List String) (row : Nat × List String) : ExampleRow :=
  { values := columns.mapIdx fun k column => (column, row.2[k]?), tags, line := row.1 }

/-- A table of examples as it stands in the lines of a document. -/
structure ExampleTable where
  /-- The line of the block that the table stands in. -/
  outline : Option Nat
  tags : TagSet
  /-- The rows with their lines, that with the names of the columns included. -/
  rows : List (Nat × List String)

namespace ExampleTable

/-- The cells of the first row. -/
def columns? (table : ExampleTable) : Option (List String) := table.rows.head?.map (·.2)

/-- One example for each row but the first. -/
def examples (table : ExampleTable) : List ExampleRow :=
  match table.rows with
  | [] => []
  | (_, columns) :: rows => rows.map (exampleRow table.tags columns)

/-- The table with one more row. -/
def addRow (line : Nat) (cells : List String) (table : ExampleTable) : ExampleTable :=
  { table with rows := table.rows ++ [(line, cells)] }

variable {table : ExampleTable}

theorem columns?_addRow (line : Nat) (cells : List String) (table : ExampleTable) :
    (table.addRow line cells).columns? = some (table.columns?.getD cells) := by
  unfold columns? addRow
  cases table.rows <;> rfl

/-- The first row is no example. -/
theorem examples_addRow_of_none (h : table.columns? = none) (line : Nat) (cells : List String) :
    (table.addRow line cells).examples = table.examples := by
  obtain ⟨outline, tags, rows⟩ := table
  cases rows with
  | nil => rfl
  | cons first rows => cases h

theorem examples_addRow_of_some {columns : List String} (h : table.columns? = some columns)
    (line : Nat) (cells : List String) :
    (table.addRow line cells).examples =
      table.examples ++ [exampleRow table.tags columns (line, cells)] := by
  obtain ⟨outline, tags, rows⟩ := table
  cases rows with
  | nil => cases h
  | cons first rows =>
    obtain rfl := Option.some.inj h
    simp [examples, addRow]

end ExampleTable

/-- A reader goes through the columns and the cells side by side. -/
theorem ExamplesBlock.values_eq_mapIdx (columns cells : List String) :
    values columns cells = columns.mapIdx fun k column => (column, cells[k]?) := by
  induction columns generalizing cells with
  | nil => rfl
  | cons column columns ih => cases cells <;> simp [values, ih]

/-! ## The tables in lines -/

/-- What a line makes of the tables before it, of which the latest comes first. A table under an
    examples keyword has the tags that wait there; one that a row opens has none. -/
def LineEntry.tables (before : List LineEntry) (entry : LineEntry) (tables : List ExampleTable) :
    List ExampleTable :=
  match entry.form with
  | some (.header header) =>
    if header.kind = .Examples then
      ⟨latest? opensBlock before, waitingTags before, []⟩ :: tables
    else tables
  | some (.row cells) =>
    match OpenTable.ofSeen before with
    | .closed => ⟨latest? opensBlock before, {}, [(entry.number, cells)]⟩ :: tables
    | .examples _ _ _ => tables.modifyHead (·.addRow entry.number cells)
    | .data => tables
  | _ => tables

/-- The tables in the lines seen, the latest one first. -/
def exampleTables : List LineEntry → List ExampleTable
  | [] => []
  | entry :: before => entry.tables before (exampleTables before)

/-- The examples in those tables that stand in the block on a line, the latest table last. -/
def examplesIn (tables : List ExampleTable) (line : Nat) : List ExampleRow :=
  (tables.reverse.filter (·.outline = some line)).flatMap (·.examples)

/-- The examples of the block on a line, in the order of the lines. -/
def examplesOn (seen : List LineEntry) (line : Nat) : List ExampleRow :=
  examplesIn (exampleTables seen) line

/-- The example that a line adds to the block on a line, given the lines before it. -/
def LineEntry.addedExamples (before : List LineEntry) (entry : LineEntry) (line : Nat) :
    List ExampleRow :=
  match entry.form with
  | some (.row cells) =>
    match OpenTable.ofSeen before with
    | .examples explicit (some columns) _ =>
      if latest? opensBlock before = some line then
        [exampleRow (if explicit then takenTags before else {}) columns (entry.number, cells)]
      else []
    | _ => []
  | _ => []

/-- The table is the one that is open after the lines seen. -/
structure ExampleTable.IsOpen (table : ExampleTable) (seen : List LineEntry) (explicit : Bool)
    (columns? : Option (List String)) : Prop where
  columns : table.columns? = columns?
  tags : table.tags = if explicit then takenTags seen else {}
  outline : table.outline = latest? opensBlock seen

section Lines

variable {entry : LineEntry} {seen : List LineEntry} {explicit filled : Bool}
  {columns? : Option (List String)} {table : ExampleTable} {n : Nat}

/-- A line that opens no block and takes no tags leaves an open table as it is. -/
theorem ExampleTable.IsOpen.cons (h : table.IsOpen seen explicit columns?)
    (hheader : entry.isHeader = false) : table.IsOpen (entry :: seen) explicit columns? := by
  have hblock : entry.opensBlock = false := by
    unfold LineEntry.isHeader at hheader
    unfold LineEntry.opensBlock
    split <;> simp_all
  have htaken : takenTags (entry :: seen) = takenTags seen := by
    rw [takenTags_cons]
    unfold LineEntry.isHeader at hheader
    unfold TagSet.takenBehind
    split <;> simp_all
  refine ⟨h.columns, ?_, ?_⟩
  · rw [htaken]
    exact h.tags
  · rw [LineEntry.latest?_cons_of_false hblock]
    exact h.outline

/-- If a table is open after the lines seen then it is the latest one in them. -/
theorem exists_exampleTables (hopen : OpenTable.ofSeen seen = .examples explicit columns? filled) :
    ∃ table tables, exampleTables seen = table :: tables ∧
      table.IsOpen seen explicit columns? := by
  induction seen generalizing explicit columns? filled with
  | nil => cases hopen
  | cons entry before ih =>
    have hafter : (OpenTable.ofSeen before).after entry.form =
        .examples explicit columns? filled := hopen
    rw [exampleTables]
    unfold LineEntry.tables
    cases hform : entry.form with
    | none => simp [hform, OpenTable.after] at hafter
    | some form =>
      rw [hform] at hafter
      cases form with
      | comment comment =>
        obtain ⟨table, tables, htables, htable⟩ := ih hafter
        exact ⟨table, tables, htables, htable.cons (by simp [LineEntry.isHeader, hform])⟩
      | header header =>
        by_cases hkind : header.kind = .Examples
        · simp only [OpenTable.after, if_pos hkind, OpenTable.examples.injEq] at hafter
          obtain ⟨rfl, rfl, -⟩ := hafter
          refine ⟨_, _, if_pos hkind, rfl, ?_, ?_⟩
          · rw [takenTags_cons, hform, TagSet.takenBehind, if_pos hkind]
            rfl
          · rw [LineEntry.latest?_cons_of_false (by simp [LineEntry.opensBlock, hform, hkind])]
        · simp [OpenTable.after, hkind] at hafter
      | row cells =>
        have hplain : entry.isHeader = false := by simp [LineEntry.isHeader, hform]
        cases hbefore : OpenTable.ofSeen before with
        | closed =>
          simp only [hbefore, OpenTable.after, OpenTable.addRow, OpenTable.examples.injEq] at hafter
          obtain ⟨rfl, rfl, -⟩ := hafter
          exact ⟨_, _, rfl, ExampleTable.IsOpen.cons ⟨rfl, rfl, rfl⟩ hplain⟩
        | data => simp [hbefore, OpenTable.after, OpenTable.addRow] at hafter
        | examples was names full =>
          -- the row gives the names unless they are there
          have hgrown : was = explicit ∧ some (names.getD cells) = columns? := by
            rw [hbefore, OpenTable.after] at hafter
            cases names with
            | none => cases hafter; exact ⟨rfl, rfl⟩
            | some names => cases hafter; exact ⟨rfl, rfl⟩
          obtain ⟨rfl, rfl⟩ := hgrown
          obtain ⟨table, tables, htables, htable⟩ := ih hbefore
          rw [htables]
          refine ⟨_, _, rfl, ExampleTable.IsOpen.cons ⟨?_, htable.tags, htable.outline⟩ hplain⟩
          rw [ExampleTable.columns?_addRow, htable.columns]
      | blank =>
        have hsame : OpenTable.ofSeen before = .examples explicit columns? filled := by
          simp only [OpenTable.after] at hafter
          unfold OpenTable.skipBlank at hafter
          split at hafter
          next hbefore => rw [hbefore, hafter]
          next => cases hafter
        obtain ⟨table, tables, htables, htable⟩ := ih hsame
        exact ⟨table, tables, htables, htable.cons (by simp [LineEntry.isHeader, hform])⟩
      | _ => simp [OpenTable.after] at hafter

theorem examplesIn_cons (table : ExampleTable) (tables : List ExampleTable) (line : Nat) :
    examplesIn (table :: tables) line =
      examplesIn tables line ++ if table.outline = some line then table.examples else [] := by
  rw [examplesIn, List.reverse_cons, List.filter_append, List.flatMap_append]
  by_cases hline : table.outline = some line <;> simp [examplesIn, hline]

/-- A table of which no row is an example makes no difference. -/
theorem examplesIn_cons_of_nil {table : ExampleTable} (h : table.examples = [])
    (tables : List ExampleTable) (line : Nat) :
    examplesIn (table :: tables) line = examplesIn tables line := by
  rw [examplesIn_cons, h, ite_self, List.append_nil]

/-- Each line adds its example behind those of the lines before it. -/
theorem examplesOn_cons (entry : LineEntry) (seen : List LineEntry) (line : Nat) :
    examplesOn (entry :: seen) line = examplesOn seen line ++ entry.addedExamples seen line := by
  have hnone : ∀ examples : List ExampleRow, examples = examples ++ [] := by simp
  rw [examplesOn, examplesOn, exampleTables, LineEntry.tables, LineEntry.addedExamples]
  cases hform : entry.form with
  | none => exact hnone _
  | some form =>
    cases form with
    | header header =>
      simp only [List.append_nil]
      split
      · exact examplesIn_cons_of_nil rfl _ line
      · rfl
    | row cells =>
      -- a row is an example of an open table that has its columns already
      cases hopen : OpenTable.ofSeen seen with
      | closed => exact (examplesIn_cons_of_nil rfl _ line).trans (hnone _)
      | data => exact hnone _
      | examples explicit columns? filled =>
        obtain ⟨table, tables, htables, htable⟩ := exists_exampleTables hopen
        have houtline : (table.addRow entry.number cells).outline = latest? opensBlock seen :=
          htable.outline
        simp only [htables, List.modifyHead_cons, examplesIn_cons, houtline, htable.outline]
        cases columns? with
        | none => rw [ExampleTable.examples_addRow_of_none htable.columns, List.append_nil]
        | some columns =>
          rw [ExampleTable.examples_addRow_of_some htable.columns, htable.tags]
          split <;> simp
    | _ => exact hnone _

theorem mem_of_latest? {kind : LineEntry → Bool} (h : latest? kind seen = some n) :
    ∃ entry ∈ seen, entry.number = n := by
  obtain ⟨entry, hfound, hnumber⟩ := Option.map_eq_some_iff.1 h
  exact ⟨entry, List.mem_of_find?_eq_some hfound, hnumber⟩

/-- A line that is still to come has no examples. -/
theorem examplesOn_of_fresh (hfresh : ∀ entry ∈ seen, entry.number ≠ n) :
    examplesOn seen n = [] := by
  induction seen with
  | nil => rfl
  | cons entry before ih =>
    rw [List.forall_mem_cons] at hfresh
    have hother : latest? opensBlock before ≠ some n := by
      intro hlatest
      obtain ⟨opener, hopener, hnumber⟩ := mem_of_latest? hlatest
      exact hfresh.2 opener hopener hnumber
    rw [examplesOn_cons, ih hfresh.2, LineEntry.addedExamples]
    simp only [if_neg hother, List.nil_append]
    split
    · split <;> rfl
    · rfl

/-! ## Outlines in lines -/

/-- The line makes an outline of the scenario on a line: it is the line of the scenario with an
    outline keyword, or an examples keyword with no other header between it and the scenario. -/
def LineEntry.MakesOutline (before : List LineEntry) (entry : LineEntry) (line : Nat) : Prop :=
  ∃ header, entry.form = some (.header header) ∧
    (header.kind = .ScenarioOutline ∧ entry.number = line ∨
      header.kind = .Examples ∧ latest? opensEntity before = some line)

/-- One of the lines has made an outline of the scenario on a line. -/
def HasOutline (seen : List LineEntry) (line : Nat) : Prop :=
  ∃ later entry before, seen = later ++ entry :: before ∧ entry.MakesOutline before line

theorem hasOutline_cons :
    HasOutline (entry :: seen) n ↔ entry.MakesOutline seen n ∨ HasOutline seen n :=
  exists_split_cons

/-- A line that is still to come is no outline. -/
theorem not_hasOutline_of_fresh (hfresh : ∀ entry ∈ seen, entry.number ≠ n) :
    ¬ HasOutline seen n := by
  rintro ⟨later, entry, before, rfl, header, -, ⟨-, hnumber⟩ | ⟨-, hlatest⟩⟩
  · exact hfresh entry (by simp) hnumber
  · obtain ⟨opener, hopener, hnumber⟩ := mem_of_latest? hlatest
    exact hfresh opener (by simp [hopener]) hnumber

end Lines

/-! ## Scenarios and lines -/

/-- The scenario has the examples of the tables on its line and is an outline if the lines make one
    of it. -/
structure Scenario.Told (seen : List LineEntry) (scenario : Scenario) : Prop where
  examples : scenario.examples = examplesOn seen scenario.line
  outline : scenario.isOutline = true ↔ HasOutline seen scenario.line

namespace Reader

variable {reader : Reader} {form? : Option LineForm} {parts : List Section}
  {old scenario : Scenario} {n : Nat}

/-- The example that a line adds to the open scenario, as the reader knows it. -/
def dueExamples (reader : Reader) : Option LineForm → List ExampleRow
  | some (.row cells) =>
    match reader.examples with
    | some { headers := some columns, tags, .. } => [exampleRow tags columns (reader.line, cells)]
    | _ => []
  | _ => []

/-- What an accepted line of a form has made of a scenario that was there before. -/
structure Grown (reader : Reader) (form? : Option LineForm) (old scenario : Scenario) : Prop where
  line : scenario.line = old.line
  examples : scenario.examples =
    old.examples ++ if reader.blockLine? = some old.line then reader.dueExamples form? else []
  outline : scenario.isOutline = true ↔ old.isOutline = true ∨
    (∃ header, form? = some (.header header) ∧ header.kind = .Examples) ∧
      reader.entityLine? = some old.line

/-- A line that adds no example and is no examples keyword leaves all scenarios as they are. -/
theorem grown_of_none (hdue : reader.dueExamples form? = [])
    (hkeyword : ∀ header, form? = some (.header header) → header.kind ≠ .Examples)
    (scenario : Scenario) : reader.Grown form? scenario scenario where
  line := rfl
  examples := by rw [hdue, ite_self, List.append_nil]
  outline := by
    refine ⟨.inl, fun h => h.resolve_right ?_⟩
    rintro ⟨⟨header, hform, hkind⟩, -⟩
    exact hkeyword header hform hkind

/-- A line leaves those scenarios as they are that are not open. -/
theorem grown_of_ne (hblock : reader.blockLine? ≠ some scenario.line)
    (hentity : reader.entityLine? ≠ some scenario.line) :
    reader.Grown form? scenario scenario where
  line := rfl
  examples := by rw [if_neg hblock, List.append_nil]
  outline := ⟨.inl, fun h => h.resolve_right fun hother => hentity hother.2⟩

/-- If the open scenario is an outline then so is the last one of the skeleton, which has the rows
    of an open table already. -/
theorem isOutline_last (houtline : reader.scenario?.any (·.isOutline) = true)
    {before : List Section} {part : Section} {scenarios : List Scenario}
    (hlast : reader.skeleton = before ++ [part])
    (hscenarios : part.scenarios = scenarios ++ [scenario]) : scenario.isOutline = true := by
  have hflushed : reader.flush.value.scenario?.any (·.isOutline) = true := by
    cases hexamples : reader.examples with
    | none =>
      rw [flush_of_none hexamples]
      exact houtline
    | some block =>
      rw [flush, hexamples]
      show (reader.modifyScenario _).scenario?.any (·.isOutline) = true
      rw [scenario?_modifyScenario]
      cases hscenario : reader.scenario? with
      | none => simp [hscenario] at houtline
      | some current => rfl
  obtain ⟨current, hcurrent, houtline⟩ := (Option.any_eq_true _ _).1 hflushed
  obtain ⟨others, last, rest, hskeleton, hrest, -⟩ :=
    exists_last (flush_examples reader) hcurrent
  rw [skeleton_flush, hlast] at hskeleton
  obtain ⟨-, rfl⟩ := List.append_singleton_inj.1 hskeleton
  rw [hscenarios] at hrest
  obtain ⟨-, rfl⟩ := List.append_singleton_inj.1 hrest
  exact houtline

/-- In a change of the outline of the open scenario all others stay what they are. -/
theorem Outlines.mem_scenarios {f : Outline → Outline} (h : reader.Outlines f parts)
    (hnodup : ((reader.skeleton.flatMap (·.scenarios)).map (·.line)).Nodup)
    (hmem : scenario ∈ parts.flatMap (·.scenarios)) :
    ∃ old ∈ reader.skeleton.flatMap (·.scenarios),
      (reader.blockLine? = some old.line ∧ scenario = old.modifyOutline f ∧
        (reader.scenario?.any (·.isOutline) = true → old.isOutline = true)) ∨
      (reader.blockLine? ≠ some old.line ∧ scenario = old) := by
  obtain ⟨before, part, scenarios, current, hlast, hscenarios, hline, rfl⟩ := h.last
  have hold : reader.skeleton.flatMap (·.scenarios) =
      (before.flatMap (·.scenarios) ++ scenarios) ++ [current] := by
    rw [hlast, List.flatMap_append, List.flatMap_singleton, hscenarios, List.append_assoc]
  rw [hold] at hnodup ⊢
  rw [List.flatMap_append, List.flatMap_singleton, ← List.append_assoc, List.mem_append,
    List.mem_singleton] at hmem
  rcases hmem with hother | rfl
  · refine ⟨scenario, List.mem_append_left _ hother, .inr ⟨?_, rfl⟩⟩
    -- no other scenario stands on the line of the open one
    rw [List.map_append, List.nodup_append] at hnodup
    have hne := hnodup.2.2 scenario.line (List.mem_map_of_mem hother) current.line (by simp)
    rw [hline]
    exact fun hsame => hne (Option.some.inj hsame).symm
  · exact ⟨current, by simp, .inl ⟨hline, rfl, fun hopen => isOutline_last hopen hlast hscenarios⟩⟩

theorem Outlines.entityLine?_eq {f : Outline → Outline} (h : reader.Outlines f parts) :
    reader.entityLine? = reader.blockLine? := by
  obtain ⟨-, -, -, scenario, -, -, hline, -⟩ := h.last
  obtain ⟨block, hblock, -⟩ := Option.map_eq_some_iff.1 hline
  exact entityLine?_of_place (place_of_block? hblock)

/-- A row adds its example to an outline that is open and leaves all else as it is. -/
theorem Outlines.grown_of_row {f : Outline → Outline} {cells : List String}
    (h : reader.Outlines f parts)
    (hnodup : ((reader.skeleton.flatMap (·.scenarios)).map (·.line)).Nodup)
    (houtline : reader.scenario?.any (·.isOutline) = true)
    (hf : ∀ outline, (f outline).examples =
      outline.examples ++ reader.dueExamples (some (.row cells)))
    (hmem : scenario ∈ parts.flatMap (·.scenarios)) :
    ∃ old ∈ reader.skeleton.flatMap (·.scenarios),
      reader.Grown (some (.row cells)) old scenario := by
  obtain ⟨old, hold, ⟨hblock, rfl, hopen⟩ | ⟨hblock, rfl⟩⟩ := h.mem_scenarios hnodup hmem
  · refine ⟨old, hold, rfl, ?_, ?_⟩
    · rw [if_pos hblock, old.examples_modifyOutline hf]
    · exact ⟨fun _ => .inl (hopen houtline), fun _ => rfl⟩
  · exact ⟨scenario, hold, grown_of_ne hblock (h.entityLine?_eq ▸ hblock)⟩

/-- An examples keyword makes an outline of the open scenario. -/
theorem Outlines.grown_of_examples {header : Header} (hkind : header.kind = .Examples)
    (h : reader.Outlines id parts)
    (hnodup : ((reader.skeleton.flatMap (·.scenarios)).map (·.line)).Nodup)
    (hmem : scenario ∈ parts.flatMap (·.scenarios)) :
    ∃ old ∈ reader.skeleton.flatMap (·.scenarios),
      reader.Grown (some (.header header)) old scenario := by
  obtain ⟨old, hold, ⟨hblock, rfl, -⟩ | ⟨hblock, rfl⟩⟩ := h.mem_scenarios hnodup hmem
  · refine ⟨old, hold, rfl, ?_, ?_⟩
    · have hnone : ∀ outline : Outline, (id outline).examples = outline.examples ++ [] := by simp
      rw [if_pos hblock]
      exact old.examples_modifyOutline hnone
    · exact ⟨fun _ => .inr ⟨⟨header, rfl, hkind⟩, h.entityLine?_eq.trans hblock⟩, fun _ => rfl⟩
  · exact ⟨scenario, hold, grown_of_ne hblock (h.entityLine?_eq ▸ hblock)⟩

/-- After an accepted line a scenario is the one that the line has opened, or it was there before
    and has grown. -/
theorem Turn.mem_scenarios (h : reader.Turn form? parts)
    (hnodup : ((reader.skeleton.flatMap (·.scenarios)).map (·.line)).Nodup)
    (hmem : scenario ∈ parts.flatMap (·.scenarios)) :
    (∃ header, form? = some (.header header) ∧ header.kind ≠ .Examples ∧
      scenario = Scenario.titled header reader.pendingTags reader.line) ∨
    ∃ old ∈ reader.skeleton.flatMap (·.scenarios), reader.Grown form? old scenario := by
  -- a scenario that was there before changes by an examples keyword or by a row of its table only
  cases h with
  | feature => simp [Section.titled] at hmem
  | rule hkind =>
    refine .inr ⟨scenario, by simpa [Section.titled] using hmem, grown_of_none rfl ?_ _⟩
    simp [hkind]
  | background hkind hlast =>
    refine .inr ⟨scenario, by simpa [hlast] using hmem, grown_of_none rfl ?_ _⟩
    simp [hkind]
  | @scenario header before part hkind hlast =>
    have hother : header.kind ≠ .Examples := by
      rcases hkind with hkind | hkind <;> simp [hkind]
    rw [List.flatMap_append, List.flatMap_singleton, Section.addScenario, ← List.append_assoc,
      List.mem_append, List.mem_singleton] at hmem
    rcases hmem with hold | rfl
    · refine .inr ⟨scenario, by simpa [hlast] using hold, grown_of_none rfl ?_ _⟩
      simpa using hother
    · exact .inl ⟨header, rfl, hother, rfl⟩
  | examples hkind houtlines => exact .inr (houtlines.grown_of_examples hkind hnodup hmem)
  | @bareRow cells _ htable houtlines houtline =>
    have hexamples : reader.examples = none := examples_of_openTable (by simp [htable])
    have hdue : reader.dueExamples (some (.row cells)) = [] := by simp [dueExamples, hexamples]
    exact .inr (houtlines.grown_of_row hnodup houtline (by simp [hdue]) hmem)
  | @valueRow cells columns block _ hblock hheaders houtlines houtline =>
    have hdue : reader.dueExamples (some (.row cells)) =
        [{ values := ExamplesBlock.values columns cells, tags := block.tags
           line := reader.line }] := by
      obtain ⟨headers, rows, explicit, tags, line⟩ := block
      obtain rfl : headers = some columns := hheaders
      simp [dueExamples, hblock, exampleRow, ExamplesBlock.values_eq_mapIdx]
    exact .inr (houtlines.grown_of_row hnodup houtline (by simp [hdue, addRows]) hmem)
  | still hheader hrow =>
    refine .inr ⟨scenario, hmem, grown_of_none ?_ ?_ _⟩
    case refine_2 => exact fun header hform => absurd hform (hheader header)
    -- a row that changes no section is data of a step, or gives its table the headers
    unfold dueExamples
    split
    next cells =>
      rcases hrow cells rfl with hdata | ⟨block, hblock, hheaders⟩
      · rw [examples_of_openTable (by simp [hdata])]
      · obtain ⟨headers, rows, explicit, tags, line⟩ := block
        obtain rfl : headers = none := hheaders
        rw [hblock]
    next => rfl

/-! ## Runs -/

variable {seen : List LineEntry} {entry : LineEntry}

/-- Scenarios stand on rising lines. -/
theorem Rising.scenario_lines {last : Nat} (h : reader.Rising last) :
    ((reader.skeleton.flatMap (·.scenarios)).map (·.line)).Nodup ∧
      ∀ scenario ∈ reader.skeleton.flatMap (·.scenarios), scenario.line ≤ last := by
  rw [scenarios_skeleton]
  constructor
  · rw [List.map_map]
    exact h.nodup_lines
  · intro scenario hmem
    obtain ⟨inner, hinner, rfl⟩ := List.mem_map.1 hmem
    obtain ⟨feature, hfeature, hin⟩ := List.mem_flatMap.1 hinner
    rw [Feature.allScenarios_eq_flatMap] at hin
    obtain ⟨part, hpart, hin⟩ := List.mem_flatMap.1 hin
    have hlines :=
      List.Subset.trans (Section.lines_subset_of_mem hin) (Feature.lines_subset_of_mem hpart)
    exact ((h feature (Option.mem_toList.1 hfeature)).counted _ (hlines List.mem_cons_self)).2

/-- What a reader adds for a line is what the line adds. -/
theorem dueExamples_eq (hsound : reader.Sound) (hbooked : reader.Booked seen)
    (htags : reader.TableTags (takenTags seen)) (hline : entry.number = reader.line)
    (htable : ∀ cells, entry.form = some (.row cells) → reader.openTable = OpenTable.ofSeen seen)
    (n : Nat) :
    (if reader.blockLine? = some n then reader.dueExamples entry.form else []) =
      entry.addedExamples seen n := by
  rw [LineEntry.addedExamples]
  cases hform : entry.form with
  | none => exact ite_self _
  | some form =>
    -- only a row adds examples, so only there the table has to be known
    cases form with
    | row cells =>
      rw [← htable cells hform, hline, dueExamples, openTable]
      cases hexamples : reader.examples with
      | none =>
        by_cases hstep : reader.previous = .step ∨ reader.previous = .dataTableRow <;>
          simp [hstep]
      | some block =>
        obtain ⟨scenario, hscenario, -⟩ := hsound.outlined (by simp [hexamples])
        have hblock : reader.blockLine? = latest? opensBlock seen :=
          hbooked.block (by simp [place_of_scenario? hscenario])
        obtain ⟨headers, rows, explicit, tags, line⟩ := block
        obtain rfl : tags = if explicit then takenTags seen else {} := htags _ hexamples
        rw [hblock]
        cases headers with
        | none => exact ite_self _
        | some columns => rfl
    | _ => exact ite_self _

/-- The scenarios of a reader are as the lines seen tell. -/
structure Exemplified (seen : List LineEntry) (reader : Reader) : Prop where
  tagged : reader.Tagged seen
  rising : reader.Rising reader.line
  counted : ∀ entry ∈ seen, entry.number ≤ reader.line
  told : ∀ scenario ∈ reader.skeleton.flatMap (·.scenarios), scenario.Told seen

theorem exemplified_start (language : Language) : ({ language } : Reader).Exemplified [] where
  tagged := tagged_start language
  rising := rising_start language
  counted := by simp
  told := by simp [skeleton, settled]

/-- A scenario that a line opens has no examples, and is an outline if its keyword says so. -/
theorem told_titled (entry : LineEntry) {header : Header}
    (hform : entry.form = some (.header header))
    (hkind : header.kind ≠ .Examples) (hfresh : ∀ before ∈ seen, before.number < entry.number)
    (tags : TagSet) : (Scenario.titled header tags entry.number).Told (entry :: seen) := by
  have hother : ∀ before ∈ seen, before.number ≠ entry.number :=
    fun before hbefore => Nat.ne_of_lt (hfresh before hbefore)
  constructor
  · show _ = examplesOn _ entry.number
    rw [Scenario.examples_titled, examplesOn_cons, examplesOn_of_fresh hother,
      LineEntry.addedExamples, hform]
    rfl
  · show _ ↔ HasOutline _ entry.number
    have hmakes : entry.MakesOutline seen entry.number ↔ header.kind = .ScenarioOutline := by
      simp [LineEntry.MakesOutline, hform, hkind]
    rw [Scenario.isOutline_titled, decide_eq_true_eq, hasOutline_cons, hmakes]
    exact ⟨.inl, fun h => h.resolve_right (not_hasOutline_of_fresh hother)⟩

/-- A scenario that was there before grows as the lines tell. -/
theorem Grown.told (h : reader.Grown entry.form old scenario) (hold : old.Told seen)
    (hadded : ∀ n, (if reader.blockLine? = some n then reader.dueExamples entry.form else []) =
      entry.addedExamples seen n)
    (hentity : reader.entityLine? = latest? opensEntity seen) (hlt : old.line < entry.number) :
    scenario.Told (entry :: seen) := by
  constructor
  · rw [h.examples, h.line, hold.examples, hadded, examplesOn_cons]
  · have hmakes : entry.MakesOutline seen old.line ↔
        (∃ header, entry.form = some (.header header) ∧ header.kind = .Examples) ∧
          reader.entityLine? = some old.line := by
      rw [hentity]
      constructor
      · rintro ⟨header, hform, ⟨-, hline⟩ | ⟨hkind, hlatest⟩⟩
        · exact absurd hline (Nat.ne_of_gt hlt)
        · exact ⟨⟨header, hform, hkind⟩, hlatest⟩
      · rintro ⟨⟨header, hform, hkind⟩, hlatest⟩
        exact ⟨header, hform, .inr ⟨hkind, hlatest⟩⟩
    rw [h.outline, h.line, hold.outline, hasOutline_cons, hmakes, or_comm]

theorem Exemplified.read (h : reader.Exemplified seen) (hkept : reader.Kept seen) {text : String}
    (haccept : (reader.read text).fault = none) :
    (reader.read text).reader.Exemplified (reader.scanner.entry text :: seen) where
  tagged := h.tagged.read hkept haccept
  rising := h.rising.read hkept.sound text
  counted := by
    rw [read_line, List.forall_mem_cons]
    exact ⟨Nat.le_refl _, fun entry hentry => Nat.le_succ_of_le (h.counted entry hentry)⟩
  told := by
    intro scenario hmem
    obtain ⟨hnodup, hlast⟩ := h.rising.scenario_lines
    rcases (turn_read hkept.sound haccept).mem_scenarios hnodup hmem with
      ⟨header, hform, hkind, rfl⟩ | ⟨old, hold, hgrown⟩
    · exact told_titled (reader.scanner.entry text) hform hkind
        (fun entry hentry => Nat.lt_succ_of_le (h.counted entry hentry)) reader.pendingTags
    · have hadded := @dueExamples_eq { reader with line := reader.line + 1 } seen
        (reader.scanner.entry text) (hkept.sound.withLine _) (hkept.booked.congr rfl rfl rfl)
        h.tagged.table rfl fun cells hform => hkept.table_of_form? hform
      exact hgrown.told (h.told old hold) hadded hkept.booked.entity
        (Nat.lt_succ_of_le (hlast old hold))

theorem Exemplified.readAll (h : reader.Exemplified seen) (hkept : reader.Kept seen)
    {lines : List String} (haccept : (reader.readAll lines).fault = none) :
    (reader.readAll lines).reader.Exemplified (reader.scanner.entries seen lines) :=
  hkept.induct (P := Exemplified) (fun hkept h hread => h.read hkept hread) h haccept

end Reader

/-! ## Documents -/

namespace ReadingMode

/-- In an accepted document the examples of a scenario are those of its tables in the order of the
    lines: one for each row but the first one of a table, which names the columns, with the tags of
    the table and the line of the row. A scenario is an outline if its own keyword says so or if an
    examples keyword came before the next header that opens something else. -/
theorem readLines_examples {mode : ReadingMode} {lines : List String}
    {feature : Option Feature} (h : (mode.readLines lines).value = .ok feature)
    {scenario : Scenario} (hmem : scenario ∈ scenariosOf feature) :
    scenario.examples = examplesOn (mode.scanner.entries [] lines) scenario.line ∧
      (scenario.isOutline = true ↔
        HasOutline (mode.scanner.entries [] lines) scenario.line) := by
  obtain ⟨haccept, rfl⟩ := accepted_of_readLines h
  have hstart : mode.reader.Exemplified [] := Reader.exemplified_start _
  obtain ⟨-, -, -, htold⟩ := hstart.readAll (Reader.kept_start _) haccept
  rw [Reader.scenarios_skeleton] at htold
  obtain ⟨hexamples, houtline⟩ := htold _ (List.mem_map_of_mem hmem)
  exact ⟨hexamples, houtline⟩

/-- A scenario that an examples keyword makes an outline. A column of its first table has the name
    of another one, a row is too short and one too long; a table without a keyword has no tags,
    and one without rows of values adds nothing. -/
theorem readLines_examples_ragged :
    ∃ feature scenario, (({} : ReadingMode).readLines
        ["Feature: f", "Scenario: s", "Given a", "@t", "Examples:", "| p | q | p |", "", "| 1 |",
          "# c", "| 2 | 3 | 4 | 5 |", "", "| r |", "| 6 |", "Examples:", "| p |"]).value =
        .ok feature ∧
      scenario ∈ scenariosOf feature ∧
      scenario.examples =
        [⟨[("p", some "1"), ("q", none), ("p", none)], ⟨["t"]⟩, 8⟩,
          ⟨[("p", some "2"), ("q", some "3"), ("p", some "4")], ⟨["t"]⟩, 10⟩,
          ⟨[("r", some "6")], {}, 13⟩] ∧
      HasOutline (({} : ReadingMode).scanner.entries []
        ["Feature: f", "Scenario: s", "Given a", "@t", "Examples:", "| p | q | p |", "", "| 1 |",
          "# c", "| 2 | 3 | 4 | 5 |", "", "| r |", "| 6 |", "Examples:", "| p |"])
        scenario.line := by
  have hvalue : (({} : ReadingMode).readLines
      ["Feature: f", "Scenario: s", "Given a", "@t", "Examples:", "| p | q | p |", "", "| 1 |",
        "# c", "| 2 | 3 | 4 | 5 |", "", "| r |", "| 6 |", "Examples:", "| p |"]).value.toOption.map
          (fun feature => (scenariosOf feature).map fun scenario =>
            (scenario.line, scenario.isOutline)) =
      some [(2, true)] := by
    decide +kernel
  obtain ⟨feature, hread, hscenarios⟩ := exists_ok_of_map_toOption hvalue
  obtain ⟨scenario, hone, hscenario⟩ := List.map_eq_singleton_iff.1 hscenarios
  obtain ⟨hline, houtlined⟩ := Prod.mk.inj hscenario
  have hmem : scenario ∈ scenariosOf feature := by simp [hone]
  obtain ⟨hexamples, houtline⟩ := readLines_examples hread hmem
  refine ⟨feature, scenario, hread, hmem, hexamples.trans ?_, houtline.1 houtlined⟩
  rw [hline]
  decide +kernel

end ReadingMode

end Gherkin
