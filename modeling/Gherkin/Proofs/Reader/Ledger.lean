/-
  Gherkin.Proofs.Reader.Ledger

  The ledger of a reader: what it has written to the document, with the rows of
  an open examples table that are still to be written, is the account of the
  lines seen. Each accepted line adds its own entry and nothing else.
-/
import Gherkin.Proofs.Reader.Scanning

namespace Gherkin

open List (Perm)
open LineEntry (latest? opensBlock opensEntity isStep)

/-! ## The latest line of a kind -/

namespace LineEntry

variable {kind : LineEntry → Bool} {entry : LineEntry} {seen : List LineEntry}

theorem latest?_cons_of_true (h : kind entry = true) :
    latest? kind (entry :: seen) = some entry.number := by
  simp [latest?, h]

theorem latest?_cons_of_false (h : kind entry = false) :
    latest? kind (entry :: seen) = latest? kind seen := by
  simp [latest?, h]

/-- Blocks of steps have descriptions. -/
theorem opensBlock_of_opensEntity (h : entry.opensEntity = false) : entry.opensBlock = false := by
  unfold opensEntity at h
  unfold opensBlock
  split
  next header hform =>
    have hkind : header.kind = .Examples := by
      simpa [hform] using h
    simp [hkind]
  next => rfl

end LineEntry

theorem Scenario.items_modifyOutline {f : Outline → Outline} {rows : List ExampleRow}
    (hf : ∀ outline, (f outline).examples = outline.examples ++ rows) (scenario : Scenario) :
    Perm (scenario.modifyOutline f).items
      (rows.map (·.item (some scenario.line)) ++ scenario.items) := by
  show Perm (scenario.toStepBlock.items ++ (scenario.modifyOutline f).examples.map _) _
  rw [scenario.examples_modifyOutline hf, List.map_append]
  exact perm_added_behind _ List.perm_append_comm

namespace Reader

variable {reader : Reader} {seen : List LineEntry} {entry : LineEntry}

/-! ## What a reader has written -/

/-- The inventory of the document read so far. -/
def written (reader : Reader) : List Item := reader.feature.toList.flatMap Feature.items

/-- The line of the open block. -/
def blockLine? (reader : Reader) : Option Nat := reader.block?.map (·.line)

/-- The line of the innermost entity that is open. -/
def entityLine? (reader : Reader) : Option Nat :=
  match reader.place with
  | none => reader.feature.map (·.active.line)
  | some _ => reader.blockLine?

/-- The rows of an open examples table. They are written when the table ends. -/
def pending (reader : Reader) : List Item :=
  match reader.examples with
  | none => []
  | some block => block.rows.map (·.item reader.blockLine?)

theorem pending_of_none (hexamples : reader.examples = none) : reader.pending = [] := by
  rw [pending, hexamples]

theorem pending_of_some {block : ExamplesBlock} (hexamples : reader.examples = some block) :
    reader.pending = block.rows.map (·.item reader.blockLine?) := by
  rw [pending, hexamples]

theorem written_modifyActive {f : Section → Section} {feature : Feature} {added : List Item}
    (hfeature : reader.feature = some feature)
    (h : Perm (f feature.active).items (added ++ feature.active.items)) :
    Perm (reader.modifyActive f).written (added ++ reader.written) := by
  simp only [written, modifyActive, hfeature, Option.map_some, Option.toList_some,
    List.flatMap_singleton]
  exact Feature.items_modifyActive h

theorem written_modifyBlock {f : StepBlock → StepBlock} {block : StepBlock} {added : List Item}
    (hblock : reader.block? = some block) (hline : (f block).line = block.line)
    (h : Perm (f block).items (added ++ block.items)) :
    Perm (reader.modifyBlock f).written (added ++ reader.written) := by
  obtain ⟨feature, hfeature, place, hplace, hfound⟩ :
      ∃ feature, reader.feature = some feature ∧ ∃ place, reader.place = some place ∧
        feature.active.block? place = some block := by
    simpa [block?, Option.bind_eq_some_iff] using hblock
  rw [modifyBlock, hplace]
  exact written_modifyActive hfeature (Section.items_modifyBlock hfound hline h)

theorem written_modifyScenario {f : Scenario → Scenario} {scenario : Scenario}
    {added : List Item} (hscenario : reader.scenario? = some scenario)
    (h : Perm (f scenario).items (added ++ scenario.items)) :
    Perm (reader.modifyScenario f).written (added ++ reader.written) := by
  unfold scenario? at hscenario
  split at hscenario
  · obtain ⟨feature, hfeature, hlast⟩ := Option.bind_eq_some_iff.1 hscenario
    exact written_modifyActive hfeature (Section.items_modifyLastScenario hlast h)
  · cases hscenario

/-! ## Lines under changes -/

theorem blockLine?_of_scenario? {scenario : Scenario}
    (hscenario : reader.scenario? = some scenario) : reader.blockLine? = some scenario.line := by
  have hplace := place_of_scenario? hscenario
  simp only [scenario?, hplace] at hscenario
  obtain ⟨feature, hfeature, hlast⟩ := Option.bind_eq_some_iff.1 hscenario
  simp [blockLine?, block?, hfeature, hplace, Section.block?, hlast]

theorem blockLine?_modifyBlock {f : StepBlock → StepBlock} {block : StepBlock}
    (hblock : reader.block? = some block) (hline : (f block).line = block.line) :
    (reader.modifyBlock f).blockLine? = reader.blockLine? := by
  rw [blockLine?, blockLine?, block?_modifyBlock, hblock]
  simpa using hline

theorem blockLine?_modifyOutline (f : Outline → Outline) (reader : Reader) :
    (reader.modifyScenario (·.modifyOutline f)).blockLine? = reader.blockLine? := by
  have hsame : (reader.modifyScenario (·.modifyOutline f)).block? = reader.block? := by
    apply block?_modifyScenario
    intro s
    rfl
  rw [blockLine?, blockLine?, hsame]

/-- The last step of the open block, once it has one. -/
theorem exists_lastStep (h : reader.hasStep = true) :
    ∃ block step, reader.block? = some block ∧ block.steps.getLast? = some step := by
  obtain ⟨block, hblock, hsteps⟩ := hasStep_eq_true_iff.1 h
  obtain ⟨step, hlast⟩ := Option.ne_none_iff_exists'.1 (mt List.getLast?_eq_none_iff.1 hsteps)
  exact ⟨block, step, hblock, hlast⟩

theorem place_of_block? {block : StepBlock} (hblock : reader.block? = some block) :
    reader.place.isSome := by
  cases hplace : reader.place with
  | none => simp [block?, hplace] at hblock
  | some place => rfl

/-- In an open block it is the entity. -/
theorem entityLine?_of_place (hplace : reader.place.isSome) :
    reader.entityLine? = reader.blockLine? := by
  obtain ⟨place, hplace⟩ := Option.isSome_iff_exists.1 hplace
  rw [entityLine?, hplace]

/-! ## The ledger -/

/-- What a reader has written and what it stands in are as the lines seen say. -/
structure Booked (seen : List LineEntry) (reader : Reader) : Prop where
  /-- Everything written or pending is due to one line, and every line has its share. -/
  items : Perm (reader.pending ++ reader.written) (account seen)
  /-- The open block is the latest one. -/
  block : reader.place.isSome → reader.blockLine? = latest? opensBlock seen
  /-- So is the innermost entity. -/
  entity : reader.entityLine? = latest? opensEntity seen
  /-- The last step of the open block is the latest one of all. -/
  step : ∀ block step, reader.block? = some block → block.steps.getLast? = some step →
    latest? isStep seen = some step.line

/-- Before the first line nothing is written and nothing is due. -/
theorem booked_start (language : Language) : ({ language } : Reader).Booked [] where
  items := Perm.nil
  block := by simp
  entity := rfl
  step := by simp [block?]

namespace Booked

/-- A line that contributes nothing and opens nothing is just passed. -/
theorem pass (h : reader.Booked seen) (hitems : entry.items seen = [])
    (hopens : entry.opensEntity = false) (hstep : entry.isStep = false) :
    reader.Booked (entry :: seen) where
  items := by
    rw [account, hitems]
    exact h.items
  block hplace := by
    rw [LineEntry.latest?_cons_of_false (LineEntry.opensBlock_of_opensEntity hopens)]
    exact h.block hplace
  entity := by
    rw [LineEntry.latest?_cons_of_false hopens]
    exact h.entity
  step := by
    rw [LineEntry.latest?_cons_of_false hstep]
    exact h.step

/-- What a line contributes to the open block is written at once. -/
theorem modifyBlock (h : reader.Booked seen) {f : StepBlock → StepBlock} {block : StepBlock}
    (hblock : reader.block? = some block) (hline : (f block).line = block.line)
    (hitems : Perm (f block).items (entry.items seen ++ block.items))
    (hopens : entry.opensEntity = false)
    (hstep : ∀ step, (f block).steps.getLast? = some step →
      latest? isStep (entry :: seen) = some step.line) :
    (reader.modifyBlock f).Booked (entry :: seen) := by
  have hplace : (reader.modifyBlock f).place.isSome := by
    rw [modifyBlock_place]
    exact place_of_block? hblock
  have hsame : (reader.modifyBlock f).blockLine? = reader.blockLine? :=
    blockLine?_modifyBlock hblock hline
  -- pending rows carry the line of the block, which stays
  have hpending : (reader.modifyBlock f).pending = reader.pending := by
    rw [pending, modifyBlock_examples, hsame, pending]
  constructor
  · rw [hpending, account]
    calc Perm (reader.pending ++ (reader.modifyBlock f).written)
          (reader.pending ++ (entry.items seen ++ reader.written)) :=
          (written_modifyBlock hblock hline hitems).append_left _
      Perm _ (entry.items seen ++ (reader.pending ++ reader.written)) :=
          List.perm_append_comm_assoc _ _ _
      Perm _ (entry.items seen ++ account seen) := h.items.append_left _
  · intro _
    rw [LineEntry.latest?_cons_of_false (LineEntry.opensBlock_of_opensEntity hopens), hsame]
    exact h.block (place_of_block? hblock)
  · rw [LineEntry.latest?_cons_of_false hopens, entityLine?_of_place hplace, hsame,
      ← entityLine?_of_place (place_of_block? hblock)]
    exact h.entity
  · intro changed step hchanged hlast
    rw [block?_modifyBlock, hblock] at hchanged
    obtain rfl := Option.some.inj hchanged
    exact hstep step hlast

/-- A header line that opens an entity writes it. Steps go to it if it is a block, which has none
    so far, and nowhere if it is not. -/
theorem opened (h : reader.Booked seen) (hexamples : reader.examples = none) {opened : Reader}
    (hnone : opened.examples = none) (hopens : entry.opensEntity = true)
    (hitems : entry.items seen = [.entity entry.number])
    (hwritten : Perm opened.written ([.entity entry.number] ++ reader.written))
    (hentity : opened.entityLine? = some entry.number)
    (hplace : opened.place.isSome → entry.opensBlock = true ∧
      ∃ block, opened.block? = some block ∧ block.line = entry.number ∧ block.steps = []) :
    opened.Booked (entry :: seen) where
  items := by
    -- no table is open, so all that is due has been written
    have hbefore : Perm reader.written (account seen) := by
      have hall := h.items
      rw [pending_of_none hexamples] at hall
      exact hall
    rw [pending_of_none hnone, account, hitems, List.nil_append]
    exact hwritten.trans (hbefore.append_left _)
  block hopen := by
    obtain ⟨hblock, block, hfound, hline, -⟩ := hplace hopen
    rw [LineEntry.latest?_cons_of_true hblock, blockLine?, hfound, Option.map_some, hline]
  entity := by
    rw [LineEntry.latest?_cons_of_true hopens, hentity]
  step block step hblock hlast := by
    obtain ⟨-, other, hfound, -, hsteps⟩ := hplace (place_of_block? hblock)
    obtain rfl := Option.some.inj (hfound.symm.trans hblock)
    rw [hsteps] at hlast
    cases hlast

/-- Only the document, the open block and the pending rows are booked. -/
theorem congr (h : reader.Booked seen) {after : Reader} (hfeature : after.feature = reader.feature)
    (hplace : after.place = reader.place) (hexamples : after.examples = reader.examples) :
    after.Booked seen := by
  have hblock : after.block? = reader.block? := by
    rw [Reader.block?, Reader.block?, hfeature, hplace]
  have hline : after.blockLine? = reader.blockLine? := by
    rw [blockLine?, blockLine?, hblock]
  constructor
  · rw [pending, written, hexamples, hfeature, hline]
    exact h.items
  · rw [hplace, hline]
    exact h.block
  · rw [entityLine?, hplace, hfeature, hline]
    exact h.entity
  · rw [hblock]
    exact h.step

/-! ## Outlines -/

/-- Changing the outline of the open scenario writes the rows that it gains. They were pending. -/
theorem outlined (h : reader.Booked seen) {f : Outline → Outline} (rows : List ExampleRow)
    (hf : ∀ outline, (f outline).examples = outline.examples ++ rows)
    (hscenario : reader.scenario?.isSome) (examples : Option ExamplesBlock)
    (hpending : reader.pending =
      { reader with examples : Reader }.pending ++ rows.map (·.item reader.blockLine?)) :
    { reader.modifyScenario (·.modifyOutline f) with examples : Reader }.Booked seen := by
  obtain ⟨scenario, hscenario⟩ := Option.isSome_iff_exists.1 hscenario
  have hline := blockLine?_of_scenario? hscenario
  have hsame := blockLine?_modifyOutline f reader
  have hplace : reader.place.isSome := by
    rw [place_of_scenario? hscenario]
    rfl
  -- the rows of the table that is open afterwards belong to the same scenario
  have hstill : { reader.modifyScenario (·.modifyOutline f) with examples : Reader }.pending =
      { reader with examples : Reader }.pending := by
    cases examples with
    | none => rfl
    | some block => exact congrArg (fun line => block.rows.map (·.item line)) hsame
  have hwritten : Perm (reader.modifyScenario (·.modifyOutline f)).written
      (rows.map (·.item reader.blockLine?) ++ reader.written) := by
    rw [hline]
    exact written_modifyScenario hscenario (Scenario.items_modifyOutline hf scenario)
  constructor
  · rw [hstill]
    refine Perm.trans ?_ h.items
    rw [hpending, List.append_assoc]
    exact hwritten.append_left _
  · intro _
    exact hsame.trans (h.block hplace)
  · have hentity : { reader.modifyScenario (·.modifyOutline f) with
        examples : Reader }.entityLine? = reader.blockLine? := by
      rw [entityLine?_of_place]
      · exact hsame
      · exact hplace
    rw [hentity, ← entityLine?_of_place hplace]
    exact h.entity
  · intro block step hblock
    have hopen : (reader.modifyScenario (·.modifyOutline f)).block? = reader.block? := by
      apply block?_modifyScenario
      intro s
      rfl
    exact h.step block step (hopen.symm.trans hblock)

/-- The rows of a table that ends join their outline. -/
theorem flush (h : reader.Booked seen) (hsound : reader.Sound) :
    reader.flush.value.Booked seen := by
  unfold Reader.flush
  split
  · exact h
  next block hblock =>
    obtain ⟨scenario, hscenario, -⟩ := hsound.outlined (by simp [hblock])
    apply h.outlined block.rows
    · intro outline
      rfl
    · rw [hscenario]
      rfl
    · rw [pending_of_some hblock]
      rfl

theorem settle (h : reader.Booked seen) (hsound : reader.Sound) (form : LineForm) :
    (reader.settle form).Booked seen := by
  unfold Reader.settle
  split
  · exact h
  · exact h.flush hsound

/-- A table that opens has no rows yet. -/
theorem openExamples (h : reader.Booked seen) (hexamples : reader.examples = none)
    {f : Outline → Outline} (hf : ∀ outline, (f outline).examples = outline.examples)
    (hscenario : reader.scenario?.isSome) (block : ExamplesBlock) (hrows : block.rows = []) :
    { reader.modifyScenario (·.modifyOutline f) with
      examples := some block : Reader }.Booked seen := by
  apply h.outlined []
  · intro outline
    rw [hf, List.append_nil]
  · exact hscenario
  · rw [pending_of_none hexamples]
    simp [pending, hrows]

/-! ## Headers -/

/-- The entry of a header on the line that is read. -/
theorem items_header {header : Header} (hkind : header.kind ≠ .Examples) (number : Nat)
    (text : String) :
    LineEntry.items seen ⟨number, text, some (.header header)⟩ = [.entity number] := by
  simp [LineEntry.items, hkind]

theorem opensEntity_header {header : Header} (hkind : header.kind ≠ .Examples) (number : Nat)
    (text : String) :
    LineEntry.opensEntity ⟨number, text, some (.header header)⟩ = true := by
  simp [LineEntry.opensEntity, hkind]

theorem onFeature (h : reader.Booked seen) (hexamples : reader.examples = none) {text : String}
    {header : Header} (hkind : header.kind = .Feature)
    (haccept : (reader.onFeature header).fault = none) :
    (reader.onFeature header).reader.Booked
      (⟨reader.line, text, some (.header header)⟩ :: seen) := by
  have hother : header.kind ≠ .Examples := by simp [hkind]
  obtain ⟨hnone, hafter⟩ := onFeature_accepted haccept
  rw [hafter]
  apply h.opened hexamples
  · exact hexamples
  · exact opensEntity_header hother _ text
  · exact items_header hother _ text
  · simp [written, hnone, Feature.items, Section.items]
  · rfl
  · simp

theorem onRule (h : reader.Booked seen) (hexamples : reader.examples = none) {text : String}
    {header : Header} (hkind : header.kind = .Rule) {feature : Feature}
    (hfeature : reader.feature = some feature) (tags : TagSet) :
    (reader.onRule header tags).reader.Booked
      (⟨reader.line, text, some (.header header)⟩ :: seen) := by
  have hother : header.kind ≠ .Examples := by simp [hkind]
  apply h.opened hexamples
  · exact hexamples
  · exact opensEntity_header hother _ text
  · exact items_header hother _ text
  · simp only [Reader.onRule, accept, written, hfeature, Option.map_some, Option.toList_some,
      List.flatMap_singleton]
    exact Feature.items_addRule feature _
  · simp [Reader.onRule, accept, entityLine?, hfeature, Feature.active, Feature.addRule]
  · simp [Reader.onRule, accept]

theorem onBackground (h : reader.Booked seen) (hexamples : reader.examples = none) {text : String}
    {header : Header} (hkind : header.kind = .Background) {feature : Feature}
    (hfeature : reader.feature = some feature) {tags : TagSet}
    (haccept : (reader.onBackground feature header tags).fault = none) :
    (reader.onBackground feature header tags).reader.Booked
      (⟨reader.line, text, some (.header header)⟩ :: seen) := by
  have hother : header.kind ≠ .Examples := by simp [hkind]
  obtain ⟨hnone, hafter⟩ := onBackground_accepted haccept
  rw [hafter]
  apply h.opened hexamples
  · exact hexamples
  · exact opensEntity_header hother _ text
  · exact items_header hother _ text
  · exact written_modifyActive hfeature (Section.items_setBackground hnone _)
  · simp [entityLine?, blockLine?, block?, modifyActive, hfeature, Feature.active_modifyActive,
      Section.block?]
  · intro _
    refine ⟨by simp [LineEntry.opensBlock, hkind], ?_⟩
    simp [block?, modifyActive, hfeature, Feature.active_modifyActive, Section.block?]

theorem onScenario (h : reader.Booked seen) (hexamples : reader.examples = none) {text : String}
    {header : Header} (hkind : header.kind = .Scenario ∨ header.kind = .ScenarioOutline)
    {feature : Feature} (hfeature : reader.feature = some feature) (tags : TagSet) :
    (reader.onScenario header tags).reader.Booked
      (⟨reader.line, text, some (.header header)⟩ :: seen) := by
  have hother : header.kind ≠ .Examples := by
    rcases hkind with hkind | hkind <;> simp [hkind]
  apply h.opened hexamples
  · exact hexamples
  · exact opensEntity_header hother _ text
  · exact items_header hother _ text
  · refine (written_modifyActive hfeature (Section.items_addScenario _ _)).trans ?_
    apply Perm.append_right
    split <;> exact Perm.refl _
  · simp [Reader.onScenario, accept, entityLine?, blockLine?, block?, modifyActive, hfeature,
      Feature.active_modifyActive, Section.block?, Section.addScenario]
  · intro _
    refine ⟨by rcases hkind with hkind | hkind <;> simp [LineEntry.opensBlock, hkind], ?_⟩
    simp [Reader.onScenario, accept, block?, modifyActive, hfeature, Feature.active_modifyActive,
      Section.block?, Section.addScenario]

theorem onExamples (h : reader.Booked seen) (hexamples : reader.examples = none) {text : String}
    {header : Header} (hkind : header.kind = .Examples) {tags : TagSet}
    (haccept : (reader.onExamples tags).fault = none) :
    (reader.onExamples tags).reader.Booked
      (⟨reader.line, text, some (.header header)⟩ :: seen) := by
  obtain ⟨hscenario, hafter⟩ := onExamples_accepted haccept
  rw [hafter]
  have hopened := h.openExamples hexamples (f := id) (fun _ => rfl) hscenario
    { explicit := true, tags, line := reader.line } rfl
  apply pass
  · exact hopened.congr rfl rfl rfl
  · simp [LineEntry.items, hkind]
  · simp [LineEntry.opensEntity, hkind]
  · rfl

theorem onHeader (h : reader.Booked seen) (hexamples : reader.examples = none) {text : String}
    {header : Header} (haccept : (reader.onHeader text header).fault = none) :
    (reader.onHeader text header).reader.Booked
      (⟨reader.line, text, some (.header header)⟩ :: seen) := by
  have htagless : { reader with pendingTags := {} : Reader }.Booked seen := h.congr rfl rfl rfl
  rcases onHeader_accepted haccept with ⟨hkind, hsame⟩ | ⟨feature, hfeature, hrest⟩
  · rw [hsame] at haccept ⊢
    exact h.onFeature hexamples hkind haccept
  · rcases hrest with ⟨hkind, hsame⟩ | ⟨hkind, hsame⟩ | ⟨hkind, hsame⟩ | ⟨hkind, hsame⟩
    · rw [hsame]
      exact htagless.onRule hexamples hkind hfeature _
    · rw [hsame] at haccept ⊢
      exact htagless.onBackground hexamples hkind hfeature haccept
    · rw [hsame] at haccept ⊢
      exact htagless.onExamples hexamples hkind haccept
    · rw [hsame]
      exact htagless.onScenario hexamples hkind hfeature _

/-! ## Table rows -/

theorem onDataRow (h : reader.Booked seen) {text : String} {cells : List String}
    (htable : OpenTable.ofSeen seen = .data) (haccept : (reader.onDataRow cells).fault = none) :
    (reader.onDataRow cells).reader.Booked
      (⟨reader.line, text, some (.row cells)⟩ :: seen) := by
  obtain ⟨hstep, hafter⟩ := onDataRow_accepted haccept
  obtain ⟨block, step, hblock, hlast⟩ := exists_lastStep hstep
  -- the row hangs on the last step of the block, which is the latest step of all
  have hlatest : latest? isStep seen = some step.line := h.step block step hblock hlast
  have hwritten : (reader.modifyBlock (·.modifyLastStep (·.addRow cells))).Booked
      (⟨reader.line, text, some (.row cells)⟩ :: seen) := by
    apply h.modifyBlock hblock rfl
    · simp only [LineEntry.items, LineEntry.rowItems, htable, hlatest]
      exact StepBlock.items_modifyLastStep hlast (Step.items_addRow cells _ step)
    · rfl
    · intro changed hchanged
      rw [StepBlock.getLast?_modifyLastStep, hlast] at hchanged
      obtain rfl := Option.some.inj hchanged
      rw [LineEntry.latest?_cons_of_false rfl, hlatest]
      rfl
  rw [hafter]
  exact hwritten.congr rfl rfl rfl

/-- A row of an examples table gives its headers, or waits until the table ends. -/
theorem onExampleRow (h : reader.Booked seen) {text : String} {block : ExamplesBlock}
    (hexamples : reader.examples = some block) (hplace : reader.place.isSome) {filled : Bool}
    (htable : OpenTable.ofSeen seen = .examples block.explicit block.headers filled)
    (cells : List String) :
    (reader.onExampleRow block cells).reader.Booked
      (⟨reader.line, text, some (.row cells)⟩ :: seen) := by
  have hblock := h.block hplace
  constructor
  · rw [account]
    cases hheaders : block.headers with
    | none =>
      -- the first row of a table holds its headers and contributes nothing
      have hitems : LineEntry.items seen ⟨reader.line, text, some (.row cells)⟩ = [] := by
        simp [LineEntry.items, LineEntry.rowItems, htable, hheaders]
      have hpending : (reader.onExampleRow block cells).reader.pending = reader.pending := by
        rw [pending_of_some hexamples]
        simp [Reader.onExampleRow, accept, Outcome.after, pending, ExamplesBlock.push, hheaders,
          blockLine?, block?]
      rw [hitems, hpending]
      exact h.items
    | some headers =>
      -- a later row waits with the others of its table
      have hitems : LineEntry.items seen ⟨reader.line, text, some (.row cells)⟩ =
          [.exampleRow reader.blockLine? reader.line (ExamplesBlock.values headers cells)] := by
        simp [LineEntry.items, LineEntry.rowItems, htable, hheaders, hblock]
      have hpending : (reader.onExampleRow block cells).reader.pending = reader.pending ++
          [.exampleRow reader.blockLine? reader.line (ExamplesBlock.values headers cells)] := by
        rw [pending_of_some hexamples]
        simp [Reader.onExampleRow, accept, Outcome.after, pending, ExamplesBlock.push, hheaders,
          blockLine?, block?, ExampleRow.item]
      rw [hitems, hpending]
      exact (perm_added_before _ List.perm_append_comm).trans (h.items.append_left _)
  · intro _
    exact hblock
  · exact h.entity
  · exact h.step

theorem onBareRow (h : reader.Booked seen) (hexamples : reader.examples = none) {text : String}
    {cells : List String} (htable : OpenTable.ofSeen seen = .closed)
    (haccept : (reader.onBareRow cells).fault = none) :
    (reader.onBareRow cells).reader.Booked
      (⟨reader.line, text, some (.row cells)⟩ :: seen) := by
  obtain ⟨houtline, hafter⟩ := onBareRow_accepted haccept
  have hscenario : reader.scenario?.isSome := Option.isSome_of_any houtline
  rw [hafter]
  have hopened := h.openExamples hexamples (f := ({ · with missingKeyword := true }))
    (fun _ => rfl) hscenario { headers := some cells, explicit := false, line := reader.line } rfl
  apply pass
  · exact hopened.congr rfl rfl rfl
  · simp [LineEntry.items, LineEntry.rowItems, htable]
  · rfl
  · rfl

theorem onRow (h : reader.Booked seen) (hsound : reader.Sound)
    (htable : reader.openTable = OpenTable.ofSeen seen) {text : String} {cells : List String}
    (haccept : (reader.onRow cells).fault = none) :
    (reader.onRow cells).reader.Booked (⟨reader.line, text, some (.row cells)⟩ :: seen) := by
  unfold Reader.onRow at haccept ⊢
  cases hexamples : reader.examples with
  | some block =>
    obtain ⟨scenario, hscenario, -⟩ := hsound.outlined (by simp [hexamples])
    apply h.onExampleRow hexamples
    · rw [place_of_scenario? hscenario]
      rfl
    · rw [← htable, openTable, hexamples]
  | none =>
    simp only [hexamples] at haccept ⊢
    by_cases hstep : reader.previous = .step ∨ reader.previous = .dataTableRow
    · rw [if_pos hstep] at haccept ⊢
      exact h.onDataRow (htable.symm.trans (openTable_data hexamples hstep)) haccept
    · rw [if_neg hstep] at haccept ⊢
      rw [not_or] at hstep
      exact h.onBareRow hexamples
        (htable.symm.trans (openTable_closed _ hexamples rfl hstep.1 hstep.2)) haccept

/-! ## Other lines -/

theorem onComment (h : reader.Booked seen) {text : String} (comment : String) :
    (reader.onComment comment).reader.Booked
      (⟨reader.line, text, some (.comment comment)⟩ :: seen) := by
  apply pass
  · unfold Reader.onComment
    split
    · exact h.congr rfl rfl rfl
    · exact h
  · rfl
  · rfl
  · rfl

theorem onFence (h : reader.Booked seen) {text trimmed : String} {fence : Fence}
    {mediaType : Option String} (haccept : (reader.onFence text fence mediaType).fault = none) :
    (reader.onFence text fence mediaType).reader.Booked
      (⟨reader.line, trimmed, some (.fence fence mediaType)⟩ :: seen) := by
  obtain ⟨-, hafter⟩ := onFence_accepted haccept
  rw [hafter]
  apply pass
  · exact h.congr rfl rfl rfl
  · rfl
  · rfl
  · rfl

theorem onStep (h : reader.Booked seen) {text : String} {found : StepLine}
    (haccept : (reader.onStep text found).fault = none) :
    (reader.onStep text found).reader.Booked
      (⟨reader.line, text, some (.step found)⟩ :: seen) := by
  obtain ⟨hopen, hafter⟩ := onStep_accepted haccept
  obtain ⟨block, hblock⟩ := Option.isSome_iff_exists.1 hopen
  have hline : latest? opensBlock seen = some block.line := by
    rw [← h.block (place_of_block? hblock), blockLine?, hblock, Option.map_some]
  let step : Step :=
    { keyword := found.kind, keywordText := found.keyword, details := found.details
      line := reader.line }
  have hwritten : (reader.modifyBlock (·.addStep step)).Booked
      (⟨reader.line, text, some (.step found)⟩ :: seen) := by
    apply h.modifyBlock hblock rfl
    -- a step comes without rows, so it is all that its block gains
    · simp only [LineEntry.items, hline]
      exact StepBlock.items_addStep block step
    · rfl
    · intro last hlast
      have hsame : step = last := by
        simpa [StepBlock.addStep] using hlast
      rw [LineEntry.latest?_cons_of_true rfl, ← hsame]
  rw [hafter]
  exact hwritten.congr rfl rfl rfl

/-- The entry of a line of text, once the entity is known. -/
theorem items_prose {line : Nat} (hentity : latest? opensEntity seen = some line) (number : Nat)
    (text : String) :
    LineEntry.items seen ⟨number, text, some .prose⟩ = [.description line text] := by
  simp [LineEntry.items, hentity]

/-- Outside blocks a line of text describes the active section. -/
theorem describeActive (h : reader.Booked seen) {feature : Feature}
    (hfeature : reader.feature = some feature) (hplace : reader.place = none) (text : String) :
    (reader.modifyActive (·.describe text)).Booked (⟨reader.line, text, some .prose⟩ :: seen) := by
  have hentity : latest? opensEntity seen = some feature.active.line := by
    rw [← h.entity, entityLine?, hplace, hfeature]
    rfl
  have hnone : reader.block? = none := by
    rw [block?, hfeature, hplace]
    rfl
  have hstill : (reader.modifyActive (·.describe text)).block? = none := by
    rw [block?_modifyActive, hplace, hfeature]
    rfl
  -- no block is open before or after, so the line that rows carry is none in both
  have hpending : (reader.modifyActive (·.describe text)).pending = reader.pending := by
    rw [pending, pending, blockLine?, blockLine?, hstill, hnone]
    rfl
  constructor
  · rw [hpending, account, items_prose hentity]
    calc Perm (reader.pending ++ (reader.modifyActive (·.describe text)).written)
          (reader.pending ++ ([.description feature.active.line text] ++ reader.written)) :=
          (written_modifyActive hfeature (Section.items_describe _ _)).append_left _
      Perm _ ([.description feature.active.line text] ++ (reader.pending ++ reader.written)) :=
          List.perm_append_comm_assoc _ _ _
      Perm _ ([.description feature.active.line text] ++ account seen) := h.items.append_left _
  · intro hopen
    rw [show (reader.modifyActive (·.describe text)).place = none from hplace] at hopen
    cases hopen
  · rw [LineEntry.latest?_cons_of_false rfl, hentity]
    simp [entityLine?, modifyActive, hplace, hfeature, Feature.active_modifyActive,
      Section.describe]
  · intro block step hblock
    rw [hstill] at hblock
    cases hblock

/-- In an open block it describes the block. -/
theorem describeBlock (h : reader.Booked seen) {block : StepBlock}
    (hblock : reader.block? = some block) (text : String) :
    (reader.modifyBlock (·.describe text)).Booked (⟨reader.line, text, some .prose⟩ :: seen) := by
  have hentity : latest? opensEntity seen = some block.line := by
    rw [← h.entity, entityLine?_of_place (place_of_block? hblock), blockLine?, hblock]
    rfl
  apply h.modifyBlock hblock rfl
  · rw [items_prose hentity]
    exact StepBlock.items_describe block text
  · rfl
  · intro step hlast
    rw [LineEntry.latest?_cons_of_false rfl]
    exact h.step block step hblock hlast

/-- Text before the feature line is dropped. -/
theorem onProse (h : reader.Booked seen) (hsound : reader.Sound) (text : String) :
    (reader.onProse text).reader.Booked (⟨reader.line, text, some .prose⟩ :: seen) := by
  unfold Reader.onProse
  split
  next hnone =>
    have hfeature : reader.feature = none := by simpa using hnone
    have hentity : latest? opensEntity seen = none := by
      rw [← h.entity]
      cases hplace : reader.place <;> simp [entityLine?, blockLine?, block?, hplace, hfeature]
    apply pass
    · exact h.congr rfl rfl rfl
    · simp [LineEntry.items, hentity]
    · rfl
    · rfl
  next hsome =>
    split
    next hplace =>
      obtain ⟨feature, hfeature⟩ := Option.ne_none_iff_exists'.1 (by simpa using hsome)
      exact (h.describeActive hfeature hplace text).congr rfl rfl rfl
    next place hplace =>
      obtain ⟨block, hblock⟩ := Option.isSome_iff_exists.1 (hsound.placed (by simp [hplace]))
      exact (h.describeBlock hblock text).congr rfl rfl rfl

/-! ## Lines -/

/-- An accepted line outside doc-strings adds its entry. -/
theorem onForm (h : reader.Booked seen) (hsound : reader.Sound) {text trimmed : String}
    {form : LineForm} (hexamples : reader.keepsExamples form = true ∨ reader.examples = none)
    (htable : ∀ cells, form = .row cells → reader.openTable = OpenTable.ofSeen seen)
    (haccept : (reader.onForm text trimmed form).fault = none) :
    (reader.onForm text trimmed form).reader.Booked
      (⟨reader.line, trimmed, some form⟩ :: seen) := by
  cases form with
  | comment comment => exact h.onComment comment
  | header header => exact h.onHeader (by simpa [keepsExamples] using hexamples) haccept
  | row cells => exact h.onRow hsound (htable cells rfl) haccept
  | blank =>
    have hkept : (reader.accept .blank).reader.Booked seen := h.congr rfl rfl rfl
    exact hkept.pass rfl rfl rfl
  | tags tags =>
    have hkept : (reader.onTags tags).reader.Booked seen := h.congr rfl rfl rfl
    exact hkept.pass rfl rfl rfl
  | fence fence mediaType => exact h.onFence haccept
  | step found => exact h.onStep haccept
  | prose => exact h.onProse hsound trimmed

/-- Before a row no table ends. -/
theorem settle_row (reader : Reader) (cells : List String) :
    reader.settle (.row cells) = reader := rfl

theorem onLine (h : reader.Booked seen) (hsound : reader.Sound)
    (htable : reader.openTable = OpenTable.ofSeen seen) {text : String}
    (haccept : (reader.onLine text).fault = none) :
    (reader.onLine text).reader.Booked
      (⟨reader.line, Text.trim text, some (reader.language.form (Text.trim text))⟩ :: seen) := by
  rw [onLine_fault] at haccept
  rw [onLine_reader, ← settle_line reader (reader.language.form (Text.trim text))]
  apply (h.settle hsound _).onForm (hsound.settle _)
  · exact settle_examples reader _
  · intro cells hform
    rw [hform, settle_row]
    exact htable
  · exact haccept

/-- Lines inside a doc-string contribute only to the doc-string of the latest step, which is not
    in the inventory. -/
theorem onDocString (h : reader.Booked seen) (hsound : reader.Sound) {doc : OpenDocString}
    (hdoc : reader.docString = some doc) {text trimmed : String} :
    (reader.onDocString doc text).reader.Booked (⟨reader.line, trimmed, none⟩ :: seen) := by
  unfold Reader.onDocString
  split
  · obtain ⟨block, step, hblock, hlast⟩ := exists_lastStep (hsound.fenced (by simp [hdoc])).2
    have hclosed : (reader.modifyBlock
        (·.modifyLastStep ({ · with docString := some doc.close }))).Booked
          (⟨reader.line, trimmed, none⟩ :: seen) := by
      apply h.modifyBlock hblock rfl
      · apply StepBlock.items_modifyLastStep hlast
        exact Perm.refl _
      · rfl
      · intro changed hchanged
        rw [StepBlock.getLast?_modifyLastStep, hlast] at hchanged
        obtain rfl := Option.some.inj hchanged
        rw [LineEntry.latest?_cons_of_false rfl, h.step block step hblock hlast]
    exact hclosed.congr rfl rfl rfl
  · apply pass
    · exact h.congr rfl rfl rfl
    · rfl
    · rfl
    · rfl

theorem take (h : reader.Booked seen) (hsound : reader.Sound)
    (htable : reader.docString = none → reader.openTable = OpenTable.ofSeen seen) {text : String}
    (haccept : (reader.take text).fault = none) :
    (reader.take text).reader.Booked
      (⟨reader.line, Text.trim text, reader.scanner.form? text⟩ :: seen) := by
  unfold Reader.take at haccept ⊢
  cases hdoc : reader.docString with
  | some doc =>
    have hform := form?_of_some hdoc text
    rw [hform]
    exact h.onDocString hsound hdoc
  | none =>
    have hform := form?_of_none hdoc text
    simp only [hdoc] at haccept ⊢
    rw [hform]
    exact h.onLine hsound (htable hdoc) haccept

/-- An accepted line adds its entry. -/
theorem read (h : reader.Booked seen) (hsound : reader.Sound)
    (htable : reader.docString = none → reader.openTable = OpenTable.ofSeen seen) {text : String}
    (haccept : (reader.read text).fault = none) :
    (reader.read text).reader.Booked (reader.scanner.entry text :: seen) := by
  rw [read_fault] at haccept
  rw [read_reader]
  have hcounted : { reader with line := reader.line + 1 }.Booked seen := h.congr rfl rfl rfl
  exact hcounted.take (hsound.withLine _) htable haccept

end Booked

end Reader

end Gherkin
