/-
  Gherkin.Proofs.Reader.DocString

  Doc-strings of a document. Each one hangs on the step that is the latest when
  its fence opens, and the closing fence writes it there, over one that the step
  may have from before. So a step carries the last doc-string that hangs on it,
  and no doc-string is lost just if no two hang on one step.
-/
import Gherkin.Proofs.Document.Steps
import Gherkin.Proofs.Reader.Strictness
import Mathlib.Data.List.Dedup

namespace Gherkin

open LineEntry (latest? opensBlock opensEntity isStep)

/-! ## Doc-strings of the lines -/

/-- A doc-string as it stands in a document. -/
structure DocBlock where
  /-- The lines before it, the latest one first. -/
  before : List LineEntry
  fence : Fence
  mediaType : Option String
  /-- The indentation of the opening fence in bytes. -/
  indent : Nat
  /-- The lines between the fences. -/
  body : List String

namespace DocBlock

/-- The line of the step that the doc-string hangs on. -/
def step? (block : DocBlock) : Option Nat := latest? isStep block.before

/-- The doc-string as a step carries it. -/
def docString (block : DocBlock) : DocString where
  content := "\n".intercalate (block.body.map (block.fence.content block.indent))
  mediaType := block.mediaType

end DocBlock

/-- What the step on each line carries once a doc-string has been written to one of them. -/
def hang (step? : Option Nat) (doc : DocString) (held : Nat → Option DocString) (line : Nat) :
    Option DocString :=
  if step? = some line then some doc else held line

/-- What the steps carry after several doc-strings. -/
def hangAll (blocks : List DocBlock) (held : Nat → Option DocString) : Nat → Option DocString :=
  blocks.foldl (fun held block => hang block.step? block.docString held) held

/-- Of several doc-strings on one step the last one stays. -/
theorem hangAll_eq (blocks : List DocBlock) (held : Nat → Option DocString) (line : Nat) :
    hangAll blocks held line =
      ((blocks.filter (·.step? = some line)).getLast?.map (·.docString)).or (held line) := by
  induction blocks generalizing held with
  | nil => rfl
  | cons block blocks ih =>
    refine (ih (hang block.step? block.docString held)).trans ?_
    by_cases hstep : block.step? = some line
    · rw [List.filter_cons_of_pos (by simpa using hstep), List.getLast?_cons]
      cases (blocks.filter (·.step? = some line)).getLast? <;> simp [hang, hstep]
    · rw [List.filter_cons_of_neg (by simpa using hstep)]
      simp [hang, hstep]

/-- The doc-strings of lines, given those seen before them. Each line that is an opening fence
    begins one, which goes up to the next line that is the same fence. -/
def Scanner.docBlocks (scanner : Scanner) (seen : List LineEntry) : List String → List DocBlock
  | [] => []
  | line :: lines =>
    let later := (scanner.next line).docBlocks (scanner.entry line :: seen) lines
    match scanner.form? line with
    | some (.fence fence mediaType) =>
      { before := seen, fence, mediaType, indent := Text.indentOf line.toList
        body := lines.takeWhile (Text.trim · ≠ fence.text) } :: later
    | _ => later

/-- What a line contributes stays in the account of more lines. -/
theorem mem_account_entries {scanner : Scanner} {seen : List LineEntry} {item : Item}
    (h : item ∈ account seen) (lines : List String) :
    item ∈ account (scanner.entries seen lines) := by
  induction lines generalizing scanner seen with
  | nil => exact h
  | cons line lines ih => exact ih (List.mem_append_right _ h)

namespace Reader

variable {reader after : Reader} {step : Step}

/-! ## Steps read so far -/

/-- The steps of the document read so far. -/
def steps (reader : Reader) : List Step := reader.feature.toList.flatMap Feature.steps

theorem mem_steps_iff :
    step ∈ reader.steps ↔ ∃ feature, reader.feature = some feature ∧ step ∈ feature.steps := by
  simp [steps]

theorem mem_steps_of_active {feature : Feature} (hfeature : reader.feature = some feature)
    (hstep : step ∈ feature.active.steps) : step ∈ reader.steps :=
  mem_steps_iff.2
    ⟨feature, hfeature, Feature.mem_steps_iff.2 ⟨_, feature.active_mem_sections, hstep⟩⟩

theorem exists_mem_blocks_of_block? {block : StepBlock} (hblock : reader.block? = some block) :
    ∃ feature, reader.feature = some feature ∧ block ∈ feature.blocks := by
  obtain ⟨feature, hfeature, place, -, hfound⟩ :
      ∃ feature, reader.feature = some feature ∧ ∃ place, reader.place = some place ∧
        feature.active.block? place = some block := by
    simpa [block?, Option.bind_eq_some_iff] using hblock
  refine ⟨feature, hfeature, List.mem_flatMap.2 ⟨feature.active, feature.active_mem_sections, ?_⟩⟩
  exact Section.mem_blocks_of_block? hfound

theorem mem_steps_of_block? {block : StepBlock} (hblock : reader.block? = some block)
    (hstep : step ∈ block.steps) : step ∈ reader.steps := by
  obtain ⟨feature, hfeature, hin⟩ := exists_mem_blocks_of_block? hblock
  exact mem_steps_iff.2 ⟨feature, hfeature, List.mem_flatMap.2 ⟨block, hin, hstep⟩⟩

/-- A change of the active section that brings no steps. -/
theorem mem_steps_modifyActive {f : Section → Section}
    (hf : ∀ part : Section, ∀ step ∈ (f part).steps, step ∈ part.steps)
    (h : step ∈ (reader.modifyActive f).steps) : step ∈ reader.steps := by
  obtain ⟨changed, hchanged, hstep⟩ := mem_steps_iff.1 h
  obtain ⟨feature, hfeature, rfl⟩ := Option.map_eq_some_iff.1 hchanged
  rcases Feature.mem_steps_modifyActive hstep with hold | hactive
  · exact mem_steps_iff.2 ⟨feature, hfeature, hold⟩
  · exact mem_steps_of_active hfeature (hf _ step hactive)

theorem mem_steps_modifyOutline {f : Outline → Outline}
    (h : step ∈ (reader.modifyScenario (·.modifyOutline f)).steps) : step ∈ reader.steps := by
  have hkept : ∀ scenario : Scenario,
      (scenario.modifyOutline f).toStepBlock = scenario.toStepBlock := fun _ => rfl
  refine mem_steps_modifyActive (f := (·.modifyLastScenario (·.modifyOutline f))) ?_ h
  intro part step hstep
  rwa [Section.steps_modifyLastScenario hkept] at hstep

theorem mem_steps_modifyBlock {f : StepBlock → StepBlock}
    (h : step ∈ (reader.modifyBlock f).steps) :
    step ∈ reader.steps ∨ ∃ block, reader.block? = some block ∧ step ∈ (f block).steps := by
  unfold modifyBlock at h
  split at h
  · exact .inl h
  next place hplace =>
    obtain ⟨changed, hchanged, hstep⟩ := mem_steps_iff.1 h
    obtain ⟨feature, hfeature, rfl⟩ := Option.map_eq_some_iff.1 hchanged
    rcases Feature.mem_steps_modifyActive hstep with hold | hactive
    · exact .inl (mem_steps_iff.2 ⟨feature, hfeature, hold⟩)
    · rcases Section.mem_steps_modifyBlock hactive with hold | ⟨block, hblock, hin⟩
      · exact .inl (mem_steps_of_active hfeature hold)
      · exact .inr ⟨block, by simp [block?, hfeature, hplace, hblock], hin⟩

/-- Of the steps only the last one of the open block has changed. -/
theorem mem_steps_modifyLastStep {f : Step → Step}
    (h : step ∈ (reader.modifyBlock (·.modifyLastStep f)).steps) :
    step ∈ reader.steps ∨
      ∃ block last, reader.block? = some block ∧ block.steps.getLast? = some last ∧
        step = f last := by
  rcases mem_steps_modifyBlock h with hold | ⟨block, hblock, hin⟩
  · exact .inl hold
  · rcases StepBlock.mem_steps_modifyLastStep hin with hold | ⟨last, hlast, rfl⟩
    · exact .inl (mem_steps_of_block? hblock hold)
    · exact .inr ⟨block, last, hblock, hlast, rfl⟩

theorem mem_steps_flush (h : step ∈ reader.flush.value.steps) : step ∈ reader.steps := by
  unfold flush at h
  split at h
  · exact h
  · exact mem_steps_modifyOutline (f := addRows _) h

/-! ## Lines outside doc-strings -/

/-- Every step was there with the same doc-string, or is the one of the line and has none. -/
def SparesDocStrings (reader after : Reader) : Prop :=
  ∀ step ∈ after.steps,
    (∃ old ∈ reader.steps, old.line = step.line ∧ old.docString = step.docString) ∨
      (step.line = reader.line ∧ step.docString = none)

theorem SparesDocStrings.of_subset (h : ∀ step ∈ after.steps, step ∈ reader.steps) :
    reader.SparesDocStrings after :=
  fun step hstep => .inl ⟨step, h step hstep, rfl, rfl⟩

/-- A header brings no steps. -/
theorem mem_steps_onHeader {text : String} {header : Header}
    (haccept : (reader.onHeader text header).fault = none)
    (h : step ∈ (reader.onHeader text header).reader.steps) : step ∈ reader.steps := by
  rcases onHeader_accepted haccept with ⟨-, hsame⟩ | ⟨feature, hfeature, hrest⟩
  · rw [hsame] at haccept h
    rw [(onFeature_accepted haccept).2] at h
    simp [steps, Feature.steps, Feature.blocks, Feature.sections, Section.blocks] at h
  rcases hrest with ⟨-, hsame⟩ | ⟨-, hsame⟩ | ⟨-, hsame⟩ | ⟨-, hsame⟩
  · rw [hsame] at h
    rw [steps, hfeature]
    simpa [onRule, accept, steps, hfeature, Feature.steps, Feature.blocks, Feature.sections,
      Feature.addRule, Section.blocks] using h
  · rw [hsame] at haccept h
    rw [(onBackground_accepted haccept).2] at h
    have hopened : step ∈ (reader.modifyActive ({ · with
        background := some (StepBlock.titled header reader.pendingTags reader.line) })).steps := h
    exact mem_steps_modifyActive (fun part step => part.mem_steps_setBackground rfl) hopened
  · rw [hsame] at haccept h
    rw [(onExamples_accepted haccept).2] at h
    exact mem_steps_modifyOutline (f := id) h
  · rw [hsame] at h
    have hopened : step ∈ (reader.modifyActive (·.addScenario
        { StepBlock.titled header reader.pendingTags reader.line with
          outline := if header.kind = .ScenarioOutline then some {} else none })).steps := h
    exact mem_steps_modifyActive (fun part step => part.mem_steps_addScenario rfl) hopened

/-- A row may change the last step, but not its doc-string. -/
theorem sparesDocStrings_onRow {cells : List String} (haccept : (reader.onRow cells).fault = none) :
    reader.SparesDocStrings (reader.onRow cells).reader := by
  unfold onRow at haccept ⊢
  cases hexamples : reader.examples with
  | some block => exact .of_subset fun step hstep => hstep
  | none =>
    simp only [hexamples] at haccept ⊢
    by_cases hprevious : reader.previous = .step ∨ reader.previous = .dataTableRow
    · rw [if_pos hprevious] at haccept ⊢
      rw [(onDataRow_accepted haccept).2]
      intro step hstep
      rcases mem_steps_modifyLastStep (f := (·.addRow cells)) hstep with
        hold | ⟨block, last, hblock, hlast, rfl⟩
      · exact .inl ⟨step, hold, rfl, rfl⟩
      · exact .inl ⟨last, mem_steps_of_block? hblock (List.mem_of_getLast? hlast), rfl, rfl⟩
    · rw [if_neg hprevious] at haccept ⊢
      rw [(onBareRow_accepted haccept).2]
      exact .of_subset fun step hstep =>
        mem_steps_modifyOutline (f := ({ · with missingKeyword := true })) hstep

theorem sparesDocStrings_onStep {text : String} {found : StepLine}
    (haccept : (reader.onStep text found).fault = none) :
    reader.SparesDocStrings (reader.onStep text found).reader := by
  rw [(onStep_accepted haccept).2]
  intro step hstep
  rcases mem_steps_modifyBlock (f := (·.addStep
      { keyword := found.kind, keywordText := found.keyword, details := found.details
        line := reader.line })) hstep with hold | ⟨block, hblock, hin⟩
  · exact .inl ⟨step, hold, rfl, rfl⟩
  · rcases StepBlock.mem_steps_addStep.1 hin with hold | rfl
    · exact .inl ⟨step, mem_steps_of_block? hblock hold, rfl, rfl⟩
    · exact .inr ⟨rfl, rfl⟩

theorem mem_steps_onProse {text : String} (h : step ∈ (reader.onProse text).reader.steps) :
    step ∈ reader.steps := by
  unfold onProse at h
  split at h
  · exact h
  split at h
  · exact mem_steps_modifyActive (f := (·.describe text)) (fun _ _ hstep => hstep) h
  · rcases mem_steps_modifyBlock (f := (·.describe text)) h with hold | ⟨block, hblock, hin⟩
    · exact hold
    · exact mem_steps_of_block? hblock hin

theorem sparesDocStrings_onForm {text trimmed : String} {form : LineForm}
    (haccept : (reader.onForm text trimmed form).fault = none) :
    reader.SparesDocStrings (reader.onForm text trimmed form).reader := by
  cases form with
  | comment comment =>
    apply SparesDocStrings.of_subset
    intro step hstep
    simp only [onForm, onComment] at hstep
    split at hstep <;> exact hstep
  | header header => exact .of_subset fun step => mem_steps_onHeader haccept
  | row cells => exact sparesDocStrings_onRow haccept
  | blank => exact .of_subset fun step hstep => hstep
  | tags tags => exact .of_subset fun step hstep => hstep
  | fence fence mediaType =>
    have hafter : (reader.onForm text trimmed (.fence fence mediaType)).reader = _ :=
      (onFence_accepted haccept).2
    rw [hafter]
    exact .of_subset fun step hstep => hstep
  | step found => exact sparesDocStrings_onStep haccept
  | prose => exact .of_subset fun step => mem_steps_onProse

theorem mem_steps_settle {form : LineForm} (h : step ∈ (reader.settle form).steps) :
    step ∈ reader.steps := by
  unfold settle at h
  split at h
  · exact h
  · exact mem_steps_flush h

/-- A line outside doc-strings spares those that are there. -/
theorem sparesDocStrings_read {text : String} (hdoc : reader.docString = none)
    (haccept : (reader.read text).fault = none) :
    ({ reader with line := reader.line + 1 } : Reader).SparesDocStrings
      (reader.read text).reader := by
  rw [read_fault_of_none hdoc, onLine_fault] at haccept
  rw [read_reader_of_none hdoc, onLine_reader]
  intro step hstep
  rcases sparesDocStrings_onForm haccept step hstep with ⟨old, hold, hsame⟩ | ⟨hline, hnone⟩
  · exact .inl ⟨old, mem_steps_settle hold, hsame⟩
  · rw [settle_line] at hline
    exact .inr ⟨hline, hnone⟩

/-! ## What the steps carry -/

/-- Each step carries what is told of its line. -/
def Holds (reader : Reader) (held : Nat → Option DocString) : Prop :=
  ∀ step ∈ reader.steps, step.docString = held step.line

/-- Nothing is told of lines to come, so a step that is read carries nothing. -/
theorem Holds.read_spared {held : Nat → Option DocString} (h : reader.Holds held)
    (hfresh : ∀ n, reader.line < n → held n = none) {text : String}
    (hdoc : reader.docString = none) (haccept : (reader.read text).fault = none) :
    (reader.read text).reader.Holds held := by
  intro step hstep
  rcases sparesDocStrings_read hdoc haccept step hstep with
    ⟨old, hold, hline, hsame⟩ | ⟨hline, hnone⟩
  · rw [← hsame, ← hline]
    exact h old hold
  · have hcounted : step.line = reader.line + 1 := hline
    rw [hnone, hfresh step.line (by omega)]

/-- Steps stand on different lines, all of them read. -/
theorem Rising.steps {last : Nat} (h : reader.Rising last) (hexamples : reader.examples = none) :
    (reader.steps.map (·.line)).Nodup ∧ ∀ step ∈ reader.steps, step.line ≤ last := by
  cases hfeature : reader.feature with
  | none => simp [Reader.steps, hfeature]
  | some feature =>
    have hrising := h.feature hexamples hfeature
    have hsteps : reader.steps = feature.steps := by simp [Reader.steps, hfeature]
    rw [hsteps]
    refine ⟨hrising.inSourceOrder.nodup.sublist feature.steps_lines_sublist, ?_⟩
    intro step hstep
    exact (hrising.counted _
      (feature.steps_lines_sublist.subset (List.mem_map_of_mem hstep))).2

/-- The closing fence writes the doc-string to the latest step. -/
theorem Holds.read_closed {held : Nat → Option DocString} {seen : List LineEntry}
    (h : reader.Holds held) (hkept : reader.Kept seen) (hrising : reader.Rising reader.line)
    {doc : OpenDocString} (hdoc : reader.docString = some doc) {text : String}
    (hclose : Text.trim text = doc.fence.text) :
    (reader.read text).reader.docString = none ∧
      ∃ line ≤ reader.line, latest? isStep seen = some line ∧
        (reader.read text).reader.Holds (hang (latest? isStep seen) doc.close held) := by
  have hopen : ({ reader with line := reader.line + 1 } : Reader).docString = some doc := hdoc
  have hafter : (reader.read text).reader =
      { ({ reader with line := reader.line + 1 } : Reader).modifyBlock
          (·.modifyLastStep ({ · with docString := some doc.close })) with
        docString := none, previous := .docString } := by
    rw [read_reader, take_of_some hopen, onDocString, if_pos hclose]
    rfl
  -- while a fence is open there is a step to hang the text on, and no table is open
  obtain ⟨hexamples, hstep⟩ := hkept.sound.fenced (by simp [hdoc])
  obtain ⟨block, last, hblock, hlast⟩ := exists_lastStep hstep
  have hline : last.line ≤ reader.line :=
    (hrising.steps hexamples).2 last (mem_steps_of_block? hblock (List.mem_of_getLast? hlast))
  -- steps are told from one another by their lines
  have hnodup : ((reader.read text).reader.steps.map (·.line)).Nodup := by
    have hnone : (reader.read text).reader.examples = none := by
      rw [hafter]
      exact (modifyBlock_examples _ _).trans hexamples
    exact ((hrising.read hkept.sound text).steps hnone).1
  have hchanged : ({ last with docString := some doc.close } : Step) ∈
      (reader.read text).reader.steps := by
    have hwritten : (reader.read text).reader.block? =
        some (block.modifyLastStep ({ · with docString := some doc.close })) := by
      rw [hafter]
      refine (block?_modifyBlock _ _).trans ?_
      exact congrArg (Option.map _) hblock
    refine mem_steps_of_block? hwritten (List.mem_of_getLast? ?_)
    rw [StepBlock.getLast?_modifyLastStep, hlast, Option.map_some]
  refine ⟨by rw [hafter], last.line, hline, hkept.booked.step block last hblock hlast, ?_⟩
  rw [hkept.booked.step block last hblock hlast]
  intro step hin
  by_cases hsame : step.line = last.line
  · -- no two steps stand on one line, so this is the step that has been written to
    obtain rfl := List.inj_on_of_nodup_map hnodup hin hchanged hsame
    rw [hang, if_pos rfl]
  · rw [hang, if_neg (by simpa using Ne.symm hsame)]
    rw [hafter] at hin
    rcases mem_steps_modifyLastStep (f := ({ · with docString := some doc.close })) hin with
      hold | ⟨other, step, hother, hend, rfl⟩
    · exact h step hold
    · obtain rfl := Option.some.inj (hblock.symm.trans hother)
      obtain rfl := Option.some.inj (hlast.symm.trans hend)
      exact absurd rfl hsame

/-! ## Runs -/

/-- What the steps carry once the lines to come have closed the doc-string that is open, if there
    is one. -/
def due (reader : Reader) (seen : List LineEntry) (lines : List String)
    (held : Nat → Option DocString) : Nat → Option DocString :=
  match reader.docString with
  | none => held
  | some doc =>
    let rest := lines.takeWhile (Text.trim · ≠ doc.fence.text)
    hang (latest? isStep seen)
      { content := "\n".intercalate (doc.lines ++ rest.map (doc.fence.content doc.indent))
        mediaType := doc.mediaType } held

theorem due_of_none (h : reader.docString = none) (seen : List LineEntry) (lines : List String)
    (held : Nat → Option DocString) : reader.due seen lines held = held := by
  rw [due, h]

section Line

variable {seen : List LineEntry} {text : String}

/-- An opening fence. What its doc-string will be is in the lines to come. -/
theorem due_fence (hdoc : reader.docString = none) {fence : Fence} {mediaType : Option String}
    (hform : reader.scanner.form? text = some (.fence fence mediaType))
    (haccept : (reader.read text).fault = none) (lines : List String)
    (held : Nat → Option DocString) :
    (reader.read text).reader.due (reader.scanner.entry text :: seen) lines held =
      hang (latest? isStep seen)
        { content := "\n".intercalate
            ((lines.takeWhile (Text.trim · ≠ fence.text)).map
              (fence.content (Text.indentOf text.toList)))
          mediaType := mediaType } held := by
  have hfence : reader.language.form (Text.trim text) = .fence fence mediaType :=
    Option.some.inj ((form?_of_none hdoc text).symm.trans hform)
  rw [read_fault_of_none hdoc, onLine_fault] at haccept
  have hopened : (reader.read text).reader.docString =
      some { fence, indent := Text.indentOf text.toList, mediaType, line := reader.line + 1 } := by
    rw [read_reader_of_none hdoc, onLine_reader]
    simp only [hfence] at haccept ⊢
    have hafter := (onFence_accepted haccept).2
    rw [settle_line] at hafter
    exact congrArg Reader.docString hafter
  have hlatest : latest? isStep (reader.scanner.entry text :: seen) = latest? isStep seen := by
    apply LineEntry.latest?_cons_of_false
    simp [isStep, Scanner.entry, hform]
  rw [due, hopened, hlatest]
  rfl

/-- A line of text inside a doc-string. -/
theorem due_text {doc : OpenDocString} (hdoc : reader.docString = some doc)
    (htext : Text.trim text ≠ doc.fence.text) (lines : List String)
    (held : Nat → Option DocString) :
    (reader.read text).reader.due (reader.scanner.entry text :: seen) lines held =
      reader.due seen (text :: lines) held := by
  have hopen : ({ reader with line := reader.line + 1 } : Reader).docString = some doc := hdoc
  have hgrown : (reader.read text).reader.docString =
      some { doc with lines := doc.lines ++ [doc.fence.content doc.indent text] } := by
    rw [read_reader, take_of_some hopen, onDocString, if_neg htext]
  have hlatest : latest? isStep (reader.scanner.entry text :: seen) = latest? isStep seen := by
    apply LineEntry.latest?_cons_of_false
    simp [isStep, Scanner.entry, form?_of_some hdoc]
  simp [due, hgrown, hdoc, hlatest, htext]

/-- The closing fence. -/
theorem due_close {doc : OpenDocString} (hdoc : reader.docString = some doc)
    (hclose : Text.trim text = doc.fence.text) (lines : List String)
    (held : Nat → Option DocString) :
    reader.due seen (text :: lines) held = hang (latest? isStep seen) doc.close held := by
  simp [due, hdoc, hclose, OpenDocString.close]

end Line

/-- What the steps carry now, what an open doc-string will add and what those to come will add: a
    line changes the parts, but not the whole. -/
theorem Holds.read {held : Nat → Option DocString} {seen : List LineEntry} (h : reader.Holds held)
    (hkept : reader.Kept seen) (hrising : reader.Rising reader.line)
    (hfresh : ∀ n, reader.line < n → held n = none) {text : String}
    (haccept : (reader.read text).fault = none) :
    ∃ after : Nat → Option DocString, (reader.read text).reader.Holds after ∧
      (∀ n, reader.line < n → after n = none) ∧
      ∀ lines, hangAll ((reader.read text).reader.scanner.docBlocks
          (reader.scanner.entry text :: seen) lines)
          ((reader.read text).reader.due (reader.scanner.entry text :: seen) lines after) =
        hangAll (reader.scanner.docBlocks seen (text :: lines))
          (reader.due seen (text :: lines) held) := by
  rw [scanner_read haccept]
  cases hdoc : reader.docString with
  | none =>
    refine ⟨held, h.read_spared hfresh hdoc haccept, hfresh, fun lines => ?_⟩
    rw [due_of_none hdoc, Scanner.docBlocks]
    split
    next fence mediaType hform =>
      rw [due_fence hdoc hform haccept]
      rfl
    next hother =>
      -- without a fence no doc-string is open afterwards
      have hclosed : (reader.read text).reader.docString = none := by
        have hform := form?_of_none hdoc text
        rw [read_fault_of_none hdoc, onLine_fault] at haccept
        rw [read_reader_of_none hdoc, onLine_reader]
        refine onForm_docString ?_ haccept ((settle_docString _ _).trans hdoc)
        rintro fence mediaType hfence
        exact hother fence mediaType (hform.trans (congrArg some hfence))
      rw [due_of_none hclosed]
  | some doc =>
    have hform := form?_of_some hdoc text
    have hlater (lines : List String) : reader.scanner.docBlocks seen (text :: lines) =
        (reader.scanner.next text).docBlocks (reader.scanner.entry text :: seen) lines := by
      simp only [Scanner.docBlocks, hform]
    simp only [hlater]
    by_cases hclose : Text.trim text = doc.fence.text
    · obtain ⟨hnone, last, hle, hlast, hheld⟩ := h.read_closed hkept hrising hdoc hclose
      refine ⟨_, hheld, fun n hlt => ?_, fun lines => ?_⟩
      · rw [hang, hlast, if_neg (by simp; omega)]
        exact hfresh n hlt
      · rw [due_of_none hnone, due_close hdoc hclose]
    · refine ⟨held, ?_, hfresh, fun lines => ?_⟩
      · have hopen : ({ reader with line := reader.line + 1 } : Reader).docString = some doc := hdoc
        rw [read_reader, take_of_some hopen, onDocString, if_neg hclose]
        exact h
      · rw [due_text hdoc hclose]

/-- When all lines are read and no doc-string is open, the steps carry those of the lines. -/
theorem Holds.readAll {held : Nat → Option DocString} {seen : List LineEntry}
    (h : reader.Holds held) (hkept : reader.Kept seen) (hrising : reader.Rising reader.line)
    (hfresh : ∀ n, reader.line < n → held n = none) {lines : List String}
    (haccept : (reader.readAll lines).fault = none)
    (hclosed : (reader.readAll lines).reader.docString = none) :
    (reader.readAll lines).reader.Holds
      (hangAll (reader.scanner.docBlocks seen lines) (reader.due seen lines held)) := by
  -- what the steps hold changes from line to line, so it is not fixed in the induction
  induction lines generalizing reader seen held with
  | nil =>
    have hnone : reader.docString = none := hclosed
    rw [due_of_none hnone]
    exact h
  | cons line lines ih =>
    unfold Reader.readAll at haccept hclosed ⊢
    cases hfault : (reader.read line).fault with
    | some fault => simp [hfault] at haccept
    | none =>
      simp only [hfault, Outcome.after] at haccept hclosed ⊢
      obtain ⟨after, hafter, hspare, hwhole⟩ := h.read hkept hrising hfresh hfault
      have hline := reader.read_line line
      rw [← hwhole]
      exact ih hafter (hkept.read hfault) (hrising.read hkept.sound line)
        (fun n hlt => hspare n (by omega)) haccept hclosed

/-! ## The steps that doc-strings hang on -/

/-- A doc-string is opened in a block that has steps, and the latest step is the last of them. -/
theorem Kept.exists_item_of_fence {seen : List LineEntry} (hkept : reader.Kept seen)
    {text : String} {fence : Fence} {mediaType : Option String}
    (hform : reader.scanner.form? text = some (.fence fence mediaType))
    (haccept : (reader.read text).fault = none) :
    ∃ container line said, latest? opensEntity seen = some container ∧
      latest? isStep seen = some line ∧ .step (some container) line said ∈ account seen := by
  have hdoc := docString_of_form? hform
  have hfence : reader.language.form (Text.trim text) = .fence fence mediaType :=
    Option.some.inj ((form?_of_none hdoc text).symm.trans hform)
  have hcounted : { reader with line := reader.line + 1 }.Booked seen :=
    hkept.booked.congr rfl rfl rfl
  have hbooked := hcounted.settle (hkept.sound.withLine _) (.fence fence mediaType)
  rw [read_fault_of_none hdoc, onLine_fault] at haccept
  simp only [hfence] at haccept
  obtain ⟨block, last, hblock, hlast⟩ := exists_lastStep (onFence_accepted haccept).1
  obtain ⟨feature, hfeature, hin⟩ := exists_mem_blocks_of_block? hblock
  have hentity := hbooked.entity
  rw [entityLine?_of_place (place_of_block? hblock), blockLine?, hblock, Option.map_some] at hentity
  refine ⟨block.line, last.line, last.said, hentity.symm, hbooked.step block last hblock hlast, ?_⟩
  apply hbooked.items.subset
  rw [written, hfeature, Option.toList_some, List.flatMap_singleton]
  exact List.mem_append_right _ (Feature.mem_items_step.2
    ⟨block, hin, last, List.mem_of_getLast? hlast, rfl, rfl, rfl⟩)

theorem Kept.exists_item_of_docBlock {seen : List LineEntry} (hkept : reader.Kept seen)
    {lines : List String} (haccept : (reader.readAll lines).fault = none) :
    ∀ block ∈ reader.scanner.docBlocks seen lines, ∃ container line said,
      latest? opensEntity block.before = some container ∧ block.step? = some line ∧
        .step (some container) line said ∈ account (reader.scanner.entries seen lines) := by
  induction lines generalizing reader seen with
  | nil => simp [Scanner.docBlocks]
  | cons line lines ih =>
    unfold Reader.readAll at haccept
    cases hfault : (reader.read line).fault with
    | some fault => simp [hfault] at haccept
    | none =>
      simp only [hfault, Outcome.after] at haccept
      have hlater := ih (hkept.read hfault) haccept
      rw [scanner_read hfault] at hlater
      rw [Scanner.docBlocks, Scanner.entries]
      split
      next fence mediaType hform =>
        rw [List.forall_mem_cons]
        refine ⟨?_, hlater⟩
        obtain ⟨container, step, said, hcontainer, hstep, hitem⟩ :=
          hkept.exists_item_of_fence hform hfault
        refine ⟨container, step, said, hcontainer, hstep, mem_account_entries ?_ lines⟩
        exact List.mem_append_right _ hitem
      next => exact hlater

end Reader

/-! ## Documents -/

/-- The blocks of a document that hold steps. -/
def blocksOf (feature : Option Feature) : List StepBlock := feature.toList.flatMap Feature.blocks

/-- The steps of a document. -/
def stepsOf (feature : Option Feature) : List Step := feature.toList.flatMap Feature.steps

theorem mem_items_step {feature : Option Feature} {container : Option Nat} {line : Nat}
    {said : StepLine} (h : .step container line said ∈ feature.toList.flatMap Feature.items) :
    ∃ block ∈ blocksOf feature, ∃ step ∈ block.steps,
      container = some block.line ∧ line = step.line := by
  obtain ⟨found, hfound, hitem⟩ := List.mem_flatMap.1 h
  obtain ⟨block, hblock, step, hstep, hcontainer, hline, -⟩ := Feature.mem_items_step.1 hitem
  exact ⟨block, List.mem_flatMap.2 ⟨found, hfound, hblock⟩, step, hstep, hcontainer, hline⟩

theorem mem_stepsOf {feature : Option Feature} {block : StepBlock}
    (hblock : block ∈ blocksOf feature) {step : Step} (hstep : step ∈ block.steps) :
    step ∈ stepsOf feature := by
  obtain ⟨found, hfound, hin⟩ := List.mem_flatMap.1 hblock
  exact List.mem_flatMap.2 ⟨found, hfound, List.mem_flatMap.2 ⟨block, hin, hstep⟩⟩

/-- Steps on different lines carry a doc-string just if one hangs on their line. So there are as
    many that do as there are lines that one hangs on. -/
theorem length_carriers {steps : List Step} {blocks : List DocBlock}
    (hnodup : (steps.map (·.line)).Nodup)
    (hheld : ∀ step ∈ steps, step.docString =
      (blocks.filter (·.step? = some step.line)).getLast?.map (·.docString))
    (hfound : ∀ block ∈ blocks, ∃ step ∈ steps, block.step? = some step.line) :
    (steps.filter (·.docString.isSome)).length = (blocks.map (·.step?)).dedup.length := by
  have hcarries : ∀ step ∈ steps, step.docString.isSome = true ↔
      ∃ block ∈ blocks, block.step? = some step.line := by
    intro step hstep
    rw [hheld step hstep, Option.isSome_map, List.getLast?_isSome]
    simp [List.filter_eq_nil_iff]
  have hlines : ((steps.filter (·.docString.isSome)).map fun step => some step.line).Nodup := by
    have hsome : (steps.map fun step => some step.line).Nodup := by
      simpa [Function.comp_def] using hnodup.map fun _ _ => Option.some.inj
    exact hsome.sublist (List.filter_sublist.map _)
  -- neither list repeats a line, so having the same members is enough
  have hperm : List.Perm ((steps.filter (·.docString.isSome)).map fun step => some step.line)
      (blocks.map (·.step?)).dedup := by
    rw [List.perm_ext_iff_of_nodup hlines (List.nodup_dedup _)]
    intro line?
    simp only [List.mem_map, List.mem_filter, List.mem_dedup]
    constructor
    · rintro ⟨step, ⟨hstep, hsome⟩, rfl⟩
      exact (hcarries step hstep).1 hsome
    · rintro ⟨block, hblock, rfl⟩
      obtain ⟨step, hstep, hline⟩ := hfound block hblock
      exact ⟨step, ⟨hstep, (hcarries step hstep).2 ⟨block, hblock, hline⟩⟩, hline.symm⟩
  rw [← hperm.length_eq, List.length_map]

/-- A doc-string that alone hangs on its step is the last one to hang there. -/
theorem getLast?_filter_of_nodup {blocks : List DocBlock}
    (hapart : (blocks.map (·.step?)).Nodup) {block : DocBlock} (hblock : block ∈ blocks)
    {line : Nat} (hline : block.step? = some line) :
    (blocks.filter (·.step? = some line)).getLast? = some block := by
  have hhangs : block ∈ blocks.filter (·.step? = some line) :=
    List.mem_filter.2 ⟨hblock, by simpa using hline⟩
  obtain ⟨last, hend⟩ := Option.isSome_iff_exists.1
    (List.getLast?_isSome.2 (List.ne_nil_of_mem hhangs))
  obtain ⟨hmem, hsame⟩ := List.mem_filter.1 (List.mem_of_getLast? hend)
  have honly : last = block := by
    refine List.inj_on_of_nodup_map hapart hmem hblock ?_
    exact (of_decide_eq_true hsame).trans hline.symm
  rw [hend, honly]

namespace ReadingMode

section Accepted

variable {mode : ReadingMode} {lines : List String} {feature : Option Feature}

theorem closed_of_readLines (h : (mode.readLines lines).value = .ok feature) :
    (mode.reader.readAll lines).reader.docString = none := by
  have haccept := (accepted_of_readLines h).1
  rw [readLines_value, haccept] at h
  cases hdoc : (mode.reader.readAll lines).reader.docString with
  | none => rfl
  | some doc => simp [Reader.finish_of_some hdoc] at h

/-- A doc-string hangs on the step that is last in the open block when it begins. -/
theorem exists_step_of_docBlock (h : (mode.readLines lines).value = .ok feature) {block : DocBlock}
    (hblock : block ∈ mode.scanner.docBlocks [] lines) :
    ∃ container ∈ blocksOf feature, ∃ step ∈ container.steps,
      latest? opensEntity block.before = some container.line ∧
        block.step? = some step.line := by
  have hstart : mode.reader.Kept [] := Reader.kept_start _
  have haccept := (accepted_of_readLines h).1
  have hitems : List.Perm (feature.toList.flatMap Feature.items)
      (account (mode.scanner.entries [] lines)) := by
    rw [readLines_value, haccept] at h
    exact (hstart.readAll haccept).finish h
  obtain ⟨container, line, said, hcontainer, hline, hitem⟩ :=
    hstart.exists_item_of_docBlock haccept block hblock
  obtain ⟨open?, hopen, step, hstep, hsame, rfl⟩ := mem_items_step (hitems.symm.subset hitem)
  obtain rfl := Option.some.inj hsame
  exact ⟨open?, hopen, step, hstep, hcontainer, hline⟩

/-- The steps of a document stand on different lines, and each of them carries the last of the
    doc-strings that hang on it. -/
theorem docString_of_mem_stepsOf (h : (mode.readLines lines).value = .ok feature) :
    ((stepsOf feature).map (·.line)).Nodup ∧
    ∀ step ∈ stepsOf feature, step.docString =
      ((mode.scanner.docBlocks [] lines).filter (·.step? = some step.line)).getLast?.map
        (·.docString) := by
  have hclosed := closed_of_readLines h
  obtain ⟨haccept, rfl⟩ := accepted_of_readLines h
  have hstart : mode.reader.Kept [] := Reader.kept_start _
  have hrising : mode.reader.Rising mode.reader.line := Reader.rising_start _
  have hsteps : stepsOf (mode.reader.readAll lines).reader.flush.value.feature =
      (mode.reader.readAll lines).reader.flush.value.steps := rfl
  rw [hsteps]
  constructor
  · have hflushed := (hstart.rising_readAll hrising haccept).flush
    exact (hflushed.steps (Reader.flush_examples _)).1
  · have hnone : mode.reader.Holds fun _ => none := by
      intro step hstep
      cases hstep
    have hall := hnone.readAll hstart hrising (fun _ _ => rfl) haccept hclosed
    intro step hstep
    have hcarried := hall step (Reader.mem_steps_flush hstep)
    rw [hangAll_eq] at hcarried
    rw [hcarried]
    exact Option.or_none

/-- Each doc-string of an accepted document hangs on the step that is last in the open block when
    it begins, and a step carries the last of those that hang on it. So no two of them may hang on
    one step if none is to be lost, and then none is. -/
theorem readLines_docStrings (h : (mode.readLines lines).value = .ok feature) :
    (∀ block ∈ mode.scanner.docBlocks [] lines,
      ∃ container ∈ blocksOf feature, ∃ step ∈ container.steps,
        latest? opensEntity block.before = some container.line ∧ block.step? = some step.line) ∧
    (∀ step ∈ stepsOf feature, step.docString =
      ((mode.scanner.docBlocks [] lines).filter (·.step? = some step.line)).getLast?.map
        (·.docString)) ∧
    ((stepsOf feature).filter (·.docString.isSome)).length =
      ((mode.scanner.docBlocks [] lines).map (·.step?)).dedup.length ∧
    (((mode.scanner.docBlocks [] lines).map (·.step?)).Nodup →
      ((stepsOf feature).filter (·.docString.isSome)).length =
          (mode.scanner.docBlocks [] lines).length ∧
        ∀ block ∈ mode.scanner.docBlocks [] lines, ∃ step ∈ stepsOf feature,
          block.step? = some step.line ∧ step.docString = some block.docString) := by
  obtain ⟨hnodup, hheld⟩ := docString_of_mem_stepsOf h
  have hfound : ∀ block ∈ mode.scanner.docBlocks [] lines, ∃ step ∈ stepsOf feature,
      block.step? = some step.line := by
    intro block hblock
    obtain ⟨container, hcontainer, step, hstep, -, hline⟩ := exists_step_of_docBlock h hblock
    exact ⟨step, mem_stepsOf hcontainer hstep, hline⟩
  have hcount := length_carriers hnodup hheld hfound
  refine ⟨fun block => exists_step_of_docBlock h, hheld, hcount, fun hapart => ⟨?_, ?_⟩⟩
  · rw [hcount, hapart.dedup, List.length_map]
  · intro block hblock
    obtain ⟨step, hstep, hline⟩ := hfound block hblock
    refine ⟨step, hstep, hline, ?_⟩
    rw [hheld step hstep, getLast?_filter_of_nodup hapart hblock hline, Option.map_some]

end Accepted

/-- Two steps with a doc-string each. The first one is behind tags and a comment, the second one
    holds the other fence. -/
theorem readLines_docStrings_kept :
    ∃ feature, (({} : ReadingMode).readLines
        ["Feature: f", "Scenario: s", "Given a", "@t", "# c", "  \"\"\"json", "   x", "\"\"\"",
          "Then b", "```", "\"\"\"", "```"]).value = .ok (some feature) ∧
      ((stepsOf (some feature)).filter (·.docString.isSome)).length = 2 ∧
      (∃ step ∈ stepsOf (some feature),
        step.line = 3 ∧ step.docString = some { content := " x", mediaType := some "json" }) ∧
      ∃ step ∈ stepsOf (some feature),
        step.line = 9 ∧ step.docString = some { content := "\"\"\"" } := by
  have hvalue : (({} : ReadingMode).readLines
      ["Feature: f", "Scenario: s", "Given a", "@t", "# c", "  \"\"\"json", "   x", "\"\"\"",
        "Then b", "```", "\"\"\"", "```"]).value.toOption.map (·.isSome) = some true := by
    decide +kernel
  obtain ⟨result, hread, hsome⟩ := exists_ok_of_map_toOption hvalue
  obtain ⟨feature, rfl⟩ := Option.isSome_iff_exists.1 hsome
  -- no doc-string is lost here, since none stands behind another on the same step
  obtain ⟨hcount, hkept⟩ := (readLines_docStrings hread).2.2.2 (by decide +kernel)
  have hblocks : (({} : ReadingMode).scanner.docBlocks []
      ["Feature: f", "Scenario: s", "Given a", "@t", "# c", "  \"\"\"json", "   x", "\"\"\"",
        "Then b", "```", "\"\"\"", "```"]).map (fun block => (block.step?, block.docString)) =
      [(some 3, { content := " x", mediaType := some "json" }),
        (some 9, { content := "\"\"\"" })] := by
    decide +kernel
  have hcarried : ∀ line doc, (some line, doc) ∈ (({} : ReadingMode).scanner.docBlocks []
      ["Feature: f", "Scenario: s", "Given a", "@t", "# c", "  \"\"\"json", "   x", "\"\"\"",
        "Then b", "```", "\"\"\"", "```"]).map (fun block => (block.step?, block.docString)) →
      ∃ step ∈ stepsOf (some feature), step.line = line ∧ step.docString = some doc := by
    intro line doc hmem
    obtain ⟨block, hblock, heq⟩ := List.mem_map.1 hmem
    obtain ⟨hline, rfl⟩ := Prod.mk.inj heq
    obtain ⟨step, hstep, hsame, hdoc⟩ := hkept block hblock
    exact ⟨step, hstep, Option.some.inj (hsame.symm.trans hline), hdoc⟩
  rw [hblocks] at hcarried
  refine ⟨feature, hread, ?_, hcarried 3 _ (by simp), hcarried 9 _ (by simp)⟩
  have hlength := congrArg List.length hblocks
  rw [List.length_map] at hlength
  rw [hcount, hlength]
  rfl

/-- Two doc-strings behind one step: the first one is nowhere in the document. -/
theorem readLines_docStrings_lost :
    ∃ feature, (({} : ReadingMode).readLines
        ["Feature: f", "Scenario: s", "Given a", "\"\"\"", "x", "\"\"\"", "\"\"\"", "y",
          "\"\"\""]).value = .ok (some feature) ∧
      (({} : ReadingMode).scanner.docBlocks []
        ["Feature: f", "Scenario: s", "Given a", "\"\"\"", "x", "\"\"\"", "\"\"\"", "y",
          "\"\"\""]).map (fun block => (block.step?, block.docString.content)) =
        [(some 3, "x"), (some 3, "y")] ∧
      (stepsOf (some feature)).map (fun step => (step.line, step.docString.map (·.content))) =
        [(3, some "y")] := by
  have hvalue : (({} : ReadingMode).readLines
      ["Feature: f", "Scenario: s", "Given a", "\"\"\"", "x", "\"\"\"", "\"\"\"", "y",
        "\"\"\""]).value.toOption.map (·.map fun feature =>
          (stepsOf (some feature)).map fun step => (step.line, step.docString.map (·.content))) =
      some (some [(3, some "y")]) := by
    decide +kernel
  obtain ⟨result, hread, hsome⟩ := exists_ok_of_map_toOption hvalue
  obtain ⟨feature, rfl, hsteps⟩ := Option.map_eq_some_iff.1 hsome
  exact ⟨feature, hread, by decide +kernel, hsteps⟩

end ReadingMode

end Gherkin
