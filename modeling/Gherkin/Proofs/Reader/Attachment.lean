/-
  Gherkin.Proofs.Reader.Attachment

  What hangs on the last step of the open block. A doc-string is written line by
  line behind its fence and comes back as its text, whatever the lines look
  like; the rows that follow a step come back as its table. All this holds of any
  indexed reader, also of one that no document leads to.
-/
import Gherkin.Reader.Indexed
import Gherkin.Proofs.Reader.Fence
import Gherkin.Proofs.Reader.Row

namespace Gherkin

/-! ## Tables -/

/-- The rows that are added one by one to a table. -/
theorem Step.foldl_addRow {step : Step} {table : DataTable} (h : step.dataTable = some table)
    (rows : List (List String)) :
    rows.foldl (fun step row => step.addRow row) step =
      { step with dataTable := some ⟨table.rows ++ rows⟩ } := by
  induction rows generalizing step table with
  | nil =>
    rw [List.append_nil, ← h]
    rfl
  | cons row rows ih =>
    have hrow : (step.addRow row).dataTable = some ⟨table.rows ++ [row]⟩ := by
      simp [addRow, DataTable.addRow, h]
    rw [List.foldl_cons, ih hrow]
    simp [addRow]

/-! ## Blocks under indices -/

namespace Feature

variable {feature : Feature} {rule : Option Nat}

theorem ruleAt?_modifyRuleAt (index : Nat) (f : Section → Section) (feature : Feature) :
    (feature.modifyRuleAt index f).ruleAt? (some index) =
      (feature.ruleAt? (some index)).map (·.modifySection f) := by
  simp [modifyRuleAt, ruleAt?]

theorem ruleAt?_modifySection (f : Section → Section) (feature : Feature) :
    (feature.modifySection f).ruleAt? rule = feature.ruleAt? rule := rfl

theorem scope_modifyScope (rule : Option Nat) (f : Section → Section) (feature : Feature) :
    (feature.modifyScope rule f).scope rule = f (feature.scope rule) := by
  cases rule with
  | none => rfl
  | some index =>
    unfold modifyScope
    by_cases hindex : index < feature.rules.length
    · simp only [if_pos hindex, scope, ruleAt?_modifyRuleAt]
      simp [ruleAt?, hindex, Rule.modifySection]
    · have hnone : feature.ruleAt? (some index) = none := by
        simp [ruleAt?, Nat.le_of_not_lt hindex]
      simp only [if_neg hindex, scope, ruleAt?_modifySection, hnone]
      rfl

theorem blockAt?_modifyBlockAt (f : StepBlock → StepBlock) (feature : Feature)
    (container : Container) :
    (feature.modifyBlockAt rule f container).blockAt? rule container =
      (feature.blockAt? rule container).map f := by
  cases container with
  | featureBackground => rfl
  | ruleBackground =>
    cases rule with
    | none => rfl
    | some index =>
      simp only [modifyBlockAt, blockAt?, ruleAt?_modifyRuleAt]
      cases feature.ruleAt? (some index) <;> rfl
  | scenario index =>
    simp only [modifyBlockAt, modifyScenarioAt, blockAt?, scope_modifyScope]
    simp [Scenario.modifyBlock, Function.comp_def]

/-- Blocks stay when a scenario changes in what is no part of its block. -/
theorem blockAt?_modifyScenarioAt {f : Scenario → Scenario}
    (hf : ∀ scenario, (f scenario).toStepBlock = scenario.toStepBlock) (index : Nat)
    (feature : Feature) (container : Container) :
    (feature.modifyScenarioAt rule index f).blockAt? rule container =
      feature.blockAt? rule container := by
  -- backgrounds stand beside the scenarios, and of these only one changes
  cases container with
  | featureBackground =>
    unfold modifyScenarioAt modifyScope
    cases rule with
    | none => rfl
    | some index =>
      simp only
      split <;> rfl
  | ruleBackground =>
    unfold modifyScenarioAt modifyScope
    cases rule with
    | none => rfl
    | some index =>
      simp only
      split
      · simp only [blockAt?, ruleAt?_modifyRuleAt]
        cases feature.ruleAt? (some index) <;> rfl
      · rfl
  | scenario other =>
    simp only [modifyScenarioAt, blockAt?, scope_modifyScope, List.getElem?_modify]
    cases (feature.scope rule).scenarios[other]? with
    | none => simp
    | some scenario =>
      by_cases hsame : index = other
      · simp [hsame, hf]
      · simp [hsame]

end Feature

namespace IndexedReader

variable {reader : IndexedReader}

theorem feature?_modifyFeature (f : Feature → Feature) (reader : IndexedReader) :
    (reader.modifyFeature f).feature? = reader.feature?.map f := by
  unfold modifyFeature feature?
  cases hindex : reader.cursor.feature <;> simp [hindex]

theorem cursor_modifyFeature (f : Feature → Feature) (reader : IndexedReader) :
    (reader.modifyFeature f).cursor = reader.cursor := by
  unfold modifyFeature
  split <;> rfl

theorem cursor_modifyBlock (f : StepBlock → StepBlock) (reader : IndexedReader) :
    (reader.modifyBlock f).cursor = reader.cursor := by
  unfold modifyBlock
  split
  · rfl
  · exact cursor_modifyFeature _ reader

theorem block?_modifyBlock (f : StepBlock → StepBlock) (reader : IndexedReader) :
    (reader.modifyBlock f).block? = reader.block?.map f := by
  unfold modifyBlock block?
  cases hcontainer : reader.cursor.container with
  | none => cases reader.feature? <;> simp [hcontainer]
  | some container =>
    simp only [feature?_modifyFeature, cursor_modifyFeature, hcontainer]
    cases reader.feature? with
    | none => rfl
    | some feature => exact Feature.blockAt?_modifyBlockAt f feature container

theorem block?_modifyScenario {f : Scenario → Scenario}
    (hf : ∀ scenario, (f scenario).toStepBlock = scenario.toStepBlock) (index : Nat)
    (reader : IndexedReader) : (reader.modifyScenario index f).block? = reader.block? := by
  unfold modifyScenario block?
  simp only [feature?_modifyFeature, cursor_modifyFeature]
  cases reader.feature? with
  | none => rfl
  | some feature =>
    cases hcontainer : reader.cursor.container with
    | none => rfl
    | some container => exact Feature.blockAt?_modifyScenarioAt hf index feature container

/-! ## The end of an examples table -/

theorem flush_cursor (reader : IndexedReader) :
    reader.flush.value.cursor = { reader.cursor with examples := none } := by
  unfold flush
  split
  next hnone =>
    rw [← hnone]
    rfl
  · simp only
    split
    · rfl
    · exact cursor_modifyFeature _ _

/-- The rows of an examples table are no part of a block. -/
theorem flush_block? (reader : IndexedReader) : reader.flush.value.block? = reader.block? := by
  unfold flush
  split
  · rfl
  next block _ =>
    have hkept : ∀ scenario : Scenario,
        (scenario.modifyOutline (Reader.addRows block.rows)).toStepBlock = scenario.toStepBlock :=
      fun _ => rfl
    simp only
    split
    · rfl
    · exact block?_modifyScenario hkept _ _

theorem flush_withLine (reader : IndexedReader) (line : Nat) :
    ({ reader with cursor := { reader.cursor with line } } : IndexedReader).flush.value =
      { reader.flush.value with cursor := { reader.flush.value.cursor with line } } := by
  unfold flush
  cases reader.cursor.examples with
  | none => rfl
  | some block =>
    simp only [scenarioAt, feature?]
    cases reader.cursor.feature.bind (reader.features[·]?) with
    | none => rfl
    | some feature =>
      cases hscenario : (feature.scope reader.cursor.rule).scenarios[block.target]? with
      | none => simp [hscenario]
      | some scenario =>
        simp only [hscenario, modifyScenario, modifyFeature]
        cases reader.cursor.feature <;> rfl

/-! ## The last step -/

/-- The last step of the open block. -/
def lastStep? (reader : IndexedReader) : Option Step := do (← reader.block?).steps.getLast?

theorem hasStep_eq (reader : IndexedReader) : reader.hasStep = reader.lastStep?.isSome := by
  unfold hasStep lastStep?
  cases reader.block? with
  | none => rfl
  | some block => cases hsteps : block.steps <;> simp [hsteps]

theorem lastStep?_modifyLastStep (f : Step → Step) (reader : IndexedReader) :
    (reader.modifyBlock (·.modifyLastStep f)).lastStep? = reader.lastStep?.map f := by
  unfold lastStep?
  rw [block?_modifyBlock]
  cases reader.block? with
  | none => rfl
  | some block => exact getLast?_modify_length_sub_one f block.steps

theorem lastStep?_addStep {step : Step} (h : reader.block?.isSome) :
    (reader.modifyBlock (·.addStep step)).lastStep? = some step := by
  obtain ⟨block, hblock⟩ := Option.isSome_iff_exists.1 h
  simp [lastStep?, block?_modifyBlock, hblock, StepBlock.addStep]

/-! ## Lines that are accepted -/

/-- The reader that has counted a line. -/
def counted (reader : IndexedReader) : IndexedReader :=
  { reader with cursor := { reader.cursor with line := reader.cursor.line + 1 } }

/-- The lines are accepted, and this is the reader after them. -/
structure Reads (reader : IndexedReader) (lines : List String) (after : IndexedReader) : Prop where
  fault : (reader.readAll lines).fault = none
  reader : (reader.readAll lines).reader = after

theorem Reads.nil (reader : IndexedReader) : reader.Reads [] reader := ⟨rfl, rfl⟩

theorem read_fault (reader : IndexedReader) (text : String) :
    (reader.read text).fault = (reader.counted.take text).fault := by
  unfold read
  simp only [counted]
  split
  · rfl
  · rfl

theorem read_reader (reader : IndexedReader) (text : String) :
    (reader.read text).reader = (reader.counted.take text).reader := by
  unfold read
  simp only [counted]
  split <;> rfl

theorem Reads.of_read {text : String} (h : (reader.read text).fault = none) :
    reader.Reads [text] (reader.read text).reader := by
  constructor <;> simp only [readAll, h, Outcome.after]

theorem Reads.of_take {text : String} (h : (reader.counted.take text).fault = none) :
    reader.Reads [text] (reader.counted.take text).reader := by
  rw [← read_fault] at h
  rw [← read_reader]
  exact .of_read h

theorem Reads.append {middle after : IndexedReader} {lines more : List String}
    (h : reader.Reads lines middle) (hmore : middle.Reads more after) :
    reader.Reads (lines ++ more) after := by
  induction lines generalizing reader with
  | nil =>
    obtain ⟨-, rfl⟩ := h
    exact hmore
  | cons line lines ih =>
    obtain ⟨hfault, hreader⟩ := h
    simp only [readAll] at hfault hreader
    cases hline : (reader.read line).fault with
    | some fault => simp [hline] at hfault
    | none =>
      simp only [hline, Outcome.after] at hfault hreader
      obtain ⟨hlater, hafter⟩ := ih ⟨hfault, hreader⟩
      constructor <;> simpa only [List.cons_append, readAll, hline, Outcome.after]

/-- A change of the cursor that leaves the block open leaves what is done to the block. -/
theorem modifyBlock_withCursor {cursor : Cursor} (hfeature : cursor.feature = reader.cursor.feature)
    (hrule : cursor.rule = reader.cursor.rule)
    (hcontainer : cursor.container = reader.cursor.container) (f : StepBlock → StepBlock) :
    ({ reader with cursor } : IndexedReader).modifyBlock f =
      { reader.modifyBlock f with cursor } := by
  unfold modifyBlock modifyFeature
  simp only [hfeature, hrule, hcontainer]
  cases reader.cursor.container with
  | none => rfl
  | some container => cases reader.cursor.feature <;> rfl

theorem lastStep?_withCursor {cursor : Cursor} (hfeature : cursor.feature = reader.cursor.feature)
    (hrule : cursor.rule = reader.cursor.rule)
    (hcontainer : cursor.container = reader.cursor.container) :
    ({ reader with cursor } : IndexedReader).lastStep? = reader.lastStep? := by
  simp only [lastStep?, block?, feature?, hfeature, hrule, hcontainer]

/-! ## Doc-strings -/

/-- The reader inside a doc-string, or outside all of them. -/
def withDocString (doc : Option OpenDocString) (reader : IndexedReader) : IndexedReader :=
  { reader with cursor := { reader.cursor with docString := doc } }

section DocString

variable {fence : Fence} {pad media : String} {doc : OpenDocString}

/-- The opening fence ends an open examples table. -/
theorem reads_fence (fence : Fence) (hdoc : reader.cursor.docString = none)
    (hstep : reader.hasStep = true) (hblank : ∀ c ∈ pad.toList, Text.isBlank c = true)
    (hmedia : Text.trim media = media) :
    reader.Reads [pad ++ fence.text ++ media]
      (reader.counted.flush.value.withDocString
        (some
          { fence, indent := Text.byteLength pad.toList, mediaType := nonempty? media
            line := reader.cursor.line + 1 })) := by
  have hform := fence.form_open hblank hmedia reader.language
  -- the end of the table leaves the blocks and their steps as they are
  have hopen : reader.counted.flush.value.hasStep = true := by
    rw [hasStep, flush_block?]
    exact hstep
  have hline : reader.counted.flush.value.cursor.line = reader.cursor.line + 1 := by
    rw [flush_cursor]
    rfl
  have htake : reader.counted.take (pad ++ fence.text ++ media) =
      (reader.counted.flush.value.onFence (pad ++ fence.text ++ media) fence
        (nonempty? media)).after reader.counted.flush.notices := by
    have hclosed : reader.counted.cursor.docString = none := hdoc
    have hlanguage : reader.counted.language = reader.language := rfl
    simp only [take, hclosed, onLine, hlanguage, hform]
    rfl
  have haccept : (reader.counted.flush.value.onFence (pad ++ fence.text ++ media) fence
      (nonempty? media)).fault = none := by
    rw [onFence, if_pos hopen]
  have hreader : (reader.counted.flush.value.onFence (pad ++ fence.text ++ media) fence
      (nonempty? media)).reader =
        reader.counted.flush.value.withDocString
          (some
            { fence, indent := Text.byteLength pad.toList, mediaType := nonempty? media
              line := reader.cursor.line + 1 }) := by
    rw [onFence, if_pos hopen, Fence.indentOf_fence hblank, hline]
    rfl
  have hreads := @Reads.of_take reader (pad ++ fence.text ++ media)
  rw [htake] at hreads
  rw [← hreader]
  exact hreads haccept

/-- A line of text. -/
theorem reads_text (hdoc : reader.cursor.docString = some doc)
    (hblank : ∀ c ∈ pad.toList, Text.isBlank c = true)
    (hindent : doc.indent = Text.byteLength pad.toList) {text : String}
    (hfree : ¬ doc.fence.escaped <:+: text.toList) :
    reader.Reads [pad ++ doc.fence.write text]
      (reader.counted.withDocString (some { doc with lines := doc.lines ++ [text] })) := by
  have hopen : reader.counted.cursor.docString = some doc := hdoc
  have htake : reader.counted.take (pad ++ doc.fence.write text) =
      { reader := reader.counted.withDocString
          (some { doc with lines := doc.lines ++ [text] }) } := by
    simp only [take, hopen, onDocString]
    rw [if_neg (Fence.trim_write_ne hblank text), hindent, Fence.content_write hblank hfree]
    rfl
  have hreads := @Reads.of_take reader (pad ++ doc.fence.write text)
  rw [htake] at hreads
  exact hreads rfl

theorem reads_texts (hdoc : reader.cursor.docString = some doc)
    (hblank : ∀ c ∈ pad.toList, Text.isBlank c = true)
    (hindent : doc.indent = Text.byteLength pad.toList) {texts : List String}
    (hfree : ∀ text ∈ texts, ¬ doc.fence.escaped <:+: text.toList) :
    reader.Reads (texts.map (pad ++ doc.fence.write ·))
      { reader with
        cursor :=
          { reader.cursor with
            docString := some { doc with lines := doc.lines ++ texts }
            line := reader.cursor.line + texts.length } } := by
  -- the doc-string grows from line to line, so it is not fixed in the induction
  induction texts generalizing reader doc with
  | nil =>
    have hsame : some { doc with lines := doc.lines ++ [] } = reader.cursor.docString := by
      rw [hdoc, List.append_nil]
    rw [hsame]
    exact .nil reader
  | cons text texts ih =>
    obtain ⟨htext, htexts⟩ := List.forall_mem_cons.1 hfree
    have hfirst := reads_text hdoc hblank hindent htext
    have hrest := @ih (reader.counted.withDocString
      (some { doc with lines := doc.lines ++ [text] })) { doc with lines := doc.lines ++ [text] }
      rfl hindent htexts
    have hboth := hfirst.append hrest
    simpa [withDocString, counted, Nat.add_assoc, Nat.add_comm 1] using hboth

/-- The closing fence. -/
theorem reads_close (hdoc : reader.cursor.docString = some doc)
    (hblank : ∀ c ∈ pad.toList, Text.isBlank c = true) :
    reader.Reads [pad ++ doc.fence.text]
      (((reader.counted.withDocString none).modifyBlock
        (·.modifyLastStep ({ · with docString := some doc.close }))).accept .docString).reader := by
  have hopen : reader.counted.cursor.docString = some doc := hdoc
  have htake : reader.counted.take (pad ++ doc.fence.text) =
      ((reader.counted.withDocString none).modifyBlock
        (·.modifyLastStep ({ · with docString := some doc.close }))).accept .docString := by
    simp only [take, hopen, onDocString]
    rw [if_pos (Fence.trim_close hblank)]
    rfl
  have hreads := @Reads.of_take reader (pad ++ doc.fence.text)
  rw [htake] at hreads
  exact hreads rfl

/-- The lines of a doc-string, its fences included. -/
theorem reads_docString (fence : Fence) {texts : List String}
    (hdoc : reader.cursor.docString = none) (hstep : reader.hasStep = true)
    (hblank : ∀ c ∈ pad.toList, Text.isBlank c = true) (hmedia : Text.trim media = media)
    (hfree : ∀ text ∈ texts, ¬ fence.escaped <:+: text.toList) :
    reader.Reads
      ([pad ++ fence.text ++ media] ++ texts.map (pad ++ fence.write ·) ++ [pad ++ fence.text])
      { reader.flush.value.modifyBlock
          (·.modifyLastStep
            ({ · with docString := some ⟨"\n".intercalate texts, nonempty? media⟩ })) with
        cursor :=
          { reader.cursor with
            examples := none, docString := none, previous := .docString
            line := reader.cursor.line + texts.length + 2 } } := by
  generalize hdocument : ({ fence, indent := Text.byteLength pad.toList
                            mediaType := nonempty? media
                            line := reader.cursor.line + 1 } : OpenDocString) = doc
  have hfence : doc.fence = fence := by rw [← hdocument]
  have hindent : doc.indent = Text.byteLength pad.toList := by rw [← hdocument]
  have hempty : doc.lines = [] := by rw [← hdocument]
  have htype : doc.mediaType = nonempty? media := by rw [← hdocument]
  have hopen := reads_fence fence hdoc hstep hblank hmedia
  rw [hdocument] at hopen
  generalize hopened : reader.counted.flush.value.withDocString (some doc) = opened at hopen
  have hinside : opened.cursor.docString = some doc := by rw [← hopened]; rfl
  subst hfence
  have htexts := @reads_texts opened pad doc hinside hblank hindent texts hfree
  generalize hwritten : ({ opened with
    cursor :=
      { opened.cursor with
        docString := some { doc with lines := doc.lines ++ texts }
        line := opened.cursor.line + texts.length } } : IndexedReader) = written at htexts
  have hclose := @reads_close written pad { doc with lines := doc.lines ++ texts }
    (by rw [← hwritten]) hblank
  have hcontent : ({ doc with lines := doc.lines ++ texts } : OpenDocString).close =
      ⟨"\n".intercalate texts, nonempty? media⟩ := by
    simp [OpenDocString.close, hempty, htype]
  -- the lines of text have changed nothing but what the cursor says of the doc-string
  have hclosed : written.counted.withDocString none =
      { reader.flush.value with
        cursor :=
          { reader.cursor with
            examples := none
            docString := none
            line := reader.cursor.line + texts.length + 2 } } := by
    subst hwritten hopened
    simp only [withDocString, counted, flush_withLine, flush_cursor]
    congr 2
    omega
  rw [hcontent, hclosed, modifyBlock_withCursor (by rw [flush_cursor]) (by rw [flush_cursor])
    (by rw [flush_cursor])] at hclose
  exact (hopen.append htexts).append hclose

/-- A doc-string is written behind blanks, with the fences in its lines escaped. Wherever there is
    a step to hang it on, it is read as its text, whatever the lines look like: the last step gets
    it, an examples table ends that was open, and all else stays. -/
theorem readAll_docString {texts : List String} (hdoc : reader.cursor.docString = none)
    (hstep : reader.hasStep = true) (hblank : ∀ c ∈ pad.toList, Text.isBlank c = true)
    (hmedia : Text.trim media = media)
    (hfree : ∀ text ∈ texts, ¬ fence.escaped <:+: text.toList) :
    ∃ step doc outcome, reader.lastStep? = some step ∧
      doc.content = "\n".intercalate texts ∧
      doc.mediaType = (if media = "" then none else some media) ∧
      reader.readAll
        ([pad ++ fence.text ++ media] ++ texts.map (pad ++ fence.write ·) ++ [pad ++ fence.text]) =
          outcome ∧
      outcome.fault = none ∧
      outcome.reader.lastStep? = some { step with docString := some doc } ∧
      outcome.reader =
        { reader.flush.value.modifyBlock
            (·.modifyLastStep ({ · with docString := some doc })) with
          cursor :=
            { reader.cursor with
              examples := none, docString := none, previous := .docString
              line := reader.cursor.line + texts.length + 2 } } := by
  obtain ⟨step, hlast⟩ := Option.isSome_iff_exists.1 ((hasStep_eq reader).symm.trans hstep)
  obtain ⟨hfault, hreader⟩ := reads_docString fence hdoc hstep hblank hmedia hfree
  refine ⟨step, ⟨"\n".intercalate texts, nonempty? media⟩, _, hlast, rfl, ?_, rfl, hfault, ?_,
    hreader⟩
  · simp [nonempty?]
  -- a table that was open ends at the fence, which leaves the last step as it is
  · have hblock : reader.flush.value.lastStep? = reader.lastStep? := by
      rw [lastStep?, flush_block?]
      rfl
    have hhung := lastStep?_modifyLastStep
      ({ · with docString := some ⟨"\n".intercalate texts, nonempty? media⟩ }) reader.flush.value
    rw [hblock, hlast] at hhung
    rw [hreader]
    refine (lastStep?_withCursor ?_ ?_ ?_).trans hhung <;> rw [cursor_modifyBlock, flush_cursor]

/-- Behind a blank of three bytes, in an outline with an open examples table: text that looks like
    fences, a comment, tags and rows. -/
theorem readAll_docString_outline :
    ∃ reader outcome, reader = (ofLanguage "en").value.readEach
        ["Feature: f", "Scenario Outline: s", "Given a", "Examples:", "|x|", "|1|"] ∧
      reader.readAll
        ["\u3000\"\"\"json", "\u3000# \\\"\\\"\\\"\"\"", "\u3000\\\\\"\\\"\\\" ```", "\u3000",
          "\u3000 @t |1|", "\u3000\"\"\""] = outcome ∧
      outcome.fault = none ∧
      outcome.reader.cursor.docString = none ∧
      outcome.reader.lastStep?.bind (·.docString) =
        some
          { content := "# \"\"\"\"\"\n\\\"\"\" ```\n\n @t |1|"
            mediaType := some "json" } := by
  obtain ⟨step, doc, outcome, -, hcontent, htype, houtcome, hfault, hlast, hreader⟩ :=
    @readAll_docString
      ((ofLanguage "en").value.readEach
        ["Feature: f", "Scenario Outline: s", "Given a", "Examples:", "|x|", "|1|"])
      .quotes "\u3000" "json" ["# \"\"\"\"\"", "\\\"\"\" ```", "", " @t |1|"]
      (by decide +kernel) (by decide +kernel) (by simp; decide) (by decide +kernel)
      (by decide +kernel)
  refine ⟨_, outcome, rfl, ?_, hfault, ?_, ?_⟩
  · rw [← houtcome]
    congr 1
  · rw [hreader]
  · obtain ⟨content, mediaType⟩ := doc
    simp only at hcontent htype
    rw [hlast, hcontent, htype]
    have hlines : "\n".intercalate ["# \"\"\"\"\"", "\\\"\"\" ```", "", " @t |1|"] =
        "# \"\"\"\"\"\n\\\"\"\" ```\n\n @t |1|" := by
      decide +kernel
    rw [hlines]
    rfl

end DocString

/-! ## Rows under a step -/

/-- The next row belongs to this step. -/
structure TakesRows (reader : IndexedReader) (step : Step) : Prop where
  examples : reader.cursor.examples = none
  docString : reader.cursor.docString = none
  previous : reader.cursor.previous = .step ∨ reader.cursor.previous = .dataTableRow
  last : reader.lastStep? = some step

/-- After a step that is accepted, rows belong to it. -/
theorem takesRows_read {text : String} {found : StepLine} (hdoc : reader.cursor.docString = none)
    (hform : reader.language.form (Text.trim text) = .step found)
    (haccept : (reader.read text).fault = none) :
    (reader.read text).reader.TakesRows
      { keyword := found.kind, keywordText := found.keyword, details := found.details
        line := reader.cursor.line + 1 } := by
  have htake : reader.counted.take text =
      (reader.counted.flush.value.onStep (Text.trim text) found).after
        reader.counted.flush.notices := by
    have hclosed : reader.counted.cursor.docString = none := hdoc
    have hlanguage : reader.counted.language = reader.language := rfl
    simp only [take, hclosed, onLine, hlanguage, hform]
    rfl
  have hline : reader.counted.flush.value.cursor.line = reader.cursor.line + 1 := by
    rw [flush_cursor]
    rfl
  rw [read_fault, htake] at haccept
  rw [read_reader, htake]
  -- a step is refused without a feature, without a block, or by a background that does not allow
  -- its keyword
  simp only [Outcome.after, onStep, hline] at haccept ⊢
  split at haccept
  · cases haccept
  next hfeature =>
  split at haccept
  · cases haccept
  next hblock =>
  split at haccept
  · cases haccept
  next hallowed =>
  rw [if_neg hfeature, if_neg hblock, if_neg hallowed]
  have hopen : reader.counted.flush.value.block?.isSome :=
    Option.isSome_iff_ne_none.2 (by simpa using hblock)
  constructor
  · simp only [accept, cursor_modifyBlock, flush_cursor]
  · simp only [accept, cursor_modifyBlock, flush_cursor]
    exact hdoc
  · exact .inl rfl
  · exact (lastStep?_withCursor rfl rfl rfl).trans (lastStep?_addStep hopen)

/-- A row goes under the step. -/
theorem TakesRows.reads_row {step : Step} (h : reader.TakesRows step) (row : List PaddedCell) :
    ∃ after, reader.Reads [Row.write row] after ∧
      after.TakesRows (step.addRow (row.map (·.text))) := by
  have hstep : reader.counted.hasStep = true := by
    rw [hasStep_eq]
    exact Option.isSome_iff_exists.2 ⟨step, h.last⟩
  have htake : reader.counted.take (Row.write row) =
      ((reader.counted.modifyBlock (·.modifyLastStep (·.addRow (row.map (·.text))))).accept
        .dataTableRow).after [] := by
    have hclosed : reader.counted.cursor.docString = none := h.docString
    have hexamples : reader.counted.cursor.examples = none := h.examples
    have hlanguage : reader.counted.language = reader.language := rfl
    have hprevious : reader.counted.cursor.previous = .step ∨
        reader.counted.cursor.previous = .dataTableRow := h.previous
    simp only [take, hclosed, onLine, hlanguage, Row.form_write, keepsExamples, if_true]
    simp only [onForm, pure, onRow, hexamples, if_pos hprevious, onDataRow, if_pos hstep]
  refine ⟨_, .of_take (by rw [htake]; rfl), ?_⟩
  rw [htake]
  constructor
  · simp only [Outcome.after, accept, cursor_modifyBlock]
    exact h.examples
  · simp only [Outcome.after, accept, cursor_modifyBlock]
    exact h.docString
  · exact .inr rfl
  · have hadded := lastStep?_modifyLastStep (·.addRow (row.map (·.text))) reader.counted
    have hlast : reader.counted.lastStep? = some step := h.last
    rw [hlast] at hadded
    exact (lastStep?_withCursor rfl rfl rfl).trans hadded

theorem TakesRows.reads_rows {step : Step} (h : reader.TakesRows step)
    (rows : List (List PaddedCell)) :
    ∃ after, reader.Reads (rows.map Row.write) after ∧
      after.TakesRows
        ((rows.map (·.map (·.text))).foldl (fun step row => step.addRow row) step) := by
  induction rows generalizing reader step with
  | nil => exact ⟨reader, .nil reader, h⟩
  | cons row rows ih =>
    obtain ⟨middle, hrow, hmiddle⟩ := h.reads_row row
    obtain ⟨after, hrows, hafter⟩ := ih hmiddle
    exact ⟨after, hrow.append hrows, hafter⟩

/-- Written rows are read as the cells that were written. Right after a step that is accepted they
    are its table, row by row. -/
theorem readAll_dataTable (rows : List (List PaddedCell)) :
    (∀ row ∈ rows, Row.cells (Row.write row) = row.map (·.text)) ∧
      ∀ {reader : IndexedReader} {text : String} {found : StepLine},
        reader.cursor.docString = none →
        reader.language.form (Text.trim text) = .step found →
        (reader.read text).fault = none → rows ≠ [] →
        ∃ outcome, reader.readAll (text :: rows.map Row.write) = outcome ∧
          outcome.fault = none ∧
          outcome.reader.lastStep? =
            some
              { keyword := found.kind, keywordText := found.keyword, details := found.details
                line := reader.cursor.line + 1
                dataTable := some ⟨rows.map (·.map (·.text))⟩ } := by
  refine ⟨fun row _ => Row.cells_write row, ?_⟩
  intro reader text found hdoc hform haccept hrows
  obtain ⟨row, later, rfl⟩ := List.exists_cons_of_ne_nil hrows
  obtain ⟨after, hreads, htakes⟩ := (takesRows_read hdoc hform haccept).reads_rows (row :: later)
  obtain ⟨hfault, hreader⟩ := (Reads.of_read haccept).append hreads
  refine ⟨_, rfl, hfault, ?_⟩
  have htable := htakes.last
  -- the first row opens the table and the others are added to it
  rw [List.map_cons, List.foldl_cons, Step.foldl_addRow rfl] at htable
  exact (congrArg lastStep? hreader).trans htable

/-- Cells with bars and backslashes, an empty cell at the end, and a row without cells. -/
theorem readAll_dataTable_escapes :
    ∃ outcome, ((ofLanguage "en").value.readEach ["Feature: f", "Scenario: s"]).readAll
        ["Given a", "| a\\|b ||", "|\\\\\t|\\\\n|", "|"] = outcome ∧
      outcome.fault = none ∧
      outcome.reader.lastStep?.bind (·.dataTable) =
        some ⟨[["a|b", ""], ["\\", "\\n"], []]⟩ := by
  have hread : (((ofLanguage "en").value.readEach ["Feature: f", "Scenario: s"]).read
      "Given a").fault = none := by
    decide +kernel
  obtain ⟨-, htable⟩ := readAll_dataTable
    [[⟨" ", "a|b", " ", by simp; decide, by simp; decide, by decide⟩,
        ⟨"", "", "", by simp, by simp, by decide⟩],
      [⟨"", "\\", "\t", by simp, by simp; decide, by decide⟩,
        ⟨"", "\\n", "", by simp, by simp, by decide⟩], []]
  obtain ⟨outcome, houtcome, hfault, hlast⟩ :=
    @htable ((ofLanguage "en").value.readEach ["Feature: f", "Scenario: s"]) "Given a"
      ⟨.Given, "Given", "a"⟩ (by decide +kernel) (by decide +kernel) hread (by decide)
  refine ⟨outcome, ?_, hfault, ?_⟩
  · rw [← houtcome]
    congr 1
  · rw [hlast]
    rfl

end IndexedReader

end Gherkin
