/-
  Gherkin.Proofs.Reader.Order

  Lines are recorded in the order in which they are read. Every line is counted
  before it is taken, so what a transition adds is behind all that is recorded;
  the rows of an open examples table count as recorded in their outline, which
  they join when the table ends.
-/
import Gherkin.Proofs.Document.Order
import Gherkin.Proofs.Reader.Placement

namespace Gherkin

/-! ## Changes made one after the other -/

theorem Section.modifyLastScenario_comp (f g : Scenario → Scenario) (part : Section) :
    (part.modifyLastScenario f).modifyLastScenario g = part.modifyLastScenario (g ∘ f) := by
  simp only [modifyLastScenario, List.length_modify, List.modify_modify_eq]

theorem Feature.modifyActive_comp (f g : Section → Section) (feature : Feature) :
    (feature.modifyActive f).modifyActive g = feature.modifyActive (g ∘ f) := by
  unfold modifyActive
  cases hrules : feature.rules.isEmpty with
  | true => simp [modifySection, List.isEmpty_iff.1 hrules]
  | false =>
    have hmodify : ((feature.rules.modify (feature.rules.length - 1)
        (·.modifySection f)).isEmpty = true) = False := by
      simpa [List.modify_eq_nil_iff] using hrules
    simp only [Bool.false_eq_true, if_false, hmodify, List.length_modify, List.modify_modify_eq]
    rfl

namespace Reader

variable {reader : Reader} {last : Nat}

theorem modifyScenario_comp (f g : Scenario → Scenario) (reader : Reader) :
    (reader.modifyScenario f).modifyScenario g = reader.modifyScenario (g ∘ f) := by
  unfold modifyScenario modifyActive
  cases hfeature : reader.feature with
  | none => simp
  | some feature =>
    simp only [Option.map_some, Feature.modifyActive_comp]
    congr
    funext part
    exact Section.modifyLastScenario_comp f g part

/-- What changes the last step but its line leaves the lines of a block alone. -/
theorem lines_modifyLastStep {f : Step → Step} (hf : ∀ step, (f step).line = step.line)
    (block : StepBlock) : (block.modifyLastStep f).lines = block.lines := by
  have hsteps : (block.modifyLastStep f).steps.map (·.line) = block.steps.map (·.line) := by
    rcases List.eq_nil_or_concat block.steps with hnil | ⟨steps, step, hlast⟩
    · rw [StepBlock.modifyLastStep, hnil]
      rfl
    · rw [StepBlock.modifyLastStep, hlast, List.concat_eq_append, List.length_append,
        List.length_singleton, Nat.add_sub_cancel, modify_length_append_singleton]
      simp [hf]
  rw [StepBlock.lines, StepBlock.lines, hsteps]
  rfl

/-! ## The recorded lines -/

/-- The lines of the document rise up to the last one. The rows of an open examples table count
    as rows of the outline they belong to. -/
def Rising (reader : Reader) (last : Nat) : Prop :=
  ∀ feature, reader.flush.value.feature = some feature → feature.Rising last

/-- Before the first line there are none. -/
theorem rising_start (language : Language) : ({ language } : Reader).Rising 0 := by
  rintro feature ⟨⟩

theorem flush_of_none (h : reader.examples = none) : reader.flush.value = reader := by
  rw [flush, h]
  rfl

theorem flush_feature {block : ExamplesBlock} (h : reader.examples = some block) :
    reader.flush.value.feature =
      (reader.modifyScenario (·.modifyOutline (addRows block.rows))).feature := by
  rw [flush, h]

namespace Rising

theorem of_feature (hexamples : reader.examples = none)
    (h : ∀ feature, reader.feature = some feature → feature.Rising last) :
    reader.Rising last := by
  rwa [Rising, flush_of_none hexamples]

theorem feature (h : reader.Rising last) (hexamples : reader.examples = none) {feature : Feature}
    (hfeature : reader.feature = some feature) : feature.Rising last := by
  rw [Rising, flush_of_none hexamples] at h
  exact h feature hfeature

theorem mono (h : reader.Rising last) {line : Nat} (hle : last ≤ line) : reader.Rising line :=
  fun feature hfeature => (h feature hfeature).mono hle

/-- Only the document and the open table count. -/
theorem congr (h : reader.Rising last) {other : Reader} (hfeature : other.feature = reader.feature)
    (hexamples : other.examples = reader.examples) : other.Rising last := by
  have hsame : other.flush.value.feature = reader.flush.value.feature := by
    unfold Reader.flush
    rw [hexamples]
    split
    · exact hfeature
    · simp only [Reader.modifyScenario, Reader.modifyActive, hfeature]
  intro feature hflushed
  exact h feature (hsame ▸ hflushed)

theorem flush (h : reader.Rising last) : reader.flush.value.Rising last := by
  exact of_feature (flush_examples reader) h

theorem settle (h : reader.Rising last) (form : LineForm) : (reader.settle form).Rising last := by
  unfold Reader.settle
  split
  · exact h
  · exact h.flush

/-- The active section may grow while no table is open. -/
theorem modifyActive (h : reader.Rising last) (hexamples : reader.examples = none) {line : Nat}
    (hlt : last < line) {f : Section → Section}
    (hf : ∀ part : Section, part.Rising → (∀ n ∈ part.lines, n < line) →
      part.Grows line (f part)) : (reader.modifyActive f).Rising line := by
  refine of_feature hexamples ?_
  intro feature hfeature
  obtain ⟨before, hbefore, rfl⟩ := Option.map_eq_some_iff.1 hfeature
  exact (h.feature hexamples hbefore).modifyActive hlt (hf before.active)

/-- The open block may get a step at its end. -/
theorem modifyBlock (h : reader.Rising last) (hexamples : reader.examples = none) {line : Nat}
    (hlt : last < line) {f : StepBlock → StepBlock} {added : List Nat}
    (hadded : added.Sublist [line]) (hf : ∀ block, (f block).lines = block.lines ++ added) :
    (reader.modifyBlock f).Rising line := by
  unfold Reader.modifyBlock
  split
  · exact h.mono (Nat.le_of_lt hlt)
  next place _ =>
    exact h.modifyActive hexamples hlt fun part hpart hfresh =>
      hpart.modifyBlock hfresh place hadded hf

/-- A change of the open block may leave its lines alone. -/
theorem rewriteBlock (h : reader.Rising last) (hlt : last < reader.line)
    (hexamples : reader.examples = none) {f : StepBlock → StepBlock}
    (hf : ∀ block, (f block).lines = block.lines) : (reader.modifyBlock f).Rising reader.line := by
  refine h.modifyBlock hexamples hlt (List.nil_sublist _) fun block => ?_
  rw [hf, List.append_nil]

/-! ## Headers -/

theorem onFeature (h : reader.Rising last) (hlt : last < reader.line)
    (hexamples : reader.examples = none) (header : Header) :
    (reader.onFeature header).reader.Rising reader.line := by
  unfold Reader.onFeature
  split
  · exact h.mono (Nat.le_of_lt hlt)
  split
  · exact h.mono (Nat.le_of_lt hlt)
  · refine of_feature hexamples ?_
    rintro _ ⟨⟩
    exact Feature.Rising.start (Nat.lt_of_le_of_lt (Nat.zero_le last) hlt) rfl rfl rfl

theorem onRule (h : reader.Rising last) (hlt : last < reader.line)
    (hexamples : reader.examples = none) (header : Header) (tags : TagSet) :
    (reader.onRule header tags).reader.Rising reader.line := by
  refine of_feature hexamples ?_
  intro feature hfeature
  obtain ⟨before, hbefore, rfl⟩ := Option.map_eq_some_iff.1 hfeature
  exact (h.feature hexamples hbefore).addRule hlt rfl rfl

theorem onBackground (h : reader.Rising last) (hlt : last < reader.line)
    (hexamples : reader.examples = none) {feature : Feature}
    (hfeature : reader.feature = some feature) (header : Header) (tags : TagSet) :
    (reader.onBackground feature header tags).reader.Rising reader.line := by
  unfold Reader.onBackground
  split
  · exact h.mono (Nat.le_of_lt hlt)
  next hnone =>
    refine of_feature hexamples ?_
    intro after hafter
    obtain ⟨before, hbefore, rfl⟩ := Option.map_eq_some_iff.1 hafter
    obtain rfl : feature = before := Option.some.inj (hfeature.symm.trans hbefore)
    refine (h.feature hexamples hfeature).modifyActive hlt fun hpart hfresh => ?_
    -- there was no background, so the new one starts with its own line
    apply hpart.setBackground hfresh (List.Sublist.refl [reader.line])
    have hactive : feature.active.background = none := by simpa using hnone
    rw [hactive]
    rfl

theorem onScenario (h : reader.Rising last) (hlt : last < reader.line)
    (hexamples : reader.examples = none) (header : Header) (tags : TagSet) :
    (reader.onScenario header tags).reader.Rising reader.line := by
  have hadded : ∀ scenario : Scenario, scenario.line = reader.line → scenario.steps = [] →
      scenario.examples = [] → (reader.modifyActive (·.addScenario scenario)).Rising reader.line :=
    fun scenario hline hsteps hnone => h.modifyActive hexamples hlt fun part hpart hfresh =>
      hpart.addScenario hfresh hline hsteps hnone
  refine Rising.congr (hadded _ rfl rfl ?_) rfl rfl
  rw [Scenario.examples]
  split <;> rfl

/-- A table that is opened has no rows yet, and opening it leaves those of the outline alone. -/
theorem openExamples (h : reader.Rising last) (hlt : last < reader.line)
    (hexamples : reader.examples = none) {f : Outline → Outline}
    (hf : ∀ outline, (f outline).examples = outline.examples) (block : ExamplesBlock)
    (hrows : block.rows = []) :
    ({ reader.modifyScenario (·.modifyOutline f) with
      examples := some block } : Reader).Rising reader.line := by
  have hnone : (([] : List ExampleRow).map (·.line)).Sublist [reader.line] := List.nil_sublist _
  have hopened := h.modifyActive hexamples hlt (f := fun part =>
    part.modifyLastScenario (·.modifyOutline (addRows block.rows ∘ f))) fun part hpart hfresh =>
      hpart.modifyOutline hfresh hnone (by simp [addRows, hf, hrows])
  intro feature hfeature
  rw [flush_feature rfl] at hfeature
  apply hopened.feature hexamples
  rw [← hfeature]
  have hcomp := congrArg Reader.feature
    (modifyScenario_comp (·.modifyOutline f) (·.modifyOutline (addRows block.rows)) reader)
  exact hcomp.symm

theorem onExamples (h : reader.Rising last) (hlt : last < reader.line)
    (hexamples : reader.examples = none) (tags : TagSet) :
    (reader.onExamples tags).reader.Rising reader.line := by
  unfold Reader.onExamples
  split
  · exact h.mono (Nat.le_of_lt hlt)
  · have hopened := h.openExamples (f := id) hlt hexamples (fun _ => rfl)
      { explicit := true, tags, line := reader.line } rfl
    exact hopened.congr rfl rfl

theorem onHeader (h : reader.Rising last) (hlt : last < reader.line)
    (hexamples : reader.examples = none) (text : String) (header : Header) :
    (reader.onHeader text header).reader.Rising reader.line := by
  have huntagged : ({ reader with pendingTags := {} } : Reader).Rising last := h.congr rfl rfl
  unfold Reader.onHeader
  split
  · exact h.onFeature hlt hexamples header
  · exact h.mono (Nat.le_of_lt hlt)
  next feature hfeature _ =>
    split
    · exact huntagged.onRule hlt hexamples header _
    · exact huntagged.onBackground hlt hexamples hfeature header _
    · exact huntagged.onExamples hlt hexamples _
    · exact huntagged.onScenario hlt hexamples header _

/-! ## Table rows -/

theorem onDataRow (h : reader.Rising last) (hlt : last < reader.line)
    (hexamples : reader.examples = none) (cells : List String) :
    (reader.onDataRow cells).reader.Rising reader.line := by
  unfold Reader.onDataRow
  split
  · have hchanged := h.rewriteBlock (f := (·.modifyLastStep (·.addRow cells))) hlt hexamples
      (lines_modifyLastStep fun _ => rfl)
    exact hchanged.congr rfl rfl
  · exact h.mono (Nat.le_of_lt hlt)

/-- What a row adds to a table: nothing if it gives the headers, else a row of its line. -/
theorem push_rows (block : ExamplesBlock) (cells : List String) (line : Nat) :
    ∃ added : List ExampleRow, (added.map (·.line)).Sublist [line] ∧
      (block.push cells line).value.rows = block.rows ++ added := by
  unfold ExamplesBlock.push
  split
  · exact ⟨[], List.nil_sublist _, (List.append_nil _).symm⟩
  · refine ⟨_, ?_, rfl⟩
    exact List.Sublist.refl [line]

/-- A row joins those of the open table. -/
theorem onExampleRow (h : reader.Rising last) (hlt : last < reader.line) {block : ExamplesBlock}
    (hblock : reader.examples = some block) (cells : List String) :
    (reader.onExampleRow block cells).reader.Rising reader.line := by
  obtain ⟨added, hadded, hrows⟩ := push_rows block cells reader.line
  -- the outline gets the new row after those that the table had
  have hgrown := h.flush.modifyActive (flush_examples reader) hlt fun part hpart hfresh =>
    hpart.modifyOutline hfresh hadded (f := addRows added) fun _ => rfl
  intro feature hfeature
  rw [flush_feature rfl, hrows] at hfeature
  apply hgrown.feature (flush_examples reader)
  have hrowsComp : addRows added ∘ addRows block.rows = addRows (block.rows ++ added) := by
    funext outline
    simp [addRows]
  have hcomp := congrArg Reader.feature (modifyScenario_comp
    (·.modifyOutline (addRows block.rows)) (·.modifyOutline (addRows added)) reader)
  have hflushed : reader.flush.value =
      { reader.modifyScenario (·.modifyOutline (addRows block.rows)) with examples := none } := by
    rw [Reader.flush, hblock]
  rw [← hfeature, hflushed, ← hrowsComp]
  exact hcomp

theorem onBareRow (h : reader.Rising last) (hlt : last < reader.line)
    (hexamples : reader.examples = none) (cells : List String) :
    (reader.onBareRow cells).reader.Rising reader.line := by
  unfold Reader.onBareRow
  split
  · exact h.mono (Nat.le_of_lt hlt)
  split
  · have hopened := h.openExamples (f := ({ · with missingKeyword := true })) hlt hexamples
      (fun _ => rfl) { headers := some cells, explicit := false, line := reader.line } rfl
    exact hopened.congr rfl rfl
  · exact h.mono (Nat.le_of_lt hlt)

theorem onRow (h : reader.Rising last) (hlt : last < reader.line) (cells : List String) :
    (reader.onRow cells).reader.Rising reader.line := by
  unfold Reader.onRow
  split
  next hblock => exact h.onExampleRow hlt hblock cells
  next hexamples =>
    split
    · exact h.onDataRow hlt hexamples cells
    · exact h.onBareRow hlt hexamples cells

/-! ## Other lines -/

theorem onComment (h : reader.Rising last) (comment : String) :
    (reader.onComment comment).reader.Rising last := by
  unfold Reader.onComment
  split
  · exact h.congr rfl rfl
  · exact h

theorem onFence (h : reader.Rising last) (text : String) (fence : Fence)
    (mediaType : Option String) : (reader.onFence text fence mediaType).reader.Rising last := by
  unfold Reader.onFence
  split
  · exact h.congr rfl rfl
  · exact h

theorem onStep (h : reader.Rising last) (hlt : last < reader.line)
    (hexamples : reader.examples = none) (text : String) (found : StepLine) :
    (reader.onStep text found).reader.Rising reader.line := by
  unfold Reader.onStep
  split
  · exact h.mono (Nat.le_of_lt hlt)
  split
  · exact h.mono (Nat.le_of_lt hlt)
  split
  · exact h.mono (Nat.le_of_lt hlt)
  · refine Rising.congr (h.modifyBlock hexamples hlt (List.Sublist.refl [reader.line]) ?_) rfl rfl
    intro block
    simp [StepBlock.lines, StepBlock.addStep]

theorem onProse (h : reader.Rising last) (hlt : last < reader.line)
    (hexamples : reader.examples = none) (text : String) :
    (reader.onProse text).reader.Rising reader.line := by
  unfold Reader.onProse
  split
  · exact (h.mono (Nat.le_of_lt hlt)).congr rfl rfl
  split
  · refine Rising.congr (h.modifyActive hexamples hlt fun part hpart hfresh => ?_) rfl rfl
    exact hpart.grows_of_eq hfresh rfl rfl rfl
  · have hchanged := h.rewriteBlock (f := (·.describe text)) hlt hexamples fun _ => rfl
    exact hchanged.congr rfl rfl

/-! ## Lines -/

theorem onForm (h : reader.Rising last) (hlt : last < reader.line) (text trimmed : String)
    {form : LineForm} (hexamples : reader.keepsExamples form = true ∨ reader.examples = none) :
    (reader.onForm text trimmed form).reader.Rising reader.line := by
  have hlater : reader.Rising reader.line := h.mono (Nat.le_of_lt hlt)
  cases form with
  | comment comment => exact hlater.onComment comment
  | header header =>
    exact h.onHeader hlt (by simpa [keepsExamples] using hexamples) trimmed header
  | row cells => exact h.onRow hlt cells
  | blank => exact hlater.congr rfl rfl
  | tags tags => exact hlater.congr rfl rfl
  | fence fence mediaType => exact hlater.onFence text fence mediaType
  | step found => exact h.onStep hlt (by simpa [keepsExamples] using hexamples) trimmed found
  | prose => exact h.onProse hlt (by simpa [keepsExamples] using hexamples) trimmed

theorem onLine (h : reader.Rising last) (hlt : last < reader.line) (text : String) :
    (reader.onLine text).reader.Rising reader.line := by
  rw [onLine_reader]
  have hsettled := (h.settle (reader.language.form (Text.trim text))).onForm
    (by rwa [settle_line]) text (Text.trim text) (settle_examples reader _)
  rwa [settle_line] at hsettled

/-- A doc-string stands under a step, so no examples table is open. -/
theorem onDocString (h : reader.Rising last) (hlt : last < reader.line)
    (hexamples : reader.examples = none) (doc : OpenDocString) (text : String) :
    (reader.onDocString doc text).reader.Rising reader.line := by
  unfold Reader.onDocString
  split
  · have hchanged := h.rewriteBlock
      (f := (·.modifyLastStep ({ · with docString := some doc.close })))
      hlt hexamples (lines_modifyLastStep fun _ => rfl)
    exact hchanged.congr rfl rfl
  · exact (h.mono (Nat.le_of_lt hlt)).congr rfl rfl

theorem take (h : reader.Rising last) (hlt : last < reader.line) (hsound : reader.Sound)
    (text : String) : (reader.take text).reader.Rising reader.line := by
  unfold Reader.take
  split
  next doc hdoc => exact h.onDocString hlt (hsound.fenced (by simp [hdoc])).1 doc text
  next => exact h.onLine hlt text

end Rising

/-! ## The number of lines read -/

theorem modifyBlock_line (f : StepBlock → StepBlock) (reader : Reader) :
    (reader.modifyBlock f).line = reader.line := by
  unfold modifyBlock
  split <;> rfl

theorem onExamples_line (reader : Reader) (tags : TagSet) :
    (reader.onExamples tags).reader.line = reader.line := by
  unfold onExamples
  split <;> rfl

theorem onHeader_line (reader : Reader) (text : String) (header : Header) :
    (reader.onHeader text header).reader.line = reader.line := by
  unfold onHeader
  split
  · unfold onFeature
    split
    · rfl
    · split <;> rfl
  · rfl
  · split
    · rfl
    · unfold onBackground
      split <;> rfl
    · exact onExamples_line _ _
    · rfl

theorem onRow_line (reader : Reader) (cells : List String) :
    (reader.onRow cells).reader.line = reader.line := by
  unfold onRow
  split
  · rfl
  · split
    · unfold onDataRow
      split
      · exact modifyBlock_line _ reader
      · rfl
    · unfold onBareRow
      split
      · rfl
      · split <;> rfl

theorem onForm_line (reader : Reader) (text trimmed : String) (form : LineForm) :
    (reader.onForm text trimmed form).reader.line = reader.line := by
  cases form with
  | comment comment =>
    rw [onForm, onComment]
    split <;> rfl
  | header header => exact onHeader_line reader trimmed header
  | row cells => exact onRow_line reader cells
  | blank => rfl
  | tags tags => rfl
  | fence fence mediaType =>
    rw [onForm, onFence]
    split <;> rfl
  | step found =>
    rw [onForm, onStep]
    split
    · rfl
    split
    · rfl
    split
    · rfl
    · exact modifyBlock_line _ reader
  | prose =>
    rw [onForm, onProse]
    split
    · rfl
    split
    · rfl
    · exact modifyBlock_line _ reader

/-- Taking a line counts no further one. -/
theorem take_line (reader : Reader) (text : String) :
    (reader.take text).reader.line = reader.line := by
  unfold take
  split
  next doc _ =>
    unfold onDocString
    split
    · exact modifyBlock_line _ reader
    · rfl
  next => rw [onLine_reader, onForm_line, settle_line]

/-- Every line is counted, refused ones too. -/
theorem read_line (reader : Reader) (text : String) :
    (reader.read text).reader.line = reader.line + 1 := by
  rw [read_reader, take_line]

/-- What holds up to the lines read so far holds after the next one. -/
theorem Rising.read (h : reader.Rising reader.line) (hsound : reader.Sound) (text : String) :
    (reader.read text).reader.Rising (reader.read text).reader.line := by
  rw [read_reader, take_line]
  have hcounted : { reader with line := reader.line + 1 }.Rising reader.line := h.congr rfl rfl
  exact hcounted.take (Nat.lt_succ_self reader.line) (hsound.withLine _) text

theorem Rising.readEach (h : reader.Rising reader.line) (hsound : reader.Sound)
    (lines : List String) : (reader.readEach lines).Rising (reader.readEach lines).line := by
  induction lines generalizing reader with
  | nil => exact h
  | cons line lines ih => exact ih (h.read hsound line) (hsound.read line)

end Reader

namespace IndexedReader

/-- After any lines, refused ones included, and the end of an open examples table, the features
    read are in the order of their source up to the number of lines read. -/
theorem inSourceOrder_readEach (code : String) (lines : List String) :
    ∀ feature ∈ ((ofLanguage code).value.readEach lines).flush.value.features,
      feature.InSourceOrder ((ofLanguage code).value.readEach lines).cursor.line := by
  have hstart : (Reader.ofLanguage code).value.Sound := Reader.sound_start _
  have hrising : (Reader.ofLanguage code).value.Rising (Reader.ofLanguage code).value.line := by
    refine Reader.Rising.of_feature rfl ?_
    rintro _ ⟨⟩
  rw [readEach_ofLanguage, flush_ofReader (hstart.readEach lines)]
  intro feature hfeature
  exact (hrising.readEach hstart lines feature (mem_features_ofReader.1 hfeature)).inSourceOrder

/-- A background behind a scenario, a refused line, and a row of a table that is still open. -/
theorem inSourceOrder_readEach_openTable :
    ∃ feature ∈ ((ofLanguage "en").value.readEach
        ["Feature: f", "Scenario Outline: s", "Given a", "Examples:", "| p |", "| 1 |",
          "Background:", "Given b", "Feature: g", "Rule: r", "Scenario Outline: t", "Examples:",
          "| q |", "| 2 |"]).flush.value.features,
      feature.lines = [1, 7, 8, 2, 3, 6, 10, 11, 14] ∧
        feature.allScenarios.map (·.2.line) = [2, 11] ∧ feature.InSourceOrder 14 := by
  have hread : ((ofLanguage "en").value.readEach
      ["Feature: f", "Scenario Outline: s", "Given a", "Examples:", "| p |", "| 1 |",
        "Background:", "Given b", "Feature: g", "Rule: r", "Scenario Outline: t", "Examples:",
        "| q |", "| 2 |"]).flush.value.features.map
          (fun feature => (feature.lines, feature.allScenarios.map (·.2.line))) =
      [([1, 7, 8, 2, 3, 6, 10, 11, 14], [2, 11])] := by
    decide +kernel
  obtain ⟨feature, hmem, hparts⟩ := List.mem_map.1 (hread ▸ List.mem_cons_self)
  obtain ⟨hlines, hall⟩ := Prod.mk.inj hparts
  have hcount : ((ofLanguage "en").value.readEach
      ["Feature: f", "Scenario Outline: s", "Given a", "Examples:", "| p |", "| 1 |",
        "Background:", "Given b", "Feature: g", "Rule: r", "Scenario Outline: t", "Examples:",
        "| q |", "| 2 |"]).cursor.line = 14 := by
    decide +kernel
  have hordered := inSourceOrder_readEach "en" _ feature hmem
  rw [hcount] at hordered
  exact ⟨feature, hmem, hlines, hall, hordered⟩

end IndexedReader

end Gherkin
