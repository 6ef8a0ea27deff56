/-
  Gherkin.Proofs.Reader.Refused

  What a refused line leaves behind. A transition looks at the document before it
  changes it, so one that refuses its line has changed nothing; but a header may
  have taken the tags that wait, and an examples table that the line ended stays
  ended, with its rows in its outline. So reading can go on behind the line.
-/
import Gherkin.Proofs.Reader.Block
import Gherkin.Proofs.Reader.Likeness

namespace Gherkin

namespace Reader

variable {reader : Reader}

/-! ## Transitions -/

/-- If the line was refused, the reader is as it was, but that the tags that waited may be lost. -/
def Outcome.Spares (outcome : Outcome) (reader : Reader) : Prop :=
  outcome.fault.isSome → ∃ tags, (tags = reader.pendingTags ∨ tags = {}) ∧
    outcome.reader = { reader with pendingTags := tags }

/-- A refusal that comes before any change. -/
theorem refuse_spares (reader : Reader) (fault : DocumentFault) :
    (reader.refuse fault).Spares reader :=
  fun _ => ⟨reader.pendingTags, .inl rfl, rfl⟩

/-- A refusal that comes when the tags that wait have been taken. -/
theorem refuse_spares_untagged (reader : Reader) (fault : DocumentFault) :
    ({ reader with pendingTags := {} }.refuse fault).Spares reader :=
  fun _ => ⟨{}, .inr rfl, rfl⟩

/-- An accepted line spares every reader. -/
theorem Outcome.Spares.of_accepted {outcome : Outcome} (h : outcome.fault = none) :
    outcome.Spares reader := by
  intro hrefused
  rw [h] at hrefused
  cases hrefused

theorem onFeature_spares (reader : Reader) (header : Header) :
    (reader.onFeature header).Spares reader := by
  unfold onFeature
  split
  · exact refuse_spares reader _
  split
  · exact refuse_spares reader _
  · exact .of_accepted rfl

theorem onBackground_spares (reader : Reader) (feature : Feature) (header : Header)
    (tags : TagSet) :
    ({ reader with pendingTags := {} }.onBackground feature header tags).Spares reader := by
  unfold onBackground
  split
  · exact refuse_spares_untagged reader _
  · exact .of_accepted rfl

theorem onExamples_spares (reader : Reader) (tags : TagSet) :
    ({ reader with pendingTags := {} }.onExamples tags).Spares reader := by
  unfold onExamples
  split
  · exact refuse_spares_untagged reader _
  · exact .of_accepted rfl

theorem onHeader_spares (reader : Reader) (text : String) (header : Header) :
    (reader.onHeader text header).Spares reader := by
  cases hfeature : reader.feature with
  | none =>
    rw [onHeader_of_none hfeature]
    split
    · exact onFeature_spares reader header
    · exact refuse_spares reader _
  | some feature =>
    rw [onHeader_of_some hfeature]
    cases header.kind with
    | Feature => exact onFeature_spares reader header
    | Rule => exact .of_accepted rfl
    | Background => exact onBackground_spares reader feature header _
    | Examples => exact onExamples_spares reader _
    | Scenario => exact .of_accepted rfl
    | ScenarioOutline => exact .of_accepted rfl

theorem onDataRow_spares (reader : Reader) (cells : List String) :
    (reader.onDataRow cells).Spares reader := by
  unfold onDataRow
  split
  · exact .of_accepted rfl
  · exact refuse_spares reader _

/-- The outline is flagged only when the row has been found to be one of its rows. -/
theorem onBareRow_spares (reader : Reader) (cells : List String) :
    (reader.onBareRow cells).Spares reader := by
  unfold onBareRow
  split
  · exact refuse_spares reader _
  split
  · exact .of_accepted rfl
  · exact refuse_spares reader _

/-- A row of an open examples table is never refused. -/
theorem onRow_fault_of_examples {block : ExamplesBlock} (h : reader.examples = some block)
    (cells : List String) : (reader.onRow cells).fault = none := by
  rw [onRow, h]
  rfl

theorem onRow_spares (reader : Reader) (cells : List String) :
    (reader.onRow cells).Spares reader := by
  cases hexamples : reader.examples with
  | some block => exact .of_accepted (onRow_fault_of_examples hexamples cells)
  | none =>
    unfold onRow
    simp only [hexamples]
    split
    · exact onDataRow_spares reader cells
    · exact onBareRow_spares reader cells

theorem onFence_spares (reader : Reader) (text : String) (fence : Fence)
    (mediaType : Option String) : (reader.onFence text fence mediaType).Spares reader := by
  unfold onFence
  split
  · exact .of_accepted rfl
  · exact refuse_spares reader _

theorem onStep_spares (reader : Reader) (text : String) (found : StepLine) :
    (reader.onStep text found).Spares reader := by
  unfold onStep
  split
  · exact refuse_spares reader _
  split
  · exact refuse_spares reader _
  split
  · exact refuse_spares reader _
  · exact .of_accepted rfl

theorem onProse_fault (reader : Reader) (text : String) : (reader.onProse text).fault = none := by
  unfold onProse
  split
  · rfl
  · split <;> rfl

theorem onForm_spares (reader : Reader) (text trimmed : String) (form : LineForm) :
    (reader.onForm text trimmed form).Spares reader := by
  cases form with
  | comment comment => exact .of_accepted (onComment_fault reader comment)
  | header header => exact onHeader_spares reader trimmed header
  | row cells => exact onRow_spares reader cells
  | blank => exact .of_accepted rfl
  | tags tags => exact .of_accepted rfl
  | fence fence mediaType => exact onFence_spares reader text fence mediaType
  | step found => exact onStep_spares reader trimmed found
  | prose => exact .of_accepted (onProse_fault reader trimmed)

/-! ## Lines -/

/-- Of the lines that may stand inside an examples table only a row outside one is refused. So a
    refused line always finds the table ended. -/
theorem settle_of_refused {text trimmed : String} {form : LineForm}
    (h : ((reader.settle form).onForm text trimmed form).fault.isSome) :
    reader.settle form = reader.flush.value := by
  cases form with
  | comment comment =>
    rw [onForm, onComment_fault] at h
    cases h
  | row cells =>
    cases hexamples : reader.examples with
    | none => exact (flush_of_none hexamples).symm
    | some block =>
      have haccept : (reader.onRow cells).fault = none := onRow_fault_of_examples hexamples cells
      have hrefused : (reader.onRow cells).fault.isSome := h
      rw [haccept] at hrefused
      cases hrefused
  | blank => cases h
  | _ => rfl

/-- Inside a doc-string every line is accepted. -/
theorem read_fault_of_docString (h : reader.docString.isSome) (text : String) :
    (reader.read text).fault = none := by
  obtain ⟨doc, hdoc⟩ := Option.isSome_iff_exists.1 h
  rw [read_fault, @take_of_some { reader with line := reader.line + 1 } _ hdoc, onDocString]
  split <;> rfl

/-- A refused line is counted and ends an open examples table; the tags that waited may be lost. -/
theorem read_of_refused {text : String} (h : (reader.read text).fault.isSome) :
    reader.docString = none ∧ ∃ tags, (tags = reader.pendingTags ∨ tags = {}) ∧
      (reader.read text).reader =
        { reader.flush.value with pendingTags := tags, line := reader.line + 1 } := by
  have hdoc : reader.docString = none := by
    by_contra hopen
    rw [read_fault_of_docString (Option.isSome_iff_ne_none.2 hopen)] at h
    cases h
  refine ⟨hdoc, ?_⟩
  rw [read_fault_of_none hdoc, onLine_fault] at h
  rw [read_reader_of_none hdoc, onLine_reader]
  obtain ⟨tags, htags, hreader⟩ := onForm_spares _ _ _ _ h
  rw [hreader]
  rw [settle_of_refused h, flush_withLine reader (reader.line + 1)] at htags ⊢
  refine ⟨tags, ?_, rfl⟩
  rwa [flush_eq reader] at htags

end Reader

namespace IndexedReader

/-- When a table ends, the cursor forgets it and moves nowhere else. -/
theorem cursor_flush (reader : Reader) :
    (ofReader reader.flush.value).cursor = { (ofReader reader).cursor with examples := none } := by
  cases hexamples : reader.examples with
  | none =>
    rw [Reader.flush_of_none hexamples, ← examples_ofReader_none hexamples]
  | some block =>
    have hstanding := Reader.standing_modifyActive
      (f := (·.modifyLastScenario (·.modifyOutline (Reader.addRows block.rows))))
      (fun _ => List.length_modify _ _ _) reader
    unfold Reader.flush
    simp only [hexamples]
    show { (reader.modifyActive _).standing with examples := none } = _
    rw [hstanding]
    rfl

/-- After any lines, refused ones included: a line inside a doc-string is accepted, and a line that
    is refused changes neither the document, but for the rows of a table that it ends, nor the
    place of the reader in it. -/
theorem read_after_readEach {code : String} {lines : List String} {reader : IndexedReader}
    (hreader : (ofLanguage code).value.readEach lines = reader) (text : String) :
    (reader.cursor.docString.isSome → (reader.read text).fault = none) ∧
    (∀ block, reader.cursor.examples = some block →
      ∃ scenario, reader.scenarioAt block.target = .ok scenario ∧ scenario.isOutline) ∧
    ((reader.read text).fault.isSome →
      ∃ tags, (tags = reader.cursor.pendingTags ∨ tags = {}) ∧
        (reader.read text).reader =
          { reader with
            cursor := { reader.cursor with
              pendingTags := tags, examples := none, docString := none
              line := reader.cursor.line + 1 }
            features := reader.settled }) := by
  rw [readEach_ofLanguage] at hreader
  have hsound : ((Reader.ofLanguage code).value.readEach lines).Sound :=
    (Reader.sound_start _).readEach lines
  generalize (Reader.ofLanguage code).value.readEach lines = stands at hreader hsound
  subst hreader
  rw [read_ofReader hsound]
  refine ⟨fun hdoc => Reader.read_fault_of_docString hdoc text, ?_, ?_⟩
  · intro block hblock
    exact ((wellPlaced_ofReader hsound).examples block hblock).2
  · intro hrefused
    obtain ⟨hdoc, tags, htags, hafter⟩ := Reader.read_of_refused hrefused
    refine ⟨tags, htags, ?_⟩
    -- a line inside a doc-string is never refused, so none is open
    have hnodoc : (ofReader stands).cursor.docString = none := hdoc
    have hcursor := cursor_flush stands
    show ofReader (stands.read text).reader = _
    rw [hafter, settled_ofReader, ← hnodoc]
    show ({ language := stands.flush.value.language
            cursor := { (ofReader stands.flush.value).cursor with
              pendingTags := tags, line := stands.line + 1 }
            features := stands.flush.value.feature.toList } : IndexedReader) = _
    rw [hcursor, Reader.flush_language]
    rfl

/-- A second feature line behind an open table: the row joins its outline, and that is all. -/
theorem read_feature_behind_table :
    ∃ reader : IndexedReader,
      (ofLanguage "en").value.readEach
        ["Feature: f", "Scenario Outline: s", "Examples:", "| p |", "| 1 |"] = reader ∧
      (reader.read "Feature: g").fault = some (.duplicateFeature 6) ∧
      (reader.read "Feature: g").reader =
        { reader with
          cursor := { reader.cursor with
            pendingTags := {}, examples := none, docString := none
            line := reader.cursor.line + 1 }
          features := reader.settled } ∧
      reader.settled ≠ reader.features := by
  obtain ⟨reader, hreader⟩ : ∃ reader, (ofLanguage "en").value.readEach
      ["Feature: f", "Scenario Outline: s", "Examples:", "| p |", "| 1 |"] = reader := ⟨_, rfl⟩
  obtain ⟨hfault, htags, hjoined⟩ : (reader.read "Feature: g").fault = some (.duplicateFeature 6) ∧
      reader.cursor.pendingTags = {} ∧ reader.settled ≠ reader.features := by
    subst hreader
    decide +kernel
  obtain ⟨tags, hlost, hafter⟩ :=
    (read_after_readEach hreader "Feature: g").2.2 (by rw [hfault]; rfl)
  rw [htags, or_self] at hlost
  subst hlost
  exact ⟨reader, hreader, hfault, hafter, hjoined⟩

end IndexedReader

end Gherkin
