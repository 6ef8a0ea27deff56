/-
  Gherkin.Proofs.Reader.Accepted

  What a line does to a reader, transition by transition: the reader that meets
  the line, and what a transition has done if it accepted the line. Its guards
  held then, and the reader after it is the one that its last branch gives.
-/
import Gherkin.Reader.Document

namespace Gherkin.Reader

variable {reader : Reader}

/-! ## The reader that meets a line -/

/-- The reader when it meets a line of a form: an open examples table ends first, unless the line
    may stand inside it. -/
def settle (reader : Reader) (form : LineForm) : Reader :=
  if reader.keepsExamples form then reader else reader.flush.value

theorem flush_examples (reader : Reader) : reader.flush.value.examples = none := by
  unfold flush
  split
  next h => exact h
  next => rfl

theorem flush_docString (reader : Reader) : reader.flush.value.docString = reader.docString := by
  unfold flush
  split <;> rfl

/-- Only the document changes when a table ends. -/
theorem flush_eq (reader : Reader) :
    reader.flush.value =
      { reader with feature := reader.flush.value.feature, examples := none } := by
  obtain ⟨language, feature, place, pendingTags, examples, docString, previous, line⟩ := reader
  cases examples <;> rfl

theorem flush_language (reader : Reader) : reader.flush.value.language = reader.language := by
  unfold flush
  split <;> rfl

theorem flush_line (reader : Reader) : reader.flush.value.line = reader.line := by
  unfold flush
  split <;> rfl

theorem flush_withLine (reader : Reader) (line : Nat) :
    ({ reader with line } : Reader).flush.value = { reader.flush.value with line } := by
  obtain ⟨language, feature, place, pendingTags, examples, docString, previous, line⟩ := reader
  cases examples <;> rfl

theorem settle_withLine (reader : Reader) (form : LineForm) (line : Nat) :
    ({ reader with line } : Reader).settle form = { reader.settle form with line } := by
  have hkeeps : ({ reader with line } : Reader).keepsExamples form = reader.keepsExamples form := by
    cases form <;> rfl
  unfold settle
  rw [hkeeps, flush_withLine reader line]
  split <;> rfl

theorem settle_docString (reader : Reader) (form : LineForm) :
    (reader.settle form).docString = reader.docString := by
  unfold settle
  split
  · rfl
  · exact flush_docString reader

theorem settle_line (reader : Reader) (form : LineForm) :
    (reader.settle form).line = reader.line := by
  unfold settle
  split
  · rfl
  · exact flush_line reader

/-- Unless the line may stand inside an examples table, none is open when it is met. -/
theorem settle_examples (reader : Reader) (form : LineForm) :
    (reader.settle form).keepsExamples form = true ∨ (reader.settle form).examples = none := by
  unfold settle
  split
  next hkeeps => exact .inl hkeeps
  next => exact .inr (flush_examples reader)

theorem onLine_reader (reader : Reader) (text : String) :
    (reader.onLine text).reader =
      ((reader.settle (reader.language.form (Text.trim text))).onForm text (Text.trim text)
        (reader.language.form (Text.trim text))).reader := by
  unfold onLine settle
  simp only [Outcome.after]
  split <;> rfl

theorem onLine_fault (reader : Reader) (text : String) :
    (reader.onLine text).fault =
      ((reader.settle (reader.language.form (Text.trim text))).onForm text (Text.trim text)
        (reader.language.form (Text.trim text))).fault := by
  unfold onLine settle
  simp only [Outcome.after]
  split <;> rfl

/-- The outcome of a line with the notice that an accepted line leaves. -/
def Outcome.logged (outcome : Outcome) : Outcome :=
  match outcome.fault with
  | some _ => outcome
  | none =>
    { outcome with
      notices := outcome.notices ++
        [.lineRead outcome.reader.line outcome.reader.previous.name
          outcome.reader.docString.isSome] }

theorem Outcome.logged_reader (outcome : Outcome) : outcome.logged.reader = outcome.reader := by
  unfold logged
  split <;> rfl

theorem Outcome.logged_fault (outcome : Outcome) : outcome.logged.fault = outcome.fault := by
  unfold logged
  split <;> rfl

/-- A line is counted, taken and logged. -/
theorem read_eq_logged (reader : Reader) (text : String) :
    reader.read text = ({ reader with line := reader.line + 1 }.take text).logged := rfl

theorem read_reader (reader : Reader) (text : String) :
    (reader.read text).reader = ({ reader with line := reader.line + 1 }.take text).reader := by
  rw [read_eq_logged, Outcome.logged_reader]

theorem read_fault (reader : Reader) (text : String) :
    (reader.read text).fault = ({ reader with line := reader.line + 1 }.take text).fault := by
  rw [read_eq_logged, Outcome.logged_fault]

/-- Outside doc-strings a line is read by its form. -/
theorem take_of_none (h : reader.docString = none) (text : String) :
    reader.take text = reader.onLine text := by
  simp only [take, h]

theorem take_of_some {doc : OpenDocString} (h : reader.docString = some doc) (text : String) :
    reader.take text = reader.onDocString doc text := by
  simp only [take, h]

theorem read_fault_of_none (h : reader.docString = none) (text : String) :
    (reader.read text).fault = ({ reader with line := reader.line + 1 }.onLine text).fault := by
  rw [read_fault, @take_of_none { reader with line := reader.line + 1 } h]

theorem read_reader_of_none (h : reader.docString = none) (text : String) :
    (reader.read text).reader = ({ reader with line := reader.line + 1 }.onLine text).reader := by
  rw [read_reader, @take_of_none { reader with line := reader.line + 1 } h]

/-! ## Headers -/

/-- Before the feature only its own line is a header that may come. -/
theorem onHeader_of_none (h : reader.feature = none) (text : String) (header : Header) :
    reader.onHeader text header =
      if header.kind = .Feature then reader.onFeature header
      else reader.refuse (.beforeFeature reader.line text) := by
  cases hkind : header.kind <;> simp [onHeader, hkind, h]

/-- In a feature a header takes the transition of its kind, and the tags that wait with it. -/
theorem onHeader_of_some {feature : Feature} (h : reader.feature = some feature) (text : String)
    (header : Header) :
    reader.onHeader text header =
      match header.kind with
      | .Feature => reader.onFeature header
      | .Rule => { reader with pendingTags := {} }.onRule header reader.pendingTags
      | .Background =>
        { reader with pendingTags := {} }.onBackground feature header reader.pendingTags
      | .Examples => { reader with pendingTags := {} }.onExamples reader.pendingTags
      | .Scenario | .ScenarioOutline =>
        { reader with pendingTags := {} }.onScenario header reader.pendingTags := by
  cases hkind : header.kind <;> simp [onHeader, hkind, h]

theorem onFeature_accepted {header : Header} (h : (reader.onFeature header).fault = none) :
    reader.feature = none ∧ (reader.onFeature header).reader =
      { reader with
        feature := some
          { name := header.name, keyword := header.keyword, language := reader.language.code
            tags := reader.pendingTags, line := reader.line }
        place := none, pendingTags := {}, previous := .header } := by
  unfold onFeature at h ⊢
  split at h
  · cases h
  next hnone =>
    rw [if_neg hnone]
    split at h
    · cases h
    next hname =>
      rw [if_neg hname]
      exact ⟨by simpa using hnone, rfl⟩

theorem onBackground_accepted {feature : Feature} {header : Header} {tags : TagSet}
    (h : (reader.onBackground feature header tags).fault = none) :
    feature.active.background = none ∧ (reader.onBackground feature header tags).reader =
      { reader.modifyActive ({ · with
          background := some
            { name := header.name, keyword := header.keyword, tags, line := reader.line } }) with
        place := some .background, previous := .header } := by
  unfold onBackground at h ⊢
  split at h
  · cases h
  next hnone =>
    rw [if_neg hnone]
    exact ⟨by simpa using hnone, rfl⟩

theorem onExamples_accepted {tags : TagSet} (h : (reader.onExamples tags).fault = none) :
    reader.scenario?.isSome ∧ (reader.onExamples tags).reader =
      { reader.modifyScenario (·.modifyOutline id) with
        examples := some { explicit := true, tags, line := reader.line }
        previous := .header } := by
  unfold onExamples at h ⊢
  split at h
  · cases h
  next scenario hscenario =>
    rw [hscenario]
    exact ⟨rfl, rfl⟩

/-- A header takes the transition of its kind, and only the feature line may come first. -/
theorem onHeader_accepted {text : String} {header : Header}
    (h : (reader.onHeader text header).fault = none) :
    (header.kind = .Feature ∧ reader.onHeader text header = reader.onFeature header) ∨
    ∃ feature, reader.feature = some feature ∧
      ((header.kind = .Rule ∧ reader.onHeader text header =
          { reader with pendingTags := {} }.onRule header reader.pendingTags) ∨
        (header.kind = .Background ∧ reader.onHeader text header =
          { reader with pendingTags := {} }.onBackground feature header reader.pendingTags) ∨
        (header.kind = .Examples ∧ reader.onHeader text header =
          { reader with pendingTags := {} }.onExamples reader.pendingTags) ∨
        ((header.kind = .Scenario ∨ header.kind = .ScenarioOutline) ∧
          reader.onHeader text header =
            { reader with pendingTags := {} }.onScenario header reader.pendingTags)) := by
  -- only for a feature line the guard on an open feature is not consulted
  cases hkind : header.kind with
  | Feature =>
    left
    exact ⟨rfl, by simp only [onHeader, hkind]⟩
  | _ =>
    right
    cases hfeature : reader.feature with
    | none => simp [onHeader, hkind, hfeature, refuse] at h
    | some feature => simp [onHeader, hkind, hfeature]

/-! ## Table rows -/

theorem onDataRow_accepted {cells : List String} (h : (reader.onDataRow cells).fault = none) :
    reader.hasStep = true ∧ (reader.onDataRow cells).reader =
      { reader.modifyBlock (·.modifyLastStep (·.addRow cells)) with
        previous := .dataTableRow } := by
  unfold onDataRow at h ⊢
  split at h
  next hstep =>
    rw [if_pos hstep]
    exact ⟨hstep, rfl⟩
  next => cases h

/-- A bare row opens a table on an outline and gives its headers. -/
theorem onBareRow_accepted {cells : List String} (h : (reader.onBareRow cells).fault = none) :
    reader.scenario?.any (·.isOutline) = true ∧ (reader.onBareRow cells).reader =
      { reader.modifyScenario (·.modifyOutline ({ · with missingKeyword := true })) with
        examples := some { headers := some cells, explicit := false, line := reader.line }
        previous := .exampleRow } := by
  unfold onBareRow at h ⊢
  split at h
  · cases h
  next scenario hscenario =>
    rw [hscenario]
    split at h
    next houtline =>
      simp only [if_pos houtline]
      exact ⟨houtline, rfl⟩
    next => cases h

/-! ## Other lines -/

theorem onFence_accepted {text : String} {fence : Fence} {mediaType : Option String}
    (h : (reader.onFence text fence mediaType).fault = none) :
    reader.hasStep = true ∧ (reader.onFence text fence mediaType).reader =
      { reader with
        docString := some
          { fence, indent := Text.indentOf text.toList, mediaType, line := reader.line } } := by
  unfold onFence at h ⊢
  split at h
  next hstep =>
    rw [if_pos hstep]
    exact ⟨hstep, rfl⟩
  next => cases h

theorem onStep_accepted {text : String} {found : StepLine}
    (h : (reader.onStep text found).fault = none) :
    reader.block?.isSome ∧ (reader.onStep text found).reader =
      { reader.modifyBlock (·.addStep
          { keyword := found.kind, keywordText := found.keyword, details := found.details
            line := reader.line }) with previous := .step } := by
  unfold onStep at h ⊢
  split at h
  · cases h
  next hfeature =>
    rw [if_neg hfeature]
    split at h
    · cases h
    next hblock =>
      rw [if_neg hblock]
      split at h
      · cases h
      next hallowed =>
        rw [if_neg hallowed]
        refine ⟨?_, rfl⟩
        cases hopen : reader.block? with
        | none => simp [hopen] at hblock
        | some => rfl

end Gherkin.Reader
