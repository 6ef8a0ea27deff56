/-
  Gherkin.Proofs.Reader.Agreement

  An indexed reader and a reader take every line in the same way, whatever lines
  came before and whether they were refused or not: the same parts change, the
  same faults are found and the same notices raised, and the indices recorded
  are those that the document tells.
-/
import Gherkin.Proofs.Reader.Standing

namespace Gherkin.IndexedReader

variable {reader : Reader}

theorem after_ofOutcome (outcome : Reader.Outcome) (notices : List Notice) :
    (ofOutcome outcome).after notices = ofOutcome (outcome.after notices) := rfl

/-! ## Examples tables -/

theorem examples_ofReader_none (h : reader.examples = none) :
    (ofReader reader).cursor.examples = none := by
  simp [ofReader, Reader.standing, h]

theorem examples_ofReader_some {block : ExamplesBlock} (h : reader.examples = some block) :
    (ofReader reader).cursor.examples =
      some { block with target := reader.lastScenarioIndex } := by
  simp [ofReader, Reader.standing, h]

/-- The scenario of an open table is never lost: the reader is sound. -/
theorem flush_ofReader (h : reader.Sound) :
    (ofReader reader).flush = ⟨ofReader reader.flush.value, reader.flush.notices⟩ := by
  unfold flush Reader.flush
  cases hexamples : reader.examples with
  | none =>
    simp only [examples_ofReader_none hexamples]
    rfl
  | some block =>
    obtain ⟨scenario, hscenario, -⟩ := h.outlined (by simp [hexamples])
    -- the table is closed first, which does not change where its scenario is
    have hclosed : ({ ofReader reader with
        cursor := { (ofReader reader).cursor with examples := none } } : IndexedReader) =
        ofReader { reader with examples := none } := rfl
    have hfound : (ofReader { reader with examples := none }).scenarioAt reader.lastScenarioIndex =
        .ok scenario := by
      apply scenarioAt_ofReader
      exact hscenario
    have hsettled : (ofReader { reader with examples := none }).modifyScenario
        reader.lastScenarioIndex (·.modifyOutline (Reader.addRows block.rows)) =
        ofReader ({ reader with examples := none }.modifyScenario
          (·.modifyOutline (Reader.addRows block.rows))) := by
      apply modifyScenario_ofReader
    simp only [examples_ofReader_some hexamples, hclosed, hfound, hsettled]
    rfl

/-! ## Headers -/

theorem onFeature_ofReader (hexamples : reader.examples = none) (header : Header) :
    (ofReader reader).onFeature header = ofOutcome (reader.onFeature header) := by
  unfold onFeature Reader.onFeature
  rw [isSome_cursor_feature]
  cases hfeature : reader.feature with
  | some feature => rfl
  | none =>
    split
    · rfl
    split
    · rfl
    · simp only [ofReader, Reader.standing, hfeature, hexamples]
      rfl

/-- What a header opens: a place in the feature that is read, which it may have changed. -/
theorem ofOutcome_opened {before : Feature} (hfeature : reader.feature = some before)
    (hexamples : reader.examples = none) (feature : Feature) (place : Option Place) :
    ofOutcome ({ reader with feature := some feature, place : Reader }.accept .header) =
      accept
        { ofReader reader with
          features := [feature]
          cursor := { (ofReader reader).cursor with
            rule := feature.lastRule?, container := place.map feature.containerOf } }
        .header := by
  simp only [ofReader, Reader.standing, hexamples, Reader.featureIndex?, hfeature]
  rfl

theorem onRule_ofReader {feature : Feature} (hfeature : reader.feature = some feature)
    (hexamples : reader.examples = none) (header : Header) (tags : TagSet) :
    (ofReader reader).onRule header tags = ofOutcome (reader.onRule header tags) := by
  simp only [onRule, Reader.onRule, feature?_ofReader, hfeature, modifyFeature_ofReader,
    Option.map_some]
  rw [ofOutcome_opened hfeature hexamples]
  have hrule : ∀ rule, (feature.addRule rule).lastRule? =
      some ((feature.addRule rule).rules.length - 1) := by
    intro rule
    simp [Feature.lastRule?, Feature.addRule]
  rw [hrule]
  rfl

/-- The kind of the active section goes with the container of its background. -/
theorem kind_container (feature : Feature) :
    (if feature.rules.getLast?.isSome then (SectionKind.rule, Container.ruleBackground)
      else (SectionKind.feature, Container.featureBackground)) =
      (Reader.activeKind feature, feature.containerOf .background) := by
  cases h : feature.rules with
  | nil => simp [Reader.activeKind, Feature.containerOf, Feature.lastRule?, h]
  | cons rule rules => simp [Reader.activeKind, Feature.containerOf, Feature.lastRule?, h]

theorem onBackground_ofReader {feature : Feature} (hfeature : reader.feature = some feature)
    (hexamples : reader.examples = none) (header : Header) (tags : TagSet) :
    (ofReader reader).onBackground header tags =
      ofOutcome (reader.onBackground feature header tags) := by
  have hrule : (ofReader reader).cursor.rule = feature.lastRule? :=
    Reader.ruleIndex?_of_feature hfeature
  simp only [onBackground, Reader.onBackground, feature?_ofReader, hfeature, hrule,
    Feature.scope_lastRule?, Feature.ruleAt?_lastRule?, modifyFeature_ofReader, Option.map_some,
    Feature.modifyScope_lastRule?, kind_container, Reader.modifyActive]
  split
  · rfl
  -- neither the last rule nor the container depends on the background
  · rw [ofOutcome_opened hfeature hexamples, Reader.lastRule?_modifyActive, ← hrule]
    have hcontainer : ∀ f, (feature.modifyActive f).containerOf .background =
        feature.containerOf .background := by
      intro f
      rw [Feature.containerOf, Feature.containerOf, Reader.lastRule?_modifyActive]
    rw [Option.map_some, hcontainer]
    rfl

theorem onScenario_ofReader {feature : Feature} (hfeature : reader.feature = some feature)
    (hexamples : reader.examples = none) (header : Header) (tags : TagSet) :
    (ofReader reader).onScenario header tags = ofOutcome (reader.onScenario header tags) := by
  have hrule : (ofReader reader).cursor.rule = feature.lastRule? :=
    Reader.ruleIndex?_of_feature hfeature
  simp only [onScenario, Reader.onScenario, feature?_ofReader, hfeature, hrule,
    Feature.scope_lastRule?, modifyFeature_ofReader, Option.map_some,
    Feature.modifyScope_lastRule?, Reader.modifyActive]
  rw [ofOutcome_opened hfeature hexamples, Reader.lastRule?_modifyActive, ← hrule, Option.map_some,
    Feature.containerOf, Feature.active_modifyActive]
  rfl

theorem lastScenarioIndex_modifyScenario (f : Scenario → Scenario) (reader : Reader) :
    (reader.modifyScenario f).lastScenarioIndex = reader.lastScenarioIndex := by
  apply Reader.lastScenarioIndex_modifyActive
  intro part
  exact List.length_modify _ _ _

theorem onExamples_ofReader (h : reader.Sound) (tags : TagSet) :
    (ofReader reader).onExamples tags = ofOutcome (reader.onExamples tags) := by
  unfold onExamples
  rcases container_ofReader h with ⟨scenario, hscenario, hcontainer⟩ | ⟨hscenario, hcontainer⟩
  · simp only [hcontainer, Reader.onExamples, hscenario, scenarioAt_ofReader hscenario,
      modifyScenario_ofReader]
    rw [← lastScenarioIndex_modifyScenario (·.modifyOutline id)]
    rfl
  · split
    next index hindex => exact absurd hindex (hcontainer index)
    next =>
      rw [Reader.onExamples, hscenario]
      rfl

theorem onHeader_ofReader (h : reader.Sound) (hexamples : reader.examples = none) (text : String)
    (header : Header) :
    (ofReader reader).onHeader text header = ofOutcome (reader.onHeader text header) := by
  unfold Reader.onHeader
  split
  next hkind =>
    rw [onHeader, if_pos hkind]
    exact onFeature_ofReader hexamples header
  -- no header but the feature line may come first
  next hfeature hkind =>
    have hnone : (ofReader reader).cursor.feature.isNone = true := by
      rw [← Option.not_isSome, isSome_cursor_feature, hfeature]
      rfl
    rw [onHeader, if_neg hkind, if_pos hnone]
    rfl
  next feature hfeature hkind =>
    have hsome : ¬(ofReader reader).cursor.feature.isNone = true := by
      rw [← Option.not_isSome, isSome_cursor_feature, hfeature]
      simp
    have hopen : ({ reader with pendingTags := {} } : Reader).feature = some feature := hfeature
    have hclosed : ({ reader with pendingTags := {} } : Reader).examples = none := hexamples
    rw [onHeader, if_neg hkind, if_neg hsome]
    cases hrole : header.kind with
    | Feature => exact absurd hrole hkind
    | Rule => exact onRule_ofReader hopen hclosed header _
    | Background => exact onBackground_ofReader hopen hclosed header _
    | Examples => exact onExamples_ofReader (h.withTags {}) _
    | Scenario => exact onScenario_ofReader hopen hclosed header _
    | ScenarioOutline => exact onScenario_ofReader hopen hclosed header _

/-! ## Table rows -/

theorem onDataRow_ofReader (cells : List String) :
    (ofReader reader).onDataRow cells = ofOutcome (reader.onDataRow cells) := by
  unfold onDataRow Reader.onDataRow
  rw [hasStep_ofReader, modifyBlock_ofReader]
  split <;> rfl

theorem onExampleRow_ofReader (block : ExamplesBlock) (cells : List String) :
    (ofReader reader).onExampleRow { block with target := reader.lastScenarioIndex } cells =
      ofOutcome (reader.onExampleRow block cells) := rfl

theorem onBareRow_ofReader (h : reader.Sound) (cells : List String) :
    (ofReader reader).onBareRow cells = ofOutcome (reader.onBareRow cells) := by
  unfold onBareRow
  rcases container_ofReader h with ⟨scenario, hscenario, hcontainer⟩ | ⟨hscenario, hcontainer⟩
  · simp only [hcontainer, Reader.onBareRow, hscenario, scenarioAt_ofReader hscenario,
      modifyScenario_ofReader]
    split
    · rw [← lastScenarioIndex_modifyScenario (·.modifyOutline ({ · with missingKeyword := true }))]
      rfl
    · rfl
  · split
    next index hindex => exact absurd hindex (hcontainer index)
    next =>
      rw [Reader.onBareRow, hscenario]
      rfl

theorem onRow_ofReader (h : reader.Sound) (cells : List String) :
    (ofReader reader).onRow cells = ofOutcome (reader.onRow cells) := by
  unfold onRow Reader.onRow
  cases hexamples : reader.examples with
  | some block =>
    simp only [examples_ofReader_some hexamples]
    exact onExampleRow_ofReader block cells
  | none =>
    have hprevious : (ofReader reader).cursor.previous = reader.previous := rfl
    simp only [examples_ofReader_none hexamples, onDataRow_ofReader, onBareRow_ofReader h,
      hprevious]
    split <;> rfl

/-! ## Other lines -/

theorem onComment_ofReader (comment : String) :
    (ofReader reader).onComment comment = ofOutcome (reader.onComment comment) := by
  unfold onComment Reader.onComment
  rw [isSome_cursor_feature]
  obtain ⟨language, feature, place, pendingTags, examples, docString, previous, line⟩ := reader
  cases feature with
  | some feature => rfl
  | none =>
    cases declaredLanguage? comment with
    | none => rfl
    | some code => rfl

theorem onFence_ofReader (text : String) (fence : Fence) (mediaType : Option String) :
    (ofReader reader).onFence text fence mediaType =
      ofOutcome (reader.onFence text fence mediaType) := by
  unfold onFence Reader.onFence
  rw [hasStep_ofReader]
  split <;> rfl

/-- The containers that do not take every step are the backgrounds. -/
theorem isBackground_ofReader (reader : Reader) :
    (ofReader reader).cursor.container.any (·.isBackground) = true ↔
      reader.place = some .background := by
  show reader.container?.any _ = true ↔ _
  unfold Reader.container?
  cases reader.place with
  | none => simp
  | some place =>
    cases place with
    | background =>
      simp only [Option.map_some, Option.any_some, iff_true]
      split <;> rfl
    | scenario => simp [Container.isBackground]

theorem onStep_ofReader (text : String) (found : StepLine) :
    (ofReader reader).onStep text found = ofOutcome (reader.onStep text found) := by
  unfold onStep Reader.onStep
  simp only [isBackground_ofReader, block?_ofReader, modifyBlock_ofReader,
    ← Option.not_isSome, isSome_cursor_feature]
  split
  · rfl
  split
  · rfl
  split <;> rfl

/-- The entity that the cursor describes is the innermost one that is open. -/
theorem describeAt_ofReader (text : String) (reader : Reader) :
    (ofReader reader).modifyFeature
        (·.describeAt (ofReader reader).cursor.rule text (ofReader reader).cursor.container) =
      ofReader
        (match reader.place with
        | none => reader.modifyActive (·.describe text)
        | some _ => reader.modifyBlock (·.describe text)) := by
  have hdescribe : ∀ feature, reader.feature = some feature →
      feature.describeAt (ofReader reader).cursor.rule text (ofReader reader).cursor.container =
        match reader.place with
        | none => feature.modifyActive (·.describe text)
        | some place => feature.modifyActive (·.modifyBlock place (·.describe text)) := by
    intro feature hfeature
    have hrule : (ofReader reader).cursor.rule = feature.lastRule? :=
      Reader.ruleIndex?_of_feature hfeature
    have hcontainer : (ofReader reader).cursor.container = reader.place.map feature.containerOf :=
      Reader.container?_of_feature hfeature
    rw [hrule, hcontainer]
    exact Feature.describeAt_lastRule? text feature reader.place
  cases hplace : reader.place with
  | none =>
    simp only [hplace] at hdescribe
    exact modifyFeature_eq_modifyActive hdescribe fun _ => rfl
  | some place =>
    simp only [hplace] at hdescribe
    simp only [Reader.modifyBlock, hplace]
    exact modifyFeature_eq_modifyActive hdescribe (length_modifyBlock place _)

theorem onProse_ofReader (text : String) :
    (ofReader reader).onProse text = ofOutcome (reader.onProse text) := by
  unfold onProse Reader.onProse
  rw [feature?_ofReader, describeAt_ofReader]
  split
  · rfl
  · cases reader.place <;> rfl

theorem keepsExamples_ofReader (form : LineForm) :
    (ofReader reader).keepsExamples form = reader.keepsExamples form := by
  cases form with
  | blank =>
    cases hexamples : reader.examples with
    | none => simp [keepsExamples, Reader.keepsExamples, examples_ofReader_none, hexamples]
    | some block =>
      simp [keepsExamples, Reader.keepsExamples, examples_ofReader_some hexamples, hexamples]
  | _ => rfl

/-! ## Lines -/

theorem onForm_ofReader (h : reader.Sound) (text trimmed : String) {form : LineForm}
    (hexamples : reader.keepsExamples form = true ∨ reader.examples = none) :
    (ofReader reader).onForm text trimmed form = ofOutcome (reader.onForm text trimmed form) := by
  cases form with
  | comment comment => exact onComment_ofReader comment
  | header header =>
    exact onHeader_ofReader h (by simpa [Reader.keepsExamples] using hexamples) trimmed header
  | row cells => exact onRow_ofReader h cells
  | blank => rfl
  | tags tags => rfl
  | fence fence mediaType => exact onFence_ofReader text fence mediaType
  | step found => exact onStep_ofReader trimmed found
  | prose => exact onProse_ofReader trimmed

theorem onLine_ofReader (h : reader.Sound) (text : String) :
    (ofReader reader).onLine text = ofOutcome (reader.onLine text) := by
  unfold onLine Reader.onLine
  have hlanguage : (ofReader reader).language = reader.language := rfl
  simp only [keepsExamples_ofReader, flush_ofReader h, hlanguage]
  by_cases hkeeps : reader.keepsExamples (reader.language.form (Text.trim text)) = true
  · simp only [if_pos hkeeps, Noted.pure_value, Noted.pure_notices, after_ofOutcome,
      onForm_ofReader h _ _ (.inl hkeeps)]
  · simp only [if_neg hkeeps, after_ofOutcome,
      onForm_ofReader h.flush _ _ (.inr (Reader.flush_examples reader))]

theorem modifyBlock_closed (f : StepBlock → StepBlock) (reader : Reader) :
    ({ reader with docString := none } : Reader).modifyBlock f =
      { reader.modifyBlock f with docString := none } := by
  obtain ⟨language, feature, place, pendingTags, examples, docString, previous, line⟩ := reader
  cases place <;> rfl

theorem onDocString_ofReader (doc : OpenDocString) (text : String) :
    (ofReader reader).onDocString doc text = ofOutcome (reader.onDocString doc text) := by
  unfold onDocString Reader.onDocString
  split
  · have hclosed : ({ ofReader reader with
        cursor := { (ofReader reader).cursor with docString := none } } : IndexedReader) =
        ofReader { reader with docString := none } := rfl
    simp only [hclosed, modifyBlock_ofReader, modifyBlock_closed]
    rfl
  · rfl

theorem take_ofReader (h : reader.Sound) (text : String) :
    (ofReader reader).take text = ofOutcome (reader.take text) := by
  unfold take Reader.take
  have hdoc : (ofReader reader).cursor.docString = reader.docString := rfl
  rw [hdoc]
  cases reader.docString with
  | none => exact onLine_ofReader h text
  | some doc => exact onDocString_ofReader doc text

/-- Both readers take a line in the same way: with the same fault and notices, if any, and to the
    same state. -/
theorem read_ofReader (h : reader.Sound) (text : String) :
    (ofReader reader).read text = ofOutcome (reader.read text) := by
  have hcounted : ({ ofReader reader with
      cursor := { (ofReader reader).cursor with line := (ofReader reader).cursor.line + 1 } } :
        IndexedReader) = ofReader { reader with line := reader.line + 1 } := rfl
  unfold read Reader.read
  simp only [hcounted, take_ofReader (h.withLine (reader.line + 1))]
  -- what is left is the notice after an accepted line
  generalize ({ reader with line := reader.line + 1 } : Reader).take text = outcome
  obtain ⟨after, fault, notices⟩ := outcome
  cases fault <;> rfl

theorem readAll_ofReader (h : reader.Sound) (lines : List String) :
    (ofReader reader).readAll lines = ofOutcome (reader.readAll lines) := by
  induction lines generalizing reader with
  | nil => rfl
  | cons line lines ih =>
    unfold readAll Reader.readAll
    rw [read_ofReader h]
    cases hfault : (reader.read line).fault with
    | some fault => simp only [ofOutcome, hfault]
    | none =>
      have hrest := ih (h.read line)
      simp only [ofOutcome, hfault] at hrest ⊢
      rw [hrest]
      rfl

theorem readEach_ofReader (h : reader.Sound) (lines : List String) :
    (ofReader reader).readEach lines = ofReader (reader.readEach lines) := by
  induction lines generalizing reader with
  | nil => rfl
  | cons line lines ih =>
    show readEach ((ofReader reader).read line).reader lines = _
    rw [read_ofReader h]
    exact ih (h.read line)

theorem readEach_ofLanguage (code : String) (lines : List String) :
    (ofLanguage code).value.readEach lines =
      ofReader ((Reader.ofLanguage code).value.readEach lines) := by
  rw [ofLanguage_eq_ofReader]
  exact readEach_ofReader (Reader.sound_start _) lines

end Gherkin.IndexedReader
