/-
  Gherkin.Proofs.Reader.Sound

  What holds of a reader after any lines, the refused ones included: the open
  block is there, an open examples table stands in an outline, and a doc-string
  or a data table follows a step of the open block. Each transition keeps this,
  so every run keeps it.
-/
import Gherkin.Proofs.Reader.Accepted

namespace Gherkin

/-! ## The open block under changes -/

theorem Section.block?_modifyBlock (part : Section) (place : Place) (f : StepBlock → StepBlock) :
    (part.modifyBlock place f).block? place = (part.block? place).map f := by
  cases place with
  | background => rfl
  | scenario =>
    simp only [modifyBlock, modifyLastScenario, block?, getLast?_modify_length_sub_one,
      Option.map_map]
    rfl

theorem Section.block?_modifyLastScenario (part : Section) (place : Place)
    {f : Scenario → Scenario} (hf : ∀ s, (f s).toStepBlock = s.toStepBlock) :
    (part.modifyLastScenario f).block? place = part.block? place := by
  cases place with
  | background => rfl
  | scenario =>
    simp only [modifyLastScenario, block?, getLast?_modify_length_sub_one, Option.map_map]
    congr 1
    funext s
    exact hf s

namespace Reader

theorem block?_modifyActive (f : Section → Section) (reader : Reader) :
    (reader.modifyActive f).block? =
      reader.feature.bind fun feature => reader.place.bind (f feature.active).block? := by
  cases hf : reader.feature with
  | none => simp [block?, modifyActive, hf]
  | some feature => simp [block?, modifyActive, hf, Feature.active_modifyActive]

theorem block?_modifyBlock (f : StepBlock → StepBlock) (reader : Reader) :
    (reader.modifyBlock f).block? = reader.block?.map f := by
  unfold modifyBlock
  split
  next hplace => simp [block?, hplace]
  next place hplace =>
    rw [block?_modifyActive, hplace]
    cases hf : reader.feature with
    | none => simp [block?, hf]
    | some feature => simp [block?, hf, hplace, Section.block?_modifyBlock]

theorem block?_modifyScenario {f : Scenario → Scenario}
    (hf : ∀ s, (f s).toStepBlock = s.toStepBlock) (reader : Reader) :
    (reader.modifyScenario f).block? = reader.block? := by
  unfold modifyScenario
  rw [block?_modifyActive]
  cases hfeature : reader.feature with
  | none => simp [block?, hfeature]
  | some feature =>
    cases hplace : reader.place with
    | none => simp [block?, hfeature, hplace]
    | some place =>
      simp [block?, hfeature, hplace, Section.block?_modifyLastScenario _ _ hf]

theorem scenario?_modifyScenario (f : Scenario → Scenario) (reader : Reader) :
    (reader.modifyScenario f).scenario? = reader.scenario?.map f := by
  have hplace : (reader.modifyScenario f).place = reader.place := rfl
  unfold scenario?
  rw [hplace]
  split
  · cases hf : reader.feature with
    | none => simp [modifyScenario, modifyActive, hf]
    | some feature =>
      simp [modifyScenario, modifyActive, hf, Feature.active_modifyActive,
        Section.modifyLastScenario, getLast?_modify_length_sub_one]
  · rfl

theorem scenario?_modifyBlock (f : StepBlock → StepBlock) (reader : Reader) :
    (reader.modifyBlock f).scenario? = reader.scenario?.map (·.modifyBlock f) := by
  cases hplace : reader.place with
  | none => simp [modifyBlock, scenario?, hplace]
  | some place =>
    cases place with
    | background => simp [modifyBlock, modifyActive, scenario?, hplace]
    | scenario =>
      have hmodify : reader.modifyBlock f = reader.modifyScenario (·.modifyBlock f) := by
        simp [modifyBlock, modifyScenario, hplace, Section.modifyBlock]
      rw [hmodify, scenario?_modifyScenario]

theorem place_of_scenario? {reader : Reader} {scenario : Scenario}
    (h : reader.scenario? = some scenario) : reader.place = some .scenario := by
  unfold scenario? at h
  split at h
  · assumption
  · cases h

theorem hasStep_eq_true_iff {reader : Reader} :
    reader.hasStep = true ↔ ∃ block, reader.block? = some block ∧ block.steps ≠ [] := by
  simp [hasStep, Option.any_eq_true]

/-- A change of the open block that does not empty it leaves a step in it. -/
theorem hasStep_modifyBlock {f : StepBlock → StepBlock} {reader : Reader}
    (hf : ∀ block : StepBlock, block.steps ≠ [] → (f block).steps ≠ [])
    (h : reader.hasStep = true) : (reader.modifyBlock f).hasStep = true := by
  obtain ⟨block, hblock, hsteps⟩ := hasStep_eq_true_iff.1 h
  apply hasStep_eq_true_iff.2
  refine ⟨f block, ?_, hf block hsteps⟩
  rw [block?_modifyBlock, hblock, Option.map_some]

/-! ## What a change of the document leaves alone -/

@[simp] theorem modifyBlock_place (f : StepBlock → StepBlock) (reader : Reader) :
    (reader.modifyBlock f).place = reader.place := by
  unfold modifyBlock
  split <;> rfl

@[simp] theorem modifyBlock_examples (f : StepBlock → StepBlock) (reader : Reader) :
    (reader.modifyBlock f).examples = reader.examples := by
  unfold modifyBlock
  split <;> rfl

@[simp] theorem modifyBlock_docString (f : StepBlock → StepBlock) (reader : Reader) :
    (reader.modifyBlock f).docString = reader.docString := by
  unfold modifyBlock
  split <;> rfl

@[simp] theorem modifyBlock_previous (f : StepBlock → StepBlock) (reader : Reader) :
    (reader.modifyBlock f).previous = reader.previous := by
  unfold modifyBlock
  split <;> rfl

theorem language_modifyActive (f : Section → Section) (feature : Feature) :
    (feature.modifyActive f).language = feature.language := by
  unfold Feature.modifyActive
  split <;> rfl

/-! ## The invariant -/

/-- What holds of a reader between two lines. -/
structure Sound (reader : Reader) : Prop where
  /-- The open block is there. -/
  placed : reader.place.isSome → reader.block?.isSome
  /-- An open examples table stands in an outline. -/
  outlined : reader.examples.isSome → ∃ s, reader.scenario? = some s ∧ s.isOutline
  /-- A doc-string follows a step. -/
  fenced : reader.docString.isSome → reader.examples = none ∧ reader.hasStep
  /-- So does a data table. -/
  tabled : reader.previous = .step ∨ reader.previous = .dataTableRow →
    reader.examples = none ∧ reader.hasStep
  /-- The feature is written in the language in use. -/
  spoken : ∀ feature, reader.feature = some feature → feature.language = reader.language.code

/-- Before the first line nothing is open. -/
theorem sound_start (language : Language) : ({ language } : Reader).Sound where
  placed := by simp
  outlined := by simp
  fenced := by simp
  tabled := by simp
  spoken := by simp

namespace Sound

variable {reader : Reader}

theorem spoken_modifyActive (h : reader.Sound) (f : Section → Section) :
    ∀ feature, (reader.modifyActive f).feature = some feature →
      feature.language = reader.language.code := by
  intro feature hfeature
  obtain ⟨before, hbefore, rfl⟩ := Option.map_eq_some_iff.1 hfeature
  rw [language_modifyActive]
  exact h.spoken before hbefore

theorem spoken_modifyBlock (h : reader.Sound) (f : StepBlock → StepBlock) :
    ∀ feature, (reader.modifyBlock f).feature = some feature →
      feature.language = (reader.modifyBlock f).language.code := by
  unfold modifyBlock
  split
  · exact h.spoken
  · exact h.spoken_modifyActive _

/-- A change of the open block may not empty it. -/
theorem modifyBlock {f : StepBlock → StepBlock} (h : reader.Sound)
    (hf : ∀ block : StepBlock, block.steps ≠ [] → (f block).steps ≠ []) :
    (reader.modifyBlock f).Sound := by
  constructor
  · intro hplace
    rw [block?_modifyBlock, Option.isSome_map]
    exact h.placed (by simpa using hplace)
  · intro hexamples
    obtain ⟨s, hs, houtline⟩ := h.outlined (by simpa using hexamples)
    refine ⟨s.modifyBlock f, ?_, houtline⟩
    rw [scenario?_modifyBlock, hs, Option.map_some]
  · intro hdoc
    obtain ⟨hexamples, hsteps⟩ := h.fenced (by simpa using hdoc)
    exact ⟨by simpa using hexamples, hasStep_modifyBlock hf hsteps⟩
  · intro hprevious
    obtain ⟨hexamples, hsteps⟩ := h.tabled (by simpa using hprevious)
    exact ⟨by simpa using hexamples, hasStep_modifyBlock hf hsteps⟩
  · exact h.spoken_modifyBlock f

/-- A change of the last scenario may not make a plain scenario of it. -/
theorem modifyScenario {f : Scenario → Scenario} (h : reader.Sound)
    (hblock : ∀ s, (f s).toStepBlock = s.toStepBlock)
    (houtline : ∀ s, s.isOutline = true → (f s).isOutline = true) :
    (reader.modifyScenario f).Sound := by
  -- the block of the scenario stays, and so do its steps
  have hsame : (reader.modifyScenario f).block? = reader.block? :=
    block?_modifyScenario hblock reader
  have hstep : (reader.modifyScenario f).hasStep = reader.hasStep := by
    rw [hasStep, hasStep, hsame]
  constructor
  · rw [hsame]
    exact h.placed
  · intro hexamples
    obtain ⟨s, hs, hout⟩ := h.outlined hexamples
    refine ⟨f s, ?_, houtline s hout⟩
    rw [scenario?_modifyScenario, hs, Option.map_some]
  · rw [hstep]
    exact h.fenced
  · rw [hstep]
    exact h.tabled
  · exact h.spoken_modifyActive _

/-- Once an examples table has ended nothing is asked of its outline. -/
theorem endExamples (h : reader.Sound) : { reader with examples := none : Reader }.Sound where
  placed := h.placed
  outlined := by simp
  fenced hdoc := ⟨rfl, (h.fenced hdoc).2⟩
  tabled hprevious := ⟨rfl, (h.tabled hprevious).2⟩
  spoken := h.spoken

/-- Kinds that no data table follows may come at any time. -/
theorem accept (h : reader.Sound) {kind : LineKind} (hstep : kind ≠ .step)
    (hrow : kind ≠ .dataTableRow) : (reader.accept kind).reader.Sound where
  placed := h.placed
  outlined := h.outlined
  fenced := h.fenced
  tabled := by simp [Reader.accept, hstep, hrow]
  spoken := h.spoken

/-- A step, or a row of its table, may come where there is a step and no examples table. -/
theorem acceptStep (h : reader.Sound) (hexamples : reader.examples = none)
    (hstep : reader.hasStep = true) (kind : LineKind) : (reader.accept kind).reader.Sound where
  placed := h.placed
  outlined := h.outlined
  fenced := h.fenced
  tabled _ := ⟨hexamples, hstep⟩
  spoken := h.spoken

/-- Tags that wait are no concern. -/
theorem withTags (h : reader.Sound) (tags : TagSet) :
    { reader with pendingTags := tags : Reader }.Sound :=
  ⟨h.placed, h.outlined, h.fenced, h.tabled, h.spoken⟩

/-- Neither is the number of lines. -/
theorem withLine (h : reader.Sound) (line : Nat) : { reader with line : Reader }.Sound :=
  ⟨h.placed, h.outlined, h.fenced, h.tabled, h.spoken⟩

/-- After a header only the block that it opened has to be there. -/
theorem acceptHeader (hexamples : reader.examples = none) (hdoc : reader.docString = none)
    (hplaced : reader.place.isSome → reader.block?.isSome)
    (hspoken : ∀ feature, reader.feature = some feature →
      feature.language = reader.language.code) :
    (reader.accept .header).reader.Sound where
  placed := hplaced
  outlined := by simp [Reader.accept, hexamples]
  fenced := by simp [Reader.accept, hdoc]
  tabled := by simp [Reader.accept]
  spoken := hspoken

theorem isOutline_modifyOutline (f : Outline → Outline) (scenario : Scenario) :
    (scenario.modifyOutline f).isOutline = true := rfl

/-- Ending an examples table stores its rows on the outline. -/
theorem flush (h : reader.Sound) : reader.flush.value.Sound := by
  unfold Reader.flush
  split
  · exact h
  · refine endExamples (h.modifyScenario ?_ ?_)
    · intro s
      rfl
    · intro s _
      exact isOutline_modifyOutline _ s

/-! ## Headers -/

theorem onFeature (h : reader.Sound) (hexamples : reader.examples = none)
    (hdoc : reader.docString = none) (header : Header) :
    (reader.onFeature header).reader.Sound := by
  unfold Reader.onFeature
  split
  · exact h
  split
  · exact h
  · show (Reader.accept _ .header).reader.Sound
    apply acceptHeader
    · exact hexamples
    · exact hdoc
    · simp
    · rintro feature hfeature
      obtain rfl := Option.some.inj hfeature
      rfl

theorem onRule (h : reader.Sound) (hexamples : reader.examples = none)
    (hdoc : reader.docString = none) (header : Header) (tags : TagSet) :
    (reader.onRule header tags).reader.Sound := by
  show (Reader.accept _ .header).reader.Sound
  apply acceptHeader
  · exact hexamples
  · exact hdoc
  · simp
  · intro feature hfeature
    obtain ⟨before, hbefore, rfl⟩ := Option.map_eq_some_iff.1 hfeature
    exact h.spoken before hbefore

theorem onBackground (h : reader.Sound) (hexamples : reader.examples = none)
    (hdoc : reader.docString = none) {feature : Feature} (hfeature : reader.feature = some feature)
    (header : Header) (tags : TagSet) :
    (reader.onBackground feature header tags).reader.Sound := by
  unfold Reader.onBackground
  split
  · exact h
  · show (Reader.accept _ .header).reader.Sound
    apply acceptHeader
    · exact hexamples
    · exact hdoc
    · intro _
      simp [block?, modifyActive, hfeature, Feature.active_modifyActive, Section.block?]
    · exact h.spoken_modifyActive _

theorem onScenario (h : reader.Sound) (hexamples : reader.examples = none)
    (hdoc : reader.docString = none) {feature : Feature} (hfeature : reader.feature = some feature)
    (header : Header) (tags : TagSet) : (reader.onScenario header tags).reader.Sound := by
  show (Reader.accept _ .header).reader.Sound
  apply acceptHeader
  · exact hexamples
  · exact hdoc
  · intro _
    simp [block?, modifyActive, hfeature, Feature.active_modifyActive, Section.block?,
      Section.addScenario]
  · exact h.spoken_modifyActive _

/-- A table may be opened in what has become an outline. -/
theorem openExamples (h : reader.Sound) (hdoc : reader.docString = none) {scenario : Scenario}
    (hscenario : reader.scenario? = some scenario) (houtline : scenario.isOutline = true)
    (block : ExamplesBlock) {kind : LineKind} (hstep : kind ≠ .step) (hrow : kind ≠ .dataTableRow) :
    ({ reader with examples := some block : Reader }.accept kind).reader.Sound where
  placed := h.placed
  outlined _ := ⟨scenario, hscenario, houtline⟩
  fenced := by simp [Reader.accept, hdoc]
  tabled := by simp [Reader.accept, hstep, hrow]
  spoken := h.spoken

/-- Both kinds of examples table make sure of the outline first. -/
theorem scenario?_modifyOutline (f : Outline → Outline) {scenario : Scenario}
    (hscenario : reader.scenario? = some scenario) :
    (reader.modifyScenario (·.modifyOutline f)).scenario? = some (scenario.modifyOutline f) := by
  rw [scenario?_modifyScenario, hscenario, Option.map_some]

theorem modifyOutline (h : reader.Sound) (f : Outline → Outline) :
    (reader.modifyScenario (·.modifyOutline f)).Sound :=
  h.modifyScenario (fun _ => rfl) fun s _ => isOutline_modifyOutline f s

theorem onExamples (h : reader.Sound) (hdoc : reader.docString = none) (tags : TagSet) :
    (reader.onExamples tags).reader.Sound := by
  unfold Reader.onExamples
  split
  · exact h
  next scenario hscenario =>
    exact (h.modifyOutline id).openExamples hdoc (scenario?_modifyOutline id hscenario)
      (isOutline_modifyOutline id scenario) _ (by decide) (by decide)

theorem onHeader (h : reader.Sound) (hexamples : reader.examples = none)
    (hdoc : reader.docString = none) (text : String) (header : Header) :
    (reader.onHeader text header).reader.Sound := by
  unfold Reader.onHeader
  split
  · exact h.onFeature hexamples hdoc header
  · exact h
  next feature hfeature _ =>
    have htagless := h.withTags {}
    split
    · exact htagless.onRule hexamples hdoc header _
    · exact htagless.onBackground hexamples hdoc hfeature header _
    · exact htagless.onExamples hdoc _
    · exact htagless.onScenario hexamples hdoc hfeature header _

/-! ## Table rows -/

theorem onDataRow (h : reader.Sound) (hexamples : reader.examples = none) (cells : List String) :
    (reader.onDataRow cells).reader.Sound := by
  unfold Reader.onDataRow
  split
  next hstep =>
    have hf : ∀ block : StepBlock, block.steps ≠ [] →
        (block.modifyLastStep (·.addRow cells)).steps ≠ [] := by
      intro block hsteps
      simpa [StepBlock.modifyLastStep] using hsteps
    apply (h.modifyBlock hf).acceptStep
    · simpa using hexamples
    · exact hasStep_modifyBlock hf hstep
  next => exact h

theorem onExampleRow (h : reader.Sound) (hdoc : reader.docString = none) {scenario : Scenario}
    (hscenario : reader.scenario? = some scenario) (houtline : scenario.isOutline = true)
    (block : ExamplesBlock) (cells : List String) :
    (reader.onExampleRow block cells).reader.Sound :=
  h.openExamples hdoc hscenario houtline _ (by decide) (by decide)

theorem onBareRow (h : reader.Sound) (hdoc : reader.docString = none) (cells : List String) :
    (reader.onBareRow cells).reader.Sound := by
  unfold Reader.onBareRow
  split
  · exact h
  next scenario hscenario =>
    split
    · exact (h.modifyOutline _).onExampleRow hdoc (scenario?_modifyOutline _ hscenario)
        (isOutline_modifyOutline _ scenario) _ cells
    · exact h

theorem onRow (h : reader.Sound) (hdoc : reader.docString = none) (cells : List String) :
    (reader.onRow cells).reader.Sound := by
  unfold Reader.onRow
  split
  next block hblock =>
    obtain ⟨scenario, hscenario, houtline⟩ := h.outlined (by simp [hblock])
    exact h.onExampleRow hdoc hscenario houtline block cells
  next hexamples =>
    split
    · exact h.onDataRow hexamples cells
    · exact h.onBareRow hdoc cells

/-! ## Other lines -/

theorem onComment (h : reader.Sound) (comment : String) :
    (reader.onComment comment).reader.Sound := by
  unfold Reader.onComment
  split
  next hfeature _ =>
    exact ⟨h.placed, h.outlined, h.fenced, h.tabled, by simp [hfeature]⟩
  next => exact h

theorem onTags (h : reader.Sound) (tags : List String) : (reader.onTags tags).reader.Sound :=
  (h.withTags _).accept (by decide) (by decide)

theorem onFence (h : reader.Sound) (hexamples : reader.examples = none) (text : String)
    (fence : Fence) (mediaType : Option String) :
    (reader.onFence text fence mediaType).reader.Sound := by
  unfold Reader.onFence
  split
  next hstep => exact ⟨h.placed, h.outlined, fun _ => ⟨hexamples, hstep⟩, h.tabled, h.spoken⟩
  next => exact h

theorem onStep (h : reader.Sound) (hexamples : reader.examples = none) (text : String)
    (found : StepLine) : (reader.onStep text found).reader.Sound := by
  unfold Reader.onStep
  split
  · exact h
  split
  · exact h
  split
  · exact h
  next hblock _ =>
    obtain ⟨block, hblock⟩ := Option.ne_none_iff_exists'.1 (by simpa using hblock)
    -- the new step is the one that rows and doc-strings will hang on
    apply (h.modifyBlock _).acceptStep
    · simpa using hexamples
    · apply hasStep_eq_true_iff.2
      refine ⟨_, by rw [block?_modifyBlock, hblock, Option.map_some], ?_⟩
      simp [StepBlock.addStep]
    · intro block _
      simp [StepBlock.addStep]

theorem onProse (h : reader.Sound) (text : String) : (reader.onProse text).reader.Sound := by
  unfold Reader.onProse
  split
  · exact h.accept (by decide) (by decide)
  split
  next hplace =>
    -- outside blocks no table, doc-string or step is open that could be lost
    have hdescribed : (reader.modifyActive (·.describe text)).Sound := by
      have hblock : (reader.modifyActive (·.describe text)).block? = none := by
        rw [block?_modifyActive, hplace]
        cases reader.feature <;> rfl
      have hstep : reader.hasStep = false := by
        simp [hasStep, block?, hplace]
      constructor
      · intro hopen
        rw [show (reader.modifyActive (·.describe text)).place = none from hplace] at hopen
        cases hopen
      · intro hopen
        obtain ⟨s, hs, _⟩ := h.outlined hopen
        rw [place_of_scenario? hs] at hplace
        cases hplace
      · intro hopen
        rw [(h.fenced hopen).2] at hstep
        cases hstep
      · intro hprevious
        rw [(h.tabled hprevious).2] at hstep
        cases hstep
      · exact h.spoken_modifyActive _
    exact hdescribed.accept (by decide) (by decide)
  next =>
    apply (h.modifyBlock _).accept (by decide) (by decide)
    intro block hsteps
    exact hsteps

/-! ## Lines -/

/-- Unless the line may stand inside an examples table, none may be open. -/
theorem onForm (h : reader.Sound) (hdoc : reader.docString = none) (text trimmed : String)
    {form : LineForm} (hexamples : reader.keepsExamples form = true ∨ reader.examples = none) :
    (reader.onForm text trimmed form).reader.Sound := by
  cases form with
  | comment comment => exact h.onComment comment
  | header header => exact h.onHeader (by simpa [keepsExamples] using hexamples) hdoc trimmed header
  | row cells => exact h.onRow hdoc cells
  | blank => exact h.accept (by decide) (by decide)
  | tags tags => exact h.onTags tags
  | fence fence mediaType =>
    exact h.onFence (by simpa [keepsExamples] using hexamples) text fence mediaType
  | step found => exact h.onStep (by simpa [keepsExamples] using hexamples) trimmed found
  | prose => exact h.onProse trimmed

theorem settle (h : reader.Sound) (form : LineForm) : (reader.settle form).Sound := by
  unfold Reader.settle
  split
  · exact h
  · exact h.flush

theorem onLine (h : reader.Sound) (hdoc : reader.docString = none) (text : String) :
    (reader.onLine text).reader.Sound := by
  rw [onLine_reader]
  apply (h.settle _).onForm
  · rw [settle_docString]
    exact hdoc
  · exact settle_examples reader _

theorem onDocString (h : reader.Sound) {doc : OpenDocString} (hdoc : reader.docString = some doc)
    (text : String) : (reader.onDocString doc text).reader.Sound := by
  unfold Reader.onDocString
  split
  · have hclosed : (reader.modifyBlock
        (·.modifyLastStep ({ · with docString := some doc.close }))).Sound := by
      apply h.modifyBlock
      intro block hsteps
      simpa [StepBlock.modifyLastStep] using hsteps
    exact ⟨hclosed.placed, hclosed.outlined, by simp [Reader.accept], by simp [Reader.accept],
      hclosed.spoken⟩
  · exact ⟨h.placed, h.outlined, fun _ => h.fenced (by simp [hdoc]), h.tabled, h.spoken⟩

theorem take (h : reader.Sound) (text : String) : (reader.take text).reader.Sound := by
  unfold Reader.take
  split
  next doc hdoc => exact h.onDocString hdoc text
  next hdoc => exact h.onLine hdoc text

theorem read (h : reader.Sound) (text : String) : (reader.read text).reader.Sound := by
  rw [read_reader]
  exact (h.withLine _).take text

theorem readAll (h : reader.Sound) (lines : List String) :
    (reader.readAll lines).reader.Sound := by
  induction lines generalizing reader with
  | nil => exact h
  | cons line lines ih =>
    unfold Reader.readAll
    cases hfault : (reader.read line).fault with
    | some fault =>
      simp only [hfault]
      exact h.read line
    | none =>
      simp only [hfault]
      exact ih (h.read line)

theorem readEach (h : reader.Sound) (lines : List String) : (reader.readEach lines).Sound := by
  induction lines generalizing reader with
  | nil => exact h
  | cons line lines ih => exact ih (h.read line)

end Sound

end Reader

end Gherkin
