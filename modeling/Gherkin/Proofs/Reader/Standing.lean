/-
  Gherkin.Proofs.Reader.Standing

  Where a reader stands, as its document tells: the active rule is the last one
  and the open scenario the last one of the active section. An indexed reader
  that records these indices finds by them what the reader finds in the document,
  and changes the same parts.
-/
import Gherkin.Proofs.Document.Index
import Gherkin.Proofs.Reader.Sound

namespace Gherkin

/-! ## The standing that a document tells -/

namespace Reader

/-- The cursor of a reader: each index leads to the last part of its kind. -/
def standing (reader : Reader) : Cursor where
  language := reader.language.code
  feature := reader.featureIndex?
  rule := reader.ruleIndex?
  container := reader.container?
  pendingTags := reader.pendingTags
  examples := reader.examples.map ({ · with target := reader.lastScenarioIndex })
  docString := reader.docString
  previous := reader.previous
  line := reader.line

variable {reader : Reader} {feature : Feature}

theorem ruleIndex?_of_feature (h : reader.feature = some feature) :
    reader.ruleIndex? = feature.lastRule? := by
  rw [ruleIndex?, h]
  rfl

theorem lastScenarioIndex_of_feature (h : reader.feature = some feature) :
    reader.lastScenarioIndex = feature.active.scenarios.length - 1 := by
  rw [lastScenarioIndex, h]
  rfl

theorem container?_of_feature (h : reader.feature = some feature) :
    reader.container? = reader.place.map feature.containerOf := by
  unfold container?
  congr 1
  funext place
  cases place with
  | background => rw [Feature.containerOf, ruleIndex?_of_feature h]
  | scenario => rw [Feature.containerOf, lastScenarioIndex_of_feature h]

theorem lastRule?_modifyActive (f : Section → Section) (feature : Feature) :
    (feature.modifyActive f).lastRule? = feature.lastRule? := by
  unfold Feature.modifyActive
  split
  · rfl
  · simp [Feature.lastRule?]

/-- A change that adds no scenario to the active section moves no index. -/
theorem lastScenarioIndex_modifyActive {f : Section → Section}
    (hf : ∀ part, (f part).scenarios.length = part.scenarios.length) (reader : Reader) :
    (reader.modifyActive f).lastScenarioIndex = reader.lastScenarioIndex := by
  cases h : reader.feature with
  | none => simp [modifyActive, lastScenarioIndex, h]
  | some feature =>
    simp [modifyActive, lastScenarioIndex, h, Feature.active_modifyActive, hf]

theorem standing_modifyActive {f : Section → Section}
    (hf : ∀ part, (f part).scenarios.length = part.scenarios.length) (reader : Reader) :
    (reader.modifyActive f).standing = reader.standing := by
  have hfeature : (reader.modifyActive f).featureIndex? = reader.featureIndex? := by
    cases h : reader.feature <;> simp [modifyActive, featureIndex?, h]
  -- the number of rules stays, and with it the index of the last one
  have hrule : (reader.modifyActive f).ruleIndex? = reader.ruleIndex? := by
    cases h : reader.feature with
    | none => simp [modifyActive, ruleIndex?, h]
    | some feature =>
      have hmodified : (reader.modifyActive f).feature = some (feature.modifyActive f) := by
        simp [modifyActive, h]
      rw [ruleIndex?_of_feature h, ruleIndex?_of_feature hmodified, lastRule?_modifyActive]
  have hindex := lastScenarioIndex_modifyActive hf reader
  have hcontainer : (reader.modifyActive f).container? = reader.container? := by
    rw [container?, container?, hrule, hindex]
    rfl
  simp only [standing, hfeature, hrule, hindex, hcontainer]
  rfl

end Reader

namespace IndexedReader

/-- The indexed reader in the state of a reader. -/
def ofReader (reader : Reader) : IndexedReader where
  language := reader.language
  cursor := reader.standing
  features := reader.feature.toList

/-- The outcome for the indexed reader. -/
def ofOutcome (outcome : Reader.Outcome) : Outcome where
  reader := ofReader outcome.reader
  fault := outcome.fault
  notices := outcome.notices

theorem ofLanguage_eq_ofReader (code : String) :
    (ofLanguage code).value = ofReader (Reader.ofLanguage code).value := rfl

/-! ## Looking up -/

theorem feature?_ofReader (reader : Reader) : (ofReader reader).feature? = reader.feature := by
  cases h : reader.feature with
  | none => simp [feature?, ofReader, Reader.standing, Reader.featureIndex?, h]
  | some feature => simp [feature?, ofReader, Reader.standing, Reader.featureIndex?, h]

theorem isSome_cursor_feature (reader : Reader) :
    (ofReader reader).cursor.feature.isSome = reader.feature.isSome := by
  simp [ofReader, Reader.standing, Reader.featureIndex?]

theorem block?_ofReader (reader : Reader) : (ofReader reader).block? = reader.block? := by
  unfold block? Reader.block?
  rw [feature?_ofReader]
  cases h : reader.feature with
  | none => rfl
  | some feature =>
    -- with the feature at hand the indices are those of its last parts
    show ((reader.container?).bind (feature.blockAt? reader.ruleIndex?)) = _
    rw [Reader.container?_of_feature h, Reader.ruleIndex?_of_feature h]
    cases reader.place with
    | none => rfl
    | some place => exact Feature.blockAt?_containerOf feature place

theorem hasStep_ofReader (reader : Reader) : (ofReader reader).hasStep = reader.hasStep := by
  rw [hasStep, Reader.hasStep, block?_ofReader]

/-- The scenario under the index of the last one is the open scenario. -/
theorem scenarioAt_ofReader {reader : Reader} {scenario : Scenario}
    (h : reader.scenario? = some scenario) :
    (ofReader reader).scenarioAt reader.lastScenarioIndex = .ok scenario := by
  have hplace := Reader.place_of_scenario? h
  unfold Reader.scenario? at h
  rw [hplace] at h
  cases hfeature : reader.feature with
  | none => simp [hfeature] at h
  | some feature =>
    have hlast : feature.active.scenarios[feature.active.scenarios.length - 1]? =
        some scenario := by
      rw [← List.getLast?_eq_getElem?]
      simpa [hfeature] using h
    have hrule : (ofReader reader).cursor.rule = feature.lastRule? :=
      Reader.ruleIndex?_of_feature hfeature
    simp only [scenarioAt, feature?_ofReader, hfeature, hrule, Feature.scope_lastRule?,
      Reader.lastScenarioIndex_of_feature hfeature, hlast]

/-- Of a sound reader, a container that is a scenario is the open scenario. -/
theorem container_ofReader {reader : Reader} (h : reader.Sound) :
    (∃ scenario, reader.scenario? = some scenario ∧
        (ofReader reader).cursor.container = some (.scenario reader.lastScenarioIndex)) ∨
      (reader.scenario? = none ∧
        ∀ index, (ofReader reader).cursor.container ≠ some (.scenario index)) := by
  show (∃ scenario, _ ∧ reader.container? = _) ∨ (_ ∧ ∀ index, reader.container? ≠ _)
  cases hplace : reader.place with
  | none => simp [Reader.scenario?, Reader.container?, hplace]
  | some place =>
    cases place with
    | background =>
      right
      refine ⟨by simp [Reader.scenario?, hplace], ?_⟩
      intro index
      simp only [Reader.container?, hplace, Option.map_some]
      split <;> simp
    | scenario =>
      left
      -- soundness makes sure that there is a last scenario to open
      have hblock := h.placed (by simp [hplace])
      cases hfeature : reader.feature with
      | none => simp [Reader.block?, hfeature] at hblock
      | some feature =>
        cases hlast : feature.active.scenarios.getLast? with
        | none => simp [Reader.block?, hfeature, hplace, Section.block?, hlast] at hblock
        | some scenario =>
          refine ⟨scenario, ?_, ?_⟩
          · simp [Reader.scenario?, hplace, hfeature, hlast]
          · simp [Reader.container?, hplace]

/-! ## Changes -/

theorem modifyFeature_ofReader (f : Feature → Feature) (reader : Reader) :
    (ofReader reader).modifyFeature f =
      { ofReader reader with features := (reader.feature.map f).toList } := by
  cases h : reader.feature with
  | none => simp [modifyFeature, ofReader, Reader.standing, Reader.featureIndex?, h]
  | some feature => simp [modifyFeature, ofReader, Reader.standing, Reader.featureIndex?, h]

/-- A change of the feature that is one of its active section and moves no index. -/
theorem modifyFeature_eq_modifyActive {f : Feature → Feature} {g : Section → Section}
    {reader : Reader}
    (hf : ∀ feature, reader.feature = some feature → f feature = feature.modifyActive g)
    (hg : ∀ part, (g part).scenarios.length = part.scenarios.length) :
    (ofReader reader).modifyFeature f = ofReader (reader.modifyActive g) := by
  have hfeature : reader.feature.map f = reader.feature.map (·.modifyActive g) := by
    cases h : reader.feature with
    | none => rfl
    | some feature => rw [Option.map_some, Option.map_some, hf feature h]
  rw [modifyFeature_ofReader, hfeature, ofReader, ofReader, Reader.standing_modifyActive hg]
  rfl

theorem length_modifyBlock (place : Place) (f : StepBlock → StepBlock) (part : Section) :
    (part.modifyBlock place f).scenarios.length = part.scenarios.length := by
  cases place with
  | background => rfl
  | scenario => exact List.length_modify _ _ _

theorem modifyBlock_ofReader (f : StepBlock → StepBlock) (reader : Reader) :
    (ofReader reader).modifyBlock f = ofReader (reader.modifyBlock f) := by
  cases hplace : reader.place with
  | none =>
    have hnone : (ofReader reader).cursor.container = none := by
      show reader.container? = none
      rw [Reader.container?, hplace]
      rfl
    rw [modifyBlock, hnone, Reader.modifyBlock, hplace]
  | some place =>
    have hsome : reader.container?.isSome := by simp [Reader.container?, hplace]
    obtain ⟨container, hcontainer⟩ := Option.isSome_iff_exists.1 hsome
    have hstands : (ofReader reader).cursor.container = some container := hcontainer
    rw [modifyBlock, hstands, Reader.modifyBlock, hplace]
    apply modifyFeature_eq_modifyActive
    · intro feature hfeature
      have hplaced : container = feature.containerOf place := by
        rw [Reader.container?_of_feature hfeature, hplace] at hcontainer
        exact (Option.some.inj hcontainer).symm
      have hrule : (ofReader reader).cursor.rule = feature.lastRule? :=
        Reader.ruleIndex?_of_feature hfeature
      rw [hrule, hplaced]
      exact Feature.modifyBlockAt_containerOf f feature place
    · exact length_modifyBlock place f

theorem modifyScenario_ofReader (f : Scenario → Scenario) (reader : Reader) :
    (ofReader reader).modifyScenario reader.lastScenarioIndex f =
      ofReader (reader.modifyScenario f) := by
  apply modifyFeature_eq_modifyActive
  · intro feature hfeature
    have hrule : (ofReader reader).cursor.rule = feature.lastRule? :=
      Reader.ruleIndex?_of_feature hfeature
    rw [hrule, Reader.lastScenarioIndex_of_feature hfeature]
    exact Feature.modifyScenarioAt_last f feature
  · intro part
    exact List.length_modify _ _ _

end IndexedReader

end Gherkin
