/-
  Gherkin.Proofs.Reader.Placement

  The cursor of an indexed reader after any lines: its rule is the last one, its
  scenario is the last one of the active section, and what the cursor says to
  hang on them is there.
-/
import Gherkin.Proofs.Reader.Agreement

namespace Gherkin.IndexedReader

variable {reader : Reader}

/-! ## What the cursor says is there -/

/-- The cursor of an indexed reader leads to parts that are there, the last ones of their kinds. -/
structure WellPlaced (reader : IndexedReader) : Prop where
  /-- There is at most one feature, under the index of the cursor. -/
  feature : (reader.features = [] ∧ reader.cursor.feature = none) ∨
    ∃ feature, reader.features = [feature] ∧ reader.cursor.feature = some 0
  /-- There is no active rule before the feature. -/
  noRule : reader.features = [] → reader.cursor.rule = none
  /-- The active rule is the last one of the feature. -/
  rule : ∀ feature ∈ reader.features, (reader.cursor.rule = none ↔ feature.rules = []) ∧
    ∀ index, reader.cursor.rule = some index → index + 1 = feature.rules.length
  featureBackground : reader.cursor.container = some .featureBackground →
    reader.cursor.rule = none ∧ ∃ feature ∈ reader.features, feature.background.isSome
  ruleBackground : reader.cursor.container = some .ruleBackground →
    ∃ feature ∈ reader.features, ∃ rule,
      feature.ruleAt? reader.cursor.rule = some rule ∧ rule.background.isSome
  /-- The open scenario is the last one of the active rule, or of the feature without one. -/
  scenario : ∀ index, reader.cursor.container = some (.scenario index) →
    ∃ feature ∈ reader.features,
      index + 1 = (feature.scope reader.cursor.rule).scenarios.length
  /-- An examples table is open for the open scenario, which is an outline. -/
  examples : ∀ block, reader.cursor.examples = some block →
    reader.cursor.container = some (.scenario block.target) ∧
      ∃ scenario, reader.scenarioAt block.target = .ok scenario ∧ scenario.outline.isSome
  /-- An open doc-string hangs on a step. -/
  docString : reader.cursor.docString.isSome →
    reader.cursor.examples = none ∧ ∃ block, reader.block? = some block ∧ block.steps ≠ []
  /-- So does what follows a step or a row of its table. -/
  previous : reader.cursor.previous = .step ∨ reader.cursor.previous = .dataTableRow →
    reader.cursor.examples = none ∧ ∃ block, reader.block? = some block ∧ block.steps ≠ []
  /-- The language in use is that of the feature. -/
  language : reader.cursor.language = reader.language.code ∧
    ∀ feature ∈ reader.features, feature.language = reader.cursor.language

theorem mem_features_ofReader {feature : Feature} :
    feature ∈ (ofReader reader).features ↔ reader.feature = some feature := by
  simp [ofReader]

/-- The container of a sound reader is a place of the active section with a block in it. -/
theorem exists_block_of_container (h : reader.Sound) {container : Container}
    (hcontainer : (ofReader reader).cursor.container = some container) :
    ∃ feature place block, reader.feature = some feature ∧
      feature.containerOf place = container ∧ feature.active.block? place = some block := by
  obtain ⟨place, hplace, -⟩ := Option.map_eq_some_iff.1 (show reader.container? = _ from hcontainer)
  have hblock := h.placed (by simp [hplace])
  cases hfeature : reader.feature with
  | none => simp [Reader.block?, hfeature] at hblock
  | some feature =>
    obtain ⟨block, hfound⟩ := Option.isSome_iff_exists.1 hblock
    refine ⟨feature, place, block, rfl, ?_, ?_⟩
    · have hplaced : reader.container? = some container := hcontainer
      rw [Reader.container?_of_feature hfeature, hplace] at hplaced
      exact Option.some.inj hplaced
    · simpa [Reader.block?, hfeature, hplace] using hfound

theorem wellPlaced_ofReader (h : reader.Sound) : (ofReader reader).WellPlaced where
  feature := by
    cases hfeature : reader.feature with
    | none => simp [ofReader, Reader.standing, Reader.featureIndex?, hfeature]
    | some feature => simp [ofReader, Reader.standing, Reader.featureIndex?, hfeature]
  noRule := by
    intro hnone
    have hfeature : reader.feature = none := by simpa [ofReader] using hnone
    show reader.ruleIndex? = none
    rw [Reader.ruleIndex?, hfeature]
    rfl
  rule := by
    intro feature hfeature
    have hrule : (ofReader reader).cursor.rule = feature.lastRule? :=
      Reader.ruleIndex?_of_feature (mem_features_ofReader.1 hfeature)
    rw [hrule]
    exact ⟨Feature.lastRule?_eq_none_iff, fun index => Feature.length_of_lastRule?⟩
  featureBackground := by
    intro hcontainer
    obtain ⟨feature, place, block, hfeature, hplace, hblock⟩ :=
      exists_block_of_container h hcontainer
    have hrule : (ofReader reader).cursor.rule = feature.lastRule? :=
      Reader.ruleIndex?_of_feature hfeature
    cases place with
    | scenario => cases hplace
    | background =>
      rcases feature.containerOf_background with ⟨hnone, -, hactive⟩ | ⟨rule, -, hother, -⟩
      · refine ⟨hrule.trans hnone, feature, mem_features_ofReader.2 hfeature, ?_⟩
        rw [hactive] at hblock
        exact Option.isSome_iff_exists.2 ⟨block, hblock⟩
      · rw [hplace] at hother
        cases hother
  ruleBackground := by
    intro hcontainer
    obtain ⟨feature, place, block, hfeature, hplace, hblock⟩ :=
      exists_block_of_container h hcontainer
    have hrule : (ofReader reader).cursor.rule = feature.lastRule? :=
      Reader.ruleIndex?_of_feature hfeature
    cases place with
    | scenario => cases hplace
    | background =>
      rcases feature.containerOf_background with ⟨-, hother, -⟩ | ⟨rule, hlast, -, hactive⟩
      · rw [hplace] at hother
        cases hother
      · refine ⟨feature, mem_features_ofReader.2 hfeature, rule, ?_, ?_⟩
        · rw [hrule, Feature.ruleAt?_lastRule?, hlast]
        · rw [hactive] at hblock
          exact Option.isSome_iff_exists.2 ⟨block, hblock⟩
  scenario := by
    intro index hcontainer
    obtain ⟨feature, place, block, hfeature, hplace, hblock⟩ :=
      exists_block_of_container h hcontainer
    have hrule : (ofReader reader).cursor.rule = feature.lastRule? :=
      Reader.ruleIndex?_of_feature hfeature
    refine ⟨feature, mem_features_ofReader.2 hfeature, ?_⟩
    rw [hrule, Feature.scope_lastRule?]
    cases place with
    | background =>
      simp only [Feature.containerOf] at hplace
      split at hplace <;> cases hplace
    | scenario =>
      have hindex : feature.active.scenarios.length - 1 = index := by
        simpa [Feature.containerOf] using hplace
      -- there is a block, so the list is not empty and its last index is one less
      have hpos : feature.active.scenarios ≠ [] := by
        intro hempty
        simp [Section.block?, hempty] at hblock
      have hlength := List.length_pos_iff.2 hpos
      omega
  examples := by
    intro block hexamples
    obtain ⟨inner, hinner, rfl⟩ := Option.map_eq_some_iff.1 hexamples
    obtain ⟨scenario, hscenario, houtline⟩ := h.outlined (by simp [hinner])
    refine ⟨?_, scenario, scenarioAt_ofReader hscenario, houtline⟩
    rcases container_ofReader h with ⟨-, -, hcontainer⟩ | ⟨hnone, -⟩
    · exact hcontainer
    · rw [hnone] at hscenario
      cases hscenario
  docString := by
    intro hdoc
    obtain ⟨hexamples, hstep⟩ := h.fenced hdoc
    rw [block?_ofReader]
    exact ⟨examples_ofReader_none hexamples, Reader.hasStep_eq_true_iff.1 hstep⟩
  previous := by
    intro hprevious
    obtain ⟨hexamples, hstep⟩ := h.tabled hprevious
    rw [block?_ofReader]
    exact ⟨examples_ofReader_none hexamples, Reader.hasStep_eq_true_iff.1 hstep⟩
  language := by
    refine ⟨rfl, ?_⟩
    intro feature hfeature
    exact h.spoken feature (mem_features_ofReader.1 hfeature)

/-- After any lines, refused ones included, an indexed reader is well placed, and it stands where
    a reader stands after the same lines. -/
theorem wellPlaced_readEach (code : String) (lines : List String) :
    ((ofLanguage code).value.readEach lines).WellPlaced ∧
      (ofLanguage code).value.readEach lines =
        ofReader ((Reader.ofLanguage code).value.readEach lines) := by
  have hstart : (Reader.ofLanguage code).value.Sound := Reader.sound_start _
  have hsame : (ofLanguage code).value.readEach lines =
      ofReader ((Reader.ofLanguage code).value.readEach lines) := readEach_ofLanguage code lines
  refine ⟨?_, hsame⟩
  rw [hsame]
  exact wellPlaced_ofReader (hstart.readEach lines)

end Gherkin.IndexedReader
