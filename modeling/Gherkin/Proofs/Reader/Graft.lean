/-
  Gherkin.Proofs.Reader.Graft

  The document around an open scenario. As long as no line opens another entity,
  all that is read of the document is its last scenario, and all that changes is
  that scenario. So the scenario can be taken out of its document and grafted
  onto another one, before the lines or after them.
-/
import Gherkin.Proofs.Reader.Order
import Gherkin.Proofs.Reader.Scanning

namespace Gherkin

theorem Section.modifyLastScenario_addScenario (f : Scenario → Scenario) (part : Section)
    (scenario : Scenario) :
    (part.addScenario scenario).modifyLastScenario f = part.addScenario (f scenario) := by
  simp only [modifyLastScenario, addScenario, List.length_append, List.length_singleton,
    Nat.add_sub_cancel, modify_length_append_singleton]

namespace Reader

/-- The reader with its open scenario grafted onto another document, at the end of the active
    section. -/
def graft (base : Feature) (reader : Reader) : Reader :=
  { reader with
    feature := reader.scenario?.map fun scenario => base.modifyActive (·.addScenario scenario) }

/-- The outcome with the open scenario grafted onto another document. -/
def Outcome.graft (base : Feature) (outcome : Outcome) : Outcome :=
  { outcome with reader := outcome.reader.graft base }

variable {base : Feature} {reader : Reader}

/-! ## What is read of a document -/

theorem scenario?_of_feature {feature : Feature} (hplace : reader.place = some .scenario)
    (hfeature : reader.feature = some feature) :
    reader.scenario? = feature.active.scenarios.getLast? := by
  simp [scenario?, hplace, hfeature]

theorem scenario?_graft (base : Feature) (reader : Reader) :
    (reader.graft base).scenario? = reader.scenario? := by
  cases hscenario : reader.scenario? with
  | none =>
    have hnone : (reader.graft base).feature = none := by simp [graft, hscenario]
    unfold scenario?
    split <;> simp [hnone]
  | some scenario =>
    have hplace : (reader.graft base).place = some .scenario :=
      @place_of_scenario? reader scenario hscenario
    have hfeature : (reader.graft base).feature =
        some (base.modifyActive (·.addScenario scenario)) := by
      rw [graft, hscenario]
      rfl
    rw [scenario?_of_feature hplace hfeature, Feature.active_modifyActive, Section.addScenario,
      List.getLast?_concat]

/-- While a scenario is open it is the open block. -/
theorem block?_of_scenario? {scenario : Scenario} (h : reader.scenario? = some scenario) :
    reader.block? = some scenario.toStepBlock := by
  have hplace := place_of_scenario? h
  unfold scenario? at h
  rw [hplace] at h
  obtain ⟨feature, hfeature, hlast⟩ := Option.bind_eq_some_iff.1 h
  simp [block?, hfeature, hplace, Section.block?, hlast]

theorem feature_of_scenario? {scenario : Scenario} (h : reader.scenario? = some scenario) :
    reader.feature.isSome := by
  have hplace := place_of_scenario? h
  unfold scenario? at h
  rw [hplace] at h
  obtain ⟨feature, hfeature, -⟩ := Option.bind_eq_some_iff.1 h
  simp [hfeature]

theorem block?_graft (h : reader.scenario?.isSome) (base : Feature) :
    (reader.graft base).block? = reader.block? := by
  obtain ⟨scenario, hscenario⟩ := Option.isSome_iff_exists.1 h
  have hgrafted := (scenario?_graft base reader).trans hscenario
  rw [block?_of_scenario? hscenario, block?_of_scenario? hgrafted]

theorem isSome_feature_graft (h : reader.scenario?.isSome) (base : Feature) :
    (reader.graft base).feature.isSome = reader.feature.isSome := by
  obtain ⟨scenario, hscenario⟩ := Option.isSome_iff_exists.1 h
  rw [feature_of_scenario? hscenario,
    feature_of_scenario? ((scenario?_graft base reader).trans hscenario)]

/-! ## What is changed in a document -/

theorem modifyScenario_graft (f : Scenario → Scenario) (base : Feature) (reader : Reader) :
    (reader.graft base).modifyScenario f = (reader.modifyScenario f).graft base := by
  have hscenario := scenario?_modifyScenario f reader
  unfold graft
  rw [hscenario]
  unfold modifyScenario modifyActive
  simp only [Option.map_map, Function.comp_def, Feature.modifyActive_comp,
    Section.modifyLastScenario_addScenario]

theorem modifyBlock_eq_modifyScenario (h : reader.place = some .scenario)
    (f : StepBlock → StepBlock) :
    reader.modifyBlock f = reader.modifyScenario (·.modifyBlock f) := by
  simp only [modifyBlock, h]
  rfl

theorem modifyBlock_graft (h : reader.place = some .scenario) (f : StepBlock → StepBlock)
    (base : Feature) :
    (reader.graft base).modifyBlock f = (reader.modifyBlock f).graft base := by
  have hplace : (reader.graft base).place = some .scenario := h
  rw [modifyBlock_eq_modifyScenario h, modifyBlock_eq_modifyScenario hplace, modifyScenario_graft]

/-! ## Transitions -/

/-- The transition does the same wherever the open scenario stands, and leaves it open. -/
structure Outcome.Local (base : Feature) (outcome other : Outcome) : Prop where
  grafted : other = outcome.graft base
  opened : outcome.reader.scenario?.isSome

theorem Outcome.Local.after {outcome other : Outcome} (h : outcome.Local base other)
    (notices : List Notice) : (outcome.after notices).Local base (other.after notices) where
  grafted := by rw [h.grafted]; rfl
  opened := h.opened

theorem Outcome.Local.logged {outcome other : Outcome} (h : outcome.Local base other) :
    outcome.logged.Local base other.logged where
  grafted := by
    obtain ⟨after, fault, notices⟩ := outcome
    rw [h.grafted]
    cases fault <;> rfl
  opened := by
    rw [Outcome.logged_reader]
    exact h.opened

theorem isSome_scenario?_modifyScenario (h : reader.scenario?.isSome) (f : Scenario → Scenario) :
    (reader.modifyScenario f).scenario?.isSome := by
  rw [scenario?_modifyScenario, Option.isSome_map]
  exact h

theorem isSome_scenario?_modifyBlock (h : reader.scenario?.isSome) (f : StepBlock → StepBlock) :
    (reader.modifyBlock f).scenario?.isSome := by
  rw [scenario?_modifyBlock, Option.isSome_map]
  exact h

theorem place_of_isSome (h : reader.scenario?.isSome) : reader.place = some .scenario := by
  obtain ⟨scenario, hscenario⟩ := Option.isSome_iff_exists.1 h
  exact place_of_scenario? hscenario

theorem hasStep_graft (h : reader.scenario?.isSome) (base : Feature) :
    (reader.graft base).hasStep = reader.hasStep := by
  rw [hasStep, hasStep, block?_graft h]

/-- A change of the open block is local. -/
theorem accept_modifyBlock_local (h : reader.scenario?.isSome) (f : StepBlock → StepBlock)
    (kind : LineKind) :
    ((reader.modifyBlock f).accept kind).Local base
      (((reader.graft base).modifyBlock f).accept kind) where
  grafted := by rw [modifyBlock_graft (place_of_isSome h)]; rfl
  opened := isSome_scenario?_modifyBlock h f

theorem flush_graft (base : Feature) (reader : Reader) :
    (reader.graft base).flush = ⟨reader.flush.value.graft base, reader.flush.notices⟩ := by
  have hexamples : (reader.graft base).examples = reader.examples := rfl
  unfold flush
  rw [hexamples]
  cases reader.examples with
  | none => rfl
  | some block =>
    simp only [modifyScenario_graft]
    rfl

theorem isSome_scenario?_flush (h : reader.scenario?.isSome) :
    reader.flush.value.scenario?.isSome := by
  unfold flush
  split
  · exact h
  · exact isSome_scenario?_modifyScenario h _

theorem onExamples_local (h : reader.scenario?.isSome) (tags : TagSet) :
    (reader.onExamples tags).Local base ((reader.graft base).onExamples tags) := by
  obtain ⟨scenario, hscenario⟩ := Option.isSome_iff_exists.1 h
  unfold onExamples
  rw [scenario?_graft, hscenario]
  simp only [modifyScenario_graft]
  exact ⟨rfl, isSome_scenario?_modifyScenario h _⟩

theorem onHeader_local (h : reader.scenario?.isSome) (text : String) {header : Header}
    (hkind : header.kind = .Examples) :
    (reader.onHeader text header).Local base ((reader.graft base).onHeader text header) := by
  obtain ⟨scenario, hscenario⟩ := Option.isSome_iff_exists.1 h
  obtain ⟨feature, hfeature⟩ := Option.isSome_iff_exists.1 (feature_of_scenario? hscenario)
  obtain ⟨other, hother⟩ := Option.isSome_iff_exists.1
    (feature_of_scenario? ((scenario?_graft base reader).trans hscenario))
  rw [onHeader_of_some hfeature, onHeader_of_some hother, hkind]
  exact @onExamples_local base { reader with pendingTags := {} } h _

theorem onDataRow_local (h : reader.scenario?.isSome) (cells : List String) :
    (reader.onDataRow cells).Local base ((reader.graft base).onDataRow cells) := by
  unfold onDataRow
  rw [hasStep_graft h]
  split
  · exact accept_modifyBlock_local h _ _
  · exact ⟨rfl, h⟩

theorem onExampleRow_local (h : reader.scenario?.isSome) (block : ExamplesBlock)
    (cells : List String) :
    (reader.onExampleRow block cells).Local base ((reader.graft base).onExampleRow block cells) :=
  ⟨rfl, h⟩

theorem onBareRow_local (h : reader.scenario?.isSome) (cells : List String) :
    (reader.onBareRow cells).Local base ((reader.graft base).onBareRow cells) := by
  obtain ⟨scenario, hscenario⟩ := Option.isSome_iff_exists.1 h
  unfold onBareRow
  rw [scenario?_graft, hscenario]
  simp only
  split
  · rw [modifyScenario_graft]
    exact (onExampleRow_local (isSome_scenario?_modifyScenario h _) _ cells).after _
  · exact ⟨rfl, h⟩

theorem onRow_local (h : reader.scenario?.isSome) (cells : List String) :
    (reader.onRow cells).Local base ((reader.graft base).onRow cells) := by
  have hexamples : (reader.graft base).examples = reader.examples := rfl
  have hprevious : (reader.graft base).previous = reader.previous := rfl
  unfold onRow
  rw [hexamples, hprevious]
  split
  next block _ => exact onExampleRow_local h block cells
  next =>
    split
    · exact onDataRow_local h cells
    · exact onBareRow_local h cells

/-- In a document a comment declares nothing. -/
theorem onComment_local (h : reader.scenario?.isSome) (comment : String) :
    (reader.onComment comment).Local base ((reader.graft base).onComment comment) := by
  obtain ⟨scenario, hscenario⟩ := Option.isSome_iff_exists.1 h
  obtain ⟨feature, hfeature⟩ := Option.isSome_iff_exists.1 (feature_of_scenario? hscenario)
  obtain ⟨other, hother⟩ := Option.isSome_iff_exists.1
    (feature_of_scenario? ((scenario?_graft base reader).trans hscenario))
  simp only [onComment, hfeature, hother]
  exact ⟨rfl, h⟩

theorem onFence_local (h : reader.scenario?.isSome) (text : String) (fence : Fence)
    (mediaType : Option String) :
    (reader.onFence text fence mediaType).Local base
      ((reader.graft base).onFence text fence mediaType) := by
  unfold onFence
  rw [hasStep_graft h]
  split <;> exact ⟨rfl, h⟩

theorem onStep_local (h : reader.scenario?.isSome) (text : String) (found : StepLine) :
    (reader.onStep text found).Local base ((reader.graft base).onStep text found) := by
  have hfeature : (reader.graft base).feature.isNone = reader.feature.isNone := by
    rw [← Option.not_isSome, ← Option.not_isSome, isSome_feature_graft h]
  have hplace : (reader.graft base).place = reader.place := rfl
  unfold onStep
  rw [hfeature, block?_graft h, hplace]
  split
  · exact ⟨rfl, h⟩
  split
  · exact ⟨rfl, h⟩
  split
  · exact ⟨rfl, h⟩
  · exact accept_modifyBlock_local h _ _

theorem onProse_local (h : reader.scenario?.isSome) (text : String) :
    (reader.onProse text).Local base ((reader.graft base).onProse text) := by
  have hfeature : (reader.graft base).feature.isNone = reader.feature.isNone := by
    rw [← Option.not_isSome, ← Option.not_isSome, isSome_feature_graft h]
  have hplace : (reader.graft base).place = reader.place := rfl
  unfold onProse
  rw [hfeature, hplace, place_of_isSome h]
  split
  · exact ⟨rfl, h⟩
  · exact accept_modifyBlock_local h _ _

/-! ## Lines -/

/-- Any line is local that opens no other entity. -/
theorem onForm_local (h : reader.scenario?.isSome) (text trimmed : String) {form : LineForm}
    (hform : ∀ header, form = .header header → header.kind = .Examples) :
    (reader.onForm text trimmed form).Local base
      ((reader.graft base).onForm text trimmed form) := by
  cases form with
  | comment comment => exact onComment_local h comment
  | header header => exact onHeader_local h trimmed (hform header rfl)
  | row cells => exact onRow_local h cells
  | blank => exact ⟨rfl, h⟩
  | tags tags => exact ⟨rfl, h⟩
  | fence fence mediaType => exact onFence_local h text fence mediaType
  | step found => exact onStep_local h trimmed found
  | prose => exact onProse_local h trimmed

theorem onLine_local (h : reader.scenario?.isSome) {text : String}
    (hform : ∀ header, reader.language.form (Text.trim text) = .header header →
      header.kind = .Examples) :
    (reader.onLine text).Local base ((reader.graft base).onLine text) := by
  have hlanguage : (reader.graft base).language = reader.language := rfl
  have hkeeps : ∀ form, (reader.graft base).keepsExamples form = reader.keepsExamples form := by
    intro form
    cases form <;> rfl
  unfold onLine
  simp only [hlanguage, hkeeps, flush_graft]
  split
  · exact (onForm_local h text _ hform).after _
  · exact (onForm_local (isSome_scenario?_flush h) text _ hform).after _

theorem onDocString_local (h : reader.scenario?.isSome) (doc : OpenDocString) (text : String) :
    (reader.onDocString doc text).Local base ((reader.graft base).onDocString doc text) := by
  unfold onDocString
  split
  · -- the closing fence
    have hopened := isSome_scenario?_modifyBlock h
      (·.modifyLastStep ({ · with docString := some doc.close }))
    refine ⟨?_, hopened⟩
    rw [modifyBlock_graft (place_of_isSome h)]
    rfl
  · exact ⟨rfl, h⟩

theorem take_local (h : reader.scenario?.isSome) {text : String}
    (hline : (reader.scanner.entry text).opensEntity = false) :
    (reader.take text).Local base ((reader.graft base).take text) := by
  rcases Option.eq_none_or_eq_some reader.docString with hdoc | ⟨doc, hdoc⟩
  · rw [take_of_none hdoc, @take_of_none (reader.graft base) hdoc]
    apply onLine_local h
    intro header hheader
    simpa [Scanner.entry, Scanner.form?, scanner, hdoc, hheader, LineEntry.opensEntity] using hline
  · rw [take_of_some hdoc, @take_of_some (reader.graft base) doc hdoc]
    exact onDocString_local h doc text

/-- A line is local that opens no other entity, as far as its form tells. -/
theorem read_local (h : reader.scenario?.isSome) {text : String}
    (hline : (reader.scanner.entry text).opensEntity = false) :
    (reader.read text).Local base ((reader.graft base).read text) := by
  have htake := @take_local base { reader with line := reader.line + 1 } h text hline
  rw [read_eq_logged, read_eq_logged]
  exact htake.logged

/-- So are all lines up to the first that is refused. How they are numbered does not matter. -/
theorem readAll_local (h : reader.scenario?.isSome) {count : Nat} {seen : List LineEntry}
    {lines : List String}
    (hlines : ∀ entry ∈ ({ reader.scanner with line := count } : Scanner).entries seen lines,
      entry.opensEntity = false) :
    (reader.readAll lines).Local base ((reader.graft base).readAll lines) := by
  induction lines generalizing reader count seen with
  | nil => exact ⟨rfl, h⟩
  | cons line lines ih =>
    have hline : (reader.scanner.entry line).opensEntity = false := by
      rw [← Scanner.opensEntity_entry_withLine reader.scanner count]
      exact hlines _ (Scanner.entry_mem_entries _ seen line lines)
    have hread := @read_local base reader h line hline
    unfold readAll
    simp only [hread.grafted]
    cases hfault : (reader.read line).fault with
    | some fault => exact ⟨by simp only [Outcome.graft, hfault], hread.opened⟩
    | none =>
      have hrest : ((reader.read line).reader.readAll lines).Local base
          (((reader.read line).reader.graft base).readAll lines) := by
        apply ih hread.opened
        rw [scanner_read hfault, ← Scanner.next_withLine reader.scanner count]
        exact hlines
      simp only [Outcome.graft, hfault]
      exact hrest.after _

end Reader

end Gherkin
