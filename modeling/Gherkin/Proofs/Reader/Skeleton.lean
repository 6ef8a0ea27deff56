/-
  Gherkin.Proofs.Reader.Skeleton

  What an accepted line does to the skeleton of a document. A header adds a
  section, a background or a scenario; a row may change the outline of the last
  scenario; no other line touches the skeleton. Whatever the skeleton tells is
  proved from these turns, without a look at the transitions.
-/
import Gherkin.Proofs.Document.Skeleton
import Gherkin.Proofs.Reader.Conservation
import Gherkin.Proofs.Reader.Order

namespace Gherkin

/-- The section that a header line opens. -/
def Section.titled (header : Header) (tags : TagSet) (line : Nat) : Section :=
  { name := header.name, keyword := header.keyword, tags, line }

/-- The block that a header line opens. -/
def StepBlock.titled (header : Header) (tags : TagSet) (line : Nat) : StepBlock :=
  { name := header.name, keyword := header.keyword, tags, line }

/-- The scenario that a header line opens: an outline if its keyword says so. -/
def Scenario.titled (header : Header) (tags : TagSet) (line : Nat) : Scenario :=
  { StepBlock.titled header tags line with
    outline := if header.kind = .ScenarioOutline then some {} else none }

theorem Scenario.isOutline_titled (header : Header) (tags : TagSet) (line : Nat) :
    (titled header tags line).isOutline = decide (header.kind = .ScenarioOutline) := by
  unfold isOutline titled
  split <;> simp [*]

/-- An outline opens without rows. -/
theorem Scenario.examples_titled (header : Header) (tags : TagSet) (line : Nat) :
    (titled header tags line).examples = [] := by
  unfold examples titled
  split <;> rfl

theorem Scenario.missesKeyword_titled (header : Header) (tags : TagSet) (line : Nat) :
    (titled header tags line).missesKeyword = false := by
  unfold missesKeyword titled
  split <;> rfl

namespace Reader

variable {reader : Reader}

/-- The document read so far, with the rows of an open examples table in their outline. -/
def settled (reader : Reader) : Option Feature :=
  match reader.examples with
  | none => reader.feature
  | some block => (reader.modifyScenario (·.modifyOutline (addRows block.rows))).feature

theorem settled_eq_flush (reader : Reader) : reader.settled = reader.flush.value.feature := by
  cases hexamples : reader.examples with
  | none => rw [flush_of_none hexamples, settled, hexamples]
  | some block => rw [flush_feature hexamples, settled, hexamples]

/-- The skeleton of the document read so far. -/
def skeleton (reader : Reader) : List Section := reader.settled.toList.flatMap Feature.skeleton

/-! ## Turns -/

/-- The outline of the last scenario has been changed by `f`. -/
structure Outlines (reader : Reader) (f : Outline → Outline) (parts : List Section) : Prop where
  last : ∃ before part scenarios scenario,
    reader.skeleton = before ++ [part] ∧ part.scenarios = scenarios ++ [scenario] ∧
      reader.blockLine? = some scenario.line ∧
      parts = before ++ [{ part with scenarios := scenarios ++ [scenario.modifyOutline f] }]

/-- What an accepted line of a form makes of the skeleton; the form is none inside a doc-string. -/
inductive Turn (reader : Reader) : Option LineForm → List Section → Prop where
  | feature {header : Header} (hkind : header.kind = .Feature) (hnone : reader.skeleton = []) :
    Turn reader (some (.header header))
      [Section.titled header reader.pendingTags reader.line]
  | rule {header : Header} (hkind : header.kind = .Rule) :
    Turn reader (some (.header header))
      (reader.skeleton ++ [Section.titled header reader.pendingTags reader.line])
  | background {header : Header} {before : List Section} {part : Section}
    (hkind : header.kind = .Background) (hlast : reader.skeleton = before ++ [part])
    (hnone : part.background = none) :
    Turn reader (some (.header header))
      (before ++ [{ part with
        background := some (StepBlock.titled header reader.pendingTags reader.line) }])
  | scenario {header : Header} {before : List Section} {part : Section}
    (hkind : header.kind = .Scenario ∨ header.kind = .ScenarioOutline)
    (hlast : reader.skeleton = before ++ [part]) :
    Turn reader (some (.header header))
      (before ++ [part.addScenario (Scenario.titled header reader.pendingTags reader.line)])
  | examples {header : Header} {parts : List Section} (hkind : header.kind = .Examples)
    (houtlines : reader.Outlines id parts) : Turn reader (some (.header header)) parts
  | bareRow {cells : List String} {parts : List Section} (htable : reader.openTable = .closed)
    (houtlines : reader.Outlines ({ · with missingKeyword := true }) parts)
    (houtline : reader.scenario?.any (·.isOutline) = true) :
    Turn reader (some (.row cells)) parts
  | valueRow {cells headers : List String} {block : ExamplesBlock} {parts : List Section}
    (hblock : reader.examples = some block) (hheaders : block.headers = some headers)
    (houtlines : reader.Outlines (addRows
      [{ values := ExamplesBlock.values headers cells, tags := block.tags, line := reader.line }])
      parts)
    (houtline : reader.scenario?.any (·.isOutline) = true) :
    Turn reader (some (.row cells)) parts
  /-- A row is one of a data table here, or gives the headers of an examples table. -/
  | still {form? : Option LineForm} (hheader : ∀ header, form? ≠ some (.header header))
    (hrow : ∀ cells, form? = some (.row cells) → reader.openTable = .data ∨
      ∃ block, reader.examples = some block ∧ block.headers = none) :
    Turn reader form? reader.skeleton

/-! ## The skeleton between changes -/

theorem settled_of_none (hexamples : reader.examples = none) : reader.settled = reader.feature := by
  rw [settled, hexamples]

theorem skeleton_of_none (hexamples : reader.examples = none) :
    reader.skeleton = reader.feature.toList.flatMap Feature.skeleton := by
  rw [skeleton, settled_of_none hexamples]

theorem skeleton_of_feature (hexamples : reader.examples = none) {feature : Feature}
    (hfeature : reader.feature = some feature) : reader.skeleton = feature.skeleton := by
  rw [skeleton_of_none hexamples, hfeature, Option.toList_some, List.flatMap_singleton]

theorem skeleton_flush (reader : Reader) : reader.flush.value.skeleton = reader.skeleton := by
  rw [skeleton_of_none (flush_examples reader), skeleton, settled_eq_flush]

/-- A change of the active section changes the last part of the skeleton. -/
theorem exists_skeleton (hexamples : reader.examples = none) {feature : Feature}
    (hfeature : reader.feature = some feature) :
    ∃ before, reader.skeleton = before ++ [feature.active.skeleton] ∧
      ∀ f, (reader.modifyActive f).skeleton = before ++ [(f feature.active).skeleton] := by
  obtain ⟨before, hbefore, hmodified⟩ := feature.exists_skeleton
  refine ⟨before, ?_, fun f => ?_⟩
  · rw [skeleton_of_feature hexamples hfeature, hbefore]
  · have hafter : (reader.modifyActive f).feature = some (feature.modifyActive f) := by
      rw [modifyActive, hfeature, Option.map_some]
    have hnone : (reader.modifyActive f).examples = none := hexamples
    rw [skeleton_of_feature hnone hafter, hmodified]

/-- A change of the active section that its skeleton does not show. -/
theorem skeleton_modifyActive (hexamples : reader.examples = none) {f : Section → Section}
    (hf : ∀ part, (f part).skeleton = part.skeleton) :
    (reader.modifyActive f).skeleton = reader.skeleton := by
  cases hfeature : reader.feature with
  | none =>
    have hsame : reader.modifyActive f = reader := by
      rw [modifyActive, hfeature, Option.map_none, ← hfeature]
    rw [hsame]
  | some feature =>
    obtain ⟨before, hbefore, hmodified⟩ := exists_skeleton hexamples hfeature
    rw [hmodified, hbefore, hf]

theorem skeleton_modifyBlock (hexamples : reader.examples = none) {f : StepBlock → StepBlock}
    (hf : ∀ block, (f block).skeleton = block.skeleton) :
    (reader.modifyBlock f).skeleton = reader.skeleton := by
  unfold modifyBlock
  split
  · rfl
  next place _ => exact skeleton_modifyActive hexamples (Section.skeleton_modifyBlock hf place)

/-- The open scenario is the last one, and a change of its outline changes just that. -/
theorem exists_last (hexamples : reader.examples = none) {scenario : Scenario}
    (hscenario : reader.scenario? = some scenario) :
    ∃ before part scenarios, reader.skeleton = before ++ [part] ∧
      part.scenarios = scenarios ++ [scenario.skeleton] ∧
      ∀ f, (reader.modifyScenario (·.modifyOutline f)).skeleton = before ++
        [{ part with scenarios := scenarios ++ [scenario.skeleton.modifyOutline f] }] := by
  have hplace := place_of_scenario? hscenario
  simp only [scenario?, hplace] at hscenario
  obtain ⟨feature, hfeature, hlast⟩ := Option.bind_eq_some_iff.1 hscenario
  obtain ⟨before, hbefore, hmodified⟩ := exists_skeleton hexamples hfeature
  obtain ⟨scenarios, hscenarios⟩ := List.getLast?_eq_some_iff.1 hlast
  have hskeleton : feature.active.skeleton.scenarios =
      scenarios.map Scenario.skeleton ++ [scenario.skeleton] := by
    simp [Section.skeleton, hscenarios]
  refine ⟨before, feature.active.skeleton, _, hbefore, hskeleton, fun f => ?_⟩
  have hsame : ∀ scenario : Scenario,
      (scenario.modifyOutline f).skeleton = scenario.skeleton.modifyOutline f := fun _ => rfl
  rw [modifyScenario, hmodified, Section.skeleton_modifyLastScenario hsame,
    Section.modifyLastScenario, hskeleton, List.length_append, List.length_singleton,
    Nat.add_sub_cancel, modify_length_append_singleton]

theorem outlines_modifyScenario (hexamples : reader.examples = none)
    (hscenario : reader.scenario?.isSome) (f : Outline → Outline) :
    reader.Outlines f (reader.modifyScenario (·.modifyOutline f)).skeleton := by
  obtain ⟨scenario, hscenario⟩ := Option.isSome_iff_exists.1 hscenario
  obtain ⟨before, part, scenarios, hbefore, hscenarios, hmodified⟩ :=
    exists_last hexamples hscenario
  have hline := blockLine?_of_scenario? hscenario
  exact ⟨before, part, scenarios, scenario.skeleton, hbefore, hscenarios, hline, hmodified f⟩

/-! ## Open tables -/

theorem addRows_nil (outline : Outline) : addRows [] outline = outline := by
  simp [addRows]

theorem modifyOutline_comp (f g : Outline → Outline) :
    (Scenario.modifyOutline g) ∘ (Scenario.modifyOutline f) = Scenario.modifyOutline (g ∘ f) := rfl

/-- The rows of an open table are in the skeleton already. -/
theorem skeleton_of_open {block : ExamplesBlock} (hblock : reader.examples = some block) :
    reader.skeleton =
      ({ reader with examples := none }.modifyScenario
        (·.modifyOutline (addRows block.rows))).skeleton := by
  rw [skeleton, settled, hblock]
  rfl

/-- A table opens without rows. -/
theorem skeleton_openExamples (hexamples : reader.examples = none) (f : Outline → Outline)
    (block : ExamplesBlock) (hrows : block.rows = []) :
    ({ reader.modifyScenario (·.modifyOutline f) with examples := some block } : Reader).skeleton =
      (reader.modifyScenario (·.modifyOutline f)).skeleton := by
  have hnone : addRows block.rows ∘ f = f := by
    funext outline
    rw [Function.comp_apply, hrows, addRows_nil]
  have hcomp := modifyScenario_comp (·.modifyOutline f)
    (·.modifyOutline (addRows block.rows)) reader
  rw [modifyOutline_comp, hnone] at hcomp
  have hclosed : (reader.modifyScenario (·.modifyOutline f)).examples = none := hexamples
  rw [skeleton_of_none hclosed]
  exact congrArg (fun after => after.feature.toList.flatMap Feature.skeleton) hcomp

theorem blockLine?_flush (reader : Reader) :
    reader.flush.value.blockLine? = reader.blockLine? := by
  cases hexamples : reader.examples with
  | none => rw [flush_of_none hexamples]
  | some block =>
    rw [flush, hexamples]
    exact blockLine?_modifyOutline (addRows block.rows) reader

/-- A row that a table gains goes to the outline of the open scenario. -/
theorem outlines_pushed (hscenario : reader.scenario?.isSome) {block grown : ExamplesBlock}
    (hblock : reader.examples = some block) {rows : List ExampleRow}
    (hrows : grown.rows = block.rows ++ rows) :
    reader.Outlines (addRows rows) { reader with examples := some grown : Reader }.skeleton := by
  have hflushed : reader.flush.value =
      { reader with examples := none }.modifyScenario (·.modifyOutline (addRows block.rows)) := by
    rw [flush, hblock]
    rfl
  have hadd : addRows rows ∘ addRows block.rows = addRows grown.rows := by
    funext outline
    simp [addRows, hrows]
  -- the rows of the open table and then the new ones, added to the outline one after the other
  have hcomp := modifyScenario_comp (·.modifyOutline (addRows block.rows))
    (·.modifyOutline (addRows rows)) { reader with examples := none }
  rw [modifyOutline_comp, hadd, ← hflushed] at hcomp
  have hgrown : { reader with examples := some grown : Reader }.skeleton =
      (reader.flush.value.modifyScenario (·.modifyOutline (addRows rows))).skeleton := by
    rw [hcomp]
    exact skeleton_of_open rfl
  have hopen : reader.flush.value.scenario?.isSome := by
    rw [hflushed, scenario?_modifyScenario, Option.isSome_map]
    exact hscenario
  obtain ⟨hlast⟩ := outlines_modifyScenario (flush_examples reader) hopen (addRows rows)
  rw [skeleton_flush, blockLine?_flush, ← hgrown] at hlast
  exact ⟨hlast⟩

/-! ## Headers -/

section Headers

variable {header : Header} {feature : Feature} {tags : TagSet}

theorem turn_onFeature (hexamples : reader.examples = none) (hkind : header.kind = .Feature)
    (haccept : (reader.onFeature header).fault = none) :
    reader.Turn (some (.header header)) (reader.onFeature header).reader.skeleton := by
  obtain ⟨hnone, hafter⟩ := onFeature_accepted haccept
  have hopened : (reader.onFeature header).reader.skeleton =
      [Section.titled header reader.pendingTags reader.line] := by
    rw [hafter, skeleton, settled]
    simp only [hexamples]
    rfl
  rw [hopened]
  apply Turn.feature hkind
  rw [skeleton_of_none hexamples, hnone]
  rfl

theorem skeleton_onRule (hexamples : reader.examples = none)
    (hfeature : reader.feature = some feature) (header : Header) (tags : TagSet) :
    (reader.onRule header tags).reader.skeleton =
      reader.skeleton ++ [Section.titled header tags reader.line] := by
  have hnone : (reader.onRule header tags).reader.examples = none := hexamples
  have hafter : (reader.onRule header tags).reader.feature = some (feature.addRule
      { name := header.name, keyword := header.keyword, tags, line := reader.line }) := by
    simp only [onRule, accept, hfeature, Option.map_some]
  rw [skeleton_of_feature hexamples hfeature, skeleton_of_feature hnone hafter,
    Feature.skeleton_addRule]
  rfl

theorem skeleton_onBackground (hexamples : reader.examples = none)
    (hfeature : reader.feature = some feature)
    (haccept : (reader.onBackground feature header tags).fault = none) :
    ∃ before part, reader.skeleton = before ++ [part] ∧ part.background = none ∧
      (reader.onBackground feature header tags).reader.skeleton = before ++
        [{ part with background := some (StepBlock.titled header tags reader.line) }] := by
  obtain ⟨hnone, hafter⟩ := onBackground_accepted haccept
  obtain ⟨before, hbefore, hmodified⟩ := exists_skeleton hexamples hfeature
  refine ⟨before, feature.active.skeleton, hbefore, ?_, ?_⟩
  · rw [Section.skeleton, hnone]
    rfl
  · rw [hafter]
    exact hmodified _

theorem skeleton_onScenario (hexamples : reader.examples = none)
    (hfeature : reader.feature = some feature) (header : Header) (tags : TagSet) :
    ∃ before part, reader.skeleton = before ++ [part] ∧
      (reader.onScenario header tags).reader.skeleton =
        before ++ [part.addScenario (Scenario.titled header tags reader.line)] := by
  obtain ⟨before, hbefore, hmodified⟩ := exists_skeleton hexamples hfeature
  refine ⟨before, feature.active.skeleton, hbefore, (hmodified _).trans ?_⟩
  rw [Section.skeleton_addScenario]
  rfl

theorem outlines_onExamples (hexamples : reader.examples = none)
    (haccept : (reader.onExamples tags).fault = none) :
    reader.Outlines id (reader.onExamples tags).reader.skeleton := by
  obtain ⟨hscenario, hafter⟩ := onExamples_accepted haccept
  have hopened : (reader.onExamples tags).reader.skeleton =
      (reader.modifyScenario (·.modifyOutline id)).skeleton := by
    rw [hafter]
    exact skeleton_openExamples hexamples id { explicit := true, tags, line := reader.line } rfl
  rw [hopened]
  exact outlines_modifyScenario hexamples hscenario id

/-- In a feature a header takes the tags that wait and adds to the skeleton, or to an outline. -/
theorem turn_onHeader (hexamples : reader.examples = none) {text : String}
    (haccept : (reader.onHeader text header).fault = none) :
    reader.Turn (some (.header header)) (reader.onHeader text header).reader.skeleton := by
  -- the reader that has given the tags away has the same skeleton
  let untagged : Reader := { reader with pendingTags := {} }
  have hclosed : untagged.examples = none := hexamples
  rcases onHeader_accepted haccept with ⟨hkind, hsame⟩ | ⟨feature, hfeature, hrest⟩
  · rw [hsame] at haccept ⊢
    exact turn_onFeature hexamples hkind haccept
  have hopen : untagged.feature = some feature := hfeature
  rcases hrest with ⟨hkind, hsame⟩ | ⟨hkind, hsame⟩ | ⟨hkind, hsame⟩ | ⟨hkind, hsame⟩
  · have hopened := skeleton_onRule hclosed hopen header reader.pendingTags
    rw [hsame, hopened]
    exact .rule hkind
  · rw [hsame] at haccept
    obtain ⟨before, part, hlast, hnone, hopened⟩ := skeleton_onBackground hclosed hopen haccept
    rw [hsame, hopened]
    exact .background hkind hlast hnone
  · rw [hsame] at haccept ⊢
    obtain ⟨hlast⟩ := outlines_onExamples hclosed haccept
    exact .examples hkind ⟨hlast⟩
  · obtain ⟨before, part, hlast, hopened⟩ :=
      skeleton_onScenario hclosed hopen header reader.pendingTags
    have hbefore : reader.skeleton = before ++ [part] := hlast
    rw [hsame, hopened]
    exact .scenario hkind hbefore

end Headers

/-! ## Rows -/

theorem turn_onDataRow (hexamples : reader.examples = none) {cells : List String}
    (htable : reader.openTable = .data) (haccept : (reader.onDataRow cells).fault = none) :
    reader.Turn (some (.row cells)) (reader.onDataRow cells).reader.skeleton := by
  obtain ⟨-, hafter⟩ := onDataRow_accepted haccept
  have hsame : (reader.onDataRow cells).reader.skeleton = reader.skeleton := by
    rw [hafter]
    exact skeleton_modifyBlock (f := (·.modifyLastStep (·.addRow cells))) hexamples fun _ => rfl
  rw [hsame]
  exact .still (by simp) fun _ _ => .inl htable

theorem turn_onExampleRow (houtline : reader.scenario?.any (·.isOutline) = true)
    {block : ExamplesBlock}
    (hblock : reader.examples = some block) (cells : List String) :
    reader.Turn (some (.row cells)) (reader.onExampleRow block cells).reader.skeleton := by
  have hafter : (reader.onExampleRow block cells).reader.skeleton =
      { reader with examples := some (block.push cells reader.line).value : Reader }.skeleton := rfl
  rw [hafter]
  cases hheaders : block.headers with
  | none =>
    -- the row gives the headers and adds nothing
    have hsame : { reader with
        examples := some (block.push cells reader.line).value : Reader }.skeleton =
        reader.skeleton := by
      rw [skeleton_of_open hblock, skeleton_of_open rfl]
      simp only [ExamplesBlock.push, hheaders, Noted.pure_value]
    rw [hsame]
    exact .still (by simp) fun _ _ => .inr ⟨block, hblock, hheaders⟩
  | some headers =>
    refine .valueRow hblock hheaders (outlines_pushed (Option.isSome_of_any houtline) hblock ?_)
      houtline
    simp [ExamplesBlock.push, hheaders]

theorem turn_onBareRow (hexamples : reader.examples = none) (htable : reader.openTable = .closed)
    {cells : List String} (haccept : (reader.onBareRow cells).fault = none) :
    reader.Turn (some (.row cells)) (reader.onBareRow cells).reader.skeleton := by
  obtain ⟨houtline, hafter⟩ := onBareRow_accepted haccept
  have hopened : (reader.onBareRow cells).reader.skeleton =
      (reader.modifyScenario (·.modifyOutline ({ · with missingKeyword := true }))).skeleton := by
    rw [hafter]
    exact skeleton_openExamples hexamples ({ · with missingKeyword := true })
      { headers := some cells, explicit := false, line := reader.line } rfl
  rw [hopened]
  exact .bareRow htable
    (outlines_modifyScenario hexamples (Option.isSome_of_any houtline) _) houtline

theorem turn_onRow (hsound : reader.Sound) {cells : List String}
    (haccept : (reader.onRow cells).fault = none) :
    reader.Turn (some (.row cells)) (reader.onRow cells).reader.skeleton := by
  unfold onRow at haccept ⊢
  cases hexamples : reader.examples with
  | some block =>
    have houtline := (Option.any_eq_true _ _).2 (hsound.outlined (by simp [hexamples]))
    exact turn_onExampleRow houtline hexamples cells
  | none =>
    simp only [hexamples] at haccept ⊢
    by_cases hstep : reader.previous = .step ∨ reader.previous = .dataTableRow
    · rw [if_pos hstep] at haccept ⊢
      exact turn_onDataRow hexamples (openTable_data hexamples hstep) haccept
    · rw [if_neg hstep] at haccept ⊢
      rw [not_or] at hstep
      exact turn_onBareRow hexamples (openTable_closed _ hexamples rfl hstep.1 hstep.2) haccept

/-! ## Other lines -/

/-- A line that is no header and no row leaves the skeleton alone. -/
theorem Turn.idle {form? : Option LineForm} {parts : List Section}
    (hheader : ∀ header, form? ≠ some (.header header))
    (hrow : ∀ cells, form? ≠ some (.row cells)) (hparts : parts = reader.skeleton) :
    reader.Turn form? parts := by
  rw [hparts]
  exact .still hheader fun cells hform => absurd hform (hrow cells)

theorem skeleton_onComment (comment : String) :
    (reader.onComment comment).reader.skeleton = reader.skeleton := by
  unfold onComment
  split <;> rfl

theorem skeleton_onFence {text : String} {fence : Fence} {mediaType : Option String}
    (haccept : (reader.onFence text fence mediaType).fault = none) :
    (reader.onFence text fence mediaType).reader.skeleton = reader.skeleton := by
  rw [(onFence_accepted haccept).2]
  rfl

theorem skeleton_onStep (hexamples : reader.examples = none) {text : String} {found : StepLine}
    (haccept : (reader.onStep text found).fault = none) :
    (reader.onStep text found).reader.skeleton = reader.skeleton := by
  let step : Step :=
    { keyword := found.kind, keywordText := found.keyword, details := found.details
      line := reader.line }
  rw [(onStep_accepted haccept).2]
  exact skeleton_modifyBlock (f := (·.addStep step)) hexamples fun _ => rfl

theorem skeleton_onProse (hexamples : reader.examples = none) (text : String) :
    (reader.onProse text).reader.skeleton = reader.skeleton := by
  unfold onProse
  split
  · rfl
  split
  · exact skeleton_modifyActive (f := (·.describe text)) hexamples fun _ => rfl
  · exact skeleton_modifyBlock (f := (·.describe text)) hexamples fun _ => rfl

theorem turn_onForm (hsound : reader.Sound) {text trimmed : String} {form : LineForm}
    (hmet : reader.keepsExamples form = true ∨ reader.examples = none)
    (haccept : (reader.onForm text trimmed form).fault = none) :
    reader.Turn (some form) (reader.onForm text trimmed form).reader.skeleton := by
  cases form with
  | comment comment => exact .idle (by simp) (by simp) (skeleton_onComment comment)
  | header header => exact turn_onHeader (by simpa [keepsExamples] using hmet) haccept
  | row cells => exact turn_onRow hsound haccept
  | blank => exact .idle (by simp) (by simp) rfl
  | tags tags => exact .idle (by simp) (by simp) rfl
  | fence fence mediaType => exact .idle (by simp) (by simp) (skeleton_onFence haccept)
  | step found =>
    exact .idle (by simp) (by simp)
      (skeleton_onStep (by simpa [keepsExamples] using hmet) haccept)
  | prose =>
    exact .idle (by simp) (by simp) (skeleton_onProse (by simpa [keepsExamples] using hmet) trimmed)

/-! ## Lines -/

theorem Outlines.of_flush {f : Outline → Outline} {parts : List Section}
    (h : reader.flush.value.Outlines f parts) : reader.Outlines f parts := by
  obtain ⟨hlast⟩ := h
  rw [skeleton_flush, blockLine?_flush] at hlast
  exact ⟨hlast⟩

/-- A table that ends before the line takes no part in the turn. -/
theorem Turn.of_flush {form? : Option LineForm} {parts : List Section}
    (hrow : ∀ cells, form? ≠ some (.row cells)) (h : reader.flush.value.Turn form? parts) :
    reader.Turn form? parts := by
  have hskeleton := skeleton_flush reader
  have hline := flush_line reader
  have htags : reader.flush.value.pendingTags = reader.pendingTags := by rw [flush_eq]
  cases h with
  | feature hkind hnone =>
    rw [hline, htags]
    exact .feature hkind (hskeleton ▸ hnone)
  | rule hkind =>
    rw [hline, htags, hskeleton]
    exact .rule hkind
  | background hkind hlast hnone =>
    rw [hline, htags]
    exact .background hkind (hskeleton ▸ hlast) hnone
  | scenario hkind hlast =>
    rw [hline, htags]
    exact .scenario hkind (hskeleton ▸ hlast)
  | examples hkind houtlines => exact .examples hkind houtlines.of_flush
  | bareRow => exact absurd rfl (hrow _)
  | valueRow => exact absurd rfl (hrow _)
  | still hheader =>
    exact .idle hheader hrow hskeleton

theorem Turn.of_settle {form : LineForm} {parts : List Section}
    (h : (reader.settle form).Turn (some form) parts) : reader.Turn (some form) parts := by
  unfold settle at h
  split at h
  · exact h
  next hkeeps =>
    apply h.of_flush
    rintro cells ⟨⟩
    exact hkeeps rfl

theorem turn_take (hsound : reader.Sound) {text : String}
    (haccept : (reader.take text).fault = none) :
    reader.Turn (reader.scanner.form? text) (reader.take text).reader.skeleton := by
  cases hdoc : reader.docString with
  | some doc =>
    have hform := form?_of_some hdoc text
    rw [hform, take_of_some hdoc]
    apply Turn.idle (by simp) (by simp)
    unfold onDocString
    split
    · exact skeleton_modifyBlock (f := (·.modifyLastStep ({ · with docString := some doc.close })))
        (hsound.fenced (by simp [hdoc])).1 fun _ => rfl
    · rfl
  | none =>
    have hform := form?_of_none hdoc text
    rw [take_of_none hdoc, onLine_fault] at haccept
    rw [hform, take_of_none hdoc, onLine_reader]
    exact (turn_onForm (hsound.settle _) (settle_examples reader _) haccept).of_settle

/-- What an accepted line does to the skeleton of a document. -/
theorem turn_read (hsound : reader.Sound) {text : String}
    (haccept : (reader.read text).fault = none) :
    ({ reader with line := reader.line + 1 } : Reader).Turn (reader.scanner.form? text)
      (reader.read text).reader.skeleton := by
  rw [read_fault] at haccept
  rw [read_reader]
  exact turn_take (hsound.withLine _) haccept

/-! ## Runs -/

/-- The lines of the document rise after an accepted run, too. -/
theorem Kept.rising_readAll {seen : List LineEntry} (hkept : reader.Kept seen)
    (h : reader.Rising reader.line) {lines : List String}
    (haccept : (reader.readAll lines).fault = none) :
    (reader.readAll lines).reader.Rising (reader.readAll lines).reader.line :=
  hkept.induct (P := fun _ reader => reader.Rising reader.line)
    (fun hkept h _ => h.read hkept.sound _) h haccept

end Reader

end Gherkin
