/-
  Gherkin.Proofs.Reader.Renumber

  A reader does not look at line numbers: it only passes them on. So a reader
  under other line numbers takes a line as the reader does, and what comes of
  it is the same under the other numbers, faults and notices included.
-/
import Gherkin.Proofs.Document.Renumber
import Gherkin.Proofs.Reader.Accepted
import Gherkin.Proofs.Reader.Order

namespace Gherkin

/-! ## Renumbering what a reader holds -/

/-- The table with its own line number and those of its rows changed. -/
def ExamplesBlock.renumber (f : Nat → Nat) (block : ExamplesBlock) : ExamplesBlock :=
  { block with rows := block.rows.map (·.renumber f), line := f block.line }

/-- The doc-string under the number of another opening line. -/
def OpenDocString.renumber (f : Nat → Nat) (doc : OpenDocString) : OpenDocString :=
  { doc with line := f doc.line }

/-- The fault with the line that it was found on changed. -/
def DocumentFault.renumber (f : Nat → Nat) : DocumentFault → DocumentFault
  | duplicateFeature line => .duplicateFeature (f line)
  | emptyFeatureName line => .emptyFeatureName (f line)
  | beforeFeature line text => .beforeFeature (f line) text
  | duplicateBackground line kind => .duplicateBackground (f line) kind
  | stepWithoutScenario line text => .stepWithoutScenario (f line) text
  | disallowedBackgroundStep line keyword => .disallowedBackgroundStep (f line) keyword
  | tableRowOutsideExamples line => .tableRowOutsideExamples (f line)
  | examplesWithoutScenario line => .examplesWithoutScenario (f line)
  | docStringWithoutStep line => .docStringWithoutStep (f line)
  | unterminatedDocString line => .unterminatedDocString (f line)
  | missingFeature => .missingFeature
  | missingExamplesKeyword line scenario => .missingExamplesKeyword (f line) scenario

/-- The notice with the line that it is about, if any, changed. -/
def Notice.renumber (f : Nat → Nat) : Notice → Notice
  | lineRead line kind inDocString => .lineRead (f line) kind inDocString
  | rowsWithoutExamples line scenario => .rowsWithoutExamples (f line) scenario
  | extraCells line cells columns => .extraCells (f line) cells columns
  | examplesWithoutTable line => .examplesWithoutTable (f line)
  | examplesLost line => .examplesLost (f line)
  | notice => notice

/-- What came of a document under other line numbers: its faults or its feature. -/
def renumberResult (f : Nat → Nat) :
    Except DocumentFault (Option Feature) → Except DocumentFault (Option Feature)
  | .error fault => .error (fault.renumber f)
  | .ok feature => .ok (feature.map (·.renumber f))

namespace Reader

/-- The reader with every line number that it holds changed, its count of lines included. -/
def renumber (f : Nat → Nat) (reader : Reader) : Reader :=
  { reader with
    feature := reader.feature.map (·.renumber f)
    examples := reader.examples.map (·.renumber f)
    docString := reader.docString.map (·.renumber f)
    line := f reader.line }

/-- The outcome under other line numbers. -/
def Outcome.renumber (f : Nat → Nat) (outcome : Outcome) : Outcome where
  reader := outcome.reader.renumber f
  fault := outcome.fault.map (·.renumber f)
  notices := outcome.notices.map (·.renumber f)

variable {f : Nat → Nat} {reader : Reader}

theorem renumber_after (outcome : Outcome) (notices : List Notice) :
    (outcome.renumber f).after (notices.map (·.renumber f)) =
      (outcome.after notices).renumber f := by
  simp [Outcome.after, Outcome.renumber]

theorem renumber_logged (outcome : Outcome) :
    (outcome.renumber f).logged = outcome.logged.renumber f := by
  obtain ⟨after, fault, notices⟩ := outcome
  cases fault with
  | some fault => rfl
  | none => simp [Outcome.logged, Outcome.renumber, Notice.renumber, renumber]

/-! ## Looking up and changing parts -/

theorem block?_renumber (reader : Reader) :
    (reader.renumber f).block? = reader.block?.map (·.renumber f) := by
  unfold block?
  simp only [renumber]
  cases reader.feature with
  | none => rfl
  | some feature =>
    cases reader.place with
    | none => rfl
    | some place =>
      show (feature.renumber f).active.block? place = _
      rw [Feature.active_renumber, Section.block?_renumber]
      rfl

theorem scenario?_renumber (reader : Reader) :
    (reader.renumber f).scenario? = reader.scenario?.map (·.renumber f) := by
  unfold scenario?
  simp only [renumber]
  split
  · cases reader.feature with
    | none => rfl
    | some feature =>
      show (feature.renumber f).active.scenarios.getLast? = _
      rw [Feature.active_renumber, Section.getLast?_renumber]
      rfl
  · rfl

theorem hasStep_renumber (reader : Reader) : (reader.renumber f).hasStep = reader.hasStep := by
  unfold hasStep
  rw [block?_renumber]
  cases reader.block? <;> simp [StepBlock.renumber]

theorem renumber_modifyActive {g h : Section → Section}
    (hgh : ∀ part, h (part.renumber f) = (g part).renumber f) (reader : Reader) :
    (reader.renumber f).modifyActive h = (reader.modifyActive g).renumber f := by
  cases hfeature : reader.feature with
  | none => simp [modifyActive, renumber, hfeature]
  | some feature => simp [modifyActive, renumber, hfeature, Feature.renumber_modifyActive hgh]

theorem renumber_modifyBlock {g h : StepBlock → StepBlock}
    (hgh : ∀ block, h (block.renumber f) = (g block).renumber f) (reader : Reader) :
    (reader.renumber f).modifyBlock h = (reader.modifyBlock g).renumber f := by
  have hplace : (reader.renumber f).place = reader.place := rfl
  unfold modifyBlock
  rw [hplace]
  split
  · rfl
  next place _ => exact renumber_modifyActive (Section.renumber_modifyBlock hgh place) reader

theorem renumber_modifyOutline {g h : Outline → Outline}
    (hgh : ∀ outline, h (outline.renumber f) = (g outline).renumber f) (reader : Reader) :
    (reader.renumber f).modifyScenario (·.modifyOutline h) =
      (reader.modifyScenario (·.modifyOutline g)).renumber f :=
  renumber_modifyActive
    (Section.renumber_modifyLastScenario (Scenario.renumber_modifyOutline hgh)) reader

/-! ## Examples tables -/

theorem addRows_renumber (rows : List ExampleRow) (outline : Outline) :
    addRows (rows.map (·.renumber f)) (outline.renumber f) =
      (addRows rows outline).renumber f := by
  simp [addRows, Outline.renumber]

theorem push_renumber (block : ExamplesBlock) (cells : List String) (line : Nat) :
    (block.renumber f).push cells (f line) =
      ⟨(block.push cells line).value.renumber f,
        (block.push cells line).notices.map (·.renumber f)⟩ := by
  unfold ExamplesBlock.push
  cases hheaders : block.headers with
  | none => simp [ExamplesBlock.renumber, hheaders, pure]
  | some headers =>
    have hnotices : (if headers.length < cells.length then
          [Notice.extraCells (f line) cells.length headers.length] else []) =
        (if headers.length < cells.length then
          [Notice.extraCells line cells.length headers.length] else []).map (·.renumber f) := by
      split <;> rfl
    simp only [ExamplesBlock.renumber, hheaders, hnotices, List.map_append]
    rfl

theorem flush_renumber (reader : Reader) :
    (reader.renumber f).flush =
      ⟨reader.flush.value.renumber f, reader.flush.notices.map (·.renumber f)⟩ := by
  unfold flush
  cases hexamples : reader.examples with
  | none => simp [renumber, hexamples, pure]
  | some block =>
    have hopen : (reader.renumber f).examples = some (block.renumber f) := by
      simp [renumber, hexamples]
    have hnotices : (if block.headers.isNone then [Notice.examplesWithoutTable (f block.line)]
          else []) =
        (if block.headers.isNone then [Notice.examplesWithoutTable block.line]
          else []).map (·.renumber f) := by
      split <;> rfl
    simp only [hopen, ExamplesBlock.renumber, hnotices,
      renumber_modifyOutline (addRows_renumber block.rows)]
    rfl

theorem keepsExamples_renumber (reader : Reader) (form : LineForm) :
    (reader.renumber f).keepsExamples form = reader.keepsExamples form := by
  cases form with
  | blank =>
    cases hexamples : reader.examples with
    | none => simp [keepsExamples, renumber, hexamples]
    | some block =>
      simp [keepsExamples, renumber, hexamples, ExamplesBlock.awaitsRows, ExamplesBlock.renumber]
  | _ => rfl

theorem settle_renumber (reader : Reader) (form : LineForm) :
    (reader.renumber f).settle form = (reader.settle form).renumber f := by
  unfold settle
  rw [keepsExamples_renumber, flush_renumber]
  split <;> rfl

/-! ## Headers -/

theorem onFeature_renumber (reader : Reader) (header : Header) :
    (reader.renumber f).onFeature header = (reader.onFeature header).renumber f := by
  have hsome : (reader.renumber f).feature.isSome = reader.feature.isSome := by
    simp [renumber]
  unfold onFeature
  rw [hsome]
  split
  · rfl
  split <;> rfl

theorem onRule_renumber (reader : Reader) (header : Header) (tags : TagSet) :
    (reader.renumber f).onRule header tags = (reader.onRule header tags).renumber f := by
  cases hfeature : reader.feature with
  | none => simp [onRule, renumber, accept, Outcome.renumber, hfeature]
  | some feature =>
    have hrule := Feature.renumber_addRule (f := f) feature
      { name := header.name, keyword := header.keyword, tags, line := reader.line }
    simp only [onRule, renumber, accept, Outcome.renumber, hfeature, Option.map_some, ← hrule]
    rfl

theorem activeKind_renumber (feature : Feature) :
    activeKind (feature.renumber f) = activeKind feature := by
  simp [activeKind, Feature.renumber]

theorem onBackground_renumber (reader : Reader) (feature : Feature) (header : Header)
    (tags : TagSet) :
    (reader.renumber f).onBackground (feature.renumber f) header tags =
      (reader.onBackground feature header tags).renumber f := by
  have hsome : (feature.renumber f).active.background.isSome =
      feature.active.background.isSome := by
    simp [Feature.active_renumber, Section.renumber]
  unfold onBackground
  rw [hsome, activeKind_renumber]
  split
  · rfl
  · have hopened := fun background : Background => renumber_modifyActive (f := f)
      (g := fun part => { part with background := some background })
      (h := fun part => { part with background := some (background.renumber f) })
      (fun _ => rfl) reader
    have hrenumbered := hopened
      { name := header.name, keyword := header.keyword, tags, line := reader.line }
    exact congrArg (fun opened : Reader =>
      { opened with place := some .background : Reader }.accept .header) hrenumbered

theorem onScenario_renumber (reader : Reader) (header : Header) (tags : TagSet) :
    (reader.renumber f).onScenario header tags = (reader.onScenario header tags).renumber f := by
  have hopened := fun scenario : Scenario => renumber_modifyActive (f := f)
    (g := (·.addScenario scenario)) (h := (·.addScenario (scenario.renumber f)))
    (fun part => Section.renumber_addScenario part scenario) reader
  have hrenumbered := hopened
    { name := header.name, keyword := header.keyword, tags, line := reader.line
      outline := if header.kind = .ScenarioOutline then some {} else none }
  -- a fresh outline has no rows to renumber
  have hfresh : (if header.kind = .ScenarioOutline then some ({} : Outline) else none).map
      (·.renumber f) = if header.kind = .ScenarioOutline then some {} else none := by
    split <;> rfl
  simp only [Scenario.renumber, hfresh] at hrenumbered
  exact congrArg (fun opened : Reader =>
    { opened with place := some .scenario : Reader }.accept .header) hrenumbered

theorem onExamples_renumber (reader : Reader) (tags : TagSet) :
    (reader.renumber f).onExamples tags = (reader.onExamples tags).renumber f := by
  unfold onExamples
  rw [scenario?_renumber]
  cases reader.scenario? with
  | none => rfl
  | some scenario =>
    have houtline : (scenario.renumber f).isOutline = scenario.isOutline := by
      simp [Scenario.isOutline, Scenario.renumber]
    simp only [Option.map_some, houtline, renumber_modifyOutline (f := f) (g := id) (h := id)
      fun _ => rfl]
    split <;> rfl

theorem onHeader_renumber (reader : Reader) (text : String) (header : Header) :
    (reader.renumber f).onHeader text header = (reader.onHeader text header).renumber f := by
  cases hfeature : reader.feature with
  | none =>
    have hnone : (reader.renumber f).feature = none := by simp [renumber, hfeature]
    rw [onHeader_of_none hnone, onHeader_of_none hfeature]
    split
    · exact onFeature_renumber reader header
    · rfl
  | some feature =>
    have hsome : (reader.renumber f).feature = some (feature.renumber f) := by
      simp [renumber, hfeature]
    rw [onHeader_of_some hsome, onHeader_of_some hfeature]
    cases header.kind with
    | Feature => exact onFeature_renumber reader header
    | Rule => exact onRule_renumber { reader with pendingTags := {} } header _
    | Background => exact onBackground_renumber { reader with pendingTags := {} } feature header _
    | Examples => exact onExamples_renumber { reader with pendingTags := {} } _
    | Scenario => exact onScenario_renumber { reader with pendingTags := {} } header _
    | ScenarioOutline => exact onScenario_renumber { reader with pendingTags := {} } header _

/-! ## Table rows -/

theorem onDataRow_renumber (reader : Reader) (cells : List String) :
    (reader.renumber f).onDataRow cells = (reader.onDataRow cells).renumber f := by
  have hchanged := renumber_modifyBlock (f := f)
    (StepBlock.renumber_modifyLastStep (g := (·.addRow cells)) (h := (·.addRow cells))
      fun _ => rfl) reader
  unfold onDataRow
  rw [hasStep_renumber, hchanged]
  split <;> rfl

theorem onExampleRow_renumber (reader : Reader) (block : ExamplesBlock) (cells : List String) :
    (reader.renumber f).onExampleRow (block.renumber f) cells =
      (reader.onExampleRow block cells).renumber f := by
  have hpushed : (block.renumber f).push cells (reader.renumber f).line = _ :=
    push_renumber block cells reader.line
  unfold onExampleRow
  rw [hpushed]
  exact renumber_after ({ reader with examples := some _ : Reader }.accept .exampleRow) _

theorem onBareRow_renumber (reader : Reader) (cells : List String) :
    (reader.renumber f).onBareRow cells = (reader.onBareRow cells).renumber f := by
  unfold onBareRow
  rw [scenario?_renumber]
  cases reader.scenario? with
  | none => rfl
  | some scenario =>
    have houtline : (scenario.renumber f).isOutline = scenario.isOutline := by
      simp [Scenario.isOutline, Scenario.renumber]
    have hflagged := renumber_modifyOutline (f := f)
      (g := ({ · with missingKeyword := true })) (h := ({ · with missingKeyword := true }))
      (fun _ => rfl) reader
    simp only [Option.map_some, houtline, hflagged]
    split
    · have hrow := onExampleRow_renumber (f := f)
        (reader.modifyScenario (·.modifyOutline ({ · with missingKeyword := true })))
        { explicit := false, line := reader.line } cells
      have hopened : ({ explicit := false, line := (reader.renumber f).line } : ExamplesBlock) =
          ({ explicit := false, line := reader.line } : ExamplesBlock).renumber f := rfl
      rw [hopened, hrow]
      exact renumber_after _ [.rowsWithoutExamples reader.line scenario.name]
    · rfl

theorem onRow_renumber (reader : Reader) (cells : List String) :
    (reader.renumber f).onRow cells = (reader.onRow cells).renumber f := by
  have hprevious : (reader.renumber f).previous = reader.previous := rfl
  unfold onRow
  cases hexamples : reader.examples with
  | none =>
    have hnone : (reader.renumber f).examples = none := by simp [renumber, hexamples]
    simp only [hnone, hprevious, onDataRow_renumber, onBareRow_renumber]
    split <;> rfl
  | some block =>
    have hsome : (reader.renumber f).examples = some (block.renumber f) := by
      simp [renumber, hexamples]
    simp only [hsome]
    exact onExampleRow_renumber reader block cells

/-! ## Other lines -/

theorem onComment_renumber (reader : Reader) (comment : String) :
    (reader.renumber f).onComment comment = (reader.onComment comment).renumber f := by
  unfold onComment
  cases hfeature : reader.feature with
  | some feature =>
    simp only [show (reader.renumber f).feature = some (feature.renumber f) by
      simp [renumber, hfeature]]
    rfl
  | none =>
    simp only [show (reader.renumber f).feature = none by simp [renumber, hfeature]]
    cases declaredLanguage? comment with
    | none => rfl
    | some code =>
      have hnotices : ∀ notice ∈ (Language.ofCode code).notices,
          notice.renumber f = notice := by
        unfold Language.ofCode
        split
        · simp [Notice.renumber]
        · split <;> simp [Notice.renumber]
      simp only [Outcome.renumber, List.map_append, List.map_congr_left hnotices, List.map_id']
      rfl

theorem onFence_renumber (reader : Reader) (text : String) (fence : Fence)
    (mediaType : Option String) :
    (reader.renumber f).onFence text fence mediaType =
      (reader.onFence text fence mediaType).renumber f := by
  unfold onFence
  rw [hasStep_renumber]
  split <;> rfl

theorem onStep_renumber (reader : Reader) (text : String) (found : StepLine) :
    (reader.renumber f).onStep text found = (reader.onStep text found).renumber f := by
  have hfeature : (reader.renumber f).feature.isNone = reader.feature.isNone := by
    simp [renumber]
  have hblock : (reader.renumber f).block?.isNone = reader.block?.isNone := by
    simp [block?_renumber]
  have hplace : (reader.renumber f).place = reader.place := rfl
  have hadded := fun step : Step => renumber_modifyBlock (f := f)
    (g := (·.addStep step)) (h := (·.addStep (step.renumber f)))
    (fun block => StepBlock.renumber_addStep block step) reader
  have hrenumbered := hadded
    { keyword := found.kind, keywordText := found.keyword, details := found.details
      line := reader.line }
  unfold onStep
  rw [hfeature, hblock, hplace]
  split
  · rfl
  split
  · rfl
  split
  · rfl
  · exact congrArg (Reader.accept · .step) hrenumbered

theorem onProse_renumber (reader : Reader) (text : String) :
    (reader.renumber f).onProse text = (reader.onProse text).renumber f := by
  have hfeature : (reader.renumber f).feature.isNone = reader.feature.isNone := by
    simp [renumber]
  have hplace : (reader.renumber f).place = reader.place := rfl
  unfold onProse
  rw [hfeature, hplace, renumber_modifyActive (g := (·.describe text)) fun _ => rfl,
    renumber_modifyBlock (g := (·.describe text)) fun _ => rfl]
  split
  · rfl
  · split <;> rfl

/-! ## Lines -/

theorem onForm_renumber (reader : Reader) (text trimmed : String) (form : LineForm) :
    (reader.renumber f).onForm text trimmed form =
      (reader.onForm text trimmed form).renumber f := by
  cases form with
  | comment comment => exact onComment_renumber reader comment
  | header header => exact onHeader_renumber reader trimmed header
  | row cells => exact onRow_renumber reader cells
  | blank => rfl
  | tags tags => rfl
  | fence fence mediaType => exact onFence_renumber reader text fence mediaType
  | step found => exact onStep_renumber reader trimmed found
  | prose => exact onProse_renumber reader trimmed

theorem onLine_renumber (reader : Reader) (text : String) :
    (reader.renumber f).onLine text = (reader.onLine text).renumber f := by
  have hlanguage : (reader.renumber f).language = reader.language := rfl
  unfold onLine
  simp only [hlanguage, keepsExamples_renumber, flush_renumber]
  split
  · simp only [Noted.pure_value, Noted.pure_notices, onForm_renumber]
    exact renumber_after _ []
  · simp only [onForm_renumber]
    exact renumber_after _ _

theorem onDocString_renumber (reader : Reader) (doc : OpenDocString) (text : String) :
    (reader.renumber f).onDocString (doc.renumber f) text =
      (reader.onDocString doc text).renumber f := by
  have hclosed := renumber_modifyBlock (f := f)
    (StepBlock.renumber_modifyLastStep (g := ({ · with docString := some doc.close }))
      (h := ({ · with docString := some doc.close })) fun _ => rfl) reader
  have hfence : (doc.renumber f).fence = doc.fence := rfl
  unfold onDocString
  rw [hfence]
  split
  · exact congrArg (fun closed : Reader =>
      { closed with docString := none : Reader }.accept .docString) hclosed
  · rfl

theorem take_renumber (reader : Reader) (text : String) :
    (reader.renumber f).take text = (reader.take text).renumber f := by
  unfold take
  cases hdoc : reader.docString with
  | none =>
    simp only [show (reader.renumber f).docString = none by simp [renumber, hdoc]]
    exact onLine_renumber reader text
  | some doc =>
    simp only [show (reader.renumber f).docString = some (doc.renumber f) by
      simp [renumber, hdoc]]
    exact onDocString_renumber reader doc text

/-- Only the number of the next line matters for how it is read. -/
theorem read_renumber {count : Nat} (hnext : f (reader.line + 1) = count + 1) (text : String) :
    { reader.renumber f with line := count }.read text = (reader.read text).renumber f := by
  have hcounted : ({ reader.renumber f with line := count + 1 } : Reader) =
      { reader with line := reader.line + 1 }.renumber f := by
    simp only [renumber, hnext]
  rw [read_eq_logged, read_eq_logged, hcounted, take_renumber, renumber_logged]

/-! ## Documents -/

/-- Lines are read in the same way if the numbers that they get follow on each other. -/
theorem readAll_renumber (lines : List String)
    (hfollow : ∀ n, reader.line ≤ n → n < reader.line + lines.length → f (n + 1) = f n + 1) :
    (reader.renumber f).readAll lines = (reader.readAll lines).renumber f := by
  induction lines generalizing reader with
  | nil => rfl
  | cons line lines ih =>
    have hread : (reader.renumber f).read line = (reader.read line).renumber f :=
      read_renumber (hfollow reader.line (Nat.le_refl _) (by simp)) line
    have hcount : (reader.read line).reader.line = reader.line + 1 := read_line reader line
    unfold readAll
    rw [hread]
    cases hfault : (reader.read line).fault with
    | some fault => simp [Outcome.renumber, hfault]
    | none =>
      have hrest : ((reader.read line).reader.renumber f).readAll lines =
          ((reader.read line).reader.readAll lines).renumber f := by
        apply ih
        intro n hle hlt
        rw [hcount] at hle hlt
        refine hfollow n (by omega) ?_
        rw [List.length_cons]
        omega
      simp only [Outcome.renumber, hfault, Option.map_none] at hrest ⊢
      rw [hrest]
      simp [Outcome.after]

theorem firstMissing?_renumber (feature : Feature) :
    firstMissing? (feature.renumber f) = (firstMissing? feature).map (·.renumber f) := by
  have hmisses : ∀ scenario : Scenario,
      (scenario.renumber f).missesKeyword = scenario.missesKeyword := by
    intro scenario
    cases houtline : scenario.outline <;>
      simp [Scenario.missesKeyword, Scenario.renumber, Outline.renumber, houtline]
  simp only [firstMissing?, Feature.allScenarios_renumber, List.find?_map, Function.comp_def,
    hmisses]

theorem check_renumber (strict : Bool) (feature : Option Feature) :
    check strict (feature.map (·.renumber f)) = renumberResult f (check strict feature) := by
  unfold check
  cases strict with
  | false => rfl
  | true =>
    cases feature with
    | none => rfl
    | some feature =>
      simp only [if_true, Option.map_some, Option.bind_some, firstMissing?_renumber]
      cases firstMissing? feature <;> rfl

theorem finish_of_none (h : reader.docString = none) (strict : Bool) :
    (reader.finish strict).value = check strict reader.flush.value.feature := by
  simp only [finish, h]

theorem finish_of_some {doc : OpenDocString} (h : reader.docString = some doc) (strict : Bool) :
    (reader.finish strict).value = .error (.unterminatedDocString doc.line) := by
  simp only [finish, h, Noted.pure_value]

/-- The number of lines read has no part in the end of a document. -/
theorem finish_renumber (reader : Reader) (count : Nat) (strict : Bool) :
    ({ reader.renumber f with line := count }.finish strict).value =
      renumberResult f (reader.finish strict).value := by
  have hflush : ({ reader.renumber f with line := count } : Reader).flush.value.feature =
      reader.flush.value.feature.map (·.renumber f) := by
    rw [flush_withLine (reader.renumber f) count, flush_renumber]
    rfl
  cases hdoc : reader.docString with
  | some doc =>
    have hopen : ({ reader.renumber f with line := count } : Reader).docString =
        some (doc.renumber f) := by
      simp [renumber, hdoc]
    rw [finish_of_some hopen, finish_of_some hdoc]
    rfl
  | none =>
    have hclosed : ({ reader.renumber f with line := count } : Reader).docString = none := by
      simp [renumber, hdoc]
    rw [finish_of_none hclosed, finish_of_none hdoc, hflush]
    exact check_renumber strict _

/-- The document that further lines make of what was read. -/
def readToEnd (reader : Reader) (strict : Bool) (lines : List String) :
    Except DocumentFault (Option Feature) :=
  match (reader.readAll lines).fault with
  | some fault => .error fault
  | none => ((reader.readAll lines).reader.finish strict).value

theorem readToEnd_cons (reader : Reader) (strict : Bool) (line : String) (lines : List String) :
    reader.readToEnd strict (line :: lines) =
      match (reader.read line).fault with
      | some fault => .error fault
      | none => (reader.read line).reader.readToEnd strict lines := by
  unfold readToEnd
  rw [readAll]
  cases hfault : (reader.read line).fault with
  | some fault => simp only [hfault]
  | none => rfl

theorem readToEnd_append (reader : Reader) (strict : Bool) (before after : List String) :
    reader.readToEnd strict (before ++ after) =
      match (reader.readAll before).fault with
      | some fault => .error fault
      | none => (reader.readAll before).reader.readToEnd strict after := by
  induction before generalizing reader with
  | nil => rfl
  | cons line before ih =>
    rw [List.cons_append, readToEnd_cons, readAll]
    cases hfault : (reader.read line).fault with
    | some fault => simp only [hfault]
    | none => exact ih _

theorem readAll_line {lines : List String} (h : (reader.readAll lines).fault = none) :
    (reader.readAll lines).reader.line = reader.line + lines.length := by
  induction lines generalizing reader with
  | nil => rfl
  | cons line lines ih =>
    unfold readAll at h ⊢
    cases hfault : (reader.read line).fault with
    | some fault => simp [hfault] at h
    | none =>
      simp only [hfault] at h ⊢
      have hcount : (reader.read line).reader.line = reader.line + 1 := read_line reader line
      have hrest : ((reader.read line).reader.readAll lines).reader.line =
          (reader.read line).reader.line + lines.length := ih h
      rw [List.length_cons]
      exact hrest.trans (by omega)

/-- A document is the same under other numbers if those of the lines to come follow on each
    other. -/
theorem readToEnd_renumber {count : Nat} (hnext : f (reader.line + 1) = count + 1)
    (hfollow : ∀ n, reader.line < n → f (n + 1) = f n + 1) (strict : Bool) (lines : List String) :
    { reader.renumber f with line := count }.readToEnd strict lines =
      renumberResult f (reader.readToEnd strict lines) := by
  cases lines with
  | nil => exact finish_renumber reader count strict
  | cons line lines =>
    rw [readToEnd_cons, readToEnd_cons, read_renumber hnext]
    cases hfault : (reader.read line).fault with
    | some fault =>
      simp only [Outcome.renumber, hfault]
      rfl
    | none =>
      have hcount : (reader.read line).reader.line = reader.line + 1 := read_line reader line
      have hrest : ((reader.read line).reader.renumber f).readAll lines =
          ((reader.read line).reader.readAll lines).renumber f := by
        apply readAll_renumber
        intro n hle _
        exact hfollow n (by omega)
      simp only [Outcome.renumber, hfault, Option.map_none, readToEnd, hrest]
      cases ((reader.read line).reader.readAll lines).fault with
      | some fault => rfl
      | none => exact finish_renumber _ _ strict

end Reader

end Gherkin
