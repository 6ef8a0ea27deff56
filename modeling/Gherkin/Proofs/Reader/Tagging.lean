/-
  Gherkin.Proofs.Reader.Tagging

  Tags go to the next entity. The tags of a document are told from its lines
  alone: a header has those of the tag lines between the header before it and
  itself, and a row of examples those of the examples keyword it stands under.
  Comments, text, steps and doc-strings may stand in between. Tags behind the
  last header wait.
-/
import Gherkin.Proofs.Reader.Skeleton
import Gherkin.Proofs.Tag.Set
import Gherkin.Proofs.Text.Split

namespace Gherkin

open List (Perm)

/-! ## The tags of lines -/

namespace LineEntry

/-- The line is a header. -/
def isHeader (entry : LineEntry) : Bool :=
  match entry.form with
  | some (.header _) => true
  | _ => false

/-- The line is an examples keyword. -/
def isExamples (entry : LineEntry) : Bool :=
  match entry.form with
  | some (.header header) => header.kind = .Examples
  | _ => false

/-- The tags on a line as they are written. -/
def tagWords (entry : LineEntry) : List String :=
  match entry.form with
  | some (.tags tags) => tags
  | _ => []

end LineEntry

/-- The tags that wait behind the lines seen: those on the lines behind the latest header, in the
    order of the lines. -/
def waitingTags (seen : List LineEntry) : TagSet :=
  .ofList ((seen.takeWhile (!·.isHeader)).reverse.flatMap (·.tagWords))

/-- The tags that wait behind one more line of a form; the form is none inside a doc-string. -/
def TagSet.behind (tags : TagSet) : Option LineForm → TagSet
  | some (.header _) => {}
  | some (.tags more) => tags.extend more
  | _ => tags

/-- The tags that the latest examples keyword has taken. -/
def takenTags (seen : List LineEntry) : TagSet :=
  waitingTags (seen.dropWhile (!·.isExamples)).tail

/-- The tags that the latest examples keyword has taken, with one more line of a form; `waiting`
    are those that wait at the line. -/
def TagSet.takenBehind (taken waiting : TagSet) : Option LineForm → TagSet
  | some (.header header) => if header.kind = .Examples then waiting else taken
  | _ => taken

section Lines

variable {entry : LineEntry} {seen : List LineEntry}

theorem waitingTags_cons (entry : LineEntry) (seen : List LineEntry) :
    waitingTags (entry :: seen) = (waitingTags seen).behind entry.form := by
  by_cases hheader : entry.isHeader = true
  · rw [waitingTags, List.takeWhile_cons_of_neg (by simp [hheader])]
    unfold LineEntry.isHeader at hheader
    split at hheader
    next header hform =>
      rw [hform]
      rfl
    next => cases hheader
  · have hbehind : ∀ tags : TagSet, tags.behind entry.form = tags.extend entry.tagWords := by
      intro tags
      unfold LineEntry.isHeader at hheader
      unfold TagSet.behind LineEntry.tagWords
      split <;> simp_all
    rw [hbehind, waitingTags, List.takeWhile_cons_of_pos (by simp [hheader]), List.reverse_cons,
      List.flatMap_append, List.flatMap_singleton, TagSet.ofList, TagSet.extend_append]
    rfl

theorem takenTags_cons (entry : LineEntry) (seen : List LineEntry) :
    takenTags (entry :: seen) = (takenTags seen).takenBehind (waitingTags seen) entry.form := by
  by_cases hkeyword : entry.isExamples = true
  · rw [takenTags, List.dropWhile_cons_of_neg (by simp [hkeyword]), List.tail_cons]
    unfold LineEntry.isExamples at hkeyword
    split at hkeyword
    next header hform => rw [hform, TagSet.takenBehind, if_pos (by simpa using hkeyword)]
    next => cases hkeyword
  · rw [takenTags, List.dropWhile_cons_of_pos (by simp [hkeyword])]
    unfold LineEntry.isExamples at hkeyword
    unfold TagSet.takenBehind
    split
    next header hform =>
      rw [if_neg (by simpa [hform] using hkeyword)]
      rfl
    next => rfl

end Lines

/-! ## The account of tags -/

/-- Tags in a document with the line of what carries them. -/
inductive Tagging where
  /-- The tags of a feature, rule, background or scenario. -/
  | entity (line : Nat) (tags : TagSet)
  /-- The tags of a row of examples. -/
  | row (line : Nat) (tags : TagSet)
  deriving DecidableEq

/-- The tags. -/
def Tagging.tags : Tagging → TagSet
  | .entity _ tags | .row _ tags => tags

/-- The tags of a scenario and of the rows of its examples. -/
def Scenario.taggings (scenario : Scenario) : List Tagging :=
  .entity scenario.line scenario.tags ::
    scenario.examples.map fun row => .row row.line row.tags

/-- The tags of a section and of all that is in it. -/
def Section.taggings (part : Section) : List Tagging :=
  .entity part.line part.tags ::
    (part.background.toList.map fun background => .entity background.line background.tags) ++
    part.scenarios.flatMap Scenario.taggings

/-- All the tags in a feature. -/
def Feature.taggings (feature : Feature) : List Tagging :=
  feature.toSection.taggings ++ feature.rules.flatMap (·.toSection.taggings)

/-- The tags that go to what a line makes, given the lines before it. A row of values has the tags
    of its examples keyword, or none if it stands under no keyword. -/
def LineEntry.taggings (before : List LineEntry) (entry : LineEntry) : List Tagging :=
  match entry.form with
  | some (.header header) =>
    if header.kind = .Examples then [] else [.entity entry.number (waitingTags before)]
  | some (.row _) =>
    match OpenTable.ofSeen before with
    | .examples explicit (some _) _ =>
      [.row entry.number (if explicit then takenTags before else {})]
    | _ => []
  | _ => []

/-- The tags that go to what all the lines make. -/
def tagAccount : List LineEntry → List Tagging
  | [] => []
  | entry :: before => entry.taggings before ++ tagAccount before

/-! ## The tags in a skeleton -/

theorem Section.taggings_skeleton (part : Section) : part.skeleton.taggings = part.taggings := by
  have hscenarios : ∀ scenario : Scenario, scenario.skeleton.taggings = scenario.taggings :=
    fun _ => rfl
  have hbackground : part.skeleton.background.toList.map
      (fun background => Tagging.entity background.line background.tags) =
      part.background.toList.map fun background => .entity background.line background.tags := by
    rw [skeleton]
    cases part.background <;> rfl
  have hline : part.skeleton.line = part.line ∧ part.skeleton.tags = part.tags := ⟨rfl, rfl⟩
  rw [taggings, taggings, hbackground, hline.1, hline.2]
  simp only [skeleton, List.flatMap_map, hscenarios]

theorem Feature.taggings_skeleton (feature : Feature) :
    feature.skeleton.flatMap Section.taggings = feature.taggings := by
  rw [skeleton, List.flatMap_map, sections, List.flatMap_cons, List.flatMap_map, taggings]
  simp only [Section.taggings_skeleton]

theorem Scenario.taggings_modifyOutline {f : Outline → Outline} {rows : List ExampleRow}
    (hf : ∀ outline, (f outline).examples = outline.examples ++ rows) (scenario : Scenario) :
    (scenario.modifyOutline f).taggings =
      scenario.taggings ++ rows.map fun row => .row row.line row.tags := by
  rw [taggings, scenario.examples_modifyOutline hf, List.map_append, ← List.cons_append]
  rfl

theorem Section.taggings_setBackground {part : Section} (hnone : part.background = none)
    (background : Background) :
    Perm ({ part with background := some background } : Section).taggings
      ([.entity background.line background.tags] ++ part.taggings) := by
  simp only [taggings, hnone, Option.toList_some, Option.toList_none, List.map_singleton,
    List.map_nil]
  exact perm_added_before _ (List.Perm.swap _ _ _)

theorem Section.taggings_addScenario (part : Section) (scenario : Scenario) :
    Perm (part.addScenario scenario).taggings (scenario.taggings ++ part.taggings) := by
  simp only [taggings, addScenario, List.flatMap_append, List.flatMap_singleton]
  exact perm_added_behind _ List.perm_append_comm

/-- What the last section gains, the whole skeleton gains. -/
theorem taggings_last {before : List Section} {part changed : Section} {added : List Tagging}
    (h : Perm changed.taggings (added ++ part.taggings)) :
    Perm ((before ++ [changed]).flatMap Section.taggings)
      (added ++ (before ++ [part]).flatMap Section.taggings) := by
  rw [List.flatMap_append, List.flatMap_append, List.flatMap_singleton, List.flatMap_singleton]
  exact perm_added_behind _ h

namespace Reader

variable {reader : Reader} {form? : Option LineForm} {parts : List Section}

theorem taggings_settled (reader : Reader) :
    reader.skeleton.flatMap Section.taggings =
      reader.flush.value.feature.toList.flatMap Feature.taggings := by
  rw [skeleton, settled_eq_flush]
  cases reader.flush.value.feature with
  | none => rfl
  | some feature =>
    rw [Option.toList_some, List.flatMap_singleton, List.flatMap_singleton,
      Feature.taggings_skeleton]

/-- The tags that an outline gains are those of the rows it gains. -/
theorem Outlines.taggings {f : Outline → Outline} {rows : List ExampleRow}
    (hf : ∀ outline, (f outline).examples = outline.examples ++ rows)
    (h : reader.Outlines f parts) :
    Perm (parts.flatMap Section.taggings)
      ((rows.map fun row => .row row.line row.tags) ++
        reader.skeleton.flatMap Section.taggings) := by
  obtain ⟨before, part, scenarios, scenario, hlast, hscenarios, -, rfl⟩ := h.last
  rw [hlast]
  apply taggings_last
  rw [Section.taggings, Section.taggings, hscenarios]
  simp only [List.flatMap_append, List.flatMap_singleton,
    Scenario.taggings_modifyOutline hf scenario]
  exact perm_added_behind _ (perm_added_behind _ List.perm_append_comm)

/-- The tags that go to what a line makes, as the reader knows them. -/
def dueTaggings (reader : Reader) : Option LineForm → List Tagging
  | some (.header header) =>
    if header.kind = .Examples then [] else [.entity reader.line reader.pendingTags]
  | some (.row _) =>
    match reader.examples with
    | some block => if block.headers.isSome then [.row reader.line block.tags] else []
    | none => []
  | _ => []

/-- If the reader is in no examples table then none is open. -/
theorem examples_of_openTable
    (h : ∀ explicit headers rows, reader.openTable ≠ .examples explicit headers rows) :
    reader.examples = none := by
  cases hexamples : reader.examples with
  | none => rfl
  | some block => exact absurd (by rw [openTable, hexamples]) (h _ _ _)

/-- The tags that an accepted line adds to a document. -/
theorem Turn.taggings (h : reader.Turn form? parts) :
    Perm (parts.flatMap Section.taggings)
      (reader.dueTaggings form? ++ reader.skeleton.flatMap Section.taggings) := by
  -- a header adds what it opens behind all that was there, while a row goes to the outline of its
  -- table
  cases h with
  | feature hkind hnone =>
    rw [hnone]
    simp [dueTaggings, hkind, Section.taggings, Section.titled]
  | rule hkind =>
    simp only [dueTaggings, hkind, List.flatMap_append, List.flatMap_singleton]
    exact List.perm_append_comm
  | background hkind hlast hnone =>
    rw [hlast]
    simp only [dueTaggings, hkind]
    exact taggings_last (Section.taggings_setBackground hnone _)
  | @scenario header before part hkind hlast =>
    have hother : header.kind ≠ .Examples := by
      rcases hkind with hkind | hkind <;> simp [hkind]
    have hscenario : (Scenario.titled header reader.pendingTags reader.line).taggings =
        [.entity reader.line reader.pendingTags] := by
      rw [Scenario.taggings, Scenario.examples_titled]
      rfl
    rw [hlast, dueTaggings, if_neg hother, ← hscenario]
    exact taggings_last (Section.taggings_addScenario part _)
  | examples hkind houtlines =>
    have hnone : ∀ outline : Outline, (id outline).examples = outline.examples ++ [] := by simp
    simpa [dueTaggings, hkind] using houtlines.taggings hnone
  | bareRow htable houtlines =>
    have hnone : ∀ outline : Outline,
        ({ outline with missingKeyword := true } : Outline).examples = outline.examples ++ [] := by
      simp
    have hexamples : reader.examples = none := examples_of_openTable (by simp [htable])
    simpa [dueTaggings, hexamples] using houtlines.taggings hnone
  | valueRow hblock hheaders houtlines =>
    simp only [dueTaggings, hblock, hheaders, Option.isSome_some, if_true]
    exact houtlines.taggings fun _ => rfl
  | still hheader hrow =>
    have hnone : reader.dueTaggings form? = [] := by
      unfold dueTaggings
      split
      next header => exact absurd rfl (hheader header)
      next cells =>
        rcases hrow cells rfl with hdata | ⟨block, hblock, hheaders⟩
        · rw [examples_of_openTable (by simp [hdata])]
        · simp [hblock, hheaders]
      next => rfl
    rw [hnone, List.nil_append]

/-! ## Tags that wait -/

theorem modifyBlock_pendingTags (f : StepBlock → StepBlock) (reader : Reader) :
    (reader.modifyBlock f).pendingTags = reader.pendingTags := by
  unfold modifyBlock
  split <;> rfl

/-- A header takes all the tags that wait. -/
theorem pendingTags_onHeader {text : String} {header : Header}
    (haccept : (reader.onHeader text header).fault = none) :
    (reader.onHeader text header).reader.pendingTags = {} := by
  rcases onHeader_accepted haccept with ⟨-, hsame⟩ | ⟨feature, hfeature, hrest⟩
  · rw [hsame] at haccept ⊢
    rw [(onFeature_accepted haccept).2]
  rcases hrest with ⟨-, hsame⟩ | ⟨-, hsame⟩ | ⟨-, hsame⟩ | ⟨-, hsame⟩
  · rw [hsame]
    rfl
  · rw [hsame] at haccept ⊢
    rw [(onBackground_accepted haccept).2]
    rfl
  · rw [hsame] at haccept ⊢
    rw [(onExamples_accepted haccept).2]
    rfl
  · rw [hsame]
    rfl

theorem pendingTags_onRow {cells : List String} (haccept : (reader.onRow cells).fault = none) :
    (reader.onRow cells).reader.pendingTags = reader.pendingTags := by
  unfold onRow at haccept ⊢
  cases hexamples : reader.examples with
  | some block => rfl
  | none =>
    simp only [hexamples] at haccept ⊢
    split at haccept
    next hstep =>
      rw [if_pos hstep, (onDataRow_accepted haccept).2]
      exact modifyBlock_pendingTags _ reader
    next hstep =>
      rw [if_neg hstep, (onBareRow_accepted haccept).2]
      rfl

theorem pendingTags_onForm {text trimmed : String} {form : LineForm}
    (haccept : (reader.onForm text trimmed form).fault = none) :
    (reader.onForm text trimmed form).reader.pendingTags =
      reader.pendingTags.behind (some form) := by
  cases form with
  | comment comment =>
    show (reader.onComment comment).reader.pendingTags = _
    unfold onComment
    split <;> rfl
  | header header => exact pendingTags_onHeader haccept
  | row cells => exact pendingTags_onRow haccept
  | blank => rfl
  | tags tags => rfl
  | fence fence mediaType =>
    show (reader.onFence text fence mediaType).reader.pendingTags = _
    rw [(onFence_accepted haccept).2]
    rfl
  | step found =>
    show (reader.onStep trimmed found).reader.pendingTags = _
    rw [(onStep_accepted haccept).2]
    exact modifyBlock_pendingTags _ reader
  | prose =>
    show (reader.onProse trimmed).reader.pendingTags = _
    unfold onProse
    split
    · rfl
    split
    · rfl
    · exact modifyBlock_pendingTags _ reader

theorem settle_pendingTags (reader : Reader) (form : LineForm) :
    (reader.settle form).pendingTags = reader.pendingTags := by
  unfold settle
  split
  · rfl
  · rw [flush_eq]

/-- The tags that wait behind an accepted line. -/
theorem pendingTags_read {text : String} (haccept : (reader.read text).fault = none) :
    (reader.read text).reader.pendingTags =
      reader.pendingTags.behind (reader.scanner.form? text) := by
  cases hdoc : reader.docString with
  | some doc =>
    have hform := form?_of_some hdoc text
    rw [hform, read_reader, @take_of_some { reader with line := reader.line + 1 } _ hdoc]
    unfold onDocString
    split
    · exact modifyBlock_pendingTags _ { reader with line := reader.line + 1 }
    · rfl
  | none =>
    have hform := form?_of_none hdoc text
    rw [read_fault_of_none hdoc, onLine_fault] at haccept
    rw [hform, read_reader_of_none hdoc, onLine_reader, pendingTags_onForm haccept,
      settle_pendingTags]

/-! ## Open tables -/

variable {taken : TagSet}

/-- An open examples table under a keyword has the tags that the keyword has taken; one without a
    keyword has none. -/
def TableTags (taken : TagSet) (reader : Reader) : Prop :=
  ∀ block, reader.examples = some block → block.tags = if block.explicit then taken else {}

theorem tableTags_of_none (h : reader.examples = none) : reader.TableTags taken := by
  intro block hblock
  rw [h] at hblock
  cases hblock

/-- A table opens with the tags that its keyword takes; behind any other header none is open. -/
theorem tableTags_onHeader (hexamples : reader.examples = none) {text : String} {header : Header}
    (haccept : (reader.onHeader text header).fault = none) :
    (reader.onHeader text header).reader.TableTags
      (taken.takenBehind reader.pendingTags (some (.header header))) := by
  rcases onHeader_accepted haccept with ⟨-, hsame⟩ | ⟨feature, hfeature, hrest⟩
  · rw [hsame] at haccept ⊢
    apply tableTags_of_none
    rw [(onFeature_accepted haccept).2]
    exact hexamples
  rcases hrest with ⟨-, hsame⟩ | ⟨-, hsame⟩ | ⟨hkind, hsame⟩ | ⟨-, hsame⟩
  · rw [hsame]
    exact tableTags_of_none hexamples
  · rw [hsame] at haccept ⊢
    apply tableTags_of_none
    rw [(onBackground_accepted haccept).2]
    exact hexamples
  · rw [hsame] at haccept ⊢
    rw [TagSet.takenBehind, if_pos hkind, (onExamples_accepted haccept).2]
    rintro block ⟨⟩
    rfl
  · rw [hsame]
    exact tableTags_of_none hexamples

namespace TableTags

theorem onExampleRow {block : ExamplesBlock} (h : reader.TableTags taken)
    (hblock : reader.examples = some block) (cells : List String) :
    (reader.onExampleRow block cells).reader.TableTags taken := by
  have htags := h block hblock
  rintro grown ⟨⟩
  unfold ExamplesBlock.push
  split <;> exact htags

theorem onRow (h : reader.TableTags taken) {cells : List String}
    (haccept : (reader.onRow cells).fault = none) :
    (reader.onRow cells).reader.TableTags taken := by
  unfold Reader.onRow at haccept ⊢
  cases hexamples : reader.examples with
  | some block => exact h.onExampleRow hexamples cells
  | none =>
    simp only [hexamples] at haccept ⊢
    split at haccept
    next hstep =>
      rw [if_pos hstep, (onDataRow_accepted haccept).2]
      apply tableTags_of_none
      exact (modifyBlock_examples _ reader).trans hexamples
    next hstep =>
      rw [if_neg hstep, (onBareRow_accepted haccept).2]
      rintro block ⟨⟩
      rfl

theorem onForm (h : reader.TableTags taken) {text trimmed : String} {form : LineForm}
    (hmet : reader.keepsExamples form = true ∨ reader.examples = none)
    (haccept : (reader.onForm text trimmed form).fault = none) :
    (reader.onForm text trimmed form).reader.TableTags
      (taken.takenBehind reader.pendingTags (some form)) := by
  -- only headers and rows concern a table; steps and prose stand where none is open any more
  cases form with
  | comment comment =>
    show (reader.onComment comment).reader.TableTags taken
    unfold Reader.onComment
    split <;> exact h
  | header header =>
    exact tableTags_onHeader (by simpa [keepsExamples] using hmet) haccept
  | row cells => exact h.onRow haccept
  | blank => exact h
  | tags tags => exact h
  | fence fence mediaType =>
    show (reader.onFence text fence mediaType).reader.TableTags taken
    rw [(onFence_accepted haccept).2]
    exact h
  | step found =>
    have hnone : reader.examples = none := by simpa [keepsExamples] using hmet
    show (reader.onStep trimmed found).reader.TableTags taken
    rw [(onStep_accepted haccept).2]
    apply tableTags_of_none
    exact (modifyBlock_examples _ reader).trans hnone
  | prose =>
    have hnone : reader.examples = none := by simpa [keepsExamples] using hmet
    show (reader.onProse trimmed).reader.TableTags taken
    unfold Reader.onProse
    split
    · exact h
    split
    · exact h
    · apply tableTags_of_none
      exact (modifyBlock_examples _ reader).trans hnone

theorem settle (h : reader.TableTags taken) (form : LineForm) :
    (reader.settle form).TableTags taken := by
  unfold Reader.settle
  split
  · exact h
  · exact tableTags_of_none (flush_examples reader)

theorem read (h : reader.TableTags taken) (hsound : reader.Sound) {text : String}
    (haccept : (reader.read text).fault = none) :
    (reader.read text).reader.TableTags
      (taken.takenBehind reader.pendingTags (reader.scanner.form? text)) := by
  have hcounted : ({ reader with line := reader.line + 1 } : Reader).TableTags taken := h
  cases hdoc : reader.docString with
  | some doc =>
    have hform := form?_of_some hdoc text
    have hnone : reader.examples = none := (hsound.fenced (by simp [hdoc])).1
    rw [hform, read_reader, @take_of_some { reader with line := reader.line + 1 } _ hdoc]
    apply tableTags_of_none
    unfold Reader.onDocString
    split
    · exact (modifyBlock_examples _ _).trans hnone
    · exact hnone
  | none =>
    have hform := form?_of_none hdoc text
    rw [read_fault_of_none hdoc, onLine_fault] at haccept
    rw [hform, read_reader_of_none hdoc, onLine_reader]
    have hafter := (hcounted.settle _).onForm (settle_examples _ _) haccept
    rw [settle_pendingTags] at hafter
    exact hafter

end TableTags

/-! ## Runs -/

variable {seen : List LineEntry}

/-- The tags in a reader are those that the lines seen account for. -/
structure Tagged (seen : List LineEntry) (reader : Reader) : Prop where
  waiting : reader.pendingTags = waitingTags seen
  table : reader.TableTags (takenTags seen)
  taggings : Perm (reader.skeleton.flatMap Section.taggings) (tagAccount seen)

theorem tagged_start (language : Language) : ({ language } : Reader).Tagged [] where
  waiting := rfl
  table := tableTags_of_none rfl
  taggings := Perm.nil

/-- What a reader adds for a line is what the line accounts for. -/
theorem Tagged.dueTaggings_eq (h : reader.Tagged seen) (entry : LineEntry)
    (hline : entry.number = reader.line)
    (htable : ∀ cells, entry.form = some (.row cells) → reader.openTable = OpenTable.ofSeen seen) :
    reader.dueTaggings entry.form = entry.taggings seen := by
  unfold dueTaggings LineEntry.taggings
  rw [hline]
  split
  next header hform => rw [h.waiting]
  next cells hform =>
    rw [← htable cells hform]
    cases hexamples : reader.examples with
    | none =>
      by_cases hstep : reader.previous = .step ∨ reader.previous = .dataTableRow
      · rw [openTable_data hexamples hstep]
      · rw [not_or] at hstep
        rw [openTable_closed _ hexamples rfl hstep.1 hstep.2]
    | some block =>
      have htags := h.table block hexamples
      cases hheaders : block.headers <;> simp [openTable, hexamples, hheaders, htags]
  next => rfl

theorem Tagged.read (h : reader.Tagged seen) (hkept : reader.Kept seen) {text : String}
    (haccept : (reader.read text).fault = none) :
    (reader.read text).reader.Tagged (reader.scanner.entry text :: seen) where
  waiting := by
    rw [waitingTags_cons, ← h.waiting]
    exact pendingTags_read haccept
  table := by
    rw [takenTags_cons, ← h.waiting]
    exact h.table.read hkept.sound haccept
  taggings := by
    have hcounted : ({ reader with line := reader.line + 1 } : Reader).Tagged seen :=
      ⟨h.waiting, h.table, h.taggings⟩
    have hdue := hcounted.dueTaggings_eq (reader.scanner.entry text) rfl fun cells hform =>
      hkept.table_of_form? hform
    rw [tagAccount, ← hdue]
    exact (turn_read hkept.sound haccept).taggings.trans (h.taggings.append_left _)

theorem Tagged.readAll (h : reader.Tagged seen) (hkept : reader.Kept seen) {lines : List String}
    (haccept : (reader.readAll lines).fault = none) :
    (reader.readAll lines).reader.Tagged (reader.scanner.entries seen lines) :=
  hkept.induct (P := Tagged) (fun hkept h hread => h.read hkept hread) h haccept

end Reader

/-! ## Clean names -/

/-- The tags on a line are words. -/
theorem Language.isBlank_of_form_tags {language : Language} {line : String} {tags : List String}
    (h : language.form line = .tags tags) :
    ∀ tag ∈ tags, ∀ c ∈ tag.toList, Text.isBlank c = false := by
  have hplain : language.plainForm line = .tags tags := by
    unfold form at h
    split at h
    · cases h
    · split at h
      · cases h
      · split at h
        · cases h
        · exact h
  intro tag htag
  unfold plainForm at hplain
  split at hplain
  · cases hplain
  · cases hplain
    exact Text.isBlank_of_mem_words (List.mem_filter.1 htag).1
  · split at hplain
    · cases hplain
    · split at hplain <;> cases hplain

/-- The tags on the line are without blanks. -/
def LineEntry.HasWords (entry : LineEntry) : Prop :=
  ∀ tag ∈ entry.tagWords, ∀ c ∈ tag.toList, Text.isBlank c = false

theorem Scanner.hasWords_entry (scanner : Scanner) (line : String) :
    (scanner.entry line).HasWords := by
  intro tag htag
  unfold LineEntry.tagWords at htag
  split at htag
  next tags hform =>
    have hscanned : scanner.form? line = some (.tags tags) := hform
    unfold form? at hscanned
    split at hscanned
    · cases hscanned
    · exact Language.isBlank_of_form_tags (Option.some.inj hscanned) tag htag
  next => cases htag

theorem Scanner.hasWords_entries (scanner : Scanner) {seen : List LineEntry}
    (h : ∀ entry ∈ seen, entry.HasWords) (lines : List String) :
    ∀ entry ∈ scanner.entries seen lines, entry.HasWords := by
  induction lines generalizing scanner seen with
  | nil => exact h
  | cons line lines ih =>
    apply ih
    rw [List.forall_mem_cons]
    exact ⟨scanner.hasWords_entry line, h⟩

section Clean

variable {seen : List LineEntry}

theorem clean_waitingTags (h : ∀ entry ∈ seen, entry.HasWords) : (waitingTags seen).Clean := by
  apply TagSet.clean_empty.extend
  intro tag htag
  obtain ⟨entry, hentry, hword⟩ := List.mem_flatMap.1 htag
  have hmem : entry ∈ seen :=
    (List.takeWhile_sublist _).subset (List.mem_reverse.1 hentry)
  exact h entry hmem tag hword

theorem clean_takenTags (h : ∀ entry ∈ seen, entry.HasWords) : (takenTags seen).Clean := by
  apply clean_waitingTags
  intro entry hentry
  exact h entry ((List.dropWhile_sublist _).subset (List.mem_of_mem_tail hentry))

theorem clean_tableTags (h : ∀ entry ∈ seen, entry.HasWords) (explicit : Bool) :
    (if explicit then takenTags seen else {}).Clean := by
  cases explicit with
  | true => exact clean_takenTags h
  | false => exact TagSet.clean_empty

theorem LineEntry.clean_taggings {entry : LineEntry} (h : ∀ entry ∈ seen, entry.HasWords) :
    ∀ tagging ∈ entry.taggings seen, tagging.tags.Clean := by
  unfold LineEntry.taggings
  split
  · split
    · simp
    · rw [List.forall_mem_singleton]
      exact clean_waitingTags h
  · split
    · rw [List.forall_mem_singleton]
      exact clean_tableTags h _
    · simp
  · simp

theorem clean_tagAccount (h : ∀ entry ∈ seen, entry.HasWords) :
    ∀ tagging ∈ tagAccount seen, tagging.tags.Clean := by
  induction seen with
  | nil => simp [tagAccount]
  | cons entry before ih =>
    rw [List.forall_mem_cons] at h
    rw [tagAccount, List.forall_mem_append]
    exact ⟨LineEntry.clean_taggings h.2, ih h.2⟩

end Clean

/-! ## Documents -/

namespace IndexedReader

/-- After lines that are all accepted, every entity has the tags between the header before it and
    its own line, every row of examples those of its keyword or none, and the tags behind the last
    header wait. The names in all these sets are clean. -/
theorem tags_readAll {code : String} {lines : List String} {reader : IndexedReader}
    (hreader : ((ofLanguage code).value.readAll lines).reader = reader)
    (haccept : ((ofLanguage code).value.readAll lines).fault = none)
    {seen : List LineEntry}
    (hseen : ({ language := (Language.ofCode code).value } : Scanner).entries [] lines = seen) :
    Perm (reader.flush.value.features.flatMap Feature.taggings) (tagAccount seen) ∧
    (∀ block, reader.cursor.examples = some block →
      block.tags = if block.explicit then takenTags seen else {}) ∧
    reader.cursor.pendingTags = waitingTags seen ∧
    (∀ tagging ∈ reader.flush.value.features.flatMap Feature.taggings, tagging.tags.Clean) ∧
    (∀ block, reader.cursor.examples = some block → block.tags.Clean) ∧
    reader.cursor.pendingTags.Clean := by
  have hsound : (Reader.ofLanguage code).value.Sound := Reader.sound_start _
  have hkept : (Reader.ofLanguage code).value.Kept [] := Reader.kept_start _
  have hstart : (Reader.ofLanguage code).value.Tagged [] := Reader.tagged_start _
  rw [ofLanguage_eq_ofReader, readAll_ofReader hsound] at hreader haccept
  have htagged := hstart.readAll hkept haccept
  have hlast := hsound.readAll lines
  have hscanned : (Reader.ofLanguage code).value.scanner.entries [] lines = seen := hseen
  have hstands : ofReader ((Reader.ofLanguage code).value.readAll lines).reader = reader := hreader
  rw [hscanned] at htagged
  have hwords : ∀ entry ∈ seen, entry.HasWords := by
    rw [← hseen]
    exact Scanner.hasWords_entries _ (by simp) lines
  -- from here on it does not matter how the reader got to where it stands
  generalize ((Reader.ofLanguage code).value.readAll lines).reader = stands
    at htagged hlast hstands
  subst hstands
  have htaggings :
      Perm ((ofReader stands).flush.value.features.flatMap Feature.taggings) (tagAccount seen) := by
    -- the skeleton counts the rows of an open table already, as the finished document does
    rw [flush_ofReader hlast]
    show Perm (stands.flush.value.feature.toList.flatMap Feature.taggings) _
    rw [← Reader.taggings_settled]
    exact htagged.taggings
  have htable : ∀ block, (ofReader stands).cursor.examples = some block →
      block.tags = if block.explicit then takenTags seen else {} := by
    intro block hblock
    obtain ⟨inner, hinner, rfl⟩ := Option.map_eq_some_iff.1 hblock
    exact htagged.table inner hinner
  refine ⟨htaggings, htable, htagged.waiting, ?_, ?_, ?_⟩
  · intro tagging hmem
    exact clean_tagAccount hwords tagging (htaggings.subset hmem)
  · intro block hblock
    rw [htable block hblock]
    exact clean_tableTags hwords _
  · show stands.pendingTags.Clean
    rw [htagged.waiting]
    exact clean_waitingTags hwords

/-- Tags on several lines with a comment between them, an at-sign in a doc-string, a table under a
    tagged keyword and one without a keyword behind it, and tags at the end. -/
theorem tags_readAll_outline :
    ∃ reader, ((ofLanguage "en").value.readAll
        ["@f", "Feature: f", "@a @b", "# @c", "@a @@d", "Scenario Outline: s", "Given x", "```",
          "@e", "```", "@g", "Examples:", "| p |", "| 1 |", "", "| q |", "| 2 |",
          "@h"]).reader = reader ∧
      Perm (reader.flush.value.features.flatMap Feature.taggings)
        [.entity 2 ⟨["f"]⟩, .entity 6 ⟨["a", "b", "d"]⟩, .row 14 ⟨["g"]⟩, .row 17 {}] ∧
      reader.cursor.pendingTags = ⟨["h"]⟩ := by
  have haccept : ((ofLanguage "en").value.readAll
      ["@f", "Feature: f", "@a @b", "# @c", "@a @@d", "Scenario Outline: s", "Given x", "```",
        "@e", "```", "@g", "Examples:", "| p |", "| 1 |", "", "| q |", "| 2 |",
        "@h"]).fault = none := by
    decide +kernel
  obtain ⟨htaggings, -, hwaiting, -⟩ := tags_readAll rfl haccept rfl
  refine ⟨_, rfl, htaggings.trans ?_, hwaiting.trans ?_⟩
  · decide +kernel
  · decide +kernel

end IndexedReader

end Gherkin
