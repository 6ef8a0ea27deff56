/-
  Gherkin.Proofs.Reader.Scanning

  A reader knows what a scanner of the same lines knows, and which table is open
  in it follows from the forms of the lines.
-/
import Gherkin.Proofs.Reader.Accepted
import Gherkin.Proofs.Reader.Account
import Gherkin.Proofs.Reader.Sound

namespace Gherkin.Reader

variable {reader : Reader}

/-! ## What a scanner knows -/

/-- What a scanner of the lines read knows. -/
def scanner (reader : Reader) : Scanner :=
  { language := reader.language, inFeature := reader.feature.isSome
    fence := reader.docString.map (·.fence), line := reader.line }

/-- Outside doc-strings the form of a line is that in the language in use. -/
theorem form?_of_none (h : reader.docString = none) (text : String) :
    reader.scanner.form? text = some (reader.language.form (Text.trim text)) := by
  simp [scanner, Scanner.form?, h]

theorem form?_of_some {doc : OpenDocString} (h : reader.docString = some doc) (text : String) :
    reader.scanner.form? text = none := by
  simp [scanner, Scanner.form?, h]

theorem docString_of_form? {text : String} {form : LineForm}
    (h : reader.scanner.form? text = some form) : reader.docString = none := by
  cases hdoc : reader.docString with
  | none => rfl
  | some doc =>
    rw [form?_of_some hdoc] at h
    cases h

theorem scanner_modifyActive (f : Section → Section) (reader : Reader) :
    (reader.modifyActive f).scanner = reader.scanner := by
  simp [scanner, modifyActive]

theorem scanner_modifyScenario (f : Scenario → Scenario) (reader : Reader) :
    (reader.modifyScenario f).scanner = reader.scanner :=
  scanner_modifyActive _ reader

theorem scanner_modifyBlock (f : StepBlock → StepBlock) (reader : Reader) :
    (reader.modifyBlock f).scanner = reader.scanner := by
  unfold modifyBlock
  split
  · rfl
  · exact scanner_modifyActive _ reader

theorem scanner_flush (reader : Reader) : reader.flush.value.scanner = reader.scanner := by
  unfold flush
  split
  · rfl
  · exact scanner_modifyScenario _ reader

theorem scanner_onHeader {text : String} {header : Header}
    (h : (reader.onHeader text header).fault = none) :
    (reader.onHeader text header).reader.scanner = reader.scanner.afterForm (.header header) := by
  rcases onHeader_accepted h with ⟨hkind, hsame⟩ | ⟨feature, hfeature, hrest⟩
  · rw [hsame] at h ⊢
    obtain ⟨-, hafter⟩ := onFeature_accepted h
    rw [hafter]
    simp [scanner, Scanner.afterForm, hkind]
  · -- once the feature has begun no header tells a scanner anything
    have hstays : reader.scanner.afterForm (.header header) = reader.scanner := by
      simp [scanner, Scanner.afterForm, hfeature]
    rw [hstays]
    rcases hrest with ⟨-, hsame⟩ | ⟨-, hsame⟩ | ⟨-, hsame⟩ | ⟨-, hsame⟩
    · rw [hsame]
      simp [onRule, accept, scanner]
    · rw [hsame] at h ⊢
      obtain ⟨-, hafter⟩ := onBackground_accepted h
      rw [hafter]
      exact scanner_modifyActive _ reader
    · rw [hsame] at h ⊢
      obtain ⟨-, hafter⟩ := onExamples_accepted h
      rw [hafter]
      exact scanner_modifyScenario _ reader
    · rw [hsame]
      exact scanner_modifyActive _ reader

theorem scanner_onRow {cells : List String} (h : (reader.onRow cells).fault = none) :
    (reader.onRow cells).reader.scanner = reader.scanner := by
  unfold onRow at h ⊢
  split
  · rfl
  next hexamples =>
    simp only [hexamples] at h
    split at h
    next hstep =>
      obtain ⟨-, hafter⟩ := onDataRow_accepted h
      rw [if_pos hstep, hafter]
      exact scanner_modifyBlock _ reader
    next hstep =>
      obtain ⟨-, hafter⟩ := onBareRow_accepted h
      rw [if_neg hstep, hafter]
      exact scanner_modifyScenario _ reader

theorem scanner_onComment (comment : String) :
    (reader.onComment comment).reader.scanner = reader.scanner.afterForm (.comment comment) := by
  unfold onComment
  cases hfeature : reader.feature with
  | some feature => simp [scanner, Scanner.afterForm, hfeature]
  | none =>
    cases hcode : declaredLanguage? comment with
    | none => simp [scanner, Scanner.afterForm, hfeature, hcode]
    | some code => simp [scanner, Scanner.afterForm, hfeature, hcode]

theorem scanner_onProse (text : String) :
    (reader.onProse text).reader.scanner = reader.scanner := by
  unfold onProse
  split
  · rfl
  split
  · exact scanner_modifyActive _ reader
  · exact scanner_modifyBlock _ reader

theorem scanner_onForm {text trimmed : String} {form : LineForm}
    (h : (reader.onForm text trimmed form).fault = none) :
    (reader.onForm text trimmed form).reader.scanner = reader.scanner.afterForm form := by
  cases form with
  | comment comment => exact scanner_onComment comment
  | header header => exact scanner_onHeader h
  | row cells => exact scanner_onRow h
  | blank => rfl
  | tags tags => rfl
  | fence fence mediaType =>
    obtain ⟨-, hafter⟩ := onFence_accepted h
    show (reader.onFence text fence mediaType).reader.scanner = _
    rw [hafter]
    rfl
  | step found =>
    obtain ⟨-, hafter⟩ := onStep_accepted h
    show (reader.onStep trimmed found).reader.scanner = _
    rw [hafter]
    exact scanner_modifyBlock _ reader
  | prose => exact scanner_onProse trimmed

/-- Only a fence opens a doc-string. -/
theorem onForm_docString {text trimmed : String} {form : LineForm}
    (hfence : ∀ fence mediaType, form ≠ .fence fence mediaType)
    (h : (reader.onForm text trimmed form).fault = none) (hdoc : reader.docString = none) :
    (reader.onForm text trimmed form).reader.docString = none := by
  have hscanned := congrArg Scanner.fence (scanner_onForm h)
  have hstays : (reader.scanner.afterForm form).fence = reader.scanner.fence := by
    cases form with
    | comment comment =>
      simp only [Scanner.afterForm]
      split <;> rfl
    | fence fence mediaType => exact absurd rfl (hfence fence mediaType)
    | _ => rfl
  rw [hstays] at hscanned
  simpa [scanner, hdoc] using hscanned

theorem scanner_settle (reader : Reader) (form : LineForm) :
    (reader.settle form).scanner = reader.scanner := by
  unfold settle
  split
  · rfl
  · exact scanner_flush reader

theorem scanner_onDocString {doc : OpenDocString} (hdoc : reader.docString = some doc)
    (text : String) : (reader.onDocString doc text).reader.scanner = reader.scanner.take text := by
  have hfence : reader.scanner.fence = some doc.fence := by
    simp [scanner, hdoc]
  unfold onDocString Scanner.take
  rw [hfence]
  simp only
  split
  · -- the closing fence: the text joins the last step
    have hsame := scanner_modifyBlock
      (·.modifyLastStep ({ · with docString := some doc.close })) reader
    show { Reader.scanner (reader.modifyBlock _) with fence := none } = _
    rw [hsame]
  · simp [scanner, hdoc]

theorem scanner_take {text : String} (h : (reader.take text).fault = none) :
    (reader.take text).reader.scanner = reader.scanner.take text := by
  unfold take at h ⊢
  cases hdoc : reader.docString with
  | some doc => exact scanner_onDocString hdoc text
  | none =>
    simp only [hdoc] at h
    rw [onLine_fault] at h
    have htake : reader.scanner.take text =
        reader.scanner.afterForm (reader.language.form (Text.trim text)) := by
      simp [scanner, Scanner.take, hdoc]
    rw [htake, ← scanner_settle reader (reader.language.form (Text.trim text)),
      ← scanner_onForm h]
    exact congrArg scanner (onLine_reader reader text)

/-- An accepted line tells a reader and a scanner the same. -/
theorem scanner_read {text : String} (h : (reader.read text).fault = none) :
    (reader.read text).reader.scanner = reader.scanner.next text := by
  rw [read_fault] at h
  rw [read_reader]
  exact scanner_take h

/-! ## The table that is open -/

/-- The table that a row would belong to. -/
def openTable (reader : Reader) : OpenTable :=
  match reader.examples with
  | some block => .examples block.explicit block.headers (!block.rows.isEmpty)
  | none => if reader.previous = .step ∨ reader.previous = .dataTableRow then .data else .closed

/-- Without an examples table only a step keeps a table open. -/
theorem openTable_closed (kind : LineKind) (hexamples : reader.examples = none)
    (hkind : reader.previous = kind) (hstep : kind ≠ .step) (hrow : kind ≠ .dataTableRow) :
    reader.openTable = .closed := by
  simp [openTable, hexamples, hkind, hstep, hrow]

theorem openTable_data (hexamples : reader.examples = none)
    (hprevious : reader.previous = .step ∨ reader.previous = .dataTableRow) :
    reader.openTable = .data := by
  simp [openTable, hexamples, hprevious]

theorem openTable_onHeader {text : String} {header : Header} (hexamples : reader.examples = none)
    (h : (reader.onHeader text header).fault = none) :
    (reader.onHeader text header).reader.openTable =
      if header.kind = .Examples then .examples true none false else .closed := by
  rcases onHeader_accepted h with ⟨hkind, hsame⟩ | ⟨feature, hfeature, hrest⟩
  · rw [hsame] at h ⊢
    obtain ⟨-, hafter⟩ := onFeature_accepted h
    rw [hafter, if_neg (by simp [hkind])]
    exact openTable_closed .header hexamples rfl (by decide) (by decide)
  · rcases hrest with ⟨hkind, hsame⟩ | ⟨hkind, hsame⟩ | ⟨hkind, hsame⟩ | ⟨hkind, hsame⟩
    · rw [hsame, if_neg (by simp [hkind])]
      exact openTable_closed .header hexamples rfl (by decide) (by decide)
    · rw [hsame] at h ⊢
      obtain ⟨-, hafter⟩ := onBackground_accepted h
      rw [hafter, if_neg (by simp [hkind])]
      exact openTable_closed .header hexamples rfl (by decide) (by decide)
    · rw [hsame] at h ⊢
      obtain ⟨-, hafter⟩ := onExamples_accepted h
      rw [hafter, if_pos hkind]
      rfl
    · rw [hsame, if_neg (by rcases hkind with hkind | hkind <;> simp [hkind])]
      exact openTable_closed .header hexamples rfl (by decide) (by decide)

/-- A row of an examples table gives its headers or values. -/
theorem openTable_onExampleRow (block : ExamplesBlock) (cells : List String) :
    (reader.onExampleRow block cells).reader.openTable =
      (OpenTable.examples block.explicit block.headers (!block.rows.isEmpty)).addRow cells := by
  cases hheaders : block.headers with
  | none => simp [onExampleRow, accept, Outcome.after, openTable, ExamplesBlock.push, hheaders,
      OpenTable.addRow]
  | some headers => simp [onExampleRow, accept, Outcome.after, openTable, ExamplesBlock.push,
      hheaders, OpenTable.addRow]

theorem openTable_onRow {cells : List String} (h : (reader.onRow cells).fault = none) :
    (reader.onRow cells).reader.openTable = reader.openTable.addRow cells := by
  unfold onRow at h ⊢
  cases hexamples : reader.examples with
  | some block =>
    have htable : reader.openTable =
        .examples block.explicit block.headers (!block.rows.isEmpty) := by
      rw [openTable, hexamples]
    rw [htable]
    exact openTable_onExampleRow block cells
  | none =>
    simp only [hexamples] at h ⊢
    by_cases hstep : reader.previous = .step ∨ reader.previous = .dataTableRow
    · rw [if_pos hstep] at h ⊢
      obtain ⟨-, hafter⟩ := onDataRow_accepted h
      rw [hafter, openTable_data hexamples hstep]
      apply openTable_data
      · rw [modifyBlock_examples]
        exact hexamples
      · right
        rfl
    · rw [if_neg hstep] at h ⊢
      obtain ⟨-, hafter⟩ := onBareRow_accepted h
      rw [not_or] at hstep
      rw [hafter, openTable_closed _ hexamples rfl hstep.1 hstep.2]
      rfl

theorem openTable_onProse (hexamples : reader.examples = none) (text : String) :
    (reader.onProse text).reader.openTable = .closed := by
  unfold onProse
  split
  · exact openTable_closed .description hexamples rfl (by decide) (by decide)
  split
  · exact openTable_closed .description hexamples rfl (by decide) (by decide)
  · refine openTable_closed .description ?_ rfl (by decide) (by decide)
    show (reader.modifyBlock _).examples = none
    rw [modifyBlock_examples]
    exact hexamples

/-- A blank line ends an examples table that has values, but not one that awaits them. -/
theorem openTable_blank (reader : Reader) :
    ((reader.settle .blank).accept .blank).reader.openTable = reader.openTable.skipBlank := by
  cases hexamples : reader.examples with
  | none =>
    have hnone : (reader.settle .blank).examples = none := by
      simp [settle, keepsExamples, hexamples, flush_examples]
    -- a data table may have been open, and ends
    have hskip : reader.openTable.skipBlank = .closed := by
      unfold openTable
      rw [hexamples]
      simp only
      split <;> rfl
    rw [hskip]
    exact openTable_closed .blank hnone rfl (by decide) (by decide)
  | some block =>
    by_cases hawaits : block.awaitsRows = true
    -- the table awaits its values: it stays, and the blank line leaves it as it is
    · have hkeeps : reader.settle .blank = reader := by
        simp [settle, keepsExamples, hexamples, hawaits]
      obtain ⟨hexplicit, hrows⟩ : block.explicit = true ∧ block.rows = [] := by
        simpa [ExamplesBlock.awaitsRows] using hawaits
      rw [hkeeps]
      simp [accept, openTable, hexamples, hexplicit, hrows, OpenTable.skipBlank]
    -- the table has values, or stands under no keyword: it ends
    · have hnone : (reader.settle .blank).examples = none := by
        simp [settle, keepsExamples, hexamples, hawaits, flush_examples]
      have hskip : reader.openTable.skipBlank = .closed := by
        rw [openTable, hexamples]
        simp only [ExamplesBlock.awaitsRows, Bool.and_eq_true, not_and, Bool.not_eq_true] at hawaits
        cases hexplicit : block.explicit with
        | false => simp [OpenTable.skipBlank, hexplicit]
        | true => simp [OpenTable.skipBlank, hawaits hexplicit]
      rw [hskip]
      exact openTable_closed .blank hnone rfl (by decide) (by decide)

theorem openTable_onComment (comment : String) :
    (reader.onComment comment).reader.openTable = reader.openTable := by
  unfold onComment
  split <;> rfl

/-- Outside doc-strings the table follows the form of the line. -/
theorem openTable_onForm {text trimmed : String} {form : LineForm}
    (h : ((reader.settle form).onForm text trimmed form).fault = none)
    (hclosed : ((reader.settle form).onForm text trimmed form).reader.docString = none) :
    ((reader.settle form).onForm text trimmed form).reader.openTable =
      reader.openTable.after (some form) := by
  have hmet := settle_examples reader form
  cases form with
  | comment comment => exact openTable_onComment comment
  | header header => exact openTable_onHeader (by simpa [keepsExamples] using hmet) h
  | row cells => exact openTable_onRow h
  | blank => exact openTable_blank reader
  | tags tags =>
    have hexamples : (reader.settle (.tags tags)).examples = none := by
      simpa [keepsExamples] using hmet
    exact openTable_closed .tags hexamples rfl (by decide) (by decide)
  | fence fence mediaType =>
    -- a fence that is accepted opens a doc-string
    have hafter : ((reader.settle (.fence fence mediaType)).onFence text fence
        mediaType).reader.docString = none := hclosed
    rw [(onFence_accepted h).2] at hafter
    cases hafter
  | step found =>
    have hexamples : (reader.settle (.step found)).examples = none := by
      simpa [keepsExamples] using hmet
    show ((reader.settle (.step found)).onStep trimmed found).reader.openTable = .data
    rw [(onStep_accepted h).2]
    apply openTable_data
    · rw [modifyBlock_examples]
      exact hexamples
    · left
      rfl
  | prose => exact openTable_onProse (by simpa [keepsExamples] using hmet) trimmed

theorem openTable_take {text : String} {table : OpenTable} (hsound : reader.Sound)
    (htable : reader.docString = none → reader.openTable = table)
    (h : (reader.take text).fault = none) (hclosed : (reader.take text).reader.docString = none) :
    (reader.take text).reader.openTable = table.after (reader.scanner.form? text) := by
  unfold take at h hclosed ⊢
  cases hdoc : reader.docString with
  | some doc =>
    have hform := form?_of_some hdoc text
    rw [hform]
    simp only [hdoc] at hclosed ⊢
    unfold onDocString at hclosed ⊢
    split at hclosed
    next hend =>
      rw [if_pos hend]
      refine openTable_closed .docString ?_ rfl (by decide) (by decide)
      show (reader.modifyBlock _).examples = none
      rw [modifyBlock_examples]
      exact (hsound.fenced (by simp [hdoc])).1
    next => cases hclosed
  | none =>
    have hform := form?_of_none hdoc text
    simp only [hdoc] at h hclosed ⊢
    rw [onLine_fault] at h
    rw [onLine_reader] at hclosed ⊢
    rw [hform, openTable_onForm h hclosed, htable hdoc]

/-- An accepted line changes the table as its form says. -/
theorem openTable_read {text : String} {table : OpenTable} (hsound : reader.Sound)
    (htable : reader.docString = none → reader.openTable = table)
    (h : (reader.read text).fault = none) (hclosed : (reader.read text).reader.docString = none) :
    (reader.read text).reader.openTable = table.after (reader.scanner.form? text) := by
  rw [read_fault] at h
  rw [read_reader] at hclosed ⊢
  exact openTable_take (hsound.withLine _) htable h hclosed

end Gherkin.Reader
