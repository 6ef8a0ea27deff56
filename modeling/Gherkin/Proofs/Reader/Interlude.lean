/-
  Gherkin.Proofs.Reader.Interlude

  Lines that say nothing. A comment leaves the reader as it is but for the count
  of lines, so a document is the same with it, under the numbers that the lines
  behind it get. A blank line may end an examples table and it parts a step from
  a row, which shows only if the next line that says something is a row.
-/
import Mathlib.Data.List.TakeWhile
import Gherkin.Proofs.Reader.Conservation
import Gherkin.Proofs.Reader.Likeness

namespace Gherkin

/-! ## Lines that say nothing -/

theorem Text.strip_of_blank {s : List Char} (h : ∀ c ∈ s, isBlank c = true) : strip s = [] := by
  have hdropped : dropBlanks s = [] := List.dropWhile_eq_nil_iff.2 h
  rw [strip, hdropped]
  rfl

/-- The line is blank or a comment. -/
def isInterlude (line : String) : Bool := (Text.trim line).toList.head?.all (· == '#')

theorem isInterlude_of_nil {line : String} (h : (Text.trim line).toList = []) :
    isInterlude line = true := by
  rw [isInterlude, h]
  rfl

theorem isInterlude_of_cons {line : String} {mark : Char} {text : List Char}
    (h : (Text.trim line).toList = mark :: text) : isInterlude line = (mark == '#') := by
  rw [isInterlude, h]
  rfl

namespace Language

variable (language : Language) {line : String}

theorem form_comment {comment : List Char} (h : line.toList = '#' :: comment) :
    language.form line = .comment (.ofList comment) := by
  simp only [form, h]

/-- No keyword is so short that it is found in an empty line. -/
theorem header?_empty (h : line.toList = []) : language.header? line = none := by
  have hnone : ∀ kind keyword, headerWith? [] kind keyword = none := by
    intro kind keyword
    unfold headerWith?
    cases hkeyword : keyword.toList <;> simp [List.isPrefixOf?, afterColon?]
  have hcandidates : language.headerCandidates [] = [] := by
    simp [headerCandidates, hnone]
  rw [header?, h, Text.strip_nil, hcandidates]
  rfl

theorem form_blank (h : line.toList = []) : language.form line = .blank := by
  simp only [form, h, header?_empty language h, plainForm]

/-- The mark at the start of a line tells comments and rows. -/
theorem form_of_mark {mark : Char} (h : line.toList.head? = some mark) (hcomment : mark ≠ '#')
    (hrow : mark ≠ '|') :
    (∀ comment, language.form line ≠ .comment comment) ∧
      (∀ cells, language.form line ≠ .row cells) ∧ language.form line ≠ .blank := by
  obtain ⟨s, hs⟩ : ∃ s, line.toList = mark :: s := by
    cases hline : line.toList with
    | nil => simp [hline] at h
    | cons c s => exact ⟨s, by simp_all⟩
  have hplain : (∀ comment, language.plainForm line ≠ .comment comment) ∧
      (∀ cells, language.plainForm line ≠ .row cells) ∧ language.plainForm line ≠ .blank := by
    unfold plainForm
    rw [hs]
    split
    next hnil => cases hnil
    next => simp
    next =>
      split
      · simp
      · split <;> simp
  unfold form
  rw [hs]
  split
  next hmark => simp_all
  next =>
    split
    · simp
    · split
      next hmark => simp_all
      next => exact hplain

end Language

namespace Reader

variable {reader other : Reader}

/-! ## A comment -/

theorem read_comment {line : String} {comment : List Char} (hdoc : reader.docString = none)
    (hcomment : (Text.trim line).toList = '#' :: comment) :
    (reader.read line).fault = none ∧
      (reader.read line).reader =
        ({ reader with line := reader.line + 1 }.onComment (.ofList comment)).reader := by
  have hform : reader.language.form (Text.trim line) = .comment (.ofList comment) :=
    reader.language.form_comment hcomment
  rw [read_fault_of_none hdoc, read_reader_of_none hdoc, onLine_fault, onLine_reader, hform]
  exact ⟨onComment_fault _ _, rfl⟩

/-- Unless it declares the language, a comment only counts as a line. -/
theorem onComment_idle {comment : String}
    (h : reader.feature = none → declaredLanguage? comment = none) :
    (reader.onComment comment).reader = reader := by
  unfold onComment
  cases hfeature : reader.feature with
  | some feature => rfl
  | none => simp [h hfeature]

/-- A comment that declares no language only counts as a line. -/
theorem read_idleComment {line : String} {comment : List Char} (hdoc : reader.docString = none)
    (hcomment : (Text.trim line).toList = '#' :: comment)
    (hlanguage : reader.feature = none → declaredLanguage? (.ofList comment) = none) :
    (reader.read line).fault = none ∧
      (reader.read line).reader = { reader with line := reader.line + 1 } := by
  obtain ⟨haccept, hafter⟩ := read_comment hdoc hcomment
  exact ⟨haccept, hafter.trans (onComment_idle hlanguage)⟩

/-! ## A blank line -/

/-- The reader after a blank line, but for the count of lines. -/
def afterBlank (reader : Reader) : Reader := { reader.settle .blank with previous := .blank }

theorem afterBlank_renumber (f : Nat → Nat) (reader : Reader) :
    (reader.renumber f).afterBlank = reader.afterBlank.renumber f := by
  unfold afterBlank
  rw [settle_renumber]
  rfl

theorem afterBlank_withLine (reader : Reader) (n : Nat) :
    ({ reader with line := n } : Reader).afterBlank = { reader.afterBlank with line := n } := by
  rw [afterBlank, settle_withLine]
  rfl

theorem read_blank {line : String} (hdoc : reader.docString = none)
    (hblank : (Text.trim line).toList = []) :
    (reader.read line).fault = none ∧
      (reader.read line).reader =
        ({ reader with line := reader.line + 1 } : Reader).afterBlank := by
  have hform : reader.language.form (Text.trim line) = .blank :=
    reader.language.form_blank hblank
  rw [read_fault_of_none hdoc, read_reader_of_none hdoc, onLine_fault, onLine_reader, hform]
  exact ⟨rfl, rfl⟩

/-! ## Readers that differ before the next row only -/

/-- Once both have ended their examples table, the readers differ at most in the kind of the last
    line. -/
def SettledAlike (reader other : Reader) : Prop :=
  reader.docString = none ∧
    ∃ kind, other.flush.value = { reader.flush.value with previous := kind }

theorem flush_flush (reader : Reader) : reader.flush.value.flush.value = reader.flush.value :=
  flush_of_none (flush_examples reader)

theorem flush_settle (reader : Reader) (form : LineForm) :
    (reader.settle form).flush.value = reader.flush.value := by
  unfold settle
  split
  · rfl
  · exact flush_flush reader

theorem flush_afterBlank (reader : Reader) :
    reader.afterBlank.flush.value = { reader.flush.value with previous := .blank } := by
  rw [afterBlank, flush_previous .blank (reader.settle .blank), flush_settle]

/-- Only comments, rows and blank lines may stand inside an examples table. -/
theorem settle_of_form {form : LineForm} (hcomment : ∀ comment, form ≠ .comment comment)
    (hrow : ∀ cells, form ≠ .row cells) (hblank : form ≠ .blank) (reader : Reader) :
    reader.settle form = reader.flush.value := by
  cases form with
  | comment comment => exact absurd rfl (hcomment comment)
  | row cells => exact absurd rfl (hrow cells)
  | blank => exact absurd rfl hblank
  | _ => rfl

theorem flush_onComment (reader : Reader) (comment : String) :
    (reader.onComment comment).reader.flush.value =
      (reader.flush.value.onComment comment).reader := by
  obtain ⟨language, feature, place, pendingTags, examples, docString, previous, line⟩ := reader
  cases feature with
  | some feature => cases examples <;> rfl
  | none =>
    unfold onComment
    cases declaredLanguage? comment <;> cases examples <;> rfl

namespace SettledAlike

theorem docString (h : reader.SettledAlike other) : other.docString = none := by
  obtain ⟨hdoc, kind, hflush⟩ := h
  rw [← flush_docString other, hflush]
  exact (flush_docString reader).trans hdoc

theorem counted (h : reader.SettledAlike other) :
    ({ reader with line := reader.line + 1 } : Reader).SettledAlike
      { other with line := other.line + 1 } := by
  obtain ⟨hdoc, kind, hflush⟩ := h
  have hline : other.line = reader.line := by
    rw [← flush_line other, hflush]
    exact flush_line reader
  refine ⟨hdoc, kind, ?_⟩
  rw [flush_withLine other, flush_withLine reader, hflush, hline]

theorem onComment (h : reader.SettledAlike other) (comment : String) :
    (reader.onComment comment).reader.SettledAlike (other.onComment comment).reader := by
  obtain ⟨hdoc, kind, hflush⟩ := h
  refine ⟨?_, kind, ?_⟩
  · unfold Reader.onComment
    split <;> exact hdoc
  · rw [flush_onComment, flush_onComment, hflush]
    exact onComment_previous kind _ comment

theorem afterBlank (h : reader.SettledAlike other) :
    reader.afterBlank.SettledAlike other.afterBlank := by
  obtain ⟨hdoc, _, hflush⟩ := h
  refine ⟨(settle_docString reader .blank).trans hdoc, .blank, ?_⟩
  rw [flush_afterBlank, flush_afterBlank, hflush]

/-- A line that says something and is no row ends the tables. -/
theorem onLine {line : String} {mark : Char} (h : reader.SettledAlike other)
    (hmark : (Text.trim line).toList.head? = some mark) (hcomment : mark ≠ '#')
    (hrow : mark ≠ '|') : (reader.onLine line).Interchangeable (other.onLine line) := by
  obtain ⟨-, kind, hflush⟩ := h
  have hlanguage : other.language = reader.language := by
    rw [← flush_language other, hflush]
    exact flush_language reader
  obtain ⟨hnocomment, hnorow, hnoblank⟩ := reader.language.form_of_mark hmark hcomment hrow
  have hends := settle_of_form hnocomment hnorow hnoblank
  have hforms := onForm_previous kind reader.flush.value line (Text.trim line) hnocomment hnorow
  refine ⟨?_, ?_⟩
  · rw [onLine_fault, onLine_fault, hlanguage, hends reader, hends other, hflush]
    exact hforms.1
  · rw [onLine_fault, onLine_reader, onLine_reader, hlanguage, hends reader, hends other, hflush]
    exact hforms.2

theorem read {line : String} {mark : Char} (h : reader.SettledAlike other)
    (hmark : (Text.trim line).toList.head? = some mark) (hcomment : mark ≠ '#')
    (hrow : mark ≠ '|') : (reader.read line).Interchangeable (other.read line) := by
  have hlines := h.counted.onLine hmark hcomment hrow
  rw [← take_of_none h.counted.1, ← take_of_none h.counted.docString] at hlines
  refine ⟨?_, ?_⟩
  · rw [read_fault, read_fault]
    exact hlines.1
  · rw [read_fault, read_reader, read_reader]
    exact hlines.2

/-- The readers make the same document of lines of which the first that says something is no
    row. -/
theorem readToEnd (h : reader.SettledAlike other) (strict : Bool) {lines : List String}
    (hnext : ∀ next, lines.find? (!isInterlude ·) = some next →
      (Text.trim next).toList.head? ≠ some '|') :
    other.readToEnd strict lines = reader.readToEnd strict lines := by
  induction lines generalizing reader other with
  | nil =>
    obtain ⟨hdoc, kind, hflush⟩ := id h
    show (other.finish strict).value = (reader.finish strict).value
    rw [finish_of_none hdoc, finish_of_none h.docString, hflush]
  | cons line lines ih =>
    have hrest : isInterlude line = true → ∀ next, lines.find? (!isInterlude ·) = some next →
        (Text.trim next).toList.head? ≠ some '|' := by
      intro hidle next hfound
      exact hnext next (by simpa [hidle] using hfound)
    rw [readToEnd_cons, readToEnd_cons]
    cases hline : (Text.trim line).toList with
    | nil =>
      -- a blank line leaves the readers alike
      obtain ⟨haccept, hafter⟩ := read_blank h.1 hline
      obtain ⟨hotherAccept, hotherAfter⟩ := read_blank h.docString hline
      rw [haccept, hotherAccept, hafter, hotherAfter]
      exact ih h.counted.afterBlank (hrest (isInterlude_of_nil hline))
    | cons mark text =>
      by_cases hcomment : mark = '#'
      · -- so does a comment
        subst hcomment
        obtain ⟨haccept, hafter⟩ := read_comment h.1 hline
        obtain ⟨hotherAccept, hotherAfter⟩ := read_comment h.docString hline
        rw [haccept, hotherAccept, hafter, hotherAfter]
        exact ih (h.counted.onComment _) (hrest (isInterlude_of_cons hline))
      · -- this is the line that says something
        have hmark : (Text.trim line).toList.head? = some mark := by
          rw [hline]
          rfl
        have htelling : isInterlude line = false := by
          simpa [isInterlude_of_cons hline] using hcomment
        have hrow : mark ≠ '|' := by
          have hfirst := hnext line (by simp [htelling])
          rw [hmark] at hfirst
          exact fun hbar => hfirst (congrArg some hbar)
        obtain ⟨hfault, hreader⟩ := h.read hmark hcomment hrow
        rw [hfault]
        cases haccept : (reader.read line).fault with
        | some fault => rfl
        | none => exact (hreader haccept).readToEnd strict lines

end SettledAlike

/-! ## Across a blank line -/

theorem settledAlike_afterBlank (hdoc : reader.docString = none) :
    reader.SettledAlike reader.afterBlank :=
  ⟨hdoc, .blank, flush_afterBlank reader⟩

/-- A table that awaits its first values stays open, and whether the last line was a row does not
    matter to it. -/
theorem interchangeable_afterBlank {block : ExamplesBlock} (hblock : reader.examples = some block)
    (hawaits : block.awaitsRows = true) : reader.Interchangeable reader.afterBlank := by
  have hkeeps : reader.settle .blank = reader := by
    simp [settle, keepsExamples, hblock, hawaits]
  refine .inr ⟨.inl (by simp [hblock]), .blank, ?_⟩
  rw [afterBlank, hkeeps]

/-! ## A line more -/

/-- The numbers of the lines of a document that gets a line more after so many. -/
def skipLine (count n : Nat) : Nat := if n ≤ count then n else n + 1

/-- A line makes no difference to a document but in the numbers of the lines behind it if the
    reader after it, but for the count of lines, reads on as the reader before it. -/
theorem readToEnd_insert {strict : Bool} {line : String} {after : List String}
    (hfixed : other.renumber (skipLine reader.line) = other) (hline : other.line = reader.line)
    (haccept : (reader.read line).fault = none)
    (hafter : (reader.read line).reader = { other with line := reader.line + 1 })
    (hsame : other.readToEnd strict after = reader.readToEnd strict after) :
    reader.readToEnd strict (line :: after) =
      renumberResult (skipLine reader.line) (reader.readToEnd strict after) := by
  have hnext : skipLine reader.line (other.line + 1) = reader.line + 1 + 1 := by
    simp [skipLine, hline]
  have hfollow : ∀ n, other.line < n →
      skipLine reader.line (n + 1) = skipLine reader.line n + 1 := by
    intro n hlt
    unfold skipLine
    split <;> split <;> omega
  have hrenumbered := readToEnd_renumber hnext hfollow strict after
  rw [hfixed, hsame] at hrenumbered
  rw [readToEnd_cons, haccept, hafter]
  exact hrenumbered

/-- A blank line makes no difference if the reader after it reads on as the one before it. -/
theorem readToEnd_insert_blank {strict : Bool} {line : String} {after : List String}
    (hdoc : reader.docString = none) (hblank : (Text.trim line).toList = [])
    (hfixed : reader.renumber (skipLine reader.line) = reader)
    (hsame : reader.afterBlank.readToEnd strict after = reader.readToEnd strict after) :
    reader.readToEnd strict (line :: after) =
      renumberResult (skipLine reader.line) (reader.readToEnd strict after) := by
  obtain ⟨haccept, hafter⟩ := read_blank hdoc hblank
  rw [afterBlank_withLine] at hafter
  have hafterFixed : reader.afterBlank.renumber (skipLine reader.line) = reader.afterBlank := by
    rw [← afterBlank_renumber, hfixed]
  exact readToEnd_insert hafterFixed (settle_line reader .blank) haccept hafter hsame

end Reader

namespace ReadingMode

open Reader (skipLine)

theorem readLines_eq_readToEnd (mode : ReadingMode) (lines : List String) :
    (mode.readLines lines).value = mode.reader.readToEnd mode.strict lines :=
  readLines_value mode lines

/-- Nothing read before the new line gets another number. -/
theorem renumber_readAll (mode : ReadingMode) (lines : List String) :
    (mode.reader.readAll lines).renumber (skipLine lines.length) = mode.reader.readAll lines := by
  have hstart : mode.reader.renumber (skipLine lines.length) = mode.reader := rfl
  have hfollow : ∀ n, mode.reader.line ≤ n → n < mode.reader.line + lines.length →
      skipLine lines.length (n + 1) = skipLine lines.length n + 1 := by
    intro n _ hlt
    have hcount : mode.reader.line = 0 := rfl
    unfold skipLine
    split <;> split <;> omega
  have hread := Reader.readAll_renumber lines hfollow
  rw [hstart] at hread
  exact hread.symm

/-- It is enough to look at the reader that meets the new line. -/
theorem readLines_insert (mode : ReadingMode) {before after : List String} {line : String}
    (h : ∀ reader, (mode.reader.readAll before).reader = reader → reader.line = before.length →
      reader.renumber (skipLine before.length) = reader →
      reader.readToEnd mode.strict (line :: after) =
        renumberResult (skipLine before.length) (reader.readToEnd mode.strict after)) :
    (mode.readLines (before ++ line :: after)).value =
      renumberResult (skipLine before.length) (mode.readLines (before ++ after)).value := by
  have hfixed := mode.renumber_readAll before
  rw [readLines_eq_readToEnd, readLines_eq_readToEnd, Reader.readToEnd_append,
    Reader.readToEnd_append]
  cases hfault : (mode.reader.readAll before).fault with
  | some fault =>
    have hsame : ((mode.reader.readAll before).renumber (skipLine before.length)).fault =
        some fault := by
      rw [hfixed, hfault]
    simp only [Reader.Outcome.renumber, hfault, Option.map_some, Option.some.injEq] at hsame
    simp only [renumberResult, hsame]
  | none =>
    refine h _ rfl ?_ (congrArg Reader.Outcome.reader hfixed)
    exact (Reader.readAll_line hfault).trans (Nat.zero_add _)

/-! ## Comments and blank lines -/

/-- Outside doc-strings a comment may be put anywhere, unless it declares the language: what comes
    of the document is the same, under the numbers that the lines have then, and the reader that
    meets the next line has the same table open, the same tags waiting and everything else as it
    was. -/
theorem readLines_insert_comment (mode : ReadingMode) {before after : List String}
    {line : String} {comment : List Char} (hcomment : (Text.trim line).toList = '#' :: comment)
    (hdoc : (mode.reader.readAll before).reader.docString = none)
    (hlanguage : (mode.reader.readAll before).reader.feature = none →
      declaredLanguage? (.ofList comment) = none) :
    (mode.readLines (before ++ line :: after)).value =
        renumberResult (skipLine before.length) (mode.readLines (before ++ after)).value ∧
      ((mode.reader.readAll before).reader.read line).fault = none ∧
      ((mode.reader.readAll before).reader.read line).reader =
        { (mode.reader.readAll before).reader with
          line := (mode.reader.readAll before).reader.line + 1 } := by
  refine ⟨readLines_insert mode ?_, Reader.read_idleComment hdoc hcomment hlanguage⟩
  intro reader hreader hline hfixed
  rw [hreader] at hdoc hlanguage
  rw [← hline] at hfixed ⊢
  obtain ⟨haccept, hafter⟩ := Reader.read_idleComment hdoc hcomment hlanguage
  exact Reader.readToEnd_insert hfixed rfl haccept hafter rfl

/-- A comment between the rows of an examples table: the row behind it belongs to the table. -/
theorem readLines_insert_comment_table :
    ∃ feature, (({} : ReadingMode).readLines
        ["Feature: f", "Scenario Outline: s", "Examples:", "| p |", "| 1 |", "| 2 |"]).value =
          .ok (some feature) ∧
      (({} : ReadingMode).readLines
        ["Feature: f", "Scenario Outline: s", "Examples:", "| p |", "| 1 |", " # c",
          "| 2 |"]).value = .ok (some (feature.renumber (skipLine 5))) ∧
      (feature.renumber (skipLine 5)).lines = [1, 2, 5, 7] := by
  have hvalue : (({} : ReadingMode).readLines
      ["Feature: f", "Scenario Outline: s", "Examples:", "| p |", "| 1 |",
        "| 2 |"]).value.toOption.map (·.map fun feature => (feature.renumber (skipLine 5)).lines) =
      some (some [1, 2, 5, 7]) := by
    decide +kernel
  obtain ⟨result, hread, hsome⟩ := exists_ok_of_map_toOption hvalue
  obtain ⟨feature, rfl, hlines⟩ := Option.map_eq_some_iff.1 hsome
  have hinserted := (@readLines_insert_comment {}
    ["Feature: f", "Scenario Outline: s", "Examples:", "| p |", "| 1 |"] ["| 2 |"] " # c"
    " c".toList (by decide +kernel) (by decide +kernel) (by decide +kernel)).1
  refine ⟨feature, hread, ?_, hlines⟩
  exact hinserted.trans (congrArg (renumberResult (skipLine 5)) hread)

/-- A blank line may be put where the next line that says something is no row, or into a table
    under an examples keyword before its first values. -/
theorem readLines_insert_blank (mode : ReadingMode) {before after : List String} {line : String}
    (hblank : line.toList.all Text.isBlank)
    (hdoc : (mode.reader.readAll before).reader.docString = none)
    (hplace : (∀ next, after.find? (!isInterlude ·) = some next →
        (Text.trim next).toList.head? ≠ some '|') ∨
      ∃ block, (mode.reader.readAll before).reader.examples = some block ∧
        block.explicit = true ∧ block.rows = []) :
    (mode.readLines (before ++ line :: after)).value =
      renumberResult (skipLine before.length) (mode.readLines (before ++ after)).value := by
  apply readLines_insert
  intro reader hreader hline hfixed
  rw [hreader] at hdoc hplace
  have hempty : (Text.trim line).toList = [] := by
    rw [Text.toList_trim, Text.strip_of_blank (List.all_eq_true.1 hblank)]
  rw [← hline] at hfixed ⊢
  apply Reader.readToEnd_insert_blank hdoc hempty hfixed
  rcases hplace with hnext | ⟨block, hblock, hexplicit, hrows⟩
  · exact (Reader.settledAlike_afterBlank hdoc).readToEnd mode.strict hnext
  · have hawaits : block.awaitsRows = true := by
      simp [ExamplesBlock.awaitsRows, hexplicit, hrows]
    exact (Reader.interchangeable_afterBlank hblock hawaits).readToEnd mode.strict after

/-- A blank line under the headers of an examples table, before its first values. -/
theorem readLines_insert_blank_headers :
    ∃ feature, (({} : ReadingMode).readLines
        ["Feature: f", "Scenario Outline: s", "Examples:", "| p |", "| 1 |"]).value =
          .ok (some feature) ∧
      (({} : ReadingMode).readLines
        ["Feature: f", "Scenario Outline: s", "Examples:", "| p |", " \t", "| 1 |"]).value =
          .ok (some (feature.renumber (skipLine 4))) ∧
      (feature.renumber (skipLine 4)).lines = [1, 2, 6] := by
  have hvalue : (({} : ReadingMode).readLines
      ["Feature: f", "Scenario Outline: s", "Examples:", "| p |", "| 1 |"]).value.toOption.map
        (·.map fun feature => (feature.renumber (skipLine 4)).lines) =
      some (some [1, 2, 6]) := by
    decide +kernel
  obtain ⟨result, hread, hsome⟩ := exists_ok_of_map_toOption hvalue
  obtain ⟨feature, rfl, hlines⟩ := Option.map_eq_some_iff.1 hsome
  have hinserted := @readLines_insert_blank {}
    ["Feature: f", "Scenario Outline: s", "Examples:", "| p |"] ["| 1 |"] " \t"
    (by decide +kernel) (by decide +kernel)
    (.inr ⟨{ headers := some ["p"], explicit := true, line := 3 }, by decide +kernel, rfl, rfl⟩)
  refine ⟨feature, hread, ?_, hlines⟩
  exact hinserted.trans (congrArg (renumberResult (skipLine 4)) hread)

end ReadingMode

end Gherkin
