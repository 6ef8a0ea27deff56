/-
  Gherkin.Proofs.Reader.Account

  The account of the lines of a document: what each line has to contribute to
  the document, told from the lines before it alone. No reader and no document
  occurs in it.

  A scanner knows as much as it takes to tell the form of a line: the language
  in use, whether the feature has begun and which doc-string is open. The lines
  seen so far are kept with the latest one first.
-/
import Gherkin.Proofs.Document.Inventory
import Gherkin.Reader.Document

namespace Gherkin

/-! ## Forms of the lines of a document -/

/-- What decides the form of the next line. -/
structure Scanner where
  language : Language
  inFeature : Bool := false
  /-- The fence of the open doc-string. -/
  fence : Option Fence := none
  /-- The number of lines seen. -/
  line : Nat := 0

/-- A line of a document. -/
structure LineEntry where
  number : Nat
  /-- The line without blanks around it. -/
  text : String
  /-- The form of the line; none inside a doc-string. -/
  form : Option LineForm

namespace Scanner

/-- The form of a line, unless it stands inside a doc-string. -/
def form? (scanner : Scanner) (line : String) : Option LineForm :=
  match scanner.fence with
  | some _ => none
  | none => some (scanner.language.form (Text.trim line))

/-- The scanner after a line of a form. -/
def afterForm (scanner : Scanner) : LineForm → Scanner
  | .comment comment =>
    match scanner.inFeature, declaredLanguage? comment with
    | false, some code => { scanner with language := (Language.ofCode code).value }
    | _, _ => scanner
  | .header header =>
    { scanner with inFeature := scanner.inFeature || header.kind = .Feature }
  | .fence fence _ => { scanner with fence := some fence }
  | _ => scanner

/-- What a line does to a scanner that has already counted it. -/
def take (scanner : Scanner) (line : String) : Scanner :=
  match scanner.fence with
  | some fence =>
    if Text.trim line = fence.text then { scanner with fence := none } else scanner
  | none => scanner.afterForm (scanner.language.form (Text.trim line))

/-- The scanner after a line. -/
def next (scanner : Scanner) (line : String) : Scanner :=
  { scanner with line := scanner.line + 1 }.take line

/-- The entry of the next line. -/
def entry (scanner : Scanner) (line : String) : LineEntry :=
  { number := scanner.line + 1, text := Text.trim line, form := scanner.form? line }

/-- The entries of lines and of those seen before them. -/
def entries (scanner : Scanner) (seen : List LineEntry) : List String → List LineEntry
  | [] => seen
  | line :: lines => (scanner.next line).entries (scanner.entry line :: seen) lines

end Scanner

/-! ## What lines open -/

namespace LineEntry

/-- The line opens a block of steps: a background, a scenario or an outline. -/
def opensBlock (entry : LineEntry) : Bool :=
  match entry.form with
  | some (.header header) =>
    header.kind = .Background || header.kind = .Scenario || header.kind = .ScenarioOutline
  | _ => false

/-- The line opens something that has a description: a feature, a rule or a block of steps. -/
def opensEntity (entry : LineEntry) : Bool :=
  match entry.form with
  | some (.header header) => header.kind ≠ .Examples
  | _ => false

/-- The line is a step. -/
def isStep (entry : LineEntry) : Bool :=
  match entry.form with
  | some (.step _) => true
  | _ => false

/-- The number of the latest line of a kind. -/
def latest? (kind : LineEntry → Bool) (seen : List LineEntry) : Option Nat :=
  (seen.find? kind).map (·.number)

end LineEntry

/-! ## Tables -/

/-- The table that a row would belong to. -/
inductive OpenTable where
  /-- None is open: a row is the first one of an examples table. -/
  | closed
  /-- The table under the latest step. -/
  | data
  /-- A table of examples, with its headers once they are there, and whether it has values. It is
      explicit if it stands under an examples keyword. -/
  | examples (explicit : Bool) (headers : Option (List String)) (filled : Bool)
  deriving DecidableEq

namespace OpenTable

/-- The table after one more row. -/
def addRow (cells : List String) : OpenTable → OpenTable
  | closed => examples false (some cells) false
  | data => data
  | examples explicit none filled => examples explicit (some cells) filled
  | examples explicit (some headers) _ => examples explicit (some headers) true

/-- The table after a blank line. -/
def skipBlank : OpenTable → OpenTable
  | examples true headers false => examples true headers false
  | _ => closed

/-- The table after a line. A comment may stand anywhere; any other line that is no row ends a
    table, but blank lines may stand before the values. -/
def after (table : OpenTable) : Option LineForm → OpenTable
  | some (.comment _) => table
  | some (.row cells) => table.addRow cells
  | some .blank => table.skipBlank
  | some (.step _) => data
  | some (.header header) => if header.kind = .Examples then examples true none false else closed
  | _ => closed

/-- The table that is open after the lines seen. -/
def ofSeen (seen : List LineEntry) : OpenTable :=
  seen.foldr (fun entry table => table.after entry.form) closed

end OpenTable

/-! ## The account -/

open LineEntry (latest? opensBlock opensEntity isStep)

/-- What a row contributes: a row of the table under the latest step, a row of examples, or
    nothing if it holds the headers of an examples table. -/
def LineEntry.rowItems (before : List LineEntry) (number : Nat) (cells : List String) :
    List Item :=
  match OpenTable.ofSeen before with
  | .data => [.dataRow (latest? isStep before) cells]
  | .examples _ (some headers) _ =>
    [.exampleRow (latest? opensBlock before) number (ExamplesBlock.values headers cells)]
  | .examples _ none _ | .closed => []

/-- What a line contributes to the document, given the lines before it. -/
def LineEntry.items (before : List LineEntry) (entry : LineEntry) : List Item :=
  match entry.form with
  | some (.header header) => if header.kind = .Examples then [] else [.entity entry.number]
  | some (.step found) => [.step (latest? opensBlock before) entry.number found]
  | some (.row cells) => rowItems before entry.number cells
  | some .prose => (latest? opensEntity before).toList.map (.description · entry.text)
  | _ => []

/-- What all the lines contribute. -/
def account : List LineEntry → List Item
  | [] => []
  | entry :: before => entry.items before ++ account before

/-! ## Every line has its own number -/

theorem Scanner.line_next (scanner : Scanner) (line : String) :
    (scanner.next line).line = scanner.line + 1 := by
  unfold next take
  split
  · split <;> rfl
  · unfold afterForm
    split
    · split <;> rfl
    · rfl
    · rfl
    · rfl

theorem Scanner.afterForm_withLine (scanner : Scanner) (count : Nat) (form : LineForm) :
    ({ scanner with line := count } : Scanner).afterForm form =
      { scanner.afterForm form with line := count } := by
  cases form with
  | comment comment =>
    simp only [afterForm]
    split <;> rfl
  | _ => rfl

/-- The number of a line has no part in what it does to a scanner. -/
theorem Scanner.next_withLine (scanner : Scanner) (count : Nat) (line : String) :
    ({ scanner with line := count } : Scanner).next line =
      { scanner.next line with line := count + 1 } := by
  unfold next take
  rcases Option.eq_none_or_eq_some scanner.fence with hfence | ⟨fence, hfence⟩
  · simp only [hfence]
    exact afterForm_withLine { scanner with fence := none, line := scanner.line + 1 } (count + 1) _
  · simp only [hfence]
    split <;> rfl

theorem Scanner.opensEntity_entry_withLine (scanner : Scanner) (count : Nat) (line : String) :
    (({ scanner with line := count } : Scanner).entry line).opensEntity =
      (scanner.entry line).opensEntity := by
  simp only [LineEntry.opensEntity, entry, form?]

theorem Scanner.mem_entries_of_mem {scanner : Scanner} {seen : List LineEntry}
    {entry : LineEntry} (h : entry ∈ seen) (lines : List String) :
    entry ∈ scanner.entries seen lines := by
  induction lines generalizing scanner seen with
  | nil => exact h
  | cons line lines ih => exact ih (List.mem_cons_of_mem _ h)

theorem Scanner.entry_mem_entries (scanner : Scanner) (seen : List LineEntry) (line : String)
    (lines : List String) : scanner.entry line ∈ scanner.entries seen (line :: lines) :=
  mem_entries_of_mem (List.mem_cons_self : scanner.entry line ∈ scanner.entry line :: seen) lines

/-- Lines are numbered from where the scanner stands. -/
theorem Scanner.nodup_entries (scanner : Scanner) {seen : List LineEntry} (lines : List String)
    (hnodup : (seen.map (·.number)).Nodup) (hseen : ∀ entry ∈ seen, entry.number ≤ scanner.line) :
    ((scanner.entries seen lines).map (·.number)).Nodup := by
  induction lines generalizing scanner seen with
  | nil => exact hnodup
  | cons line lines ih =>
    apply ih
    · rw [List.map_cons, List.nodup_cons]
      refine ⟨?_, hnodup⟩
      intro hmem
      -- earlier lines have smaller numbers
      obtain ⟨entry, hentry, hnumber⟩ := List.mem_map.1 hmem
      have hle := hseen entry hentry
      have hnext : (scanner.entry line).number = scanner.line + 1 := rfl
      omega
    · rw [line_next]
      intro entry hentry
      rcases List.mem_cons.1 hentry with rfl | hold
      · exact Nat.le_refl _
      · have hle := hseen entry hold
        omega

/-- A line opens at most one entity, with its own number. -/
theorem LineEntry.entityLines_items (before : List LineEntry) (entry : LineEntry) :
    ((entry.items before).filterMap Item.entityLine?).Sublist [entry.number] := by
  unfold LineEntry.items
  split
  · split
    · exact List.nil_sublist _
    · exact List.Sublist.refl _
  · exact List.nil_sublist _
  · unfold rowItems
    split <;> exact List.nil_sublist _
  · cases latest? opensEntity before <;> exact List.nil_sublist _
  · exact List.nil_sublist _

theorem entityLines_account (entries : List LineEntry) :
    ((account entries).filterMap Item.entityLine?).Sublist (entries.map (·.number)) := by
  induction entries with
  | nil => exact List.Sublist.refl _
  | cons entry before ih =>
    rw [account, List.filterMap_append, List.map_cons]
    exact (LineEntry.entityLines_items before entry).append ih

end Gherkin
