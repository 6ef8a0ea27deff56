/-
  Gherkin.Proofs.Reader.Row

  Rows as they are written: cells between bars, with a backslash before each bar
  and each backslash of a cell and with `\n` for its newlines. Whatever blanks
  are put around the cells, reading the row gives the cells back.
-/
import Gherkin.Proofs.Reader.Form

namespace Gherkin

/-! ## Writing -/

/-- A character of a cell as it is written. -/
def Row.escapeChar : Char → List Char
  | '|' => ['\\', '|']
  | '\\' => ['\\', '\\']
  | '\n' => ['\\', 'n']
  | c => [c]

/-- A cell as it stands in a row, with the blanks that are put around it. -/
structure PaddedCell where
  before : String
  text : String
  behind : String
  blank_before : ∀ c ∈ before.toList, Text.isBlank c = true
  blank_behind : ∀ c ∈ behind.toList, Text.isBlank c = true
  /-- The cell itself has no blanks at its ends. -/
  trimmed : Text.trim text = text

/-- The characters of a cell as it is written, up to the bar that ends it. -/
def PaddedCell.chars (cell : PaddedCell) : List Char :=
  cell.before.toList ++ cell.text.toList.flatMap Row.escapeChar ++ cell.behind.toList ++ ['|']

namespace Row

/-- The row with these cells. -/
def write (row : List PaddedCell) : String := .ofList ('|' :: row.flatMap PaddedCell.chars)

variable {cell s : List Char} {c : Char}

theorem toList_write (row : List PaddedCell) :
    (write row).toList = '|' :: row.flatMap PaddedCell.chars := String.toList_ofList

/-- A row ends with a bar as well. -/
theorem getLast?_write (row : List PaddedCell) : (write row).toList.getLast? = some '|' := by
  rw [toList_write]
  rcases List.eq_nil_or_concat row with rfl | ⟨cells, last, rfl⟩
  · rfl
  · rw [List.concat_eq_append, List.flatMap_append, List.flatMap_singleton, PaddedCell.chars,
      ← List.append_assoc, ← List.cons_append, List.getLast?_concat]

theorem trim_write (row : List PaddedCell) : Text.trim (write row) = write row := by
  have hstrip : Text.strip (write row).toList = (write row).toList := by
    apply Text.strip_eq_self
    · rw [toList_write]
      rintro c ⟨⟩
      decide
    · rw [getLast?_write]
      rintro c ⟨⟩
      decide
  rw [Text.trim, hstrip, String.ofList_toList]

/-! ## Reading -/

theorem cellsFrom_plain (hbar : c ≠ '|') (hslash : c ≠ '\\') (cell s : List Char) :
    cellsFrom cell (c :: s) = cellsFrom (c :: cell) s := by
  rw [cellsFrom.eq_def]
  split <;> simp_all

theorem cellsFrom_blanks {blanks : List Char} (h : ∀ c ∈ blanks, Text.isBlank c = true)
    (cell s : List Char) : cellsFrom cell (blanks ++ s) = cellsFrom (blanks.reverse ++ cell) s := by
  induction blanks generalizing cell with
  | nil => rfl
  | cons c blanks ih =>
    obtain ⟨hc, hblanks⟩ := List.forall_mem_cons.1 h
    have hbar : c ≠ '|' := by
      rintro rfl
      exact absurd hc (by decide)
    have hslash : c ≠ '\\' := by
      rintro rfl
      exact absurd hc (by decide)
    rw [List.cons_append, cellsFrom_plain hbar hslash, ih hblanks, List.reverse_cons,
      List.append_assoc]
    rfl

/-- An escaped character is read as the character. -/
theorem cellsFrom_escapeChar (c : Char) (cell s : List Char) :
    cellsFrom cell (escapeChar c ++ s) = cellsFrom (c :: cell) s := by
  unfold escapeChar
  split
  · rfl
  · rfl
  · rfl
  next hbar hslash _ => exact cellsFrom_plain hbar hslash cell s

theorem cellsFrom_escape (text cell s : List Char) :
    cellsFrom cell (text.flatMap escapeChar ++ s) = cellsFrom (text.reverse ++ cell) s := by
  induction text generalizing cell with
  | nil => rfl
  | cons c text ih =>
    rw [List.flatMap_cons, List.append_assoc, cellsFrom_escapeChar, ih, List.reverse_cons,
      List.append_assoc]
    rfl

/-- A cell is read up to its bar, without the blanks around it. -/
theorem cellsFrom_chars (cell : PaddedCell) (s : List Char) :
    cellsFrom [] (cell.chars ++ s) = cell.text.toList :: cellsFrom [] s := by
  have htext : Text.strip cell.text.toList = cell.text.toList := by
    rw [← Text.toList_trim, cell.trimmed]
  simp only [PaddedCell.chars, List.append_assoc]
  rw [cellsFrom_blanks cell.blank_before, cellsFrom_escape, cellsFrom_blanks cell.blank_behind,
    List.singleton_append, cellsFrom]
  simp only [List.reverse_append, List.reverse_reverse, List.reverse_nil, List.nil_append]
  rw [Text.strip_between cell.blank_before cell.blank_behind, htext]

theorem cellsFrom_write (row : List PaddedCell) :
    cellsFrom [] (row.flatMap PaddedCell.chars) = row.map (·.text.toList) := by
  induction row with
  | nil => rfl
  | cons cell row ih => rw [List.flatMap_cons, cellsFrom_chars, ih, List.map_cons]

/-- Reading a row gives the cells that were written. -/
theorem cells_write (row : List PaddedCell) : cells (write row) = row.map (·.text) := by
  have hstrip : Text.strip (write row).toList = '|' :: row.flatMap PaddedCell.chars := by
    rw [← Text.toList_trim, trim_write, toList_write]
  have hcells : (cellsFrom [] (row.flatMap PaddedCell.chars)).map String.ofList =
      row.map (·.text) := by
    simp [cellsFrom_write]
  simp only [cells, hstrip, hcells]

/-- A line that is a written row is read as the row. -/
theorem form_write (language : Language) (row : List PaddedCell) :
    language.form (Text.trim (write row)) = .row (row.map (·.text)) := by
  rw [trim_write, language.form_row (toList_write row), cells_write]

end Row

end Gherkin
