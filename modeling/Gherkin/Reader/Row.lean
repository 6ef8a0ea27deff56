/-
  Gherkin.Reader.Row

  Rows of a table: cells between bars. A backslash before a bar, a backslash or
  the letter n stands for a bar, a backslash or a newline in a cell; before
  anything else it stands for itself.
-/
import Gherkin.Text.Blank

namespace Gherkin.Row

/-- The cells of what follows the first bar of a row. `cell` holds the characters of the open
    cell, last one first. Text after the last bar is a cell unless it is blank. -/
def cellsFrom (cell : List Char) : List Char → List (List Char)
  | [] =>
    let rest := Text.strip cell.reverse
    if rest.isEmpty then [] else [rest]
  | '|' :: s => Text.strip cell.reverse :: cellsFrom [] s
  | '\\' :: '|' :: s => cellsFrom ('|' :: cell) s
  | '\\' :: '\\' :: s => cellsFrom ('\\' :: cell) s
  | '\\' :: 'n' :: s => cellsFrom ('\n' :: cell) s
  | c :: s => cellsFrom (c :: cell) s

/-- The cells of a row; none if it does not start with a bar. -/
def cells (row : String) : List String :=
  match Text.strip row.toList with
  | '|' :: s => (cellsFrom [] s).map String.ofList
  | _ => []

example : cells " | a \\| b |c\\n| | \\d " = ["a | b", "c", "", "\\d"] := by decide

end Gherkin.Row
