/-
  Gherkin.Text.Blank

  Blanks are the characters with the property White_Space. This file gives the
  operations on text that turn on them: trimming, splitting into words, and the
  split of a document into lines. Each is defined on the list of characters and
  then lifted to strings; the `toList` lemmas are the way back down.
-/
import Gherkin.Text.Ranges

namespace Gherkin.Text

/-! ## The property -/

/-- The code points with the property White_Space. -/
def blankRanges : Ranges :=
  [(0x9, 0xd), (0x20, 0x20), (0x85, 0x85), (0xa0, 0xa0), (0x1680, 0x1680), (0x2000, 0x200a),
   (0x2028, 0x2029), (0x202f, 0x202f), (0x205f, 0x205f), (0x3000, 0x3000)]

/-- Characters that count as white space. -/
def isBlank (c : Char) : Bool := blankRanges.contains c

/-! ## Trimming characters -/

/-- `s` without its leading blanks. -/
def dropBlanks (s : List Char) : List Char := s.dropWhile isBlank

/-- `s` without its trailing blanks. -/
def dropBlanksRight (s : List Char) : List Char := (dropBlanks s.reverse).reverse

/-- `s` without the blanks at either end. -/
def strip (s : List Char) : List Char := dropBlanksRight (dropBlanks s)

@[simp] theorem dropBlanks_nil : dropBlanks [] = [] := rfl

@[simp] theorem strip_nil : strip [] = [] := rfl

/-! ## Trimming text -/

/-- Text without its leading blanks. -/
def trimStart (s : String) : String := .ofList (dropBlanks s.toList)

/-- Text without its trailing blanks. -/
def trimEnd (s : String) : String := .ofList (dropBlanksRight s.toList)

/-- Text without the blanks at either end. -/
def trim (s : String) : String := .ofList (strip s.toList)

@[simp] theorem toList_trim (s : String) : (trim s).toList = strip s.toList := by
  simp [trim]

/-! ## Splitting -/

/-- The pieces of `s` between the characters equal to `sep`; one more than there are of those. -/
def splitAt (sep : Char) (s : String) : List String :=
  (s.toList.splitOn sep).map String.ofList

/-- The maximal runs of characters that are not blank. -/
def words (s : String) : List String :=
  ((s.toList.splitOnP isBlank).filter (!·.isEmpty)).map String.ofList

/-- `s` without one final carriage return. -/
def dropReturn (s : List Char) : List Char :=
  if s.getLast? = some '\r' then s.dropLast else s

/-- The lines of a document: a newline ends a line, a carriage return right before it belongs to
    the ending, and a last line without a newline counts unless it is empty. -/
def lines (s : String) : List String :=
  let pieces := s.toList.splitOn '\n'
  let ended := pieces.dropLast.map dropReturn
  let rest := pieces.getLast?.getD []
  (if rest.isEmpty then ended else ended ++ [rest]).map String.ofList

example : lines "a\r\n\nb\r" = ["a", "", "b\r"] := by decide

example : lines "" = [] ∧ lines "\n" = [""] := by decide

/-! ## Sizes -/

/-- The number of bytes of `s` in UTF-8. -/
def byteLength (s : List Char) : Nat := s.foldr (fun c n => c.utf8Size + n) 0

@[simp] theorem byteLength_nil : byteLength [] = 0 := rfl

@[simp] theorem byteLength_cons (c : Char) (s : List Char) :
    byteLength (c :: s) = c.utf8Size + byteLength s := rfl

end Gherkin.Text
