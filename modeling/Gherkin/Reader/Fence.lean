/-
  Gherkin.Reader.Fence

  Doc-strings are fenced by three quotation marks or three backquotes. The
  indentation of the opening fence is taken off every line, and a fence whose
  characters all have a backslash before them stands for the fence as text.
-/
import Gherkin.Text.Blank

namespace Gherkin

/-! ## Text operations -/

namespace Text

/-- `s` with every occurrence of `old` replaced by `new`, found from left to right without
    overlap. The first `skip` characters belong to an occurrence and are passed over. -/
def replaceFrom (old new : List Char) (skip : Nat) : List Char → List Char
  | [] => []
  | c :: s =>
    match skip with
    | skip + 1 => replaceFrom old new skip s
    | 0 =>
      if old.isPrefixOf (c :: s) then new ++ replaceFrom old new (old.length - 1) s
      else c :: replaceFrom old new 0 s

/-- `s` with every occurrence of `old` replaced by `new`. -/
def replace (old new s : List Char) : List Char := replaceFrom old new 0 s

/-- `s` without its first `n` bytes, if a character starts there. -/
def dropBytes? (n : Nat) : List Char → Option (List Char)
  | [] => if n = 0 then some [] else none
  | c :: s =>
    if n = 0 then some (c :: s)
    else if c.utf8Size ≤ n then dropBytes? (n - c.utf8Size) s
    else none

/-- The number of bytes of blanks at the start of `s`. -/
def indentOf (s : List Char) : Nat := byteLength (s.takeWhile isBlank)

/-- `s` with its indentation taken off, up to `indent` bytes of it; all of it if that would cut a
    character. -/
def unindent (indent : Nat) (s : List Char) : List Char :=
  (dropBytes? (min (indentOf s) indent) s).getD (dropBlanks s)

end Text

/-! ## Fences -/

/-- The marks between which a doc-string stands. -/
inductive Fence where
  | quotes
  | backquotes
  deriving DecidableEq, Repr

namespace Fence

/-- The fence as it is written. -/
def text : Fence → String
  | quotes => "\"\"\""
  | backquotes => "```"

/-- The fence as it is written inside the text. -/
def escaped (fence : Fence) : List Char := fence.text.toList.flatMap fun c => ['\\', c]

/-- The fence that a stripped line opens with, and the text after it. -/
def ofLine? (line : List Char) : Option (Fence × List Char) :=
  [quotes, backquotes].findSome? fun fence =>
    (fence.text.toList.isPrefixOf? line).map fun rest => (fence, rest)

/-- A line inside a doc-string as content. -/
def content (fence : Fence) (indent : Nat) (line : String) : String :=
  .ofList (Text.replace fence.escaped fence.text.toList (Text.unindent indent line.toList))

end Fence

end Gherkin
