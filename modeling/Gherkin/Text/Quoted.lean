/-
  Gherkin.Text.Quoted

  Quoted text: the form in which messages show a text that may hold anything.
  A quotation mark, a backslash and the common controls are written with a
  backslash, a veiled character by its code point, all else as itself.
-/
import Gherkin.Text.Veiled

namespace Gherkin.Text

/-- A number in lowercase hexadecimal without padding. -/
def hex (n : Nat) : String := .ofList (Nat.toDigits 16 n)

/-- How one character is written between quotation marks. -/
def quoteChar (c : Char) : String :=
  if c = '\t' then "\\t"
  else if c = '\r' then "\\r"
  else if c = '\n' then "\\n"
  else if c = '\x00' then "\\0"
  else if c = '"' then "\\\""
  else if c = '\\' then "\\\\"
  else if isVeiled c then "\\u\x7b" ++ hex c.toNat ++ "\x7d"
  else c.toString

/-- Text between quotation marks. -/
def quote (s : String) : String :=
  "\"" ++ String.join (s.toList.map quoteChar) ++ "\""

/-- A list of quoted texts in square brackets. -/
def quoteList (items : List String) : String :=
  "[" ++ ", ".intercalate (items.map quote) ++ "]"

example : quote "a\t\"é\x7f'" = "\"a\\t\\\"é\\u\x7b7f\x7d'\"" := by decide +kernel

end Gherkin.Text
