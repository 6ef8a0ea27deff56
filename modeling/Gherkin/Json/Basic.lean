/-
  Gherkin.Json.Basic

  JSON values and their indented form: two blanks a level, one member or item a
  line. Of numbers only natural numbers below 2 ^ 64 have a value here, because
  a document holds no others.
-/
import Gherkin.Text.Quoted

namespace Gherkin

/-- A JSON value. Members keep their order and may repeat a key. A string with one half of a
    surrogate pair is legal but holds no text; its content is `none`. -/
inductive Json where
  | null
  | bool (value : Bool)
  | number (value : Nat)
  /-- A number that is no natural number below 2 ^ 64, as it is written. -/
  | otherNumber (literal : String)
  | string (content : Option String)
  | array (items : List Json)
  | object (members : List (Option String × Json))

namespace Json

/-- The string that holds a text. -/
def text (s : String) : Json := .string (some s)

/-- An array of texts. -/
def texts (items : List String) : Json := .array (items.map text)

/-- A value, or null. -/
def option (f : α → Json) : Option α → Json
  | none => .null
  | some a => f a

/-! ## Writing -/

/-- A number in hexadecimal on four places. -/
def hex4 (n : Nat) : List Char :=
  [n / 4096 % 16, n / 256 % 16, n / 16 % 16, n % 16].map Nat.digitChar

/-- How one character is written in a string. -/
def writeChar (c : Char) : List Char :=
  if c = '"' then ['\\', '"']
  else if c = '\\' then ['\\', '\\']
  else if c = '\x08' then ['\\', 'b']
  else if c = '\x0c' then ['\\', 'f']
  else if c = '\n' then ['\\', 'n']
  else if c = '\r' then ['\\', 'r']
  else if c = '\t' then ['\\', 't']
  else if c.toNat < 0x20 then '\\' :: 'u' :: hex4 c.toNat
  else [c]

/-- A JSON string. What holds no text is written as one half of a surrogate pair. -/
def writeString : Option String → List Char
  | some s => '"' :: (s.toList.flatMap writeChar ++ ['"'])
  | none => "\"\\ud800\"".toList

/-- A new line with the indentation of a level. -/
def newline (depth : Nat) : List Char := '\n' :: List.replicate (2 * depth) ' '

/-- Puts comma and line breaks between the written parts of an array or object. -/
def writeParts (depth : Nat) : List (List Char) → List Char
  | [] => []
  | [part] => newline depth ++ part
  | part :: parts => newline depth ++ part ++ [','] ++ writeParts depth parts

/-- Encloses the written parts of an array or object; without parts, nothing is in between. -/
def enclose (opening closing : Char) (depth : Nat) (parts : List (List Char)) : List Char :=
  if parts.isEmpty then [opening, closing]
  else opening :: (writeParts (depth + 1) parts ++ newline depth ++ [closing])

mutual

/-- The indented form of a value at a level. -/
def write (depth : Nat) : Json → List Char
  | .null => "null".toList
  | .bool true => "true".toList
  | .bool false => "false".toList
  | .number n => Nat.toDigits 10 n
  | .otherNumber literal => literal.toList
  | .string content => writeString content
  | .array items => enclose '[' ']' depth (writeItems (depth + 1) items)
  | .object members => enclose '\x7b' '\x7d' depth (writeMembers (depth + 1) members)

/-- The indented forms of items. -/
def writeItems (depth : Nat) : List Json → List (List Char)
  | [] => []
  | item :: items => item.write depth :: writeItems depth items

/-- The indented forms of members. -/
def writeMembers (depth : Nat) : List (Option String × Json) → List (List Char)
  | [] => []
  | (key, value) :: members =>
    (writeString key ++ [':', ' '] ++ value.write depth) :: writeMembers depth members

end

/-- The indented form of a value. -/
def pretty (json : Json) : String := .ofList (json.write 0)

end Json

end Gherkin
