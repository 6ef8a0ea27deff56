/-
  Gherkin.Text.Property.Query

  What a text that names a property asks for: a property that characters have,
  a general category or a script by its name alone, or a value of a property.
-/
import Gherkin.Text.Property.Age
import Gherkin.Text.Property.Break

namespace Gherkin.Text.Property

/-- What is asked for: all that goes by a name, or those with a value of a property or, if it is
    negated, without it. -/
inductive Query where
  | named (name : List Char)
  | valued (negated : Bool) (property value : List Char)
  deriving DecidableEq, Repr

/-- What stands before a sign and after it, at the first place of the sign. -/
def cutAt? (sign : List Char) : List Char → Option (List Char × List Char)
  | [] => none
  | c :: s =>
    match sign.isPrefixOf? (c :: s) with
    | some rest => some ([], rest)
    | none => (cutAt? sign s).map fun (before, after) => (c :: before, after)

namespace Query

/-- Reads a query: a property and its value have `!=`, `:` or `=` between them, and of several such
    signs the one named first here counts. -/
def read (s : List Char) : Query :=
  match cutAt? ['!', '='] s, (cutAt? [':'] s).or (cutAt? ['='] s) with
  | some (property, value), _ => valued true property value
  | none, some (property, value) => valued false property value
  | none, none => named s

example : read "gc!=Lu".toList = valued true "gc".toList "Lu".toList := by decide

/-- Whether the characters that are found are those that are not wanted. -/
def isNegated : Query → Bool
  | named _ => false
  | valued negated _ _ => negated

/-- The scripts by name. -/
def scriptSets : List NamedSet := scripts.map fun script => ⟨script.names, script.ranges⟩

/-- The characters with a value of a property. -/
def valueRanges? (property value : List Char) : Option Ranges :=
  if anyNamed ["gc", "General_Category"] property then findNamed? categories value
  else if anyNamed ["sc", "Script"] property then findNamed? scriptSets value
  else if anyNamed ["scx", "Script_Extensions"] property then
    (scripts.find? fun script => anyNamed script.names value).map (·.used)
  else if anyNamed ["age"] property then age? value
  else if anyNamed ["GCB", "Grapheme_Cluster_Break"] property then findNamed? graphemeBreaks value
  else if anyNamed ["SB", "Sentence_Break"] property then findNamed? sentenceBreaks value
  else if anyNamed ["WB", "Word_Break"] property then findNamed? wordBreaks value
  else none

/-- The characters that a query names. -/
def ranges? : Query → Option Ranges
  | named name =>
    ((findNamed? traits name).or (findNamed? categories name)).or (findNamed? scriptSets name)
  | valued _ property value => valueRanges? property value

end Query

end Gherkin.Text.Property
