/-
  Gherkin.Expression.Fault

  What can go wrong with expressions: a text that one does not match, and
  placeholders that cannot be registered.
-/
import Gherkin.Expression.Kind

namespace Gherkin

/-- Why a text does not match although its form may be right. -/
inductive MissReason where
  /-- A placeholder took a text that has no value. -/
  | conversion (fault : ConversionFault)
  /-- The regular expression of the expression cannot be read. -/
  | unreadable
  deriving DecidableEq, Repr

/-- The wording of a reason. -/
def MissReason.message : MissReason → String
  | conversion fault => fault.message
  | unreadable => "unreadable regular expression"

/-- A text that an expression does not match. -/
structure Miss where
  pattern : String
  text : String
  reason : Option MissReason := none
  deriving DecidableEq, Repr

/-- The wording of a miss; the reason is left out. -/
def Miss.message (miss : Miss) : String :=
  s!"step text {Text.quote miss.text} does not match expression {Text.quote miss.pattern}"

/-- What can be wrong with an expression or a placeholder. -/
inductive ExpressionFault where
  | mismatch (miss : Miss)
  /-- A built-in kind has the name. -/
  | reservedName (name : String)
  | duplicateName (name : String)
  | invalidName (name : String)
  /-- The fragment of a placeholder is no regular expression. -/
  | invalidFragment (name : String)
  /-- The regular expression of an expression cannot be read. -/
  | unreadable
  deriving DecidableEq, Repr

/-- The wording of a fault. -/
def ExpressionFault.message : ExpressionFault → String
  | mismatch miss =>
    match miss.reason with
    | some reason => s!"{miss.message} ({reason.message})"
    | none => miss.message
  | reservedName name =>
    s!"placeholder `\x7b{name}\x7d` is a built-in placeholder and cannot be redefined"
  | duplicateName name => s!"placeholder `\x7b{name}\x7d` is already registered"
  | invalidName name =>
    s!"invalid placeholder name {Text.quote name}: names start with a letter or '_', " ++
      "contain only letters, digits and '_', and do not end with a digit"
  | invalidFragment name => s!"invalid regular expression for placeholder `\x7b{name}\x7d`"
  | unreadable => "unreadable regular expression"

end Gherkin
