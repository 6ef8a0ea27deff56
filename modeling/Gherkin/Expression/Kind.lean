/-
  Gherkin.Expression.Kind

  Kinds of placeholders. A kind has a name, a fragment of a regular expression
  that says what it takes, and a conversion of what it took to a value. Ten
  kinds are built in; others can be given as placeholders of one's own.
-/
import Gherkin.Calendar.Layout
import Gherkin.Text.Blank
import Gherkin.Text.Quoted
import Gherkin.Value

namespace Gherkin

/-! ## Conversion -/

/-- Why a text that was taken has no value. -/
inductive ConversionFault where
  | number (raw : String) (fault : Binary64.Fault)
  | integer (raw : String) (fault : Number.IntegerFault)
  | noCharacter
  | boolean (raw : String)
  | date (raw : String)
  deriving DecidableEq, Repr

/-- The wording of a fault. -/
def ConversionFault.message : ConversionFault → String
  | number raw fault => s!"invalid number {Text.quote raw}: {fault.message}"
  | integer raw fault => s!"invalid integer {Text.quote raw}: {fault.message}"
  | noCharacter => "empty character capture"
  | boolean raw => s!"invalid boolean {Text.quote raw}"
  | date raw => s!"invalid date {Text.quote raw}"

/-- The text between two marks `mark`, if it starts and ends with one. -/
def between? (mark : Char) : List Char → Option (List Char)
  | [] => none
  | c :: s => if c = mark ∧ s.getLast? = some mark then some s.dropLast else none

/-- The text without the quotation marks around it, double or single, if there are any. -/
def unquote (raw : String) : String :=
  match ['"', '\''].findSome? (between? · raw.toList) with
  | some s => .ofList s
  | none => raw

/-- The items of a list written with commas, without the blanks around them; empty ones do not
    count. -/
def listItems (raw : String) : List String :=
  ((Text.splitAt ',' raw).map Text.trim).filter (!·.isEmpty)

/-! ## Built-in kinds -/

/-- The kinds that need no registration. -/
inductive BuiltinKind where
  | string
  | number
  /-- The same as `number`. -/
  | float
  | int
  | word
  | char
  | boolean
  | email
  | date
  | list
  deriving DecidableEq, Repr

namespace BuiltinKind

/-- All built-in kinds. -/
def all : List BuiltinKind :=
  [string, number, float, int, word, char, boolean, email, date, list]

/-- The name between the braces. -/
def name : BuiltinKind → String
  | string => "string"
  | number => "number"
  | float => "float"
  | int => "int"
  | word => "word"
  | char => "char"
  | boolean => "boolean"
  | email => "email"
  | date => "date"
  | list => "list"

/-- The kind with a name. -/
def ofName? (name : String) : Option BuiltinKind := all.find? (·.name = name)

theorem mem_all (kind : BuiltinKind) : kind ∈ all := by cases kind <;> simp [all]

theorem ofName?_name (kind : BuiltinKind) : ofName? kind.name = some kind := by
  cases kind <;> rfl

theorem name_of_ofName? {name : String} {kind : BuiltinKind} (h : ofName? name = some kind) :
    kind.name = name := by
  have := List.find?_some h
  simpa using this

/-- The fragment for numbers. -/
def numberFragment : String :=
  "[+-]?(?:\\d+(?:\\.\\d+)?|\\.\\d+)(?:[eE][+-]?\\d+)?"

/-- The fragment for dates in the three layouts; the first may go on with a time, a fraction of a
    second and a zone. -/
def dateFragment : String :=
  "(?:\\d\x7b4\x7d-\\d\x7b2\x7d-\\d\x7b2\x7d" ++
    "(?:[T ]\\d\x7b2\x7d:\\d\x7b2\x7d(?::\\d\x7b2\x7d(?:\\.\\d+)?)?" ++
    "(?:Z|[+-]\\d\x7b2\x7d:?\\d\x7b2\x7d)?)?" ++
    "|\\d\x7b1,2\x7d/\\d\x7b1,2\x7d/\\d\x7b4\x7d" ++
    "|\\d\x7b4\x7d/\\d\x7b1,2\x7d/\\d\x7b1,2\x7d)"

/-- What a placeholder of the kind takes, as a regular expression without groups. -/
def fragment : BuiltinKind → String
  | string => "(?:\"[^\"]*\"|'[^']*')"
  | number | float => numberFragment
  | int => "[+-]?\\d+"
  | word => "\\b\\w+\\b"
  | char => "\\S"
  | boolean => "(?:true|false)"
  | email => "[^\\s@]+@[^\\s@]+\\.[^\\s@]+"
  | date => dateFragment
  | list => "\\w+(?:\\s*,\\s*\\w+)*"

/-- The value of a text that was taken. -/
def convert (kind : BuiltinKind) (raw : String) : Except ConversionFault Value :=
  match kind with
  | string => .ok (.text (unquote raw))
  | number | float =>
    match Binary64.read raw with
    | .ok x => .ok (.number x)
    | .error fault => .error (.number raw fault)
  | int =>
    match Number.readInteger raw with
    | .ok n => .ok (.integer n)
    | .error fault => .error (.integer raw fault)
  | word | email => .ok (.text raw)
  | char =>
    match raw.toList with
    | c :: _ => .ok (.char c)
    | [] => .error .noCharacter
  | boolean =>
    if raw = "true" then .ok (.bool true)
    else if raw = "false" then .ok (.bool false)
    else .error (.boolean raw)
  | date =>
    match Layout.readMoment? raw with
    | some m => .ok (.moment m)
    | none => .error (.date raw)
  | list => .ok (.list (listItems raw))

end BuiltinKind

/-! ## Placeholders of one's own -/

/-- A placeholder with its own fragment and conversion, which never fails. -/
structure Placeholder where
  name : String
  fragment : String
  convert : String → Value

/-- What a placeholder in an expression refers to. -/
inductive Kind where
  | builtin (kind : BuiltinKind)
  | custom (placeholder : Placeholder)

namespace Kind

/-- The name between the braces. -/
def name : Kind → String
  | builtin kind => kind.name
  | custom placeholder => placeholder.name

/-- What a placeholder of the kind takes. -/
def fragment : Kind → String
  | builtin kind => kind.fragment
  | custom placeholder => placeholder.fragment

/-- The value of a text that was taken. -/
def convert : Kind → String → Except ConversionFault Value
  | builtin kind, raw => kind.convert raw
  | custom placeholder, raw => .ok (placeholder.convert raw)

/-- The built-in kind with a name. -/
def builtin? (name : String) : Option Kind := (BuiltinKind.ofName? name).map builtin

end Kind

end Gherkin
