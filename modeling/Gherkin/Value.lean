/-
  Gherkin.Value

  Values: what a placeholder of an expression yields and what a cell of an
  examples table may stand for.
-/
import Gherkin.Calendar.Date
import Gherkin.Number.Shortest

namespace Gherkin

/-- A typed value. -/
inductive Value where
  | text (s : String)
  | number (x : Binary64)
  | integer (n : Int)
  | bool (b : Bool)
  | char (c : Char)
  | moment (m : Moment)
  | list (items : List String)
  deriving DecidableEq, Repr

namespace Value

/-- The value as a reader sees it. A moment is shown to the second, a list with commas. -/
def display : Value → String
  | text s => s
  | number x => x.text
  | integer n => toString n
  | bool b => if b then "true" else "false"
  | char c => c.toString
  | moment m => m.text
  | list items => ", ".intercalate items

/-! ## Views -/

/-- The text of a text value. -/
def asText? : Value → Option String
  | text s => some s
  | _ => none

/-- The number of a number value, or the one nearest to an integer value. -/
def asNumber? : Value → Option Binary64
  | number x => some x
  | integer n => some (.ofInt n)
  | _ => none

/-- The integer of an integer value. -/
def asInteger? : Value → Option Int
  | integer n => some n
  | _ => none

/-- The truth value of a boolean value. -/
def asBool? : Value → Option Bool
  | bool b => some b
  | _ => none

/-- The items of a list value. -/
def asList? : Value → Option (List String)
  | list items => some items
  | _ => none

end Value

end Gherkin
