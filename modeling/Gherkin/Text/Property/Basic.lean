/-
  Gherkin.Text.Property.Basic

  Sets of characters that go by a name. Names are compared loosely: case, the
  signs between their words and the word `is` in front do not count.
-/
import Gherkin.Text.Ranges

namespace Gherkin.Text

/-! ## Runs -/

/-- The code points `first`, `first + step`, …, `last`. -/
structure Run where
  first : Nat
  last : Nat
  step : Nat

/-- The ranges of a run: one, if no code point is passed over. -/
def Run.ranges (run : Run) : Ranges :=
  if run.step = 1 then [(run.first, run.last)]
  else
    (List.range ((run.last - run.first) / run.step + 1)).map fun i =>
      (run.first + i * run.step, run.first + i * run.step)

/-- The set of some runs. -/
def Ranges.ofRuns (runs : List Run) : Ranges := runs.flatMap Run.ranges

example : Ranges.ofRuns [⟨0x41, 0x5a, 1⟩, ⟨0x100, 0x104, 2⟩] =
    [(0x41, 0x5a), (0x100, 0x100), (0x102, 0x102), (0x104, 0x104)] := by
  decide

/-! ## Names -/

/-- The characters of a name that count: those of ASCII without the signs between words, in small
    letters. -/
def nameLetters (name : List Char) : List Char :=
  (name.filter fun c => c.toNat < 128 && c != ' ' && c != '_' && c != '-').map Char.toLower

/-- What counts of a name. The word `is` in front does not, but in the name of the property
    ISO_Comment, which is `isc` for short, it is no word. -/
def looseName (name : List Char) : List Char :=
  if (name.take 2).map Char.toLower = ['i', 's'] then
    let letters := nameLetters (name.drop 2)
    if letters = ['c'] then ['i', 's', 'c'] else letters
  else nameLetters name

example : looseName "Is_White-Space".toList = "whitespace".toList := by decide

/-- A set of characters and the names it goes by. -/
structure NamedSet where
  names : List String
  ranges : Ranges

/-- Whether one of some names is a name, loosely. -/
def anyNamed (names : List String) (name : List Char) : Bool :=
  names.any fun known => looseName known.toList == looseName name

/-- Whether the set goes by a name. -/
def NamedSet.goesBy (set : NamedSet) (name : List Char) : Bool := anyNamed set.names name

/-- The set that goes by a name. -/
def findNamed? (sets : List NamedSet) (name : List Char) : Option Ranges :=
  (sets.find? (·.goesBy name)).map (·.ranges)

end Gherkin.Text
