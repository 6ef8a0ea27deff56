/-
  Gherkin.Regex.Class

  Classes of characters. A class is a set of characters together with the rules
  it was read by: those of every script, or those of ASCII. Classes that hold
  the same characters by different rules count as different.
-/
import Gherkin.Text.Blank
import Gherkin.Text.Digit
import Gherkin.Text.Folding
import Gherkin.Text.Word

namespace Gherkin

/-- A class of characters. -/
structure CharClass where
  ranges : Text.Ranges
  everyScript : Bool := true
  deriving DecidableEq, Repr

namespace CharClass

/-- Membership in a class. -/
def contains (s : CharClass) (c : Char) : Bool := s.ranges.contains c

/-- The range of one character. -/
def point (c : Char) : Text.Ranges := [(c.toNat, c.toNat)]

/-- The class of one character. -/
def char (c : Char) : CharClass := { ranges := point c }

/-- The class of no character. -/
def none : CharClass := { ranges := [], everyScript := false }

@[simp] theorem contains_char {c d : Char} : (char c).contains d = true ↔ d = c := by
  simp only [contains, char, point, Text.Ranges.contains, Text.Ranges.has, List.any_cons,
    List.any_nil, Bool.or_false, Bool.and_eq_true, decide_eq_true_eq]
  constructor
  · intro h
    exact Char.toNat_inj.1 (Nat.le_antisymm h.2 h.1)
  · rintro rfl
    exact ⟨Nat.le_refl _, Nat.le_refl _⟩

/-! ## ASCII sets -/

/-- The characters from one to another. -/
def range (first last : Char) : Nat × Nat := (first.toNat, last.toNat)

/-- ASCII sets by name. -/
def ascii? (name : String) : Option Text.Ranges :=
  match name with
  | "alnum" => some [range '0' '9', range 'A' 'Z', range 'a' 'z']
  | "alpha" => some [range 'A' 'Z', range 'a' 'z']
  | "ascii" => some [range '\x00' '\x7f']
  | "blank" => some [range '\t' '\t', range ' ' ' ']
  | "cntrl" => some [range '\x00' '\x1f', range '\x7f' '\x7f']
  | "digit" => some [range '0' '9']
  | "graph" => some [range '!' '~']
  | "lower" => some [range 'a' 'z']
  | "print" => some [range ' ' '~']
  | "punct" => some [range '!' '/', range ':' '@', range '[' '\x60', range '\x7b' '~']
  | "space" => some [range '\t' '\r', range ' ' ' ']
  | "upper" => some [range 'A' 'Z']
  | "word" => some [range '0' '9', range 'A' 'Z', range '_' '_', range 'a' 'z']
  | "xdigit" => some [range '0' '9', range 'A' 'F', range 'a' 'f']
  | _ => Option.none

end CharClass

end Gherkin
