/-
  Gherkin.Regex.Flags

  Flags change how the rest of a group is read. In verbose notation blanks and
  comments, from a number sign to the end of the line, are passed over, also
  between the characters of a sign.
-/
import Gherkin.Text.Blank

namespace Gherkin.Regex

/-- The flags in force. -/
structure Flags where
  ignoreCase : Bool := false
  multiLine : Bool := false
  dotAll : Bool := false
  swapGreed : Bool := false
  verbose : Bool := false
  /-- Classes and case variants are those of every script, not of ASCII only. -/
  everyScript : Bool := true
  /-- A carriage return ends a line too. -/
  returns : Bool := false
  deriving DecidableEq, Repr

namespace Flags

/-- The flags with the one of a letter switched. -/
def switch (flags : Flags) (value : Bool) (letter : Char) : Flags :=
  match letter with
  | 'i' => { flags with ignoreCase := value }
  | 'm' => { flags with multiLine := value }
  | 's' => { flags with dotAll := value }
  | 'U' => { flags with swapGreed := value }
  | 'x' => { flags with verbose := value }
  | 'u' => { flags with everyScript := value }
  | 'R' => { flags with returns := value }
  | _ => flags

/-- The letters of flags, and the hyphen that starts those to switch off. -/
def letters : List Char := ['i', 'm', 's', 'U', 'u', 'x', 'R', '-']

/-- Whether a text between a question mark and a colon or parenthesis names flags. -/
def isFlagText (s : List Char) : Bool :=
  s.all letters.contains && s.eraseDups == s && s.getLast? != some '-'

/-- The flags after a change: letters before a hyphen are switched on, those after it off. -/
def change (flags : Flags) (s : List Char) : Flags :=
  let (on, off) := s.span (· ≠ '-')
  off.foldl (switch · false) (on.foldl (switch · true) flags)

end Flags

/-! ## Verbose notation -/

/-- Passes over blanks and comments; `comment` tells whether one is open. -/
def skipVerbose (comment : Bool) : List Char → List Char
  | [] => []
  | c :: s =>
    if comment then skipVerbose (c ≠ '\n') s
    else if Text.isBlank c then skipVerbose false s
    else if c = '#' then skipVerbose true s
    else c :: s

theorem length_skipVerbose_le (comment : Bool) (s : List Char) :
    (skipVerbose comment s).length ≤ s.length := by
  fun_induction skipVerbose comment s with
  | case1 => exact Nat.le_refl _
  | case2 c s ih => exact Nat.le_succ_of_le ih
  | case3 comment c s _ _ ih => exact Nat.le_succ_of_le ih
  | case4 comment s _ _ ih => exact Nat.le_succ_of_le ih
  | case5 => exact Nat.le_refl _

namespace Flags

/-- Passes over what the flags say does not count. -/
def skip (flags : Flags) (s : List Char) : List Char :=
  if flags.verbose then skipVerbose false s else s

theorem length_skip_le (flags : Flags) (s : List Char) : (flags.skip s).length ≤ s.length := by
  unfold skip
  split
  · exact length_skipVerbose_le false s
  · exact Nat.le_refl _

/-- The leading characters that satisfy `p`, without what does not count after each of them, and
    the rest. -/
def span (flags : Flags) (p : Char → Bool) : List Char → List Char × List Char
  | [] => ([], [])
  | c :: s =>
    if p c then
      have := flags.length_skip_le s
      let (taken, rest) := flags.span p (flags.skip s)
      (c :: taken, rest)
    else ([], c :: s)
termination_by s => s.length

/-- The character that decides what a hyphen before `s` means: in verbose notation the first one
    that is no blank, a first number sign passed over. -/
def peek? (flags : Flags) (s : List Char) : Option Char :=
  if flags.verbose then
    let seen := match Text.dropBlanks s with
      | '#' :: t => Text.dropBlanks t
      | t => t
    seen.head?.or s.head?
  else s.head?

end Flags

end Gherkin.Regex
