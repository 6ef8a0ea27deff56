/-
  Gherkin.Regex.Basic

  Regular expressions as trees. Named groups record what they match; choices are
  ordered, so a greedy repetition is one that tries to go on first.

  Sequences and choices are kept flat, and a choice whose branches all start
  alike is written as the common start before the choice of what follows. The
  common start is then matched in its own order of preference, before any branch
  is tried. Whether branches start alike is seen when texts that meet are joined
  and classes are sets, however they were written.
-/
import Gherkin.Regex.Class

namespace Gherkin

/-- Conditions on the word characters around a place. -/
inductive WordLook where
  | boundary
  | noBoundary
  | start
  | stop
  /-- No word character before. -/
  | startHalf
  /-- No word character after. -/
  | stopHalf
  deriving DecidableEq, Repr

/-- Conditions on a place in the text. -/
inductive Look where
  | textStart
  | textEnd
  /-- The start of a line; a carriage return may end lines too. -/
  | lineStart (returns : Bool)
  /-- The end of a line; a carriage return may end lines too. -/
  | lineEnd (returns : Bool)
  /-- A condition on word characters, of every script or in ASCII only. -/
  | word (everyScript : Bool) (l : WordLook)
  deriving DecidableEq, Repr

/-- A regular expression. -/
inductive Regex where
  | empty
  /-- Characters one after the other. -/
  | text (s : List Char)
  /-- One character of a class. -/
  | one (s : CharClass)
  | look (l : Look)
  /-- A group; one with a name records what it matches. -/
  | group (index : Nat) (name : Option String) (r : Regex)
  | seq (r₁ r₂ : Regex)
  /-- The first, or else the second. -/
  | alt (r₁ r₂ : Regex)
  /-- From `least` to `most` times, without an upper bound if there is no `most`. -/
  | rep (least : Nat) (most : Option Nat) (greedy : Bool) (r : Regex)
  deriving DecidableEq, Repr

namespace Regex

/-! ## Classes -/

/-- One character of a class; a class of one character is a text. -/
def ofClass (s : CharClass) : Regex :=
  match s.ranges with
  | [] => one .none
  | [(first, last)] => if first = last then text [Char.ofNat first] else one s
  | _ => one s

/-! ## Sequences -/

/-- The parts of a sequence. -/
def parts : Regex → List Regex
  | empty => []
  | seq r₁ r₂ => r₁.parts ++ r₂.parts
  | r => [r]

/-- Some parts with one more in front. Texts that meet are joined. -/
def pushPart : Regex → List Regex → List Regex
  | text s, text t :: rest => text (s ++ t) :: rest
  | r, rest => r :: rest

/-- The sequence of some parts. -/
def ofParts : List Regex → Regex
  | [] => empty
  | [r] => r
  | r :: rs => seq r (ofParts rs)

/-- One expression after the other. -/
def seqs (rs : List Regex) : Regex := ofParts ((rs.flatMap parts).foldr pushPart [])

/-! ## Choices -/

/-- The branches of a choice. -/
def branches : Regex → List Regex
  | alt r₁ r₂ => r₁.branches ++ r₂.branches
  | r => [r]

/-- The choice between some branches. -/
def ofBranches : List Regex → Regex
  | [] => one .none
  | [r] => r
  | r :: rs => alt r (ofBranches rs)

/-- The set of a text of one character. -/
def letter? : Regex → Option Text.Ranges
  | text [c] => some (CharClass.point c)
  | _ => none

/-- The set of a class. -/
def set? : Regex → Option Text.Ranges
  | one s => some s.ranges
  | _ => none

/-- The class that a choice comes to, if its branches are all single characters or all classes. -/
def choiceClass? (rs : List Regex) : Option CharClass :=
  ((rs.mapM letter?).or (rs.mapM set?)).map fun sets => { ranges := Text.Ranges.unions sets }

/-- The longest list that two lists start with. -/
def commonStart [DecidableEq α] : List α → List α → List α
  | a :: as, b :: bs => if a = b then a :: commonStart as bs else []
  | _, _ => []

/-- The parts that all branches start with, if each has at least two parts. -/
def sharedParts (rs : List Regex) : List Regex :=
  match rs.map parts with
  | [] => []
  | ps :: pss => if (ps :: pss).all (2 ≤ ·.length) then pss.foldl commonStart ps else []

/-- A choice without the `n` first parts of its branches. What is left of branches that have no
    more parts in common is not looked at again for a common start. -/
def ofRests (n : Nat) (rs : List Regex) : Regex :=
  -- a rest may be a choice by itself, whose branches are then among the others
  let rests := (rs.map fun r => ofParts (r.parts.drop n)).flatMap branches
  match choiceClass? rests with
  | some s => ofClass s
  | none => ofBranches rests

/-- The choice between several branches that are no choices themselves. -/
def choice (rs : List Regex) : Regex :=
  match choiceClass? rs with
  | some s => ofClass s
  | none =>
    let shared := sharedParts rs
    if shared.isEmpty then ofBranches rs else seqs (shared ++ [ofRests shared.length rs])

/-- The first of several expressions that leads to a match. -/
def alts (rs : List Regex) : Regex :=
  match rs.flatMap branches with
  | [r] => r
  | rs => choice rs

example (b c : Char) (s : CharClass) :
    alts [seq (one s) (look (.word true .start)), seq (one s) (text [b, c])] =
      seq (one s) (alt (look (.word true .start)) (text [b, c])) := by
  simp [alts, choice, choiceClass?, letter?, set?, branches, sharedParts, parts, commonStart,
    ofRests, seqs, pushPart, ofParts, ofBranches]

/-! ## Repetitions -/

/-- Whether an expression never takes a character. -/
def takesNone : Regex → Bool
  | empty => true
  | text _ => false
  | one _ => false
  | look _ => true
  | group _ _ r => r.takesNone
  | seq r₁ r₂ => r₁.takesNone && r₂.takesNone
  | alt r₁ r₂ => r₁.takesNone && r₂.takesNone
  | rep _ _ _ r => r.takesNone

/-- An expression from `least` to `most` times. What takes no character is not needed twice. -/
def times (least : Nat) (most : Option Nat) (greedy : Bool) (r : Regex) : Regex :=
  let (least, most) :=
    if r.takesNone then (min least 1, some (min (most.getD 1) 1)) else (least, most)
  if most = some 0 then empty
  else if least = 1 ∧ most = some 1 then r
  else rep least most greedy r

example (r : Regex) : times 0 (some 0) true r = empty := by
  cases h : r.takesNone <;> simp [times, h]

/-- The least number of characters that an expression takes; none if a part of it, which a match
    may or may not need, cannot match at all. -/
def leastLength? : Regex → Option Nat
  | empty => some 0
  | text s => some s.length
  | one s => if s.ranges.isEmpty then none else some 1
  | look _ => some 0
  | group _ _ r => r.leastLength?
  | seq r₁ r₂ => do return (← r₁.leastLength?) + (← r₂.leastLength?)
  | alt r₁ r₂ => do return min (← r₁.leastLength?) (← r₂.leastLength?)
  | rep least _ _ r => r.leastLength?.map (least * ·)

/-- Whether an expression is seen to take a character whenever it matches. -/
def takesSome (r : Regex) : Bool := r.leastLength?.any (0 < ·)

end Regex

end Gherkin
