/-
  Gherkin.Regex.Syntax

  Reading regular expressions. The reader goes over the text once, sign by
  sign, with a stack of the groups that are open. Flags last to the end of the
  group they are set in, over all alternatives that follow. There is no
  look-around and no back-reference, a group name may be used once, and signs
  are nested to a limited depth.
-/
import Gherkin.Number.Numeral
import Gherkin.Regex.Bracket
import Gherkin.Text.Letter

namespace Gherkin.Regex

/-! ## Open groups -/

/-- A piece of an alternative, and how deep signs are nested in it. A change of flags is a piece
    because it takes part in the nesting and cannot be repeated. -/
structure Piece where
  regex : Option Regex
  depth : Nat := 0

/-- A finished alternative. -/
structure Branch where
  regex : Regex
  depth : Nat

/-- The content of an open group so far: finished alternatives and the pieces of the open one, both
    last one first, and the flags in force. -/
structure Content where
  alternatives : List Branch := []
  pieces : List Piece := []
  flags : Flags := {}

namespace Content

/-- The open alternative. -/
def sequence (content : Content) : Branch where
  regex := seqs (content.pieces.reverse.filterMap (·.regex))
  depth := rowDepth (content.pieces.map (·.depth))

/-- The whole content. -/
def whole (content : Content) : Branch :=
  let all := content.sequence :: content.alternatives
  { regex := alts (all.reverse.map (·.regex)), depth := rowDepth (all.map (·.depth)) }

/-- The content with one more piece. -/
def push (content : Content) (piece : Piece) : Content :=
  { content with pieces := piece :: content.pieces }

end Content

/-- An open group: its index and name if it is capturing, and the content around it. -/
structure OpenGroup where
  label : Option (Nat × Option String)
  content : Content

/-- The state of the reader: the content of the innermost open group, the groups that are open, the
    names used, and the number of capturing groups. -/
structure State where
  content : Content := {}
  outer : List OpenGroup := []
  names : List String := []
  count : Nat := 0

namespace State

/-- The flags in force. -/
def flags (state : State) : Flags := state.content.flags

/-- The state with one more piece in the innermost group. -/
def push (state : State) (r : Regex) (depth : Nat := 0) : State :=
  { state with content := state.content.push { regex := some r, depth } }

/-- The state after a character that stands for itself. -/
def pushChar (state : State) (c : Char) : State :=
  state.push (state.flags.one (state.flags.fold (CharClass.point c)))

/-- The state inside a new group that captures nothing. -/
def openPlain (state : State) (flags : Flags) : State :=
  { state with
    content := { flags }
    outer := ⟨none, state.content⟩ :: state.outer }

/-- The state inside a new capturing group. -/
def openCapture (state : State) (name : Option String) : State :=
  { state with
    content := { flags := state.flags }
    outer := ⟨some (state.count + 1, name), state.content⟩ :: state.outer
    names := name.toList ++ state.names
    count := state.count + 1 }

/-- The state after the innermost group, if there is one. -/
def closeGroup? (state : State) : Option State :=
  match state.outer with
  | [] => none
  | ⟨label, content⟩ :: outer =>
    let inner := state.content.whole
    -- a group that captures nothing leaves no trace but the depth
    let r := match label with
      | some (index, name) => .group index name inner.regex
      | none => inner.regex
    let piece : Piece := { regex := some r, depth := 1 + inner.depth }
    some { state with content := content.push piece, outer }

/-- The state at the start of a new alternative. -/
def alternate (state : State) : State :=
  let content := state.content
  { state with
    content :=
      { content with alternatives := content.sequence :: content.alternatives, pieces := [] } }

/-- The state after a change of flags. -/
def setFlags (state : State) (flags : Flags) : State :=
  { state with content := { state.content.push { regex := none } with flags } }

/-- The state with the last expression repeated, if there is one to repeat. -/
def repeatLast? (state : State) (f : Regex → Regex) : Option State :=
  match state.content.pieces with
  | ⟨some r, depth⟩ :: pieces =>
    let piece : Piece := { regex := some (f r), depth := 1 + depth }
    some { state with content := { state.content with pieces := piece :: pieces } }
  | _ => none

end State

/-! ## Groups -/

/-- Characters that may start a group name. -/
def isNameStart (c : Char) : Bool := c = '_' || Text.isLetter c

/-- Characters that may follow in a group name. -/
def isNamePart (c : Char) : Bool :=
  isNameStart c || Text.isNumeral c || c = '.' || c = '[' || c = ']'

/-- A group name and the sign that closes it. -/
def readName? (s : List Char) : Option (String × List Char) :=
  match s.span (· ≠ '>') with
  | (c :: name, _ :: rest) =>
    if isNameStart c && name.all isNamePart then some (.ofList (c :: name), rest) else none
  | _ => none

/-- Opens a named group, unless the name has been used. -/
def openNamed? (state : State) (s : List Char) : Option (State × List Char) := do
  let (name, rest) ← readName? s
  if state.names.contains name then none
  else return (state.openCapture (some name), rest)

/-- A change of flags, alone or for a group. -/
def readFlags? (state : State) (s : List Char) : Option (State × List Char) :=
  let (letters, rest) := s.span fun c => c ≠ ':' && c ≠ ')'
  let flags := state.flags.change letters
  if Flags.isFlagText letters then
    match rest with
    | ':' :: rest => some (state.openPlain flags, rest)
    -- flags by themselves are a sign only if there are any
    | ')' :: rest => if letters.isEmpty then none else some (state.setFlags flags, rest)
    | _ => none
  else none

/-- What follows an opening parenthesis. -/
def readGroup? (state : State) (s : List Char) : Option (State × List Char) :=
  match state.flags.skip s with
  -- look-around, ahead and behind, is refused
  | '?' :: '=' :: _ => none
  | '?' :: '!' :: _ => none
  | '?' :: '<' :: '=' :: _ => none
  | '?' :: '<' :: '!' :: _ => none
  | '?' :: 'P' :: '<' :: s => openNamed? state s
  | '?' :: '<' :: s => openNamed? state s
  | '?' :: s => readFlags? state s
  | s => some (state.openCapture none, s)

/-! ## Repetition -/

/-- Whether a repetition is greedy, by the sign that may follow it. -/
def readGreed (flags : Flags) : List Char → Bool × List Char
  | '?' :: s => (flags.swapGreed, s)
  | s => (!flags.swapGreed, s)

/-- A count, with blanks around it. -/
def readCount? (flags : Flags) (s : List Char) : Option (Nat × List Char) :=
  let (digits, rest) := flags.span Char.isDigit (Text.dropBlanks s)
  let n := Number.digitsValue digits
  if digits.isEmpty ∨ Number.twoPow 32 ≤ n then none
  else some (n, flags.skip (Text.dropBlanks rest))

/-- How often an expression is repeated, at least and at most. -/
def readCounts? (flags : Flags) (s : List Char) : Option ((Nat × Option Nat) × List Char) := do
  let (least, s) ← readCount? flags (flags.skip s)
  match s with
  | '\x7d' :: rest => return ((least, some least), rest)
  | ',' :: s =>
    match flags.skip s with
    | '\x7d' :: rest => return ((least, none), rest)
    | s =>
      let (most, s) ← readCount? flags s
      match s with
      | '\x7d' :: rest => if least ≤ most then return ((least, some most), rest) else none
      | _ => none
  | _ => none

/-- A repetition of the last expression; a sign of greed may come first in `s`. -/
def readRepeat? (state : State) (least : Nat) (most : Option Nat) (s : List Char) :
    Option (State × List Char) :=
  let (greedy, rest) := readGreed state.flags s
  (state.repeatLast? (times least most greedy)).map fun state => (state, rest)

/-- A repetition by counts in braces, after the opening brace. -/
def readCounted? (state : State) (s : List Char) : Option (State × List Char) := do
  let ((least, most), rest) ← readCounts? state.flags s
  readRepeat? state least most (state.flags.skip rest)

/-! ## Signs -/

/-- The state after an escape. -/
def pushEscaped (state : State) : Escaped → State
  | .char c => state.pushChar c
  | .set s => state.push (state.flags.one s)
  | .look l => state.push (.look l)

/-- Any character, but the end of a line only if the flags say so. -/
def dot (flags : Flags) : Text.Ranges :=
  let newline := CharClass.range '\n' '\n'
  let carriageReturn := CharClass.range '\r' '\r'
  if flags.dotAll then Text.Ranges.complement []
  else if flags.returns then Text.Ranges.complement [newline, carriageReturn]
  else Text.Ranges.complement [newline]

/-- The state after a dot. ASCII has no sets that are negated. -/
def pushDot? (state : State) : Option State :=
  if state.flags.everyScript then some (state.push (state.flags.one (dot state.flags))) else none

/-- The start of the text, or of a line if the flags say so. -/
def startLook (flags : Flags) : Look :=
  if flags.multiLine then .lineStart flags.returns else .textStart

/-- The end of the text, or of a line if the flags say so. -/
def endLook (flags : Flags) : Look :=
  if flags.multiLine then .lineEnd flags.returns else .textEnd

/-- Reads one sign and what belongs to it; a class is read with `fuel`. -/
def sign? (fuel : Nat) (state : State) : List Char → Option (State × List Char)
  | [] => none
  | '(' :: s => readGroup? state s
  | ')' :: s => state.closeGroup?.map fun state => (state, s)
  | '|' :: s => some (state.alternate, s)
  | '[' :: s =>
    (readClass? state.flags fuel s).map fun (found, rest) =>
      (state.push (state.flags.one found.set) found.depth, rest)
  | '?' :: s => readRepeat? state 0 (some 1) s
  | '*' :: s => readRepeat? state 0 none s
  | '+' :: s => readRepeat? state 1 none s
  | '\x7b' :: s => readCounted? state s
  | '\\' :: s =>
    (readEscape? state.flags s).map fun (found, rest) => (pushEscaped state found, rest)
  | '.' :: s => (pushDot? state).map fun state => (state, s)
  | '^' :: s => some (state.push (.look (startLook state.flags)), s)
  | '$' :: s => some (state.push (.look (endLook state.flags)), s)
  | c :: s => some (state.pushChar c, s)

/-- Reads to the end of the text, where no group may be open, at most as many signs as the first
    argument says. Every sign takes a character. -/
def readFrom? : Nat → State → List Char → Option Branch
  | 0, _, _ => none
  | fuel + 1, state, s =>
    match state.flags.skip s with
    | [] => if state.outer.isEmpty then some state.content.whole else none
    | rest =>
      match sign? fuel state rest with
      | none => none
      | some (state, rest) => readFrom? fuel state rest

/-- The greatest depth to which groups, repetitions, rows and brackets may be nested. -/
def depthLimit : Nat := 250

/-- Reads a regular expression. -/
def read? (source : String) : Option Regex := do
  let found ← readFrom? (source.length + 1) {} source.toList
  if found.depth ≤ depthLimit then some found.regex else none

end Gherkin.Regex
