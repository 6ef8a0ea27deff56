/-
  Gherkin.Regex.Match

  Matching: the leftmost match, and of those at one place the first in the order
  of choices. A program is run by threads, which go over the text together, one
  place at a time, in order of preference. What was tried once at a place is not
  tried there again, so a run takes time in proportion to the program and the
  text, and a loop that takes no character ends.
-/
import Std.Data.HashSet
import Gherkin.Regex.Program

namespace Gherkin.Regex

/-! ## Places -/

/-- The character right before a place. -/
def charBefore? (text : Array Char) (place : Nat) : Option Char :=
  if place = 0 then none else text[place - 1]?

/-- Word characters, of every script or in ASCII only. -/
def isWordIn (everyScript : Bool) (c : Char) : Bool :=
  if everyScript then Text.isWord c else c.isAlphanum || c = '_'

/-- Whether a condition holds between what stands before and after: a word character or not. -/
def holdsBetween (before after : Bool) : WordLook → Bool
  | .boundary => before != after
  | .noBoundary => before == after
  | .start => !before && after
  | .stop => before && !after
  | .startHalf => !before
  | .stopHalf => !after

/-- Whether a line starts between two characters. A carriage return and the newline after it end
    one line. -/
def startsLine (returns : Bool) (before after : Option Char) : Bool :=
  match before with
  | none => true
  | some '\n' => true
  | some '\r' => returns && after != some '\n'
  | some _ => false

/-- Whether a line ends between two characters. -/
def endsLine (returns : Bool) (before after : Option Char) : Bool :=
  match after with
  | none => true
  | some '\n' => !(returns && before == some '\r')
  | some '\r' => returns
  | some _ => false

/-- Whether a condition holds at a place. -/
def holdsAt (text : Array Char) (place : Nat) : Look → Bool
  | .textStart => place = 0
  | .textEnd => place = text.size
  | .lineStart returns => startsLine returns (charBefore? text place) text[place]?
  | .lineEnd returns => endsLine returns (charBefore? text place) text[place]?
  | .word everyScript l =>
    holdsBetween ((charBefore? text place).any (isWordIn everyScript))
      (text[place]?.any (isWordIn everyScript)) l

/-! ## Threads -/

/-- The marks that a match has left, each with its place, the latest first. -/
abbrev Marks := List (Mark × Nat)

/-- A state of a run at some place: the instruction to go on with, and the marks so far. -/
structure Thread where
  instr : Nat
  marks : Marks := []
  deriving DecidableEq, Repr

/-- A thread that waits for a character of a class, and what it goes on with then. -/
structure Waiting where
  awaited : CharClass
  thread : Thread

/-- What comes of a thread by one instruction. -/
inductive Outcome where
  | accepts
  | waits (waiting : Waiting)
  /-- The threads to go on with at the same place, in order of preference. -/
  | moves (threads : List Thread)

/-- What comes of a thread at a place by an instruction. -/
def Thread.step (text : Array Char) (place : Nat) (thread : Thread) : Instr → Outcome
  | .accept => .accepts
  | .goto next => .moves [{ thread with instr := next }]
  | .take s next => .waits { awaited := s, thread := { thread with instr := next } }
  | .look l next => .moves (if holdsAt text place l then [{ thread with instr := next }] else [])
  | .mark m next => .moves [{ instr := next, marks := (m, place) :: thread.marks }]
  | .fork first second =>
    .moves [{ thread with instr := first }, { thread with instr := second }]

/-! ## Runs -/

/-- What came of the threads at a place: those that wait for a character, in order of preference,
    and the marks of the first that accepts. Threads after that one are given up. -/
structure Settled where
  waiting : List Waiting
  accepted : Option Marks := none

/-- Settles the threads of a stack at a place. An instruction that was tried at this place is not
    tried again, whatever led to it. -/
def settle (program : Program) (text : Array Char) (place : Nat) :
    Nat → Std.HashSet Nat → List Waiting → List Thread → Settled
  | 0, _, waiting, _ => { waiting := waiting.reverse }
  | _ + 1, _, waiting, [] => { waiting := waiting.reverse }
  | fuel + 1, tried, waiting, thread :: stack =>
    if tried.contains thread.instr then settle program text place fuel tried waiting stack
    else
      let tried := tried.insert thread.instr
      match program[thread.instr]?.map (thread.step text place) with
      | none => settle program text place fuel tried waiting stack
      | some .accepts => { waiting := waiting.reverse, accepted := thread.marks }
      | some (.waits w) => settle program text place fuel tried (w :: waiting) stack
      | some (.moves threads) =>
        -- The threads that follow come before those that are left on the stack.
        settle program text place fuel tried waiting (threads ++ stack)

/-- Enough steps to settle some threads: one for each, two for each instruction, and the end. -/
def enoughSteps (program : Program) (threads : List Thread) : Nat :=
  threads.length + 2 * program.size + 1

/-- Runs threads from a place on, with the marks of the best match so far; a match that is found
    later comes from a thread that was preferred. As long as there is no match, one may start at
    each place. -/
def runFrom (program : Program) (text : Array Char) (place : Nat) (best : Option Marks)
    (threads : List Thread) : Option Marks :=
  -- a match that starts here comes after all that started before
  let threads := if best.isNone then threads ++ [{ instr := 0 }] else threads
  if threads.isEmpty then best
  else
    let settled := settle program text place (enoughSteps program threads) {} [] threads
    let best := settled.accepted.or best
    if h : place < text.size then
      let next := settled.waiting.filter (·.awaited.contains text[place])
      runFrom program text (place + 1) best (next.map (·.thread))
    else best
termination_by text.size - place

/-! ## Captures -/

/-- A match in a text, by the marks it has left. -/
structure Captures where
  text : Array Char
  marks : Marks

/-- The leftmost match in a text. -/
def captures? (r : Regex) (text : String) : Option Captures :=
  let text := text.toList.toArray
  (runFrom r.program text 0 none []).map fun marks => { text, marks }

/-- What a group has matched; nothing if it took no part in the match. -/
def Captures.textOf (caps : Captures) (name : String) : String :=
  match caps.marks.lookup (.opens name), caps.marks.lookup (.closes name) with
  | some first, some last => .ofList (caps.text.extract first last).toList
  | _, _ => ""

/-- What the named groups match in a text. -/
def groups? (r : Regex) (names : List String) (text : String) : Option (List String) :=
  (r.captures? text).map fun caps => names.map caps.textOf

end Gherkin.Regex
