/-
  Gherkin.Regex.Program

  Regular expressions as programs. The instructions of an expression stand in a
  row: those from `start` on lead, when the expression has matched, to the
  instruction at `next`. A fork prefers its first branch, and so the order of
  forks is the order of choices.

  A repetition without bound goes back to the start of its last copy; one with
  bounds has a copy for every time. A loop of no or more rounds leaves by the
  fork it is entered by, if a round always takes a character; else it is a loop
  of one or more rounds that may be left out. The main statement says that an
  expression takes up as many instructions as its size.
-/
import Gherkin.Regex.Basic

namespace Gherkin.Regex

/-! ## Instructions -/

/-- Marks that a match leaves on its way: where a named group starts and where it ends. -/
inductive Mark where
  | opens (name : String)
  | closes (name : String)
  deriving DecidableEq, Repr

/-- Instructions, with the places of those to go on with. -/
inductive Instr where
  | accept
  | goto (next : Nat)
  /-- Takes one character of a class. -/
  | take (s : CharClass) (next : Nat)
  /-- Goes on where a condition holds. -/
  | look (l : Look) (next : Nat)
  | mark (m : Mark) (next : Nat)
  /-- Goes on with the first, or else with the second. -/
  | fork (first second : Nat)
  deriving DecidableEq, Repr

/-- A fork between going on and leaving; a greedy one prefers to go on. -/
def prefer (greedy : Bool) (goOn leave : Nat) : Instr :=
  if greedy then .fork goOn leave else .fork leave goOn

/-! ## Code -/

/-- Instructions as a function of their own place and that of what follows. -/
abbrev Code := Nat → Nat → List Instr

/-- `n` copies one after the other, each of which takes up `size` instructions. -/
def copies (size : Nat) (body : Code) (n : Nat) : Code := fun start next =>
  (List.range n).flatMap (fun i => body (start + i * size) (start + (i + 1) * size)) ++
    [.goto next]

/-- At most `n` copies, each of which can be left out together with those after it. -/
def optionals (greedy : Bool) (size : Nat) (body : Code) (n : Nat) : Code := fun start next =>
  (List.range n).flatMap (fun i =>
    let place := start + i * (size + 1)
    prefer greedy (place + 1) next :: body (place + 1) (place + 1 + size)) ++ [.goto next]

/-- One or more rounds. -/
def loop (greedy : Bool) (size : Nat) (body : Code) : Code := fun start next =>
  body start (start + size) ++ [prefer greedy start next]

/-- One instruction for each character. -/
def takes (s : List Char) : Code := fun start next =>
  s.mapIdx (fun i c => .take (.char c) (start + i + 1)) ++ [.goto next]

/-- The number of instructions of an expression. -/
def size : Regex → Nat
  | empty => 1
  | text s => s.length + 1
  | one _ => 1
  | look _ => 1
  | group _ none r => r.size
  | group _ (some _) r => r.size + 2
  | seq r₁ r₂ => r₁.size + r₂.size
  | alt r₁ r₂ => 1 + (r₁.size + r₂.size)
  | rep least (some most) _ r => (least * r.size + 1) + ((most - least) * (r.size + 1) + 1)
  | rep 0 none _ r => if r.takesSome then 1 + r.size else 1 + (r.size + 1)
  | rep (least + 1) none _ r => (least * r.size + 1) + (r.size + 1)

/-- The instructions of an expression. -/
def code : Regex → Code
  | empty, _, next => [.goto next]
  | text s, start, next => takes s start next
  | one s, _, next => [.take s next]
  | look l, _, next => [.look l next]
  | group _ none r, start, next => r.code start next
  | group _ (some name) r, start, next =>
    let close := start + 1 + r.size
    .mark (.opens name) (start + 1) :: (r.code (start + 1) close ++ [.mark (.closes name) next])
  | seq r₁ r₂, start, next =>
    let second := start + r₁.size
    r₁.code start second ++ r₂.code second next
  | alt r₁ r₂, start, next =>
    let second := start + 1 + r₁.size
    .fork (start + 1) second :: (r₁.code (start + 1) next ++ r₂.code second next)
  | rep least (some most) greedy r, start, next =>
    let second := start + (least * r.size + 1)
    copies r.size r.code least start second ++
      optionals greedy r.size r.code (most - least) second next
  | rep 0 none greedy r, start, next =>
    prefer greedy (start + 1) next ::
      -- a round that takes a character goes back to the fork it came from
      if r.takesSome then r.code (start + 1) start
      else loop greedy r.size r.code (start + 1) next
  | rep (least + 1) none greedy r, start, next =>
    let second := start + (least * r.size + 1)
    copies r.size r.code least start second ++ loop greedy r.size r.code second next

/-! ## Lengths -/

theorem length_flatMap_range {f : Nat → List α} {m : Nat} (h : ∀ i, (f i).length = m) (n : Nat) :
    ((List.range n).flatMap f).length = n * m := by
  induction n with
  | zero => simp
  | succ n ih => simp [List.range_succ, ih, h, Nat.succ_mul]

theorem length_copies {body : Code} {m : Nat} (h : ∀ s t, (body s t).length = m)
    (n start next : Nat) : (copies m body n start next).length = n * m + 1 := by
  simp only [copies, List.length_append, List.length_singleton]
  rw [length_flatMap_range fun i => h _ _]

theorem length_optionals {body : Code} {m : Nat} (h : ∀ s t, (body s t).length = m)
    (greedy : Bool) (n start next : Nat) :
    (optionals greedy m body n start next).length = n * (m + 1) + 1 := by
  simp only [optionals, List.length_append, List.length_singleton]
  rw [length_flatMap_range fun i => congrArg (· + 1) (h _ _)]

/-- The code of an expression has its size, wherever it stands. -/
theorem length_code (r : Regex) (start next : Nat) : (r.code start next).length = r.size := by
  induction r generalizing start next with
  | empty => rfl
  | text s => simp [code, size, takes]
  | one _ => rfl
  | look _ => rfl
  | group index name r ih =>
    cases name <;> simp [code, size, ih]
  | seq r₁ r₂ ih₁ ih₂ => simp [code, size, ih₁, ih₂]
  | alt r₁ r₂ ih₁ ih₂ => simp [code, size, ih₁, ih₂]; omega
  | rep least most greedy r ih =>
    cases most with
    | some most =>
      simp only [code, size, List.length_append, length_copies ih, length_optionals ih]
    | none =>
      cases least with
      | zero =>
        simp only [code, size, List.length_cons]
        split <;> simp [loop, ih] <;> omega
      | succ least => simp [code, size, loop, ih, length_copies ih]

/-! ## Programs -/

/-- A program starts with its first instruction. -/
abbrev Program := Array Instr

/-- The program of an expression. -/
def program (r : Regex) : Program := (r.code 0 r.size ++ [Instr.accept]).toArray

end Gherkin.Regex
