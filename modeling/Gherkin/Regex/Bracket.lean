/-
  Gherkin.Regex.Bracket

  Character classes in brackets: characters, ranges, classes by name, and nested
  brackets, joined by `&&`, `--` and `~~`. The reader keeps a stack of the
  brackets that are open. Case is ignored, if it is, before a class is negated
  or joined with another.
-/
import Gherkin.Regex.Escape

namespace Gherkin.Regex

/-! ## Depth -/

/-- How deep things are nested that stand in a row: a row of several is one level by itself. -/
def rowDepth : List Nat → Nat
  | [] => 0
  | [n] => n
  | ns => 1 + ns.foldl max 0

theorem foldl_max_le_iff {ns : List Nat} {a m : Nat} :
    ns.foldl max a ≤ m ↔ a ≤ m ∧ ∀ n ∈ ns, n ≤ m := by
  induction ns generalizing a with
  | nil => simp
  | cons n ns ih => rw [List.foldl_cons, ih, List.forall_mem_cons, Nat.max_le, and_assoc]

theorem rowDepth_le_iff {ns : List Nat} (hlength : 2 ≤ ns.length) {limit : Nat}
    (hlimit : 1 ≤ limit) : rowDepth ns ≤ limit ↔ ∀ n ∈ ns, n + 1 ≤ limit := by
  have hrow : rowDepth ns = 1 + ns.foldl max 0 := by
    match ns with
    | [] => simp at hlength
    | [n] => simp at hlength
    | n :: n' :: ns => rfl
  obtain ⟨limit, rfl⟩ := Nat.exists_eq_add_of_le hlimit
  rw [hrow, Nat.add_le_add_iff_left, foldl_max_le_iff]
  constructor
  · intro h n hn
    have hle := h.2 n hn
    omega
  · intro h
    refine ⟨Nat.zero_le _, fun n hn => ?_⟩
    have hle := h n hn
    omega

/-- A set, and how deep brackets, rows and operations are nested in it. -/
structure ClassItem where
  set : Text.Ranges
  depth : Nat := 0
  deriving DecidableEq, Repr

/-! ## Named classes -/

/-- What stands in brackets for a set: its name, and whether it is negated. -/
def className? (s : List Char) : Option (Text.Ranges × Bool × List Char) := do
  let s ← [':'].isPrefixOf? s
  let (negated, s) := match s with
    | '^' :: s => (true, s)
    | s => (false, s)
  let (name, rest) := s.span (· ≠ ':')
  let rest ← [':', ']'].isPrefixOf? rest
  return (← CharClass.ascii? (.ofList name), negated, rest)

/-! ## Open brackets -/

/-- Operations between parts of a class. -/
inductive ClassOp where
  | inter
  | diff
  | symmDiff
  deriving DecidableEq, Repr

/-- The result of an operation. -/
def ClassOp.apply : ClassOp → Text.Ranges → Text.Ranges → Text.Ranges
  | inter, s, t => Text.Ranges.inter s t
  | diff, s, t => Text.Ranges.diff s t
  | symmDiff, s, t => Text.Ranges.symmDiff s t

/-- An open bracket: whether it is negated, the operation that waits for the items now being
    collected, and those items, last one first. -/
structure Bracket where
  negated : Bool
  pending : Option (ClassItem × ClassOp) := none
  items : List ClassItem := []

namespace Bracket

/-- The class of the items. -/
def collected (bracket : Bracket) : ClassItem where
  set := Text.Ranges.unions (bracket.items.map (·.set))
  depth := rowDepth (bracket.items.map (·.depth))

/-- The class so far. -/
def value (flags : Flags) (bracket : Bracket) : ClassItem :=
  let right := bracket.collected
  match bracket.pending with
  | none => right
  | some (left, op) =>
    { set := op.apply (flags.fold left.set) (flags.fold right.set)
      depth := 1 + max left.depth right.depth }

/-- The bracket with one more item. -/
def push (bracket : Bracket) (item : ClassItem) : Bracket :=
  { bracket with items := item :: bracket.items }

/-- The bracket after an operation sign. -/
def operate (flags : Flags) (bracket : Bracket) (op : ClassOp) : Bracket :=
  { bracket with pending := some (bracket.value flags, op), items := [] }

/-- The class of a bracket that is closed. -/
def close? (flags : Flags) (bracket : Bracket) : Option ClassItem := do
  let item := bracket.value flags
  let set ← flags.negate? bracket.negated (flags.fold item.set)
  return { set, depth := 1 + item.depth }

end Bracket

/-- The start of a bracket, after its opening sign: a sign of negation, then hyphens, or a closing
    bracket, that stand for themselves. -/
def openBracket (flags : Flags) (s : List Char) : Bracket × List Char :=
  let (negated, s) := match flags.skip s with
    | '^' :: s => (true, flags.skip s)
    | s => (false, s)
  match flags.span (· = '-') s with
  -- a closing bracket stands for itself at the very start only, not behind hyphens
  | ([], ']' :: s) => ({ negated, items := [{ set := CharClass.point ']' }] }, s)
  | (hyphens, s) => ({ negated, items := hyphens.map fun c => { set := CharClass.point c } }, s)

/-! ## Items -/

/-- One character or class in a bracket. -/
def readItem? (flags : Flags) : List Char → Option (Escaped × List Char)
  | [] => none
  | '\\' :: s => readEscape? flags s
  | c :: s => some (.char c, s)

/-- Whether a character may stand in a class. -/
def Flags.admits (flags : Flags) (c : Char) : Bool := flags.everyScript || c.toNat < 128

/-- The set of an item; a condition on a place is none. -/
def itemClass? (flags : Flags) : Escaped → Option Text.Ranges
  | .char c => if flags.admits c then some (CharClass.point c) else none
  | .set s => some s
  | .look _ => none

/-- The set from one item to another. -/
def rangeClass? (flags : Flags) : Escaped → Escaped → Option Text.Ranges
  | .char a, .char b =>
    if a ≤ b ∧ flags.admits a ∧ flags.admits b then some [CharClass.range a b] else none
  | _, _ => none

/-- What follows a hyphen that makes a range of the items around it. -/
def rangeSign? (flags : Flags) : List Char → Option (List Char)
  | '-' :: s =>
    -- before another hyphen or the end of the bracket the hyphen is no sign of a range
    match flags.peek? s with
    | some ']' => none
    | some '-' => none
    | _ => some (flags.skip s)
  | _ => none

/-- An item or a range of items. -/
def readRange? (flags : Flags) (s : List Char) : Option (Text.Ranges × List Char) := do
  let (first, rest) ← readItem? flags s
  let rest := flags.skip rest
  match rangeSign? flags rest with
  | some rest =>
    let (last, rest) ← readItem? flags rest
    return (← rangeClass? flags first last, rest)
  | none => return (← itemClass? flags first, rest)

/-! ## Brackets -/

/-- What came of a sign in a bracket. -/
inductive BracketStep where
  | more (bracket : Bracket) (outer : List Bracket)
  | done (item : ClassItem)

/-- Reads one sign inside a bracket that stands in the brackets `outer`. -/
def bracketStep? (flags : Flags) (bracket : Bracket) (outer : List Bracket) :
    List Char → Option (BracketStep × List Char)
  | [] => none
  | '[' :: s =>
    match className? s with
    | some (found, negated, rest) =>
      (flags.negate? negated (flags.fold found)).map fun set =>
        (.more (bracket.push { set }) outer, rest)
    | none =>
      -- no name after all: what was opened is a bracket in the bracket
      let (inner, rest) := openBracket flags s
      some (.more inner (bracket :: outer), rest)
  | ']' :: s =>
    (bracket.close? flags).map fun item =>
      match outer with
      | [] => (.done item, s)
      | parent :: outer => (.more (parent.push item) outer, s)
  | '&' :: '&' :: s => some (.more (bracket.operate flags .inter) outer, s)
  | '-' :: '-' :: s => some (.more (bracket.operate flags .diff) outer, s)
  | '~' :: '~' :: s => some (.more (bracket.operate flags .symmDiff) outer, s)
  | s => (readRange? flags s).map fun (set, rest) => (.more (bracket.push { set }) outer, rest)

/-- Reads up to the end of the outermost bracket, at most as many signs as the first argument says.
    Every sign takes a character. -/
def readBracket? (flags : Flags) :
    Nat → Bracket → List Bracket → List Char → Option (ClassItem × List Char)
  | 0, _, _, _ => none
  | fuel + 1, bracket, outer, s =>
    match bracketStep? flags bracket outer (flags.skip s) with
    | none => none
    | some (.done found, rest) => some (found, rest)
    | some (.more bracket outer, rest) => readBracket? flags fuel bracket outer rest

/-- Reads a class after its opening bracket. -/
def readClass? (flags : Flags) (fuel : Nat) (s : List Char) : Option (ClassItem × List Char) :=
  let (bracket, rest) := openBracket flags s
  readBracket? flags fuel bracket [] rest

end Gherkin.Regex
