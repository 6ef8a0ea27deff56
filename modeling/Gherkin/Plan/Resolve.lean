/-
  Gherkin.Plan.Resolve

  Binding steps to definitions. Inline definitions come first, each for one
  step: those whose pattern is the very text of a step, then the others by
  matching. What is still free is bound from the pools, to the best definition
  that covers the step: by scope, then by how specific its expression is, then by
  order of declaration.
-/
import Gherkin.Expression.Registry
import Gherkin.Plan.Basic

namespace Gherkin

/-- Work that binds steps: it makes expressions, may raise notices and may fail. -/
abbrev Planning := ExceptT PlanFault Compiling

namespace Planning

/-- The expression for a pattern, which must be readable. -/
def compile (pattern : String) : Planning Expression := do
  match ← (Registry.compile pattern : Compiling _) with
  | some e => return e
  | none => throw (.expression .unreadable)

/-- Raises one notice. -/
def say (notice : Notice) : Planning Unit := liftM (liftM (Noted.say notice) : Compiling Unit)

end Planning

/-! ## Inline definitions -/

/-- The slots with the first one that `bind?` binds bound so; none if it binds no slot. -/
def bindFirst? (bind? : Slot α → Option (Slot α)) : List (Slot α) → Option (List (Slot α))
  | [] => none
  | slot :: slots =>
    match bind? slot with
    | some bound => some (bound :: slots)
    | none => (bindFirst? bind? slots).map (slot :: ·)

/-- Binds a free slot to an inline definition whose pattern is the very text of the step. -/
def Slot.bindLiteral? (definition : Definition α) (slot : Slot α) : Option (Slot α) :=
  if slot.isFree && slot.answers definition && slot.step.details = definition.pattern then
    some (slot.bind { definition, origin := .inline, values := [] })
  else
    none

/-- Binds a free slot to an inline definition whose expression matches the text of the step. -/
def Slot.bindMatching? (definition : Definition α) (e : Expression) (slot : Slot α) :
    Option (Slot α) :=
  if slot.isFree && slot.answers definition then
    match e.captures slot.step.details with
    | .ok values => some (slot.bind { definition, origin := .inline, values })
    | .error _ => none
  else
    none

/-- Binds the inline definitions that are the very text of a step, in order, each to the first
    free step; the others are left over. -/
def bindLiterals (slots : List (Slot α)) :
    List (Definition α) → List (Slot α) × List (Definition α)
  | [] => (slots, [])
  | definition :: inline =>
    match bindFirst? (Slot.bindLiteral? definition) slots with
    | some slots => bindLiterals slots inline
    | none =>
      let (slots, pending) := bindLiterals slots inline
      (slots, definition :: pending)

/-- Binds the inline definitions that are left over, in order, each to the first free step that
    its expression matches; every one must find a step. -/
def bindPending (slots : List (Slot α)) : List (Definition α) → Planning (List (Slot α))
  | [] => return slots
  | definition :: pending => do
    let e ← Planning.compile definition.pattern
    match bindFirst? (Slot.bindMatching? definition e) slots with
    | some slots => bindPending slots pending
    | none => throw (.unknownInline definition.keyword definition.pattern)

/-! ## Pools -/

/-- A definition of a pool that covers a step. -/
structure Candidate (α : Type u) where
  scope : Scope
  specificity : Specificity
  definition : Definition α
  values : List Value

namespace Candidate

/-- Whether a candidate is strictly better than another: in a more specific scope, or in the same
    with a more specific expression. -/
def isBetter (a b : Candidate α) : Bool :=
  b.scope.rank < a.scope.rank ||
    (a.scope.rank = b.scope.rank && (a.specificity.compare b.specificity).isGT)

end Candidate

/-- A definition in effect with its expression. -/
structure PoolEntry (α : Type u) where
  scope : Scope
  definition : Definition α
  expression : Expression

/-- The candidate that an entry is for a step, if it answers and covers it. -/
def PoolEntry.candidate? (slot : Slot α) (entry : PoolEntry α) : Option (Candidate α) :=
  if slot.answers entry.definition then
    match entry.expression.captures slot.step.details with
    | .ok values =>
      some { scope := entry.scope, specificity := entry.expression.specificity
             definition := entry.definition, values }
    | .error _ => none
  else
    none

/-- Binds a slot, if it is free, to the best definition of a pool that covers its step. -/
def Slot.bindBest (pool : List (PoolEntry α)) (slot : Slot α) : Slot α :=
  if slot.isFree then
    match firstBest Candidate.isBetter (pool.filterMap (PoolEntry.candidate? slot)) with
    | some best =>
      slot.bind
        { definition := best.definition, origin := .predefined best.scope, values := best.values }
    | none => slot
  else
    slot

/-- The entries with their expressions. -/
def compileEntries : List (Entry α) → Planning (List (PoolEntry α))
  | [] => return []
  | (scope, definition) :: entries => do
    let expression ← Planning.compile definition.pattern
    return { scope, definition, expression } :: (← compileEntries entries)

/-! ## Plans -/

/-- Binds steps to inline definitions and to those of the pools. -/
def Plan.resolve (steps : List Step) (inline : List (Definition α)) (pools : Pools α) :
    Planning (Plan α) := do
  let (slots, pending) := bindLiterals (slotsOf steps) inline
  let slots ← bindPending slots pending
  let entries ← (liftM (liftM pools.effective : Compiling (List (Entry α))) : Planning _)
  -- the whole pool is compiled, whether or not a step is left for it
  let pool ← compileEntries entries
  let plan := Plan.ofSlots (slots.map (Slot.bindBest pool))
  if !plan.isComplete then
    Planning.say (.stepsUnresolved plan.unresolved.length)
  return plan

end Gherkin
