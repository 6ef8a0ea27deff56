/-
  Gherkin.Plan.Basic

  Plans: the steps of a scenario, each bound to a definition where there is one
  for it. A step answers to its own keyword and to the primary keyword that it
  carries on.
-/
import Gherkin.Document.Step
import Gherkin.Expression.Fault
import Gherkin.Plan.Pool

namespace Gherkin

/-! ## Bindings -/

/-- Where the definition of a binding comes from. -/
inductive Origin where
  /-- It is given along with the steps. -/
  | inline
  | predefined (scope : Scope)
  deriving DecidableEq, Repr

/-- The name of an origin. -/
def Origin.name : Origin → String
  | inline => "Inline"
  | predefined scope => s!"Predefined({scope.name})"

/-- What a step is bound to, with the values that the pattern of the definition takes from it. -/
structure Match (α : Type u) where
  definition : Definition α
  origin : Origin
  values : List Value

/-- A step with its place in the sequence and the primary keyword that it has or carries on. -/
structure Slot (α : Type u) where
  index : Nat
  step : Step
  primary : StepKeyword
  binding : Option (Match α) := none

namespace Slot

/-- Whether the step is not bound yet. -/
def isFree (slot : Slot α) : Bool := slot.binding.isNone

/-- Whether a definition is written for the keyword of the step or its primary keyword. -/
def answers (slot : Slot α) (definition : Definition α) : Bool :=
  definition.keyword = slot.step.keyword || definition.keyword = slot.primary

/-- The slot with its step bound. -/
def bind (slot : Slot α) (found : Match α) : Slot α := { slot with binding := some found }

end Slot

/-- The slots of steps, all free. -/
def slotsOf (steps : List Step) : List (Slot α) :=
  (steps.zipIdx.zip (StepKeyword.resolveAll none (steps.map (·.keyword)))).map
    fun ((step, index), primary) => { index, step, primary }

@[simp] theorem length_slotsOf (steps : List Step) :
    (slotsOf steps : List (Slot α)).length = steps.length := by
  simp [slotsOf]

/-! ## Plans -/

/-- A step with its place and what it is bound to. -/
structure Binding (α : Type u) extends Match α where
  index : Nat
  step : Step

/-- The bound steps and the others, each in order. -/
structure Plan (α : Type u) where
  bindings : List (Binding α)
  unresolved : List Step

/-- Why steps cannot be bound. -/
inductive PlanFault where
  /-- An inline definition for which no free step is left. -/
  | unknownInline (keyword : StepKeyword) (pattern : String)
  /-- Steps, by their titles, without a definition. -/
  | unresolved (titles : List String)
  | expression (fault : ExpressionFault)
  deriving DecidableEq, Repr

/-- The wording of a fault. -/
def PlanFault.message : PlanFault → String
  | unknownInline keyword pattern =>
    s!"inline step `{keyword.name} {pattern}` does not match any step"
  | unresolved titles => "no implementation found for: " ++ ", ".intercalate titles
  | expression fault => fault.message

namespace Plan

/-- The plan that slots amount to. -/
def ofSlots (slots : List (Slot α)) : Plan α where
  bindings := slots.filterMap fun slot =>
    slot.binding.map fun found => { found with index := slot.index, step := slot.step }
  unresolved := (slots.filter Slot.isFree).map (·.step)

/-- Whether every step is bound. -/
def isComplete (plan : Plan α) : Bool := plan.unresolved.isEmpty

/-- The bindings of a plan in which every step is bound. -/
def requireComplete (plan : Plan α) : Except PlanFault (List (Binding α)) :=
  if plan.isComplete then .ok plan.bindings
  else .error (.unresolved (plan.unresolved.map Step.title))

end Plan

end Gherkin
