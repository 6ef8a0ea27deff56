/-
  Gherkin.Proofs.Plan.Effective

  The definitions in effect after any declarations. Pools remember nothing but the
  definitions that each scope was given since it was last cleared. Of each keyword
  and pattern the first definition in the most specific scope that has one is in
  effect. So when a scope is cleared those definitions come into effect which it
  alone overrode, and nothing else changes but that its own are gone.
-/
import Gherkin.Proofs.Plan.Overridden
import Mathlib.Data.List.Basic
import Mathlib.Data.List.Induction

namespace Gherkin

/-! ## Histories -/

/-- A change to pools. -/
inductive PoolChange (α : Type u) where
  | add (scope : Scope) (definition : Definition α)
  | clear (scope : Scope)

namespace PoolChange

variable {α : Type u}

end PoolChange

namespace Pools

section Histories

variable {α : Type u}

/-- The pools after a change. -/
def change (pools : Pools α) : PoolChange α → Pools α
  | .add scope definition => pools.add scope definition
  | .clear scope => pools.clear scope

/-- The pools after changes to empty ones. -/
def after (history : List (PoolChange α)) : Pools α := history.foldl change {}

end Histories

/-! ## What is in effect -/

section Effective

variable {α : Type} {pools : Pools α} {scope : Scope} {entry : Entry α}

/-- Whether a scope has a definition with a keyword and pattern. -/
def declares (pools : Pools α) (scope : Scope) (key : StepKeyword × String) : Bool :=
  ((pools.declaredIn scope).map Definition.key).contains key

/-- Whether a scope more specific than another has a definition with a keyword and pattern. -/
def overrides (pools : Pools α) (scope : Scope) (key : StepKeyword × String) : Bool :=
  Scope.all.any fun other => scope.rank < other.rank && pools.declares other key

/-- The definitions of a scope that are in effect: the first of each keyword and pattern that no
    more specific scope has. -/
def inEffect (pools : Pools α) (scope : Scope) : List (Definition α) :=
  (firstOfKey Definition.key [] (pools.declaredIn scope)).filter fun definition =>
    !pools.overrides scope definition.key

/-- The place in its scope at which the keyword and pattern of an entry are declared first. -/
def place (pools : Pools α) (entry : Entry α) : Nat :=
  (pools.declaredIn entry.1).findIdx (·.key == keyOf entry)

end Effective

end Pools

end Gherkin
