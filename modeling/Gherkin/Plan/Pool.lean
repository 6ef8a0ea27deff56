/-
  Gherkin.Plan.Pool

  Step definitions and the pools in which they are declared. A definition in a
  more specific scope overrides those with the same keyword and pattern in
  others, and in one scope the first declaration counts.
-/
import Gherkin.Language.Keyword
import Gherkin.Notice

namespace Gherkin

/-! ## Scopes -/

/-- Where a definition is declared. -/
inductive Scope where
  | global
  | feature
  | rule
  deriving DecidableEq, Repr

namespace Scope

/-- The name of a scope. -/
def name : Scope → String
  | global => "Global"
  | feature => "Feature"
  | rule => "Rule"

/-- Rising with how specific a scope is. -/
def rank : Scope → Nat
  | global => 0
  | feature => 1
  | rule => 2

/-- All scopes, the most specific first. -/
def all : List Scope := [rule, feature, global]

theorem mem_all (scope : Scope) : scope ∈ all := by cases scope <;> simp [all]

end Scope

/-! ## Definitions -/

/-- A keyword and a pattern with what is to be done for the steps they describe. -/
structure Definition (α : Type u) where
  keyword : StepKeyword
  pattern : String
  implementation : α
  deriving DecidableEq, Repr

namespace Definition

/-- What two definitions have in common if one overrides the other. -/
def key (definition : Definition α) : StepKeyword × String :=
  (definition.keyword, definition.pattern)

end Definition

/-! ## Pools -/

/-- The definitions of each scope, in order of declaration. -/
structure Pools (α : Type u) where
  global : List (Definition α) := []
  feature : List (Definition α) := []
  rule : List (Definition α) := []

/-- A definition with the scope in which it is declared. -/
abbrev Entry (α : Type u) := Scope × Definition α

namespace Pools

/-- The definitions of a scope. -/
def declaredIn (pools : Pools α) : Scope → List (Definition α)
  | .global => pools.global
  | .feature => pools.feature
  | .rule => pools.rule

/-- The pools with the definitions of a scope changed by `f`. -/
def modify (pools : Pools α) (scope : Scope) (f : List (Definition α) → List (Definition α)) :
    Pools α :=
  match scope with
  | .global => { pools with global := f pools.global }
  | .feature => { pools with feature := f pools.feature }
  | .rule => { pools with rule := f pools.rule }

/-- Declares a definition. -/
def add (pools : Pools α) (scope : Scope) (definition : Definition α) : Pools α :=
  pools.modify scope (· ++ [definition])

/-- Forgets the definitions of a scope. -/
def clear (pools : Pools α) (scope : Scope) : Pools α := pools.modify scope fun _ => []

/-- All definitions, those of the most specific scope first. -/
def declared (pools : Pools α) : List (Entry α) :=
  Scope.all.flatMap fun scope => (pools.declaredIn scope).map (scope, ·)

/-- The entries whose keyword and pattern are not among `seen` and not those of an entry before;
    of each other one it is noted that it is overridden. -/
def notOverridden (seen : List (StepKeyword × String)) : List (Entry α) → Noted (List (Entry α))
  | [] => pure []
  | (scope, definition) :: entries =>
    if seen.contains definition.key then do
      Noted.say (.stepOverridden scope.name definition.keyword.name definition.pattern)
      notOverridden seen entries
    else do
      return (scope, definition) :: (← notOverridden (definition.key :: seen) entries)

/-- The definitions in effect: each keyword and pattern once, from the most specific scope that
    has it and there from its first declaration. -/
def effective (pools : Pools α) : Noted (List (Entry α)) := notOverridden [] pools.declared

end Pools

end Gherkin
