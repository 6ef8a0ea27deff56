/-
  Gherkin.Reader.Cursor

  Where a reader stands, as indices into the document read so far. The indices
  follow from the document: the active rule is the last one, and the open
  scenario is the last one of the active section.
-/
import Gherkin.Reader.Basic

namespace Gherkin

/-- The block that steps go to. -/
inductive Container where
  | featureBackground
  | ruleBackground
  /-- The scenario of the active section at an index. -/
  | scenario (index : Nat)
  deriving DecidableEq, Repr

namespace Reader

/-- The index of the feature: there is at most one. -/
def featureIndex? (reader : Reader) : Option Nat := reader.feature.map fun _ => 0

/-- The index of the active rule. -/
def ruleIndex? (reader : Reader) : Option Nat := do
  let feature ← reader.feature
  if feature.rules.isEmpty then none else some (feature.rules.length - 1)

/-- The index of the last scenario of the active section. -/
def lastScenarioIndex (reader : Reader) : Nat :=
  (reader.feature.map fun feature => feature.active.scenarios.length - 1).getD 0

/-- The open block. -/
def container? (reader : Reader) : Option Container :=
  reader.place.map fun
    | .background => if reader.ruleIndex?.isSome then .ruleBackground else .featureBackground
    | .scenario => .scenario reader.lastScenarioIndex

end Reader

end Gherkin
