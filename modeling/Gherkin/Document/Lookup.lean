/-
  Gherkin.Document.Lookup

  Finding parts of a document by name, and marking them as called. Of several
  parts with one name the first is meant.
-/
import Gherkin.Document.Feature

namespace Gherkin

/-- The two kinds of section. -/
inductive SectionKind where
  | feature
  | rule
  deriving DecidableEq, Repr

/-- The title of a kind of section. -/
def SectionKind.title : SectionKind → String
  | feature => "Feature"
  | rule => "Rule"

/-- Why a part cannot be had under a name. -/
inductive LookupFault where
  | scenarioNotFound (name : String)
  | outlineNotFound (name : String)
  | ruleNotFound (name : String)
  | backgroundNotFound (kind : SectionKind) (name : String)
  /-- A plain scenario was asked for. -/
  | scenarioIsOutline (name : String)
  /-- An outline was asked for. -/
  | outlineIsScenario (name : String)
  deriving DecidableEq, Repr

/-- The wording of a lookup fault. -/
def LookupFault.message : LookupFault → String
  | scenarioNotFound name => s!"scenario `{name}` does not exist"
  | outlineNotFound name => s!"scenario outline `{name}` does not exist"
  | ruleNotFound name => s!"rule `{name}` does not exist"
  | backgroundNotFound kind name => s!"{kind.title} `{name}` has no Background"
  | scenarioIsOutline name => s!"`{name}` is a Scenario Outline, not a Scenario"
  | outlineIsScenario name => s!"`{name}` is a Scenario, not a Scenario Outline"

/-- The list with its first element that satisfies `p` changed by `f`. -/
def modifyFirst (p : α → Bool) (f : α → α) : List α → List α
  | [] => []
  | x :: xs => if p x then f x :: xs else x :: modifyFirst p f xs

/-! ## Sections -/

namespace Section

/-- The first scenario of a name, plain or not. -/
def named? (part : Section) (name : String) : Option Scenario :=
  part.scenarios.find? (·.name = name)

/-- The first scenario of a name, which must be plain. -/
def scenario (part : Section) (name : String) : Except LookupFault Scenario :=
  match part.named? name with
  | none => .error (.scenarioNotFound name)
  | some found => if found.isOutline then .error (.scenarioIsOutline name) else .ok found

/-- The first scenario of a name, which must be an outline. -/
def outline (part : Section) (name : String) : Except LookupFault Scenario :=
  match part.named? name with
  | none => .error (.outlineNotFound name)
  | some found => if found.isOutline then .ok found else .error (.outlineIsScenario name)

/-- The first scenario of a name, whatever its kind. -/
def anyScenario (part : Section) (name : String) : Except LookupFault Scenario :=
  match part.named? name with
  | none => .error (.scenarioNotFound name)
  | some found => .ok found

/-- The background of a section of the given kind. -/
def requireBackground (kind : SectionKind) (part : Section) : Except LookupFault Background :=
  match part.background with
  | none => .error (.backgroundNotFound kind part.name)
  | some background => .ok background

/-- The section with the first scenario of a name changed by `f`. -/
def modifyNamed (part : Section) (name : String) (f : Scenario → Scenario) : Section :=
  { part with scenarios := modifyFirst (·.name = name) f part.scenarios }

/-- The scenarios that have not been called. -/
def uncalledScenarios (part : Section) : List Scenario :=
  part.scenarios.filter (!·.called)

end Section

/-! ## Features -/

namespace Feature

/-- The first rule of a name. -/
def rule (feature : Feature) (name : String) : Except LookupFault Rule :=
  match feature.rules.find? (·.name = name) with
  | none => .error (.ruleNotFound name)
  | some found => .ok found

/-- The feature with the first rule of a name changed by `f`. -/
def modifyRule (feature : Feature) (name : String) (f : Rule → Rule) : Feature :=
  { feature with rules := modifyFirst (·.name = name) f feature.rules }

/-- The rules that have not been called. -/
def uncalledRules (feature : Feature) : List Rule :=
  feature.rules.filter (!·.called)

end Feature

end Gherkin
