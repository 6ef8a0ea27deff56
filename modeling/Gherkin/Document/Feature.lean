/-
  Gherkin.Document.Feature

  Features and rules. Both are sections: a title, tags, a background and
  scenarios. A rule is a section of a feature, and scenarios belong to the last
  rule once there is one: the active section.
-/
import Gherkin.Document.Scenario

namespace Gherkin

/-! ## Sections -/

/-- What a feature and a rule have in common. -/
structure Section where
  name : String
  keyword : String
  description : List String := []
  tags : TagSet := {}
  background : Option Background := none
  scenarios : List Scenario := []
  line : Nat := 0
  deriving DecidableEq, Repr

/-- The blocks of a section that may be open for steps. -/
inductive Place where
  | background
  /-- The last scenario. -/
  | scenario
  deriving DecidableEq, Repr

namespace Section

/-- The section with a line added to its description. -/
def describe (part : Section) (text : String) : Section :=
  { part with description := part.description ++ [text] }

/-- The section with a scenario added at the end. -/
def addScenario (part : Section) (scenario : Scenario) : Section :=
  { part with scenarios := part.scenarios ++ [scenario] }

/-- The section with its last scenario changed by `f`. -/
def modifyLastScenario (f : Scenario → Scenario) (part : Section) : Section :=
  { part with scenarios := part.scenarios.modify (part.scenarios.length - 1) f }

/-- The block at a place. -/
def block? (part : Section) : Place → Option StepBlock
  | .background => part.background
  | .scenario => part.scenarios.getLast?.map (·.toStepBlock)

/-- The section with the block at a place changed by `f`. -/
def modifyBlock (part : Section) (place : Place) (f : StepBlock → StepBlock) : Section :=
  match place with
  | .background => { part with background := part.background.map f }
  | .scenario => part.modifyLastScenario (·.modifyBlock f)

end Section

/-! ## Rules and features -/

/-- A group of scenarios inside a feature. -/
structure Rule extends Section where
  called : Bool := false
  deriving DecidableEq, Repr

namespace Rule

/-- A rule outside any document. -/
def ofName (name : String) : Rule := { name, keyword := "Rule" }

/-- The rule with its section changed by `f`. -/
def modifySection (f : Section → Section) (rule : Rule) : Rule :=
  { rule with toSection := f rule.toSection }

/-- The rule, marked as called. -/
def markCalled (rule : Rule) : Rule := { rule with called := true }

end Rule

/-- The whole of a document. -/
structure Feature extends Section where
  /-- The code of the language it is written in. -/
  language : String
  rules : List Rule := []
  deriving DecidableEq, Repr

namespace Feature

/-- A feature outside any document. -/
def ofName (name : String) : Feature := { name, keyword := "Feature", language := "en" }

/-- The feature with its own section changed by `f`. -/
def modifySection (f : Section → Section) (feature : Feature) : Feature :=
  { feature with toSection := f feature.toSection }

/-- The feature with a rule added at the end. -/
def addRule (feature : Feature) (rule : Rule) : Feature :=
  { feature with rules := feature.rules ++ [rule] }

/-- The section that new scenarios and backgrounds belong to: the last rule, or the feature
    itself if it has no rules. -/
def active (feature : Feature) : Section :=
  (feature.rules.getLast?.map (·.toSection)).getD feature.toSection

/-- The feature with its active section changed by `f`. -/
def modifyActive (f : Section → Section) (feature : Feature) : Feature :=
  if feature.rules.isEmpty then feature.modifySection f
  else
    { feature with
      rules := feature.rules.modify (feature.rules.length - 1) (·.modifySection f) }

/-- All scenarios, each with its rule: those of the feature, then those of the rules in order. -/
def allScenarios (feature : Feature) : List (Option Rule × Scenario) :=
  feature.scenarios.map (none, ·) ++
    feature.rules.flatMap fun rule => rule.scenarios.map (some rule, ·)

/-- The steps that a scenario runs: those of the feature's background, of its rule's background,
    and its own. -/
def stepsOf (feature : Feature) (rule : Option Rule) (scenario : Scenario) : List Step :=
  (feature.background.map (·.steps)).getD [] ++
    ((rule.bind (·.background)).map (·.steps)).getD [] ++ scenario.steps

end Feature

/-! ## Changes at the end of a list -/

theorem getLast?_modify_length_sub_one (f : α → α) (xs : List α) :
    (xs.modify (xs.length - 1) f).getLast? = xs.getLast?.map f := by
  rcases List.eq_nil_or_concat xs with rfl | ⟨ys, y, rfl⟩
  · rfl
  · simp [List.getLast?_eq_getElem?]

theorem modify_length_append_singleton (f : α → α) (xs : List α) (x : α) :
    (xs ++ [x]).modify xs.length f = xs ++ [f x] := by
  induction xs with
  | nil => rfl
  | cons y ys ih => simpa using ih

theorem Feature.active_modifyActive (f : Section → Section) (feature : Feature) :
    (feature.modifyActive f).active = f feature.active := by
  unfold Feature.modifyActive
  split
  next h => simp_all [Feature.active, Feature.modifySection]
  next h =>
    have hlast : feature.rules.getLast? ≠ none := by simpa using h
    obtain ⟨rule, hrule⟩ := Option.ne_none_iff_exists'.1 hlast
    simp only [Feature.active, getLast?_modify_length_sub_one, hrule, Option.map_some,
      Option.getD_some, Rule.modifySection]

end Gherkin
