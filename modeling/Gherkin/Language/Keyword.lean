/-
  Gherkin.Language.Keyword

  The keywords of Gherkin by their role, apart from how a language spells them:
  header keywords open a part of a document, step keywords open a step.
-/
import Gherkin.Text.Blank

namespace Gherkin

/-! ## Header keywords -/

/-- The roles of a header line. -/
inductive HeaderKeyword where
  | Feature
  | Rule
  | Background
  | Scenario
  | ScenarioOutline
  | Examples
  deriving DecidableEq, Repr

namespace HeaderKeyword

/-- All roles, in the order in which tables list them. -/
def all : List HeaderKeyword := [Feature, Rule, Background, Scenario, ScenarioOutline, Examples]

/-- The title of a role. -/
def title : HeaderKeyword → String
  | Feature => "Feature"
  | Rule => "Rule"
  | Background => "Background"
  | Scenario => "Scenario"
  | ScenarioOutline => "Scenario Outline"
  | Examples => "Examples"

theorem mem_all (keyword : HeaderKeyword) : keyword ∈ all := by
  cases keyword <;> decide

end HeaderKeyword

/-! ## Step keywords -/

/-- The roles of a step. -/
inductive StepKeyword where
  | Given
  | When
  | Then
  | And
  | But
  deriving DecidableEq, Repr

namespace StepKeyword

/-- All roles, in the order in which tables list them. -/
def all : List StepKeyword := [Given, When, Then, And, But]

theorem mem_all (keyword : StepKeyword) : keyword ∈ all := by
  cases keyword <;> decide

/-- The English name of a role. -/
def name : StepKeyword → String
  | Given => "Given"
  | When => "When"
  | Then => "Then"
  | And => "And"
  | But => "But"

theorem name_injective {a b : StepKeyword} (h : a.name = b.name) : a = b := by
  revert h
  cases a <;> cases b <;> decide

/-- Conjunctions carry on the role of the step before them. -/
def isConjunction : StepKeyword → Bool
  | And | But => true
  | _ => false

/-- Backgrounds only prepare: they hold `Given` steps and what is joined to them by `And`. -/
def allowedInBackground : StepKeyword → Bool
  | Given | And => true
  | _ => false

/-- The role a keyword has after the primary keyword `previous`, which is `Given` at the start. -/
def resolve (previous : Option StepKeyword) (keyword : StepKeyword) : StepKeyword :=
  if keyword.isConjunction then previous.getD Given else keyword

/-- The primary keyword in force after `keyword`. -/
def advance (previous : Option StepKeyword) (keyword : StepKeyword) : Option StepKeyword :=
  if keyword.isConjunction then previous else some keyword

/-- The resolved roles of a sequence of keywords. -/
def resolveAll (previous : Option StepKeyword) : List StepKeyword → List StepKeyword
  | [] => []
  | keyword :: rest => keyword.resolve previous :: resolveAll (keyword.advance previous) rest

@[simp] theorem length_resolveAll (previous : Option StepKeyword) (keywords : List StepKeyword) :
    (resolveAll previous keywords).length = keywords.length := by
  induction keywords generalizing previous with
  | nil => rfl
  | cons keyword rest ih => simp [resolveAll, ih]

/-- Equality of texts up to the case of ASCII letters. -/
def sameLetters (s t : String) : Bool :=
  s.toList.map Char.toLower == t.toList.map Char.toLower

/-- The role with a given English name; blanks around it and case do not matter. -/
def ofName? (text : String) : Option StepKeyword :=
  all.find? fun keyword => sameLetters (Text.trim text) keyword.name

/-- What is said of a text that names no role. -/
def unknownMessage (text : String) : String :=
  s!"`{Text.trim text}` is not a step keyword"

end StepKeyword

end Gherkin
