/-
  Gherkin.Document.Selection

  Which scenarios and rules to run under a tag policy. An entity carries the
  tags of what it stands in before its own.
-/
import Gherkin.Document.Lookup
import Gherkin.Tag.Filter

namespace Gherkin

/-- The first scenario that has not been called and that the policy runs inside something with
    the tags `inherited`. -/
def firstRunnable? (policy : TagPolicy) (inherited : TagSet) (scenarios : List Scenario) :
    Option Scenario :=
  scenarios.find? fun scenario => !scenario.called && policy.runs (scenario.tags.merged inherited)

namespace Rule

/-- The first uncalled scenario of a rule that the policy runs, the rule standing in something
    with the tags `inherited`. -/
def firstUncalledScenario? (rule : Rule) (inherited : TagSet) (policy : TagPolicy) :
    Option Scenario :=
  firstRunnable? policy (rule.tags.merged inherited) rule.scenarios

end Rule

namespace Feature

/-- The first uncalled scenario outside any rule that the policy runs. -/
def firstUncalledScenario? (feature : Feature) (policy : TagPolicy) : Option Scenario :=
  firstRunnable? policy feature.tags feature.scenarios

/-- The first uncalled rule whose tags, with those of the feature, the policy runs. -/
def firstUncalledRule? (feature : Feature) (policy : TagPolicy) : Option Rule :=
  feature.rules.find? fun rule => !rule.called && policy.runs (rule.tags.merged feature.tags)

/-- The tags that a scenario inherits from its feature and its rule. -/
def inheritedTags (feature : Feature) (rule : Option Rule) : TagSet :=
  match rule with
  | none => feature.tags
  | some rule => rule.tags.merged feature.tags

/-- The scenarios that the policy runs, called or not, in the order of `allScenarios`. -/
def runnable (feature : Feature) (policy : TagPolicy) : List (Option Rule × Scenario) :=
  feature.allScenarios.filter fun (rule, scenario) =>
    policy.runs (scenario.tags.merged (feature.inheritedTags rule))

end Feature

end Gherkin
