/-
  Gherkin.Proofs.Document.Runnable

  Two ways to the scenarios of a rule: all at once, each with the tags that it
  inherits, or through the rule, which must be offered first. A rule is offered by
  its own tags and those of the feature. Filters that keep out never come between
  the two ways, for what they keep out of a rule they keep out of its scenarios;
  filters that let through do if only a scenario has the tags that they ask for.
-/
import Gherkin.Proofs.Document.Walk
import Gherkin.Proofs.Tag.Filter

namespace Gherkin

namespace Feature

variable {feature : Feature} {policy : TagPolicy} {rule : Rule} {scenario : Scenario}

/-- A scenario of a rule is runnable if the policy runs it with the tags of the rule and of the
    feature. -/
theorem mem_runnable_iff :
    (some rule, scenario) ∈ feature.runnable policy ↔
      rule ∈ feature.rules ∧ scenario ∈ rule.scenarios ∧
        policy.runs (scenario.tags.merged (rule.tags.merged feature.tags)) = true := by
  rw [runnable, List.mem_filter, allScenarios, List.mem_append, List.mem_map, List.mem_flatMap]
  constructor
  · rintro ⟨⟨_, -, hnone⟩ | ⟨other, hrule, hmem⟩, hruns⟩
    · cases hnone
    · obtain ⟨_, hscenario, hsame⟩ := List.mem_map.1 hmem
      obtain ⟨rfl, rfl⟩ := Prod.mk.inj hsame |>.imp_left Option.some.inj
      exact ⟨hrule, hscenario, hruns⟩
  · rintro ⟨hrule, hscenario, hruns⟩
    exact ⟨.inr ⟨rule, hrule, List.mem_map_of_mem hscenario⟩, hruns⟩

/-- An uncalled rule with a runnable scenario is due just in case it is let through. -/
theorem mem_due_iff_of_runnable (h : (some rule, scenario) ∈ feature.runnable policy)
    (hrule : rule.called = false) :
    rule ∈ (ruleWalk policy).due feature ↔ policy.LetsThrough (rule.tags.merged feature.tags) := by
  obtain ⟨hmem, -, hruns⟩ := mem_runnable_iff.1 h
  rw [← TagPolicy.runs_iff_of_runs_merged hruns, Walk.mem_due_iff]
  exact ⟨fun hdue => hdue.2.2, fun haccepted => ⟨hmem, hrule, haccepted⟩⟩

/-- If each rule that is offered is marked, or the first of its name where names are apart, then a
    rule with a runnable scenario, neither of them called, is offered at some time just in case it is
    let through with its tags and those of the feature. In the rule the scenario is offered at some
    time in any case. -/
theorem offered_iff_of_runnable (h : (some rule, scenario) ∈ feature.runnable policy)
    (hrule : rule.called = false) (hscenario : scenario.called = false) :
    (∃ visited final, Runs (ruleWalk policy).nextOffered? feature visited final ∧
      ((ruleWalk policy).Apart feature →
        Runs (ruleWalk policy).nextNamed? feature visited final) ∧
      (rule ∈ visited ↔ policy.LetsThrough (rule.tags.merged feature.tags))) ∧
    ∃ visited final,
      Runs (Rule.scenarioWalk feature.tags policy).nextOffered? rule visited final ∧
        ((Rule.scenarioWalk feature.tags policy).Apart rule →
          Runs (Rule.scenarioWalk feature.tags policy).nextNamed? rule visited final) ∧
        scenario ∈ visited := by
  constructor
  · obtain ⟨final, hwalk⟩ := (ruleWalk policy).exists_runs_nextOffered? feature
    exact ⟨_, final, hwalk, Walk.runs_nextNamed? hwalk, mem_due_iff_of_runnable h hrule⟩
  · obtain ⟨-, hmem, hruns⟩ := mem_runnable_iff.1 h
    obtain ⟨final, hwalk⟩ := (Rule.scenarioWalk feature.tags policy).exists_runs_nextOffered? rule
    exact ⟨_, final, hwalk, Walk.runs_nextNamed? hwalk,
      Walk.mem_due_iff.2 ⟨hmem, hscenario, hruns⟩⟩

end Feature

/-- A scenario with the tag `a`. -/
def taggedScenario : Scenario :=
  (Scenario.ofName "s").modifyBlock ({ · with tags := TagSet.ofList ["a"] })

/-- A rule with some tags, of one scenario that has the tag `a`. -/
def ruleOfTags (tags : List String) : Rule :=
  (Rule.ofName "r").modifySection
    ({ · with tags := TagSet.ofList tags, scenarios := [taggedScenario] })

/-- The policy that runs what has the tag `a`. -/
def onlyTagged : TagPolicy := { including := [.ofTag "a"] }

/-- A rule with the tag is offered, and its scenario in it. -/
theorem offered_tagged :
    (some (ruleOfTags ["a"]), taggedScenario) ∈
        ((Feature.ofName "f").addRule (ruleOfTags ["a"])).runnable onlyTagged ∧
      (∃ visited final, Runs (Feature.ruleWalk onlyTagged).nextOffered?
        ((Feature.ofName "f").addRule (ruleOfTags ["a"])) visited final ∧
          ruleOfTags ["a"] ∈ visited) ∧
      ∃ visited final, Runs (Rule.scenarioWalk (Feature.ofName "f").tags onlyTagged).nextOffered?
        (ruleOfTags ["a"]) visited final ∧ taggedScenario ∈ visited := by
  have hrunnable : (some (ruleOfTags ["a"]), taggedScenario) ∈
      ((Feature.ofName "f").addRule (ruleOfTags ["a"])).runnable onlyTagged := by
    decide +kernel
  obtain ⟨⟨visited, final, hwalk, -, hiff⟩, ⟨inside, last, hrest, -, hmem⟩⟩ :=
    Feature.offered_iff_of_runnable hrunnable rfl rfl
  exact ⟨hrunnable, ⟨visited, final, hwalk, hiff.2 (by decide +kernel)⟩,
    ⟨inside, last, hrest, hmem⟩⟩

/-- A rule without the tag is never offered, although its scenario is runnable and neither of them
    has been called. -/
theorem not_offered_untagged :
    (ruleOfTags []).called = false ∧ taggedScenario.called = false ∧
      (some (ruleOfTags []), taggedScenario) ∈
        ((Feature.ofName "f").addRule (ruleOfTags [])).runnable onlyTagged ∧
      ((Feature.ofName "f").addRule (ruleOfTags [])).firstUncalledRule? onlyTagged = none ∧
      ∀ visited final, Runs (Feature.ruleWalk onlyTagged).nextOffered?
        ((Feature.ofName "f").addRule (ruleOfTags [])) visited final → visited = [] := by
  have hnone :
      ((Feature.ofName "f").addRule (ruleOfTags [])).firstUncalledRule? onlyTagged = none := by
    decide +kernel
  refine ⟨rfl, rfl, by decide +kernel, hnone, fun visited final hruns => ?_⟩
  exact (hruns.unique (.stop (Option.map_eq_none_iff.2 hnone))).1

end Gherkin
