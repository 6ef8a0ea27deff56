/-
  Gherkin.Proofs.Document.Index

  The last parts of a feature under their indices. To look up or change a part
  under the index of the last rule, and a scenario under the index of the last
  one there, is to look up or change it in the active section.
-/
import Gherkin.Reader.Indexed

namespace Gherkin

/-! ## Changes of the last part -/

theorem modify_length_sub_one_congr {f g : α → α} {xs : List α}
    (h : ∀ x, xs.getLast? = some x → f x = g x) :
    xs.modify (xs.length - 1) f = xs.modify (xs.length - 1) g := by
  rcases List.eq_nil_or_concat xs with rfl | ⟨ys, y, rfl⟩
  · rfl
  · have hy : f y = g y := h y (by simp)
    simp only [List.concat_eq_append, List.length_append, List.length_singleton,
      Nat.add_sub_cancel, modify_length_append_singleton, hy]

namespace Feature

/-- Only what becomes of the active section counts. -/
theorem modifyActive_congr {f g : Section → Section} {feature : Feature}
    (h : f feature.active = g feature.active) :
    feature.modifyActive f = feature.modifyActive g := by
  unfold modifyActive
  split
  -- without rules the feature is its own active section
  next hrules =>
    have hactive : feature.active = feature.toSection := by
      rw [active, List.isEmpty_iff.1 hrules]
      rfl
    rw [modifySection, modifySection, ← hactive, h]
  next =>
    have hlast : ∀ rule, feature.rules.getLast? = some rule →
        rule.modifySection f = rule.modifySection g := by
      intro rule hrule
      have hactive : feature.active = rule.toSection := by
        rw [active, hrule]
        rfl
      rw [Rule.modifySection, Rule.modifySection, ← hactive, h]
    rw [modify_length_sub_one_congr hlast]

end Feature

/-! ## The index of the last rule -/

namespace Feature

/-- The index of the last rule. -/
def lastRule? (feature : Feature) : Option Nat :=
  if feature.rules.isEmpty then none else some (feature.rules.length - 1)

theorem lastRule?_eq_none_iff {feature : Feature} :
    feature.lastRule? = none ↔ feature.rules = [] := by
  simp [lastRule?]

theorem length_of_lastRule? {feature : Feature} {index : Nat} (h : feature.lastRule? = some index) :
    index + 1 = feature.rules.length := by
  unfold lastRule? at h
  split at h
  · cases h
  next hrules =>
    have hpos : 0 < feature.rules.length := List.length_pos_iff.2 (by simpa using hrules)
    have hindex : feature.rules.length - 1 = index := Option.some.inj h
    omega

theorem ruleAt?_lastRule? (feature : Feature) :
    feature.ruleAt? feature.lastRule? = feature.rules.getLast? := by
  unfold ruleAt? lastRule?
  split
  next h =>
    rw [List.isEmpty_iff.1 h]
    rfl
  next => rw [Option.bind_some, List.getLast?_eq_getElem?]

theorem scope_lastRule? (feature : Feature) :
    feature.scope feature.lastRule? = feature.active := by
  rw [scope, ruleAt?_lastRule?, active]

theorem modifyScope_lastRule? (f : Section → Section) (feature : Feature) :
    feature.modifyScope feature.lastRule? f = feature.modifyActive f := by
  cases hrule : feature.lastRule? with
  | none =>
    have hrules := lastRule?_eq_none_iff.1 hrule
    simp [modifyScope, modifyActive, hrules]
  | some index =>
    have hindex := length_of_lastRule? hrule
    have hrules : feature.rules ≠ [] := by
      intro h
      simp [h] at hindex
    have hlast : index = feature.rules.length - 1 := by omega
    have hlt : index < feature.rules.length := by omega
    simp [modifyScope, modifyActive, modifyRuleAt, hlast ▸ hlt, hrules, hlast]

theorem modifyScenarioAt_last (f : Scenario → Scenario) (feature : Feature) :
    feature.modifyScenarioAt feature.lastRule? (feature.active.scenarios.length - 1) f =
      feature.modifyActive (·.modifyLastScenario f) := by
  rw [modifyScenarioAt, modifyScope_lastRule?]
  exact modifyActive_congr rfl

end Feature

/-! ## The container of the open block -/

namespace Feature

/-- The container that a place of the active section is. -/
def containerOf (feature : Feature) : Place → Container
  | .background => if feature.lastRule?.isSome then .ruleBackground else .featureBackground
  | .scenario => .scenario (feature.active.scenarios.length - 1)

/-- The background under the index of the last rule is that of the active section. -/
theorem containerOf_background (feature : Feature) :
    (feature.lastRule? = none ∧ feature.containerOf .background = .featureBackground ∧
        feature.active = feature.toSection) ∨
      ∃ rule, feature.rules.getLast? = some rule ∧
        feature.containerOf .background = .ruleBackground ∧ feature.active = rule.toSection := by
  cases hrule : feature.lastRule? with
  | none =>
    left
    have hrules := lastRule?_eq_none_iff.1 hrule
    refine ⟨rfl, by simp [containerOf, hrule], ?_⟩
    rw [active, hrules]
    rfl
  | some index =>
    right
    have hindex := length_of_lastRule? hrule
    obtain ⟨rule, hlast⟩ : ∃ rule, feature.rules.getLast? = some rule := by
      rw [List.getLast?_eq_getElem?]
      exact ⟨_, List.getElem?_eq_getElem (by omega)⟩
    refine ⟨rule, hlast, by simp [containerOf, hrule], ?_⟩
    rw [active, hlast]
    rfl

theorem blockAt?_containerOf (feature : Feature) (place : Place) :
    feature.blockAt? feature.lastRule? (feature.containerOf place) =
      feature.active.block? place := by
  cases place with
  | background =>
    rcases containerOf_background feature with
      ⟨-, hcontainer, hactive⟩ | ⟨rule, hlast, hcontainer, hactive⟩
    · rw [hcontainer, hactive]
      rfl
    · rw [hcontainer, hactive, blockAt?, ruleAt?_lastRule?, hlast]
      rfl
  | scenario =>
    simp only [containerOf, blockAt?, scope_lastRule?, Section.block?, List.getLast?_eq_getElem?]

theorem modifyBlockAt_containerOf (f : StepBlock → StepBlock) (feature : Feature) (place : Place) :
    feature.modifyBlockAt feature.lastRule? f (feature.containerOf place) =
      feature.modifyActive (·.modifyBlock place f) := by
  cases place with
  | background =>
    -- both sides look the rule up, one of them to take its background
    rw [← modifyScope_lastRule?]
    cases hrule : feature.lastRule? with
    | none => simp [containerOf, hrule, modifyBlockAt, modifyScope]
    | some index =>
      have hlt : index < feature.rules.length := by
        have hindex := length_of_lastRule? hrule
        omega
      simp [containerOf, hrule, modifyBlockAt, modifyScope, hlt]
  | scenario =>
    simp only [containerOf, modifyBlockAt, modifyScenarioAt_last]
    rfl

theorem describeAt_lastRule? (text : String) (feature : Feature) (place : Option Place) :
    feature.describeAt feature.lastRule? text (place.map feature.containerOf) =
      match place with
      | none => feature.modifyActive (·.describe text)
      | some place => feature.modifyActive (·.modifyBlock place (·.describe text)) := by
  cases place with
  | none => exact modifyScope_lastRule? _ feature
  | some place =>
    simp only [Option.map_some, ← modifyBlockAt_containerOf]
    cases place with
    | background =>
      rcases containerOf_background feature with ⟨-, hcontainer, -⟩ | ⟨rule, hlast, hcontainer, -⟩
      · rw [hcontainer]
        rfl
      · rw [hcontainer, describeAt, ruleAt?_lastRule?, hlast]
        rfl
    | scenario => rfl

end Feature

end Gherkin
