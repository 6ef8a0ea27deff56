/-
  Gherkin.Proofs.Document.Selection

  What a policy selects. The tags of a feature, of a rule and of a scenario come to
  one set, and the policy selects a scenario by that set alone. All ways to the
  scenarios agree on it, and neither the order of the tags in their sets nor that of
  the filters in their lists matters. The tags are bare, and the filters are read
  from lists.
-/
import Gherkin.Document.Selection
import Gherkin.Proofs.Tag.Filter
import Gherkin.Proofs.Tag.Reading
import Mathlib.Data.Finset.Dedup
import Mathlib.Data.Finset.Union

namespace Gherkin

/-! ## Selection by a set of tags -/

namespace TagPolicy

/-- Whether a policy selects what carries some tags: there are no filters that let through, or one
    of them has all its names among the tags, and none of those that keep out has. -/
def Selects (policy : TagPolicy) (carried : Finset String) : Prop :=
  (policy.including = [] ∨ ∃ filter ∈ policy.including, ∀ name ∈ filter.names, name ∈ carried) ∧
    ¬ ∃ filter ∈ policy.excluding, ∀ name ∈ filter.names, name ∈ carried

instance (policy : TagPolicy) (carried : Finset String) : Decidable (policy.Selects carried) :=
  inferInstanceAs (Decidable (_ ∧ _))

/-- Whether both lists of filters are read from texts. -/
def IsRead (policy : TagPolicy) : Prop :=
  ∃ including excluding, TagFilter.readList including = .ok policy.including ∧
    TagFilter.readList excluding = .ok policy.excluding

variable {policy : TagPolicy}

/-- Whether all filters ask for bare tags that are not empty. -/
def HasBareNames (policy : TagPolicy) : Prop :=
  ∀ filter ∈ policy.including ++ policy.excluding, ∀ name ∈ filter.names,
    name ≠ "" ∧ IsBareTag name

theorem IsRead.hasBareNames (h : policy.IsRead) : policy.HasBareNames := by
  obtain ⟨including, excluding, hincluding, hexcluding⟩ := h
  intro filter hfilter
  rcases List.mem_append.1 hfilter with hfilter | hfilter
  · obtain ⟨item, hitem⟩ := TagFilter.exists_read_of_readList hincluding hfilter
    exact (TagFilter.names_of_read hitem).2
  · obtain ⟨item, hitem⟩ := TagFilter.exists_read_of_readList hexcluding hfilter
    exact (TagFilter.names_of_read hitem).2

/-- A policy runs what it selects. Names without a character need not be compared. -/
theorem HasBareNames.runs_iff (h : policy.HasBareNames) {tags : TagSet} {carried : Finset String}
    (hsame : ∀ name, name ≠ "" → (name ∈ tags.names ↔ name ∈ carried)) :
    policy.runs tags = true ↔ policy.Selects carried := by
  have haccepts : ∀ filter ∈ policy.including ++ policy.excluding,
      (filter.accepts tags = true ↔ ∀ name ∈ filter.names, name ∈ carried) := by
    intro filter hfilter
    have hnames := h filter hfilter
    rw [TagFilter.accepts_iff fun name hname => (hnames name hname).2]
    exact forall₂_congr fun name hname => hsame name (hnames name hname).1
  have hsome : ∀ filters ⊆ policy.including ++ policy.excluding,
      (TagFilter.someAccepts filters tags = true ↔
        ∃ filter ∈ filters, ∀ name ∈ filter.names, name ∈ carried) := by
    intro filters hfilters
    rw [TagFilter.someAccepts, List.any_eq_true]
    exact exists_congr fun filter => and_congr_right fun hfilter =>
      haccepts filter (hfilters hfilter)
  rw [TagPolicy.runs_iff, LetsThrough, Selects, ← Bool.not_eq_true,
    hsome _ (List.subset_append_left _ _), hsome _ (List.subset_append_right _ _)]

end TagPolicy

/-! ## The tags that are carried -/

namespace Feature

/-- The tags of the feature, of the rule, if there is one, and of the scenario. -/
def carriedTags (feature : Feature) (rule : Option Rule) (scenario : Scenario) : Finset String :=
  feature.tags.names.toFinset ∪ rule.elim ∅ (·.tags.names.toFinset) ∪
    scenario.tags.names.toFinset

/-- Whether the tags of the feature, of its rules and of all scenarios are bare. -/
structure HasBareTags (feature : Feature) : Prop where
  own : ∀ tag ∈ feature.tags.names, IsBareTag tag
  rules : ∀ rule ∈ feature.rules, ∀ tag ∈ rule.tags.names, IsBareTag tag
  scenarios : ∀ entry ∈ feature.allScenarios, ∀ tag ∈ entry.2.tags.names, IsBareTag tag

variable {feature : Feature} {policy : TagPolicy} {rule : Rule} {scenario : Scenario}

theorem mem_allScenarios_of_mem_rule (hrule : rule ∈ feature.rules)
    (h : scenario ∈ rule.scenarios) : (some rule, scenario) ∈ feature.allScenarios :=
  List.mem_append_right _ (List.mem_flatMap.2 ⟨rule, hrule, List.mem_map_of_mem h⟩)

theorem rule_mem_of_mem_allScenarios (h : (some rule, scenario) ∈ feature.allScenarios) :
    rule ∈ feature.rules := by
  rw [allScenarios, List.mem_append, List.mem_map, List.mem_flatMap] at h
  rcases h with ⟨_, -, hnone⟩ | ⟨other, hrule, hmem⟩
  · cases hnone
  · obtain ⟨_, -, hsame⟩ := List.mem_map.1 hmem
    obtain ⟨rfl, -⟩ := Prod.mk.inj hsame |>.imp_left Option.some.inj
    exact hrule

/-- A policy runs a scenario with what it inherits if it selects it by the tags that it carries. -/
theorem HasBareTags.runs_iff (hbare : feature.HasBareTags)
    (hnames : policy.HasBareNames)
    {rule : Option Rule} (h : (rule, scenario) ∈ feature.allScenarios) :
    policy.runs (scenario.tags.merged (feature.inheritedTags rule)) = true ↔
      policy.Selects (feature.carriedTags rule scenario) := by
  refine hnames.runs_iff fun name hname => ?_
  rw [TagSet.mem_merged_iff (hbare.scenarios _ h) hname, carriedTags, Finset.mem_union,
    List.mem_toFinset]
  refine or_congr_left ?_
  cases rule with
  | none => simp [inheritedTags]
  | some rule =>
    rw [inheritedTags, TagSet.mem_merged_iff (hbare.rules rule (rule_mem_of_mem_allScenarios h)) hname]
    simp

/-- The runnable scenarios are those that the policy selects. -/
theorem HasBareTags.runnable_eq (hbare : feature.HasBareTags)
    (hnames : policy.HasBareNames) :
    feature.runnable policy =
      feature.allScenarios.filter fun entry =>
        policy.Selects (feature.carriedTags entry.1 entry.2) := by
  refine List.filter_congr fun entry hentry => ?_
  rw [Bool.eq_iff_iff, decide_eq_true_iff]
  exact hbare.runs_iff hnames hentry

/-! ## Ways to the runnable scenarios -/

/-- The scenarios that are runnable in a rule, or outside of rules. -/
def runnableIn (feature : Feature) (policy : TagPolicy) (rule : Option Rule) : List Scenario :=
  ((feature.runnable policy).filter fun entry => entry.1 = rule).map (·.2)

/-- The scenarios of a list that the policy runs with inherited tags. -/
def runnableAmong (policy : TagPolicy) (inherited : TagSet) (scenarios : List Scenario) :
    List Scenario :=
  scenarios.filter fun scenario => policy.runs (scenario.tags.merged inherited)

theorem firstRunnable?_eq (policy : TagPolicy) (inherited : TagSet) (scenarios : List Scenario) :
    firstRunnable? policy inherited scenarios =
      (runnableAmong policy inherited scenarios).find? (!·.called) := by
  rw [firstRunnable?, runnableAmong, List.find?_filter]
  refine congrArg (List.find? · scenarios) (funext fun scenario => ?_)
  rw [Bool.eq_iff_iff, Bool.and_eq_true, decide_eq_true_iff]
  exact and_comm

/-- The runnable scenarios by where they stand. -/
theorem runnable_eq_append (feature : Feature) (policy : TagPolicy) :
    feature.runnable policy =
      (runnableAmong policy feature.tags feature.scenarios).map (none, ·) ++
        feature.rules.flatMap fun rule =>
          (runnableAmong policy (rule.tags.merged feature.tags) rule.scenarios).map (some rule, ·) := by
  simp only [runnable, allScenarios, List.filter_append, List.filter_flatMap, List.filter_map,
    runnableAmong, Function.comp_def, inheritedTags]

theorem runnableIn_none (feature : Feature) (policy : TagPolicy) :
    feature.runnableIn policy none = runnableAmong policy feature.tags feature.scenarios := by
  simp [runnableIn, runnable_eq_append, List.filter_flatMap, List.filter_map, Function.comp_def]

theorem runnableIn_some (feature : Feature) (policy : TagPolicy) (rule : Rule) :
    feature.runnableIn policy (some rule) =
      feature.rules.flatMap fun other =>
        if other = rule then runnableAmong policy (rule.tags.merged feature.tags) rule.scenarios
        else [] := by
  simp only [runnableIn, runnable_eq_append, List.filter_append, List.filter_flatMap,
    List.filter_map, Function.comp_def, reduceCtorEq, decide_false, List.filter_false,
    List.map_nil, List.nil_append, List.map_flatMap, List.map_map, Option.some.injEq]
  refine List.flatMap_congr fun other _ => ?_
  split
  next heq => simp [heq]
  next hne => simp [hne]

/-- The first uncalled scenario outside of rules is the first one of those runnable there. -/
theorem firstUncalledScenario?_eq (feature : Feature) (policy : TagPolicy) :
    feature.firstUncalledScenario? policy =
      (feature.runnableIn policy none).find? (!·.called) := by
  rw [firstUncalledScenario?, firstRunnable?_eq, runnableIn_none]

theorem findSome?_at [DecidableEq α] {a : α} {xs : List α} (h : a ∈ xs) (o : Option β) :
    (xs.findSome? fun x => if x = a then o else none) = o := by
  induction xs with
  | nil => cases h
  | cons x xs ih =>
    rw [List.findSome?_cons]
    by_cases hx : x = a
    · rw [if_pos hx]
      cases o with
      | some b => rfl
      | none => simp
    · rw [if_neg hx]
      exact ih ((List.mem_cons.1 h).resolve_left (Ne.symm hx))

/-- The first uncalled scenario of a rule is the first one of those runnable in it. -/
theorem firstUncalledScenario?_rule_eq (h : rule ∈ feature.rules) (policy : TagPolicy) :
    rule.firstUncalledScenario? feature.tags policy =
      (feature.runnableIn policy (some rule)).find? (!·.called) := by
  rw [Rule.firstUncalledScenario?, firstRunnable?_eq, runnableIn_some, List.find?_flatMap]
  have hrest : (fun other : Rule => (if other = rule then
      runnableAmong policy (rule.tags.merged feature.tags) rule.scenarios else []).find?
        (!·.called)) = fun other => if other = rule then
      (runnableAmong policy (rule.tags.merged feature.tags) rule.scenarios).find? (!·.called)
        else none := by
    funext other
    split <;> rfl
  rw [hrest, findSome?_at h]

end Feature

/-! ## Other orders -/

/-- The same tags, in any order. -/
def TagSet.Reordered (tags tags' : TagSet) : Prop := tags.names.Perm tags'.names

/-- The same block with its tags in any order. -/
def StepBlock.Reordered (block block' : StepBlock) : Prop :=
  ∃ tags, block.tags.Reordered tags ∧ block' = { block with tags }

/-- The same row with its tags in any order. -/
def ExampleRow.Reordered (row row' : ExampleRow) : Prop :=
  ∃ tags, row.tags.Reordered tags ∧ row' = { row with tags }

/-- The same examples with their tags in any order. -/
def Outline.Reordered (outline outline' : Outline) : Prop :=
  ∃ examples, List.Forall₂ ExampleRow.Reordered outline.examples examples ∧
    outline' = { outline with examples }

/-- The same scenario with all tags in any order. -/
def Scenario.Reordered (scenario scenario' : Scenario) : Prop :=
  scenario.toStepBlock.Reordered scenario'.toStepBlock ∧
    Option.Rel Outline.Reordered scenario.outline scenario'.outline

/-- The same section with all tags in any order. -/
def Section.Reordered (part part' : Section) : Prop :=
  ∃ tags background scenarios, part.tags.Reordered tags ∧
    Option.Rel StepBlock.Reordered part.background background ∧
    List.Forall₂ Scenario.Reordered part.scenarios scenarios ∧
    part' = { part with tags, background, scenarios }

/-- The same rule with all tags in any order. -/
def Rule.Reordered (rule rule' : Rule) : Prop :=
  rule.toSection.Reordered rule'.toSection ∧ rule.called = rule'.called

/-- The same feature with all tags in any order. -/
def Feature.Reordered (feature feature' : Feature) : Prop :=
  feature.toSection.Reordered feature'.toSection ∧ feature.language = feature'.language ∧
    List.Forall₂ Rule.Reordered feature.rules feature'.rules

/-- The same filters in any order. -/
def TagPolicy.Reordered (policy policy' : TagPolicy) : Prop :=
  policy.including.Perm policy'.including ∧ policy.excluding.Perm policy'.excluding

theorem TagPolicy.Reordered.selects_iff {policy policy' : TagPolicy} (h : policy.Reordered policy')
    (carried : Finset String) : policy.Selects carried ↔ policy'.Selects carried := by
  have hsome {filters filters' : List TagFilter} (h : filters.Perm filters') :
      (∃ filter ∈ filters, ∀ name ∈ filter.names, name ∈ carried) ↔
        ∃ filter ∈ filters', ∀ name ∈ filter.names, name ∈ carried :=
    exists_congr fun filter => and_congr_left' h.mem_iff
  rw [Selects, Selects, hsome h.1, hsome h.2]
  refine and_congr_left' (or_congr_left ?_)
  rw [← List.length_eq_zero_iff, h.1.length_eq, List.length_eq_zero_iff]

theorem TagPolicy.Reordered.hasBareNames {policy policy' : TagPolicy} (h : policy.Reordered policy')
    (hnames : policy.HasBareNames) : policy'.HasBareNames :=
  fun filter hfilter => hnames filter ((h.1.append h.2).mem_iff.2 hfilter)

section Related

variable {R : α → β → Prop} {xs : List α} {ys : List β}

/-- What holds of all members of a list holds of those that are related to them. -/
theorem forall_of_forall₂ {P : α → Prop} {Q : β → Prop} (h : List.Forall₂ R xs ys)
    (hstep : ∀ x y, R x y → P x → Q y) (hall : ∀ x ∈ xs, P x) : ∀ y ∈ ys, Q y := by
  induction h with
  | nil => simp
  | cons hfirst _ ih =>
    obtain ⟨hx, hxs⟩ := List.forall_mem_cons.1 hall
    exact List.forall_mem_cons.2 ⟨hstep _ _ hfirst hx, ih hxs⟩

/-- In related lists related members are found first. -/
theorem rel_find? {p : α → Bool} {q : β → Bool} (h : List.Forall₂ R xs ys)
    (hsame : ∀ x y, R x y → p x = q y) : Option.Rel R (xs.find? p) (ys.find? q) := by
  induction h with
  | nil => exact .none
  | @cons x y xs ys hfirst _ ih =>
    rw [List.find?_cons, List.find?_cons, ← hsame x y hfirst]
    cases p x with
    | true => exact .some hfirst
    | false => exact ih

end Related

/-- Scenarios with their rules, the same but for the order of all tags. -/
def EntryReordered (entry entry' : Option Rule × Scenario) : Prop :=
  Option.Rel Rule.Reordered entry.1 entry'.1 ∧ Scenario.Reordered entry.2 entry'.2

theorem Scenario.Reordered.tags {scenario scenario' : Scenario}
    (h : scenario.Reordered scenario') : scenario.tags.Reordered scenario'.tags := by
  obtain ⟨⟨tags, htags, hblock⟩, -⟩ := h
  rwa [hblock]

theorem Scenario.Reordered.called_eq {scenario scenario' : Scenario}
    (h : scenario.Reordered scenario') : scenario.called = scenario'.called := by
  obtain ⟨⟨tags, -, hblock⟩, -⟩ := h
  rw [hblock]

theorem Section.Reordered.tags {part part' : Section} (h : part.Reordered part') :
    part.tags.Reordered part'.tags := by
  obtain ⟨tags, background, scenarios, htags, -, -, rfl⟩ := h
  exact htags

theorem Section.Reordered.scenarios {part part' : Section} (h : part.Reordered part') :
    List.Forall₂ Scenario.Reordered part.scenarios part'.scenarios := by
  obtain ⟨tags, background, scenarios, -, -, hscenarios, rfl⟩ := h
  exact hscenarios

namespace Feature

variable {feature feature' : Feature} {policy policy' : TagPolicy}

theorem Reordered.allScenarios (h : feature.Reordered feature') :
    List.Forall₂ EntryReordered feature.allScenarios feature'.allScenarios := by
  obtain ⟨hown, -, hrules⟩ := h
  refine List.rel_append ?_ (List.rel_flatMap hrules fun rule rule' hrule => ?_)
  · exact List.rel_map (fun _ _ hscenario => ⟨.none, hscenario⟩) hown.scenarios
  · exact List.rel_map (fun _ _ hscenario => ⟨.some hrule, hscenario⟩) hrule.1.scenarios

theorem Reordered.hasBareTags (h : feature.Reordered feature') (hbare : feature.HasBareTags) :
    feature'.HasBareTags where
  own := fun tag htag => hbare.own tag (h.1.tags.mem_iff.2 htag)
  rules := forall_of_forall₂ h.2.2
    (fun _ _ hrule hbare tag htag => hbare tag (hrule.1.tags.mem_iff.2 htag)) hbare.rules
  scenarios := forall_of_forall₂ h.allScenarios
    (fun _ _ hentry hbare tag htag => hbare tag (hentry.2.tags.mem_iff.2 htag)) hbare.scenarios

/-- The set of the tags that a scenario carries has no order. -/
theorem Reordered.carriedTags_eq (h : feature.Reordered feature') {rule rule' : Option Rule}
    (hrule : Option.Rel Rule.Reordered rule rule') {scenario scenario' : Scenario}
    (hscenario : scenario.Reordered scenario') :
    feature.carriedTags rule scenario = feature'.carriedTags rule' scenario' := by
  rw [carriedTags, carriedTags, List.toFinset_eq_of_perm _ _ h.1.tags,
    List.toFinset_eq_of_perm _ _ hscenario.tags]
  cases hrule with
  | none => rfl
  | some hrule => rw [Option.elim_some, Option.elim_some, List.toFinset_eq_of_perm _ _ hrule.1.tags]

/-- What is runnable stays so in any order. -/
theorem Reordered.runnable (h : feature.Reordered feature') (hpolicy : policy.Reordered policy')
    (hbare : feature.HasBareTags) (hnames : policy.HasBareNames) :
    List.Forall₂ EntryReordered (feature.runnable policy) (feature'.runnable policy') := by
  rw [hbare.runnable_eq hnames,
    (h.hasBareTags hbare).runnable_eq (hpolicy.hasBareNames hnames)]
  refine List.rel_filter (fun entry entry' hentry => ?_) h.allScenarios
  beta_reduce
  rw [decide_eq_true_iff, decide_eq_true_iff, hpolicy.selects_iff,
    h.carriedTags_eq hentry.1 hentry.2]

theorem Reordered.runnableIn_none (h : feature.Reordered feature')
    (hpolicy : policy.Reordered policy') (hbare : feature.HasBareTags)
    (hnames : policy.HasBareNames) :
    List.Forall₂ Scenario.Reordered (feature.runnableIn policy none)
      (feature'.runnableIn policy' none) := by
  refine List.rel_map (fun entry entry' (hentry : EntryReordered entry entry') => hentry.2)
    (List.rel_filter (fun entry entry' hentry => ?_) (h.runnable hpolicy hbare hnames))
  obtain ⟨rule, scenario⟩ := entry
  obtain ⟨rule', scenario'⟩ := entry'
  cases hentry.1 <;> simp

/-- The first uncalled scenario of a rule that is selected. -/
theorem HasBareTags.firstUncalled?_eq (hbare : feature.HasBareTags)
    (hnames : policy.HasBareNames) {rule : Rule} (hrule : rule ∈ feature.rules) :
    rule.firstUncalledScenario? feature.tags policy = rule.scenarios.find? fun scenario =>
      !scenario.called && decide (policy.Selects (feature.carriedTags (some rule) scenario)) := by
  rw [Rule.firstUncalledScenario?, firstRunnable?, ← List.head?_filter, ← List.head?_filter]
  refine congrArg List.head? (List.filter_congr fun scenario hscenario => ?_)
  have hruns := hbare.runs_iff hnames (mem_allScenarios_of_mem_rule hrule hscenario)
  rw [Bool.eq_iff_iff, Bool.and_eq_true, Bool.and_eq_true, decide_eq_true_iff, ← hruns]
  rfl

theorem Reordered.firstUncalledScenario? (h : feature.Reordered feature')
    (hpolicy : policy.Reordered policy') (hbare : feature.HasBareTags)
    (hnames : policy.HasBareNames) {rule rule' : Rule} (hmem : rule ∈ feature.rules)
    (hmem' : rule' ∈ feature'.rules) (hrule : rule.Reordered rule') :
    Option.Rel Scenario.Reordered (rule.firstUncalledScenario? feature.tags policy)
      (rule'.firstUncalledScenario? feature'.tags policy') := by
  rw [hbare.firstUncalled?_eq hnames hmem,
    (h.hasBareTags hbare).firstUncalled?_eq (hpolicy.hasBareNames hnames) hmem']
  refine rel_find? hrule.1.scenarios fun scenario scenario' hscenario => ?_
  rw [hscenario.called_eq, h.carriedTags_eq (.some hrule) hscenario,
    decide_eq_decide.2 (hpolicy.selects_iff _)]

/-- Selection by the union of the tags. The runnable scenarios are, in the order of all scenarios,
    those that the policy selects by the set of the tags of the feature, the rule and the scenario.
    The first uncalled scenario that is offered, outside of rules or in a rule, is the first uncalled
    one among those runnable there. And the same is selected and offered whatever the order of the
    tags in each set and of the filters in each list. -/
theorem HasBareTags.selection (hbare : feature.HasBareTags) (hread : policy.IsRead) :
    (feature.runnable policy =
        feature.allScenarios.filter fun entry =>
          policy.Selects (feature.carriedTags entry.1 entry.2)) ∧
      feature.firstUncalledScenario? policy =
        (feature.runnableIn policy none).find? (!·.called) ∧
      (∀ rule ∈ feature.rules, rule.firstUncalledScenario? feature.tags policy =
        (feature.runnableIn policy (some rule)).find? (!·.called)) ∧
      ∀ feature' policy', feature.Reordered feature' → policy.Reordered policy' →
        List.Forall₂ EntryReordered (feature.runnable policy) (feature'.runnable policy') ∧
          Option.Rel Scenario.Reordered (feature.firstUncalledScenario? policy)
            (feature'.firstUncalledScenario? policy') ∧
          List.Forall₂
            (fun rule rule' => Option.Rel Scenario.Reordered
              (rule.firstUncalledScenario? feature.tags policy)
              (rule'.firstUncalledScenario? feature'.tags policy'))
            feature.rules feature'.rules := by
  have hnames := hread.hasBareNames
  refine ⟨hbare.runnable_eq hnames, feature.firstUncalledScenario?_eq policy,
    fun rule hrule => firstUncalledScenario?_rule_eq hrule policy, ?_⟩
  intro feature' policy' h hpolicy
  refine ⟨h.runnable hpolicy hbare hnames, ?_, ?_⟩
  · rw [firstUncalledScenario?_eq, firstUncalledScenario?_eq]
    exact rel_find? (h.runnableIn_none hpolicy hbare hnames)
      fun scenario scenario' hscenario => by rw [hscenario.called_eq]
  · obtain ⟨hlength, hrules⟩ := List.forall₂_iff_get.1 h.2.2
    exact List.forall₂_iff_get.2 ⟨hlength, fun i hi hi' =>
      h.firstUncalledScenario? hpolicy hbare hnames (List.get_mem _ _) (List.get_mem _ _)
        (hrules i hi hi')⟩

end Feature

/-- A rule about paying, with a scenario that is not ready. -/
def paymentRule : Rule :=
  (Rule.ofName "payment").modifySection fun part =>
    { part with
      tags := .ofList ["api"]
      scenarios := [.ofName "pay",
        (Scenario.ofName "refund").modifyBlock ({ · with tags := .ofList ["wip"] })] }

/-- A shop in the web, where browsing comes before paying. -/
def shopFeature : Feature :=
  ((Feature.ofName "shop").modifySection fun part =>
    { part with tags := .ofList ["web"], scenarios := [.ofName "browse"] }).addRule paymentRule

/-- The policy that runs smoke tests and tests of the interface in the web, unless they are not
    ready. -/
def interfacePolicy : TagPolicy where
  including := [.ofTag "smoke", .ofTags ["web", "api"]]
  excluding := [.ofTag "wip"]

/-- The only scenario that is run has no tag of its own. -/
theorem Feature.HasBareTags.selection_inherited :
    shopFeature.HasBareTags ∧ interfacePolicy.IsRead ∧
      (shopFeature.runnable interfacePolicy).map (·.2.name) = ["pay"] ∧
      (paymentRule.firstUncalledScenario? shopFeature.tags interfacePolicy).map (·.name) =
        some "pay" := by
  have hbare : shopFeature.HasBareTags :=
    ⟨by decide +kernel, by decide +kernel, by decide +kernel⟩
  have hread : interfacePolicy.IsRead :=
    ⟨"@smoke, @web+@api", " @wip ,", by decide +kernel, by decide +kernel⟩
  obtain ⟨hrunnable, -, hrules, -⟩ := hbare.selection hread
  refine ⟨hbare, hread, ?_, ?_⟩
  · rw [hrunnable]
    decide +kernel
  · rw [hrules paymentRule (by decide +kernel)]
    decide +kernel

end Gherkin
