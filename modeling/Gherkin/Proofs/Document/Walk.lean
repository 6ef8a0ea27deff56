/-
  Gherkin.Proofs.Document.Walk

  Walks through a document: the first part that has not been called and that a
  policy runs is offered, then it is marked as called. A walk that marks the part
  that was offered comes to each such part once, in order. One that marks a part
  under the name of what was offered marks the first of that name: it ends just in
  case no part that it is to come to has the name of a part before it.
-/
import Gherkin.Document.Selection

namespace Gherkin

/-! ## Runs -/

/-- Steps are taken until there is none; the list is of what was met. -/
inductive Runs {σ α : Type} (next? : σ → Option (α × σ)) : σ → List α → σ → Prop
  | stop {s : σ} (h : next? s = none) : Runs next? s [] s
  | next {s between final : σ} {x : α} {xs : List α} (h : next? s = some (x, between))
      (hrest : Runs next? between xs final) : Runs next? s (x :: xs) final

/-- Runs from one state meet the same. -/
theorem Runs.unique {σ α : Type} {next? : σ → Option (α × σ)} {s final other : σ} {xs ys : List α}
    (h : Runs next? s xs final) (hother : Runs next? s ys other) : xs = ys ∧ final = other := by
  induction h generalizing ys with
  | stop hnone =>
    cases hother with
    | stop => exact ⟨rfl, rfl⟩
    | next hsome => exact absurd hsome (by simp [hnone])
  | next hsome _ ih =>
    cases hother with
    | stop hnone => exact absurd hsome (by simp [hnone])
    | next hsame hrest =>
      obtain ⟨rfl, rfl⟩ := Prod.mk.inj (Option.some.inj (hsome.symm.trans hsame))
      obtain ⟨rfl, rfl⟩ := ih hrest
      exact ⟨rfl, rfl⟩

/-! ## Parts that are called -/

/-- Named things that are marked as called. -/
class Callable (α : Type) where
  name : α → String
  called : α → Bool
  markCalled : α → α
  name_markCalled (x : α) : name (markCalled x) = name x
  called_markCalled (x : α) : called (markCalled x) = true
  markCalled_of_called {x : α} (h : called x = true) : markCalled x = x

instance : Callable Scenario where
  name scenario := scenario.name
  called scenario := scenario.called
  markCalled := Scenario.markCalled
  name_markCalled _ := rfl
  called_markCalled _ := rfl
  markCalled_of_called := by
    rintro ⟨block, outline⟩ h
    have hblock : block.markCalled = block := by
      cases block
      simpa [StepBlock.markCalled] using h.symm
    exact congrArg (Scenario.mk · outline) hblock

instance : Callable Rule where
  name rule := rule.name
  called rule := rule.called
  markCalled := Rule.markCalled
  name_markCalled _ := rfl
  called_markCalled _ := rfl
  markCalled_of_called := by
    rintro ⟨part, called⟩ rfl
    rfl

open Callable

/-! ## Marking in a list -/

section Lists

variable {α : Type} {p : α → Bool} {before : List α}

/-- What is changed is the first element that satisfies `p`. -/
theorem modifyFirst_append_cons (hbefore : ∀ y ∈ before, p y = false) {x : α} (hx : p x = true)
    (f : α → α) (after : List α) :
    modifyFirst p f (before ++ x :: after) = before ++ f x :: after := by
  induction before with
  | nil => rw [List.nil_append, modifyFirst, if_pos hx, List.nil_append]
  | cons y before ih =>
    have hy : ¬ p y = true := by simp [hbefore y List.mem_cons_self]
    rw [List.cons_append, modifyFirst, if_neg hy,
      ih fun z hz => hbefore z (List.mem_cons_of_mem _ hz), List.cons_append]

/-- A search that succeeds splits the list at what is found, and that is what is changed. -/
theorem split_of_find? {xs : List α} {x : α} (h : xs.find? p = some x) (f : α → α) :
    ∃ before after, xs = before ++ x :: after ∧ p x = true ∧ (∀ y ∈ before, p y = false) ∧
      modifyFirst p f xs = before ++ f x :: after := by
  obtain ⟨hx, before, after, rfl, hbefore⟩ := List.find?_eq_some_iff_append.1 h
  have hnone : ∀ y ∈ before, p y = false := by simpa using hbefore
  exact ⟨before, after, rfl, hx, hnone, modifyFirst_append_cons hnone hx f after⟩

end Lists

section Due

variable {α : Type} [Callable α] {accepts : α → Bool}

/-- Whether a part is still to be come to: it has not been called, and it is accepted. -/
def isDue (accepts : α → Bool) (x : α) : Bool := !called x && accepts x

/-- No part that is due has the name of a part before it. -/
def NamesApart (accepts : α → Bool) (xs : List α) : Prop :=
  xs.Pairwise fun y x => isDue accepts x = true → name y ≠ name x

instance (accepts : α → Bool) (xs : List α) : Decidable (NamesApart accepts xs) :=
  inferInstanceAs (Decidable (xs.Pairwise _))

variable {before after : List α} {x : α}

theorem isDue_markCalled (accepts : α → Bool) (x : α) : isDue accepts (markCalled x) = false := by
  simp [isDue, called_markCalled]

/-- Behind parts that are not due comes the first one that is. -/
theorem filter_isDue_of_split (hbefore : ∀ y ∈ before, isDue accepts y = false)
    (hx : isDue accepts x = true) (after : List α) :
    (before ++ x :: after).filter (isDue accepts) =
      x :: (before ++ markCalled x :: after).filter (isDue accepts) := by
  have hnone : before.filter (isDue accepts) = [] := by simpa using hbefore
  rw [List.filter_append, List.filter_append, hnone, List.filter_cons_of_pos hx,
    List.filter_cons_of_neg (by simp [isDue_markCalled])]
  rfl

/-- There is one uncalled part less, once an uncalled part is marked. -/
theorem length_uncalled_of_split (hx : called x = false) (before after : List α) :
    ((before ++ markCalled x :: after).filter (!called ·)).length + 1 =
      ((before ++ x :: after).filter (!called ·)).length := by
  simp [hx, called_markCalled]
  omega

/-- Marking the first part that is due leaves the others apart. -/
theorem namesApart_iff_of_split (hx : isDue accepts x = true) :
    NamesApart accepts (before ++ x :: after) ↔
      (∀ y ∈ before, name y ≠ name x) ∧ NamesApart accepts (before ++ markCalled x :: after) := by
  unfold NamesApart
  simp only [List.pairwise_append, List.pairwise_cons, List.mem_cons, forall_eq_or_imp, hx,
    isDue_markCalled, name_markCalled]
  -- once it is marked, the part asks nothing of those before it
  constructor
  · rintro ⟨hbefore, hafter, hacross⟩
    exact ⟨fun y hy => (hacross y hy).1 trivial, hbefore, hafter,
      fun y hy => ⟨nofun, (hacross y hy).2⟩⟩
  · rintro ⟨hfirst, hbefore, hafter, hacross⟩
    exact ⟨hbefore, hafter, fun y hy => ⟨fun _ => hfirst y hy, (hacross y hy).2⟩⟩

/-- Under a name that no part before has, the part that is due is marked. -/
theorem modifyFirst_name_of_apart (hbefore : ∀ y ∈ before, name y ≠ name x) (after : List α) :
    modifyFirst (fun y => name y = name x) markCalled (before ++ x :: after) =
      before ++ markCalled x :: after :=
  modifyFirst_append_cons (by simpa using hbefore) (by simp) _ _

/-- Under a name that some part before has, that part is marked, and the part that is due is
    due still and no longer apart. -/
theorem not_namesApart_modifyFirst (hx : isDue accepts x = true) {y : α} (hy : y ∈ before)
    (hname : name y = name x) (after : List α) :
    ¬ NamesApart accepts
      (modifyFirst (fun z => name z = name x) markCalled (before ++ x :: after)) := by
  have hsome : (before.find? fun z => name z = name x).isSome = true := by
    simpa using ⟨y, hy, hname⟩
  obtain ⟨found, hfound⟩ := Option.isSome_iff_exists.1 hsome
  obtain ⟨front, back, rfl, hsame, hfront, -⟩ := split_of_find? hfound markCalled
  rw [List.append_assoc, List.cons_append, modifyFirst_append_cons hfront hsame]
  intro hapart
  -- `x` stands behind the part that was marked, and has its name
  have hbehind := List.pairwise_cons.1 (List.pairwise_append.1 hapart).2.1
  refine hbehind.1 x (by simp) hx ?_
  rw [name_markCalled]
  exact of_decide_eq_true hsame

end Due

/-! ## Walks -/

/-- A way to go through parts of a document. -/
structure Walk (σ α : Type) [Callable α] where
  parts : σ → List α
  withParts : σ → List α → σ
  /-- Whether a part of the document is one to come to. -/
  accepts : σ → α → Bool
  uncalled : σ → List α
  /-- What the document offers. -/
  first? : σ → Option α
  /-- The first part of a name. -/
  lookup : σ → String → Except LookupFault α
  /-- The document with the first part of a name marked. -/
  mark : σ → String → σ
  parts_withParts (s : σ) (xs : List α) : parts (withParts s xs) = xs
  withParts_parts (s : σ) : withParts s (parts s) = s
  accepts_withParts (s : σ) (xs : List α) : accepts (withParts s xs) = accepts s
  uncalled_eq (s : σ) : uncalled s = (parts s).filter (!called ·)
  first?_eq (s : σ) : first? s = (parts s).find? (isDue (accepts s))
  lookup_eq {s : σ} {n : String} {x : α} (h : (parts s).find? (name · = n) = some x) :
    lookup s n = .ok x
  mark_eq (s : σ) (n : String) :
    mark s n = withParts s (modifyFirst (name · = n) markCalled (parts s))

namespace Walk

variable {σ α : Type} [Callable α] (w : Walk σ α)

/-- The parts that are still to be come to. -/
def due (s : σ) : List α := (w.parts s).filter (isDue (w.accepts s))

/-- No part that is still to be come to has the name of a part before it. -/
def Apart (s : σ) : Prop := NamesApart (w.accepts s) (w.parts s)

instance (s : σ) : Decidable (w.Apart s) := inferInstanceAs (Decidable (NamesApart _ _))

/-- The document with the part that it offers marked. -/
def markOffered (s : σ) : σ :=
  w.withParts s (modifyFirst (isDue (w.accepts s)) markCalled (w.parts s))

/-- What is offered, and the document with that part marked. -/
def nextOffered? (s : σ) : Option (α × σ) := (w.first? s).map fun x => (x, w.markOffered s)

/-- What is offered, and the document with the first part of its name marked. -/
def nextNamed? (s : σ) : Option (α × σ) := (w.first? s).map fun x => (x, w.mark s (name x))

variable {w} {s final : σ} {x : α} {visited : List α}

theorem mem_due_iff :
    x ∈ w.due s ↔ x ∈ w.parts s ∧ called x = false ∧ w.accepts s x = true := by
  simp [due, isDue]

theorem due_eq_nil (h : w.first? s = none) : w.due s = [] := by
  rw [w.first?_eq, List.find?_eq_none] at h
  exact List.filter_eq_nil_iff.2 h

/-- The part that is offered is the first one due, and the others are due once it is marked. -/
theorem due_of_first? (h : w.first? s = some x) : w.due s = x :: w.due (w.markOffered s) := by
  rw [w.first?_eq] at h
  obtain ⟨before, after, hparts, hx, hbefore, hmarked⟩ := split_of_find? h markCalled
  rw [due, due, markOffered, w.parts_withParts, w.accepts_withParts, hmarked, hparts]
  exact filter_isDue_of_split hbefore hx after

/-- Marking what is offered, a walk ends, and it has come to each part once that was due. -/
theorem exists_runs_nextOffered? (w : Walk σ α) (s : σ) :
    ∃ final, Runs w.nextOffered? s (w.due s) final := by
  -- on the parts that are due, of which each step takes the first
  induction hdue : w.due s generalizing s with
  | nil =>
    refine ⟨s, .stop ?_⟩
    cases hfirst : w.first? s with
    | none => simp [nextOffered?, hfirst]
    | some x =>
      rw [due_of_first? hfirst] at hdue
      cases hdue
  | cons x xs ih =>
    cases hfirst : w.first? s with
    | none =>
      rw [due_eq_nil hfirst] at hdue
      cases hdue
    | some y =>
      rw [due_of_first? hfirst] at hdue
      obtain ⟨rfl, hrest⟩ := List.cons.inj hdue
      obtain ⟨final, hruns⟩ := ih (w.markOffered s) hrest
      exact ⟨final, .next (by rw [nextOffered?, hfirst]; rfl) hruns⟩

theorem apart_of_first?_eq_none (h : w.first? s = none) : w.Apart s := by
  rw [w.first?_eq, List.find?_eq_none] at h
  exact List.pairwise_of_forall_mem_list fun _ _ z hz hdue => absurd hdue (h z hz)

/-- If names are apart, the part that is offered is marked under its name, and names stay apart. -/
theorem mark_of_apart (h : w.first? s = some x) (hapart : w.Apart s) :
    w.mark s (name x) = w.markOffered s ∧ w.Apart (w.markOffered s) := by
  rw [w.first?_eq] at h
  obtain ⟨before, after, hparts, hx, hbefore, hmarked⟩ := split_of_find? h markCalled
  rw [Apart, hparts, namesApart_iff_of_split hx] at hapart
  rw [w.mark_eq, markOffered, Apart, w.parts_withParts, w.accepts_withParts, hmarked, hparts,
    modifyFirst_name_of_apart hapart.1]
  exact ⟨rfl, hapart.2⟩

/-- If names are apart once a part is marked under the name of what was offered, they were so
    before. -/
theorem apart_of_mark (h : w.first? s = some x) (hapart : w.Apart (w.mark s (name x))) :
    w.Apart s := by
  rw [w.first?_eq] at h
  obtain ⟨before, after, hparts, hx, -, -⟩ := split_of_find? h markCalled
  rw [Apart, w.mark_eq, w.parts_withParts, w.accepts_withParts, hparts] at hapart
  have hbefore : ∀ y ∈ before, name y ≠ name x := fun y hy hname =>
    not_namesApart_modifyFirst hx hy hname after hapart
  rw [modifyFirst_name_of_apart hbefore] at hapart
  rw [Apart, hparts, namesApart_iff_of_split hx]
  exact ⟨hbefore, hapart⟩

/-- A walk that marks under names ends only if names are apart. -/
theorem apart_of_runs (h : Runs w.nextNamed? s visited final) : w.Apart s := by
  -- backwards from the end, where nothing is due
  induction h with
  | stop hnone => exact apart_of_first?_eq_none (Option.map_eq_none_iff.1 hnone)
  | next hsome _ ih =>
    obtain ⟨y, hfirst, hsame⟩ := Option.map_eq_some_iff.1 hsome
    obtain ⟨rfl, rfl⟩ := Prod.mk.inj hsame
    exact apart_of_mark hfirst ih

/-- If names are apart, both ways of marking come to the same. -/
theorem runs_nextNamed? (h : Runs w.nextOffered? s visited final) (hapart : w.Apart s) :
    Runs w.nextNamed? s visited final := by
  induction h with
  | stop hnone => exact .stop (Option.map_eq_none_iff.2 (Option.map_eq_none_iff.1 hnone))
  | next hsome _ ih =>
    obtain ⟨y, hfirst, hsame⟩ := Option.map_eq_some_iff.1 hsome
    obtain ⟨rfl, rfl⟩ := Prod.mk.inj hsame
    obtain ⟨hmark, hrest⟩ := mark_of_apart hfirst hapart
    exact .next (by rw [nextNamed?, hfirst, ← hmark]; rfl) (ih hrest)

/-- A walk that marks under names comes to each part once that was due. -/
theorem visited_eq_due (h : Runs w.nextNamed? s visited final) : visited = w.due s := by
  obtain ⟨final, hruns⟩ := w.exists_runs_nextOffered? s
  exact (h.unique (runs_nextNamed? hruns (apart_of_runs h))).1

/-- What calling parts under the names of what is offered comes to. -/
structure Progress (w : Walk σ α) : Prop where
  /-- There is a part of the name of what is offered. Once the first of that name is marked there is
      one uncalled part less, or it has been called before, and then nothing changes. -/
  step : ∀ s x, w.first? s = some x → ∃ found, w.lookup s (name x) = .ok found ∧
    (called found = false →
      (w.uncalled (w.mark s (name x))).length + 1 = (w.uncalled s).length) ∧
    (called found = true → w.mark s (name x) = s)
  /-- The walk ends just in case no part that is due has the name of a part before it. -/
  ends : ∀ s, (∃ visited final, Runs w.nextNamed? s visited final) ↔ w.Apart s
  /-- A walk that ends has come to each part that was due once, in order. -/
  visits : ∀ s visited final, Runs w.nextNamed? s visited final → visited = w.due s

theorem progress (w : Walk σ α) : w.Progress where
  step s x h := by
    have hnamed : ((w.parts s).find? (name · = name x)).isSome = true := by
      rw [w.first?_eq] at h
      simpa using ⟨x, List.mem_of_find?_eq_some h, rfl⟩
    obtain ⟨found, hfound⟩ := Option.isSome_iff_exists.1 hnamed
    obtain ⟨before, after, hparts, -, -, hmarked⟩ := split_of_find? hfound markCalled
    refine ⟨found, w.lookup_eq hfound, fun hcalled => ?_, fun hcalled => ?_⟩
    · rw [w.mark_eq, w.uncalled_eq, w.uncalled_eq, w.parts_withParts, hmarked, hparts]
      exact length_uncalled_of_split hcalled before after
    · rw [w.mark_eq, hmarked, markCalled_of_called hcalled, ← hparts, w.withParts_parts]
  ends s := by
    constructor
    · rintro ⟨visited, final, hruns⟩
      exact apart_of_runs hruns
    · intro hapart
      obtain ⟨final, hruns⟩ := w.exists_runs_nextOffered? s
      exact ⟨_, final, runs_nextNamed? hruns hapart⟩
  visits _ _ _ hruns := visited_eq_due hruns

end Walk

/-! ## Walks of features and rules -/

/-- A name that is found among scenarios is had from their section. -/
theorem Section.anyScenario_of_find? {part : Section} {n : String} {scenario : Scenario}
    (h : part.scenarios.find? (·.name = n) = some scenario) :
    part.anyScenario n = .ok scenario := by
  rw [Section.anyScenario, Section.named?, h]

theorem Feature.rule_of_find? {feature : Feature} {n : String} {rule : Rule}
    (h : feature.rules.find? (·.name = n) = some rule) : feature.rule n = .ok rule := by
  rw [Feature.rule, h]

/-- Through the scenarios outside any rule. -/
def Feature.scenarioWalk (policy : TagPolicy) : Walk Feature Scenario where
  parts feature := feature.scenarios
  withParts feature scenarios := feature.modifySection fun part => { part with scenarios }
  accepts feature scenario := policy.runs (scenario.tags.merged feature.tags)
  uncalled feature := feature.uncalledScenarios
  first? feature := feature.firstUncalledScenario? policy
  lookup feature n := feature.anyScenario n
  mark feature n := feature.modifySection (·.modifyNamed n Scenario.markCalled)
  parts_withParts _ _ := rfl
  withParts_parts _ := rfl
  accepts_withParts _ _ := rfl
  uncalled_eq _ := rfl
  first?_eq _ := rfl
  lookup_eq := Section.anyScenario_of_find?
  mark_eq _ _ := rfl

/-- Through the rules. -/
def Feature.ruleWalk (policy : TagPolicy) : Walk Feature Rule where
  parts feature := feature.rules
  withParts feature rules := { feature with rules }
  accepts feature rule := policy.runs (rule.tags.merged feature.tags)
  uncalled feature := feature.uncalledRules
  first? feature := feature.firstUncalledRule? policy
  lookup feature n := feature.rule n
  mark feature n := feature.modifyRule n Rule.markCalled
  parts_withParts _ _ := rfl
  withParts_parts _ := rfl
  accepts_withParts _ _ := rfl
  uncalled_eq _ := rfl
  first?_eq _ := rfl
  lookup_eq := Feature.rule_of_find?
  mark_eq _ _ := rfl

/-- Through the scenarios of a rule that stands in something with the tags `inherited`. -/
def Rule.scenarioWalk (inherited : TagSet) (policy : TagPolicy) : Walk Rule Scenario where
  parts rule := rule.scenarios
  withParts rule scenarios := rule.modifySection fun part => { part with scenarios }
  accepts rule scenario := policy.runs (scenario.tags.merged (rule.tags.merged inherited))
  uncalled rule := rule.uncalledScenarios
  first? rule := rule.firstUncalledScenario? inherited policy
  lookup rule n := rule.anyScenario n
  mark rule n := rule.modifySection (·.modifyNamed n Scenario.markCalled)
  parts_withParts _ _ := rfl
  withParts_parts _ := rfl
  accepts_withParts _ _ := rfl
  uncalled_eq _ := rfl
  first?_eq _ := rfl
  lookup_eq := Section.anyScenario_of_find?
  mark_eq _ _ := rfl

/-- Calling the scenarios of a feature, its rules or the scenarios of a rule under the names of what
    is offered makes progress until a name leads to a part that has been called; it ends just in case
    names are apart, and then each part has been come to once. -/
theorem progress_walks (policy : TagPolicy) (inherited : TagSet) :
    (Feature.scenarioWalk policy).Progress ∧ (Feature.ruleWalk policy).Progress ∧
      (Rule.scenarioWalk inherited policy).Progress :=
  ⟨(Feature.scenarioWalk policy).progress, (Feature.ruleWalk policy).progress,
    (Rule.scenarioWalk inherited policy).progress⟩

/-- Two scenarios of one name. -/
def twins : Feature :=
  ((Feature.ofName "f").modifySection (·.addScenario (.ofName "a"))).modifySection
    (·.addScenario (.ofName "a"))

/-- The feature once the first of them has been called. -/
def twinsCalled : Feature := twins.modifySection (·.modifyNamed "a" Scenario.markCalled)

/-- Of two scenarios of one name, neither of them called, the first is offered and called; then the
    second is offered, and calling it under its name changes nothing: one scenario is left uncalled,
    and the walk does not end. -/
theorem endless_twins :
    twins.uncalledScenarios.length = 2 ∧ twinsCalled.uncalledScenarios.length = 1 ∧
      (Feature.scenarioWalk {}).nextNamed? twins = some (.ofName "a", twinsCalled) ∧
      (Feature.scenarioWalk {}).nextNamed? twinsCalled = some (.ofName "a", twinsCalled) ∧
      ¬ ∃ visited final, Runs (Feature.scenarioWalk {}).nextNamed? twins visited final := by
  refine ⟨by decide +kernel, by decide +kernel, by decide +kernel, by decide +kernel, ?_⟩
  rintro ⟨visited, final, hruns⟩
  have hnotApart : ¬ (Feature.scenarioWalk {}).Apart twins := by decide +kernel
  exact hnotApart (Walk.apart_of_runs hruns)

end Gherkin
