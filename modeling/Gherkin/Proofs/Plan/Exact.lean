/-
  Gherkin.Proofs.Plan.Exact

  Definitions that are the very text of a step, without placeholders, against
  expressions of the same scope. Such a definition is ranked by the characters
  that are left of it when escapes and doubled braces are collapsed, although it
  is matched by its text as it stands. So an expression that covers the step wins
  just in case it has more literal characters than the collapsed text; and no
  expression has if nothing is collapsed.
-/
import Gherkin.Proofs.Expression.Acceptance
import Gherkin.Proofs.Expression.Literal
import Gherkin.Proofs.Plan.Overridden

namespace Gherkin

variable {α : Type}

/-! ## Definitions that are the text of a step -/

/-- A definition of a scope that is the text of a step and has no placeholder, with no definition in
    effect that covers the step in a more specific scope. -/
structure ExactIn (registry : Registry) (pools : Pools α) (step : Step) (primary : StepKeyword)
    (scope : Scope) (exact : Definition α) : Prop where
  declared : exact ∈ pools.declaredIn scope
  answers : exact.keyword = step.keyword ∨ exact.keyword = primary
  text : exact.pattern = step.details
  plain : registry.containsPlaceholder exact.pattern = false
  highest : ∀ entry ∈ pools.effective.value, ∀ e values,
    Covers registry step primary entry e values → entry.1.rank ≤ scope.rank

/-- The step is bound to a definition that is its text and has no placeholder. -/
def Binding.SpellsStep (registry : Registry) (binding : Binding α) : Prop :=
  binding.definition.pattern = binding.step.details ∧
    registry.containsPlaceholder binding.definition.pattern = false

section Covers

variable {registry : Registry} {step : Step} {primary : StepKeyword} {entry : Entry α}
  {e : Expression} {values : List Value}

/-- A plain definition that covers a step is its text, and is ranked by what is left of that when it
    is collapsed. -/
theorem Covers.of_plain (h : Covers registry step primary entry e values)
    (hplain : registry.containsPlaceholder entry.2.pattern = false) :
    entry.2.pattern = step.details ∧
      e.specificity = ⟨(Expression.collapsed step.details).length, 0⟩ := by
  have htext := Registry.pattern_of_captures_plain h.expression hplain h.captures
  have hliterals := Registry.literals_of_plain h.expression hplain
  have hplaceholders := Registry.placeholders_of_expression? h.expression
  rw [Registry.placeholderCount_of_plain hplain] at hplaceholders
  rw [htext] at hliterals
  refine ⟨htext, ?_⟩
  rw [← hliterals, ← hplaceholders]

/-- If fragments can be read by themselves, and nothing is collapsed in the text of a step, then a
    definition that covers the step has no more literal characters than that text. -/
theorem Covers.literals_le {base : Registry} (h : Covers registry step primary entry e values)
    (hbuilt : base.Built) (halike : base.Alike registry)
    (hread : ∀ placeholder ∈ base.custom, (Regex.read? placeholder.fragment).isSome = true)
    (hverbatim : Expression.collapsed step.details = step.details.toList) :
    e.specificity.literals ≤ (Expression.collapsed step.details).length := by
  cases hplain : registry.containsPlaceholder entry.2.pattern with
  | false => rw [(h.of_plain hplain).2]
  | true =>
    have he := h.expression
    rw [halike.expression?] at he
    rw [halike.containsPlaceholder] at hplain
    rw [hverbatim, String.length_toList]
    exact hbuilt.literals_le he hplain hread h.captures

end Covers

section Best

variable {registry : Registry} {pools : Pools α} {step : Step} {primary : StepKeyword}
  {scope : Scope} {exact : Definition α}

/-- Where the patterns in effect are readable, a definition in effect of that scope covers the step
    and is its text. -/
theorem ExactIn.exists_covers (h : ExactIn registry pools step primary scope exact)
    (hreadable : ∀ entry ∈ pools.effective.value,
      ∃ e, registry.expression? entry.2.pattern = some e) :
    ∃ entry ∈ pools.effective.value, ∃ e values, entry.1 = scope ∧
      Covers registry step primary entry e values ∧
        e.specificity = ⟨(Expression.collapsed step.details).length, 0⟩ := by
  have hdeclared : (scope, exact) ∈ pools.declared := Pools.mem_declared_iff.2 h.declared
  obtain ⟨entry, hentry, hkey, hrank⟩ := Pools.exists_effective_of_mem_declared hdeclared
  obtain ⟨hkeyword, hpattern⟩ := Prod.mk.inj hkey
  obtain ⟨e, he⟩ := hreadable entry hentry
  have hplain : registry.containsPlaceholder entry.2.pattern = false := by
    rw [hpattern]
    exact h.plain
  have hcovers : Covers registry step primary entry e [] := by
    refine ⟨?_, he, ?_⟩
    · rw [hkeyword]
      exact h.answers
    · rw [← h.text, ← hpattern]
      exact Registry.captures_of_expression? he hplain
  -- it covers the step, so that it cannot be of a more specific scope
  have hscope : entry.1 = scope :=
    Scope.rank_injective (Nat.le_antisymm (h.highest entry hentry e [] hcovers) hrank)
  exact ⟨entry, hentry, e, [], hscope, hcovers, (hcovers.of_plain hplain).2⟩

/-- The best cover is of that scope, and is the text of the step unless an expression of the scope
    has more literal characters than the collapsed text. -/
theorem ExactIn.best (h : ExactIn registry pools step primary scope exact)
    (hreadable : ∀ entry ∈ pools.effective.value,
      ∃ e, registry.expression? entry.2.pattern = some e)
    {place : Nat} {entry : Entry α} {e : Expression} {found : Match α}
    (hbest : BestCover registry pools.effective.value step primary place entry e found) :
    entry.1 = scope ∧
      (entry.2.pattern = step.details ∧ registry.containsPlaceholder entry.2.pattern = false ↔
        ∀ other ∈ pools.effective.value, ∀ f values, other.1 = scope →
          Covers registry step primary other f values →
            f.specificity.literals ≤ (Expression.collapsed step.details).length) := by
  obtain ⟨top, htop, f, values, rfl, htopCovers, hf⟩ := h.exists_covers hreadable
  have hnot := hbest.greatest top htop f values htopCovers
  have hentry := h.highest entry (List.mem_of_getElem? hbest.inEffect) e found.values hbest.covers
  have hscope : entry.1 = top.1 := by
    refine Scope.rank_injective (Nat.le_antisymm hentry ?_)
    by_contra hlt
    exact hnot (.inl (Nat.lt_of_not_le hlt))
  refine ⟨hscope, ?_, ?_⟩
  · rintro ⟨-, hplain⟩ other hother g values hsame hcovers
    have hgreatest := hbest.greatest other hother g values hcovers
    by_contra hlt
    refine hgreatest (.inr ⟨hsame.trans hscope.symm, .inl ?_⟩)
    rw [(hbest.covers.of_plain hplain).2]
    exact Nat.lt_of_not_le hlt
  · intro hmost
    have hliterals := hmost entry (List.mem_of_getElem? hbest.inEffect) e found.values hscope
      hbest.covers
    -- as many literal characters as the definition that is the text, and so no placeholder
    have hnone : e.specificity.placeholders = 0 := by
      by_contra hsome
      refine hnot (.inr ⟨hscope.symm, ?_⟩)
      rw [hf]
      simp only
      omega
    have hplain : registry.containsPlaceholder entry.2.pattern = false := by
      rw [← Bool.not_eq_true, registry.containsPlaceholder_iff,
        ← Registry.placeholders_of_expression? hbest.covers.expression, hnone]
      exact Nat.lt_irrefl 0
    exact ⟨(hbest.covers.of_plain hplain).1, hplain⟩

end Best

/-! ## Plans -/

/-- Where no binding is inline, the slot was left free by the inline definitions. -/
theorem Placed.isFree {steps : List Step} {inline : List (Definition α)} {slots : List (Slot α)}
    (h : Placed steps inline slots) (pool : List (PoolEntry α)) {index : Nat} {slot : Slot α}
    (hslot : slots[index]? = some slot)
    (hinline : ∀ binding ∈ (Plan.ofSlots (slots.map (Slot.bindBest pool))).bindings,
      binding.index = index → binding.origin ≠ .inline) : slot.isFree = true := by
  by_contra hbound
  -- a slot that is bound keeps its match, which is an inline one and shows in the plan
  have hsame : slot.bindBest pool = slot := Slot.bindBest_of_bound (by simpa using hbound)
  obtain ⟨found, hfound⟩ : ∃ found, slot.binding = some found :=
    Option.ne_none_iff_exists'.1 fun hnone => hbound (Slot.isFree_iff.2 hnone)
  have hmem := List.mem_of_getElem? hslot
  refine hinline { found with index, step := slot.step } (Plan.mem_bindings_ofSlots.2 ?_) rfl
    (h.bound slot hmem found hfound).2
  refine ⟨slot, List.mem_map.2 ⟨slot, hmem, hsame⟩, hfound, ?_, rfl⟩
  exact (h.frame.getElem? hslot).1

/-- A step that has no inline binding is that of a free slot, and its bindings are what the pools
    give to the slot. -/
theorem Placed.exists_free {steps : List Step} {inline : List (Definition α)}
    {slots : List (Slot α)} (h : Placed steps inline slots) (pool : List (PoolEntry α)) {index : Nat}
    {step : Step} (hstep : steps[index]? = some step)
    (hinline : ∀ binding ∈ (Plan.ofSlots (slots.map (Slot.bindBest pool))).bindings,
      binding.index = index → binding.origin ≠ .inline) :
    ∃ slot : Slot α, slot.isFree = true ∧ slot.step = step ∧ slot.primary = primaryAt steps index ∧
      ∀ binding : Binding α,
        binding ∈ (Plan.ofSlots (slots.map (Slot.bindBest pool))).bindings ∧
            binding.index = index ↔
          (slot.bindBest pool).binding = some binding.toMatch ∧ binding.index = index ∧
            binding.step = step := by
  have hlt : index < slots.length := by
    rw [h.frame.length]
    exact (List.getElem?_eq_some_iff.1 hstep).1
  have hslot := List.getElem?_eq_getElem hlt
  obtain ⟨-, hsame, hprimary⟩ := h.frame.getElem? hslot
  have hslotStep : slots[index].step = step := Option.some.inj (hsame.symm.trans hstep)
  have hlast : (slots.map (Slot.bindBest pool))[index]? = some (slots[index].bindBest pool) := by
    rw [List.getElem?_map, hslot]
    rfl
  refine ⟨slots[index], h.isFree pool hslot hinline, hslotStep, hprimary, fun binding => ?_⟩
  rw [Plan.binding_at_iff (h.frame.bindBest pool) hlast, Slot.step_bindBest, hslotStep]

namespace Plan

variable {registry : Registry} {steps : List Step} {inline : List (Definition α)}
  {pools : Pools α} {plan : Plan α}

/-- The patterns in effect are readable if there is a plan. -/
theorem readable_of_resolve
    (h : ((Plan.resolve steps inline pools).run.run registry).value.1 = .ok plan) :
    ∀ entry ∈ pools.effective.value, ∃ e, registry.expression? entry.2.pattern = some e := by
  obtain ⟨after, hrun⟩ := Planning.gives_of_value h
  obtain ⟨-, pool, -, hpool, -⟩ := gives_resolve hrun
  rw [← hpool.entries]
  intro entry hentry
  obtain ⟨entry, hmem, rfl⟩ := List.mem_map.1 hentry
  exact ⟨entry.expression, hpool.expression entry hmem⟩

/-- A step with a definition that is its text, in the most specific scope that covers it, is bound
    in that scope. What it is bound to is its text unless an expression of the scope that covers it
    has more literal characters than the text has when escapes and doubled braces are collapsed.
    Where fragments can be read by themselves and nothing is collapsed, there is none. -/
theorem exact_resolve
    (h : ((Plan.resolve steps inline pools).run.run registry).value.1 = .ok plan)
    {index : Nat} {step : Step} (hstep : steps[index]? = some step)
    (hinline : ∀ binding ∈ plan.bindings, binding.index = index → binding.origin ≠ .inline)
    {scope : Scope} {exact : Definition α}
    (hexact : ExactIn registry pools step (primaryAt steps index) scope exact) :
    (∃ binding ∈ plan.bindings, binding.index = index) ∧
    ∀ binding ∈ plan.bindings, binding.index = index →
      binding.origin = .predefined scope ∧
      (binding.SpellsStep registry ↔
        ∀ entry ∈ pools.effective.value, ∀ e values, entry.1 = scope →
          Covers registry step (primaryAt steps index) entry e values →
            e.specificity.literals ≤ (Expression.collapsed step.details).length) ∧
      ∀ base : Registry, base.Built → base.Alike registry →
        (∀ placeholder ∈ base.custom, (Regex.read? placeholder.fragment).isSome = true) →
        Expression.collapsed step.details = step.details.toList →
          binding.SpellsStep registry := by
  have hreadable := readable_of_resolve h
  obtain ⟨after, hrun⟩ := Planning.gives_of_value h
  obtain ⟨filled, pool, hplaced, hpool, rfl⟩ := gives_resolve hrun
  obtain ⟨slot, hfree, rfl, hprimary, hat⟩ := hplaced.exists_free pool hstep hinline
  rw [← hprimary] at hexact ⊢
  constructor
  -- the definition itself covers the step, so the step is bound to something
  · obtain ⟨entry, hentry, e, values, -, hcovers, -⟩ := hexact.exists_covers hreadable
    obtain ⟨found, hfound⟩ := (hpool.bound_iff hfree).2 ⟨entry, hentry, e, values, hcovers⟩
    exact ⟨_, (hat { found with index, step := slot.step }).2 ⟨hfound, rfl, rfl⟩⟩
  -- what it is bound to is the best of what covers it, and that is in the scope of the definition
  · intro binding hbinding hindex
    obtain ⟨hfound, -, hbindingStep⟩ := (hat binding).1 ⟨hbinding, hindex⟩
    obtain ⟨place, entry, e, hbest⟩ := hpool.best hfree hfound
    obtain ⟨hscope, hspells⟩ := hexact.best hreadable hbest
    have hiff : binding.SpellsStep registry ↔
        entry.2.pattern = slot.step.details ∧
          registry.containsPlaceholder entry.2.pattern = false := by
      rw [Binding.SpellsStep, hbindingStep, hbest.definition]
    rw [hiff]
    refine ⟨by rw [hbest.origin, hscope], hspells, ?_⟩
    intro base hbuilt halike hread hverbatim
    exact hspells.2 fun other _ f values _ hcovers =>
      hcovers.literals_le hbuilt halike hread hverbatim

/-- Nothing is bound inline without inline definitions. -/
theorem origin_ne_inline_of_nil
    (h : ((Plan.resolve steps [] pools).run.run registry).value.1 = .ok plan) :
    ∀ binding ∈ plan.bindings, binding.origin ≠ .inline := by
  obtain ⟨after, hrun⟩ := Planning.gives_of_value h
  obtain ⟨slots, pool, hplaced, -, rfl⟩ := gives_resolve hrun
  have honce := (accounts_ofSlots hplaced pool).inlineOnce.eq_nil
  intro binding hbinding horigin
  rw [List.map_eq_nil_iff, List.filter_eq_nil_iff] at honce
  exact honce binding hbinding (by simpa using horigin)

/-- A definition that is the text of a step, and an expression that covers it, too. -/
def itemPools : Pools Nat where
  global := [⟨.Given, "\x7bint\x7d items", 0⟩, ⟨.Given, "5 items", 1⟩]

/-- The text wins where nothing is collapsed in it. -/
theorem exact_resolve_items :
    ∃ plan : Plan Nat,
      ((Plan.resolve [.ofKeyword .Given "5 items"] [] itemPools).run.run
        Registry.empty).value.1 = .ok plan ∧
      (∀ binding ∈ plan.bindings, binding.index = 0 → binding.origin ≠ .inline) ∧
      ExactIn Registry.empty itemPools (.ofKeyword .Given "5 items") .Given .global
        ⟨.Given, "5 items", 1⟩ ∧
      ∃ binding ∈ plan.bindings, binding.index = 0 ∧ binding.SpellsStep Registry.empty := by
  have heffective : itemPools.effective.value =
      [(.global, ⟨.Given, "\x7bint\x7d items", 0⟩), (.global, ⟨.Given, "5 items", 1⟩)] := by
    decide +kernel
  obtain ⟨loose, hloose⟩ : ∃ e, Registry.empty.expression? "\x7bint\x7d items" = some e := by
    rw [← Option.isSome_iff_exists]
    decide +kernel
  obtain ⟨own, hown⟩ : ∃ e, Registry.empty.expression? "5 items" = some e := by
    rw [← Option.isSome_iff_exists]
    decide +kernel
  have hpool : CompiledFrom Registry.empty itemPools.effective.value
      [{ scope := .global, definition := ⟨.Given, "\x7bint\x7d items", 0⟩, expression := loose },
       { scope := .global, definition := ⟨.Given, "5 items", 1⟩, expression := own }] := by
    rw [heffective]
    exact ⟨rfl, by simp [hloose, hown]⟩
  have hplan : ((Plan.resolve [.ofKeyword .Given "5 items"] [] itemPools).run.run
      Registry.empty).value.1 = .ok _ := resolve_of_literals rfl hpool
  have hinline := origin_ne_inline_of_nil hplan
  have hexact : ExactIn Registry.empty itemPools (.ofKeyword .Given "5 items") .Given .global
      ⟨.Given, "5 items", 1⟩ := by
    refine ⟨by simp [itemPools, Pools.declaredIn], .inl rfl, rfl, by decide +kernel, ?_⟩
    rw [heffective]
    simp
  have hstep : [Step.ofKeyword .Given "5 items"][0]? = some (.ofKeyword .Given "5 items") := rfl
  obtain ⟨⟨binding, hbinding, hindex⟩, hspells⟩ :=
    exact_resolve hplan hstep (fun binding hbinding _ => hinline binding hbinding) hexact
  refine ⟨_, hplan, fun binding hbinding _ => hinline binding hbinding, hexact, binding, hbinding,
    hindex, ?_⟩
  -- nothing is escaped or doubled in the text, so it is its own collapsed form
  exact (hspells binding hbinding hindex).2.2 Registry.empty .empty rfl (by simp [Registry.empty])
    (Expression.collapsed_of_isVerbatim ⟨by decide, by decide, by decide⟩)

/-- A definition that is the text of a step with two backslashes, and an expression that has them
    escaped and covers the step. -/
def pathPools : Pools Nat where
  global := [⟨.Given, "C:\\a\\b", 0⟩, ⟨.Given, "C:\\\\a\\\\\x7bchar\x7d", 1⟩]

/-- The plan in which the step is bound to the expression. -/
def pathPlan : Plan Nat where
  bindings :=
    [{ definition := ⟨.Given, "C:\\\\a\\\\\x7bchar\x7d", 1⟩, origin := .predefined .global
       values := [.char 'b'], index := 0, step := .ofKeyword .Given "C:\\a\\b" }]
  unresolved := []

theorem captures_path :
    ∃ e, Registry.empty.expression? "C:\\\\a\\\\\x7bchar\x7d" = some e ∧
      e.captures "C:\\a\\b" = .ok [.char 'b'] ∧ e.specificity = ⟨5, 1⟩ := by
  have hmade : (Registry.empty.expression? "C:\\\\a\\\\\x7bchar\x7d").map
      Expression.specificity = some ⟨5, 1⟩ := by
    decide +kernel
  obtain ⟨e, he, hspecificity⟩ := Option.map_eq_some_iff.1 hmade
  have htokens : Expression.tokens "C:\\\\a\\\\\x7bchar\x7d" =
      [.literal "C:\\a\\".toList, .placeholder 7 "char"] := by
    decide +kernel
  have hkinds : Registry.empty.kindsIn "C:\\\\a\\\\\x7bchar\x7d" = [.builtin .char] := by
    rw [Registry.kindsIn, htokens]
    rfl
  obtain ⟨hread, hplaceless⟩ := @BuiltinKind.read?_of_expression? .char _ rfl
  have hwhole (raw : String) : Expression.interleave Registry.empty.kind?
      (Expression.tokens "C:\\\\a\\\\\x7bchar\x7d") [raw] =
        "C:\\a\\".toList ++ (raw.toList ++ []) := by
    rw [htokens]
    rfl
  have htext : "C:\\a\\b".toList = "C:\\a\\".toList ++ ("b".toList ++ []) := by decide
  have hraw : Regex.Denotes (.one { ranges := Text.Ranges.complement Text.blankRanges })
      "b".toList := ⟨'b', by decide, by decide⟩
  exact ⟨e, he, Registry.Built.empty.captures_single he hkinds hread hplaceless hwhole htext hraw
    rfl, hspecificity⟩

/-- The expression has five literal characters, and the text four once its backslashes are taken for
    escapes, so that the step is not bound to its own text. -/
theorem not_spells_path :
    ((Plan.resolve [.ofKeyword .Given "C:\\a\\b"] [] pathPools).run.run
        Registry.empty).value.1 = .ok pathPlan ∧
      ExactIn Registry.empty pathPools (.ofKeyword .Given "C:\\a\\b") .Given .global
        ⟨.Given, "C:\\a\\b", 0⟩ ∧
      ∃ binding ∈ pathPlan.bindings, binding.index = 0 ∧ binding.origin = .predefined .global ∧
        Registry.empty.containsPlaceholder binding.definition.pattern = true ∧
        ¬ binding.SpellsStep Registry.empty := by
  have heffective : pathPools.effective.value =
      [(.global, ⟨.Given, "C:\\a\\b", 0⟩),
       (.global, ⟨.Given, "C:\\\\a\\\\\x7bchar\x7d", 1⟩)] := by
    decide +kernel
  have hcontains : Registry.empty.containsPlaceholder "C:\\\\a\\\\\x7bchar\x7d" = true := by
    decide +kernel
  have hplain : Registry.empty.containsPlaceholder "C:\\a\\b" = false := by decide +kernel
  obtain ⟨loose, hloose, hcaptures, hfive⟩ := captures_path
  obtain ⟨own, hown, hfour⟩ : ∃ e, Registry.empty.expression? "C:\\a\\b" = some e ∧
      e.specificity = ⟨4, 0⟩ := by
    rw [← Option.map_eq_some_iff (f := Expression.specificity)]
    decide +kernel
  -- both cover the step, and in one scope the literal characters decide
  have hself := Registry.captures_of_expression? hown hplain
  have hpool : CompiledFrom Registry.empty pathPools.effective.value
      [{ scope := .global, definition := ⟨.Given, "C:\\a\\b", 0⟩, expression := own },
       { scope := .global, definition := ⟨.Given, "C:\\\\a\\\\\x7bchar\x7d", 1⟩
         expression := loose }] := by
    rw [heffective]
    exact ⟨rfl, by simp [hloose, hown]⟩
  have hslots : bindLiterals (slotsOf [.ofKeyword .Given "C:\\a\\b"])
      ([] : List (Definition Nat)) =
      ([{ index := 0, step := .ofKeyword .Given "C:\\a\\b", primary := .Given }], []) := rfl
  refine ⟨(resolve_of_literals hslots hpool).trans ?_, ?_, ?_⟩
  · simp [Plan.ofSlots, Slot.bindBest, Slot.isFree, Slot.bind, PoolEntry.candidate?, Slot.answers,
      Step.ofKeyword, hcaptures, hself, firstBest, prefer, Candidate.isBetter, hfour, hfive,
      Specificity.compare_eq_gt_iff, pathPlan]
  · refine ⟨by simp [pathPools, Pools.declaredIn], .inl rfl, rfl, hplain, ?_⟩
    rw [heffective]
    simp
  · exact ⟨_, List.mem_cons_self, rfl, rfl, hcontains, fun hspells =>
      Bool.false_ne_true (hspells.2.symm.trans hcontains)⟩

end Plan

end Gherkin
