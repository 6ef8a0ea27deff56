/-
  Gherkin.Proofs.Plan.Values

  The values that come with a binding. They are those that the expression of its
  definition takes from the text of its step, as many as the pattern has known
  placeholders, but for one case: an inline definition that is the very text of
  its step is bound without matching, and then nothing is taken.
-/
import Gherkin.Proofs.Expression.Reassembly
import Gherkin.Proofs.Plan.Accounting

namespace Gherkin

variable {α : Type}

/-! ## What slots hold -/

/-- What a match holds of the step it is for. -/
structure Match.Carries (registry : Registry) (step : Step) (found : Match α) : Prop where
  /-- An inline definition that is the text of the step takes nothing. -/
  literal : found.origin = .inline → found.definition.pattern = step.details → found.values = []
  /-- Any other takes what the expression for its pattern does. -/
  captured : ¬ (found.origin = .inline ∧ found.definition.pattern = step.details) →
    ∃ e, registry.expression? found.definition.pattern = some e ∧
      e.captures step.details = .ok found.values

namespace Slot

/-- If the slot is bound, its match holds what the definition takes from the step. -/
def Carries (registry : Registry) (slot : Slot α) : Prop :=
  ∀ found, slot.binding = some found → found.Carries registry slot.step

/-- The slot takes none of these definitions for the text of its step. -/
def SpellsNone (definitions : List (Definition α)) (slot : Slot α) : Prop :=
  ∀ definition ∈ definitions, slot.bindLiteral? definition = none

variable {registry : Registry} {slot bound : Slot α} {definition : Definition α} {e : Expression}
  {definitions : List (Definition α)}

theorem SpellsNone.of_bound (h : slot.isFree = false) : slot.SpellsNone definitions := by
  intro definition _
  simp [bindLiteral?, h]

theorem carries_of_free (hfree : slot.binding = none) : slot.Carries registry := by
  intro found hfound
  rw [hfree] at hfound
  cases hfound

theorem carries_of_bindLiteral? (h : slot.bindLiteral? definition = some bound) :
    bound.Carries registry := by
  obtain ⟨-, -, htext, rfl⟩ := bindLiteral?_eq_some_iff.1 h
  intro found hfound
  obtain rfl := Option.some.inj hfound
  exact ⟨fun _ _ => rfl, fun hnot => absurd ⟨rfl, htext.symm⟩ hnot⟩

/-- A definition that is matched is not the text of the step: that would have been bound before. -/
theorem carries_of_bindMatching? (hexpression : registry.expression? definition.pattern = some e)
    (hnone : slot.bindLiteral? definition = none)
    (h : slot.bindMatching? definition e = some bound) : bound.Carries registry := by
  obtain ⟨hfree, hanswers, values, hvalues, rfl⟩ := bindMatching?_eq_some_iff.1 h
  have htext : definition.pattern ≠ slot.step.details := by
    intro hsame
    rw [bindLiteral?_eq_some_iff.2 ⟨hfree, hanswers, hsame.symm, rfl⟩] at hnone
    cases hnone
  intro found hfound
  obtain rfl := Option.some.inj hfound
  exact ⟨fun _ hsame => absurd hsame htext, fun _ => ⟨e, hexpression, hvalues⟩⟩

/-- What a free slot takes from the pools comes from the expression of an entry. -/
theorem Carries.bindBest {entries : List (Entry α)} {pool : List (PoolEntry α)}
    (h : slot.Carries registry) (hpool : CompiledFrom registry entries pool) :
    (slot.bindBest pool).Carries registry := by
  by_cases hfree : slot.isFree = true
  · intro found hfound
    have hstep : (slot.bindBest pool).step = slot.step := by
      show (slot.bindBest pool).unbind.step = slot.step
      rw [unbind_bindBest]
      rfl
    have hinline : found.origin ≠ .inline := (answers_of_bindBest hfree hfound).2
    rw [binding_bindBest hfree] at hfound
    obtain ⟨best, hbest, rfl⟩ := Option.map_eq_some_iff.1 hfound
    obtain ⟨entry, hentry, hcandidate⟩ := List.mem_filterMap.1 (firstBest_mem hbest)
    obtain ⟨-, values, hvalues, rfl⟩ := PoolEntry.candidate?_eq_some.1 hcandidate
    rw [hstep]
    exact ⟨fun horigin => absurd horigin hinline,
      fun _ => ⟨entry.expression, hpool.expression entry hentry, hvalues⟩⟩
  · rw [bindBest_of_bound (Bool.eq_false_iff.2 hfree)]
    exact h

end Slot

/-! ## The passes over inline definitions -/

section Passes

variable {P : Slot α → Prop} {slots : List (Slot α)} {registry after : Registry}

/-- What holds of every slot, and of one that is bound to its text, holds after the first pass. -/
theorem forall_bindLiterals {inline : List (Definition α)} (hslots : ∀ slot ∈ slots, P slot)
    (hbind : ∀ definition slot bound, P slot → slot.bindLiteral? definition = some bound →
      P bound) : ∀ slot ∈ (bindLiterals slots inline).1, P slot := by
  induction inline generalizing slots with
  | nil => exact hslots
  | cons definition inline ih =>
    rw [bindLiterals]
    cases hfirst : bindFirst? (Slot.bindLiteral? definition) slots with
    | some next => exact ih (forall_bindFirst? hslots (hbind definition) hfirst)
    | none => exact ih hslots

/-- The definitions that the first pass leaves over are the text of no slot that is still free. -/
theorem spellsNone_bindLiterals (slots : List (Slot α)) (inline : List (Definition α)) :
    ∀ slot ∈ (bindLiterals slots inline).1, slot.SpellsNone (bindLiterals slots inline).2 := by
  induction inline generalizing slots with
  | nil => simp [bindLiterals, Slot.SpellsNone]
  | cons definition inline ih =>
    rw [bindLiterals]
    cases hfirst : bindFirst? (Slot.bindLiteral? definition) slots with
    | some next => exact ih next
    | none =>
      -- no slot took the definition at its turn, and binding others frees none
      have hleft : ∀ slot ∈ (bindLiterals slots inline).1, slot.bindLiteral? definition = none := by
        apply forall_bindLiterals (bindFirst?_eq_none_iff.1 hfirst)
        intro other slot bound _ hbound
        obtain ⟨-, -, -, rfl⟩ := Slot.bindLiteral?_eq_some_iff.1 hbound
        exact Slot.SpellsNone.of_bound rfl definition (List.mem_singleton_self definition)
      intro slot hslot other hother
      rcases List.mem_cons.1 hother with rfl | hother
      · exact hleft slot hslot
      · exact ih slots slot hslot other hother

/-- What holds of every slot, and of one that is bound to a definition that matches it, holds
    after the second pass. -/
theorem forall_bindPending {pending : List (Definition α)} {filled : List (Slot α)}
    (hslots : ∀ slot ∈ slots, P slot)
    (hbind : ∀ definition ∈ pending, ∀ e, registry.expression? definition.pattern = some e →
      ∀ slot bound, P slot → slot.bindMatching? definition e = some bound → P bound)
    (hrun : (bindPending slots pending).Gives registry filled after) :
    ∀ slot ∈ filled, P slot := by
  induction pending generalizing slots registry with
  | nil =>
    obtain ⟨rfl, -⟩ := Planning.gives_pure.1 hrun
    exact hslots
  | cons definition pending ih =>
    rw [bindPending] at hrun
    obtain ⟨e, between, hcompile, hrest⟩ := Planning.gives_bind.1 hrun
    obtain ⟨hexpression, hbetween⟩ := Planning.gives_compile hcompile
    cases hfirst : bindFirst? (Slot.bindMatching? definition e) slots with
    | none =>
      rw [hfirst] at hrest
      exact absurd hrest Planning.not_gives_throw
    | some next =>
      rw [hfirst] at hrest
      have hnext : ∀ slot ∈ next, P slot :=
        forall_bindFirst? hslots (hbind definition List.mem_cons_self e hexpression) hfirst
      refine ih hnext ?_ hrest
      intro other hother f hf
      rw [hbetween.expression?] at hf
      exact hbind other (List.mem_cons_of_mem _ hother) f hf

/-- After both passes each slot that is bound holds what its definition takes from the step. -/
theorem carries_bindPending {steps : List Step} {inline : List (Definition α)}
    {filled : List (Slot α)}
    (hrun : (bindPending (bindLiterals (slotsOf steps) inline).1
      (bindLiterals (slotsOf steps) inline).2).Gives registry filled after) :
    ∀ slot ∈ filled, slot.Carries registry := by
  have hliteral : ∀ slot ∈ (bindLiterals (slotsOf steps) inline).1, slot.Carries registry :=
    forall_bindLiterals
      (fun _ hslot => Slot.carries_of_free (binding_of_mem_slotsOf hslot))
      (fun _ _ _ _ hbound => Slot.carries_of_bindLiteral? hbound)
  have hspells := spellsNone_bindLiterals (slotsOf steps) inline
  generalize (bindLiterals (slotsOf steps) inline).2 = pending at hrun hspells
  -- the invariant also says that no slot takes a definition left over for its text
  have hboth : ∀ slot ∈ filled, slot.Carries registry ∧ slot.SpellsNone pending := by
    refine forall_bindPending (fun slot hslot => ⟨hliteral slot hslot, hspells slot hslot⟩) ?_ hrun
    rintro definition hdefinition e hexpression slot bound ⟨-, hnone⟩ hbound
    obtain ⟨-, -, values, -, rfl⟩ := Slot.bindMatching?_eq_some_iff.1 hbound
    exact ⟨Slot.carries_of_bindMatching? hexpression (hnone definition hdefinition) hbound,
      Slot.SpellsNone.of_bound rfl⟩
  exact fun slot hslot => (hboth slot hslot).1

end Passes

/-! ## Plans -/

/-- An inline definition is bound to a step of which it is the very text, although its pattern has
    a placeholder. -/
def Binding.SpellsPlaceholder (registry : Registry) (binding : Binding α) : Prop :=
  binding.origin = .inline ∧ binding.definition.pattern = binding.step.details ∧
    registry.containsPlaceholder binding.definition.pattern = true

namespace Plan

variable {registry : Registry} {steps : List Step} {inline : List (Definition α)}
  {pools : Pools α} {plan : Plan α} {binding : Binding α}

theorem carries_resolve
    (h : ((Plan.resolve steps inline pools).run.run registry).value.1 = .ok plan)
    (hbinding : binding ∈ plan.bindings) : binding.toMatch.Carries registry binding.step := by
  obtain ⟨after, hrun⟩ := Planning.gives_of_value h
  obtain ⟨filled, between, pool, hfilled, -, hpool, rfl⟩ := gives_resolve_passes hrun
  obtain ⟨slot, hslot, hfound, -, hstep⟩ := mem_bindings_ofSlots.1 hbinding
  obtain ⟨before, hbefore, rfl⟩ := List.mem_map.1 hslot
  rw [← hstep]
  exact (carries_bindPending hfilled before hbefore).bindBest hpool _ hfound

/-- The values of a binding are those that the expression of its definition takes from the text of
    its step, one for each known placeholder of the pattern; but an inline definition that spells
    out its placeholders in the text of its step takes none. -/
theorem values_resolve
    (h : ((Plan.resolve steps inline pools).run.run registry).value.1 = .ok plan)
    (hbinding : binding ∈ plan.bindings) {e : Expression}
    (hexpression : registry.expression? binding.definition.pattern = some e) :
    (binding.SpellsPlaceholder registry → binding.values = []) ∧
      (¬ binding.SpellsPlaceholder registry →
        e.captures binding.step.details = .ok binding.values ∧
          binding.values.length = registry.placeholderCount binding.definition.pattern) := by
  have hcarries := carries_resolve h hbinding
  refine ⟨fun hspells => hcarries.literal hspells.1 hspells.2.1, ?_⟩
  intro hnot
  have hcaptures : e.captures binding.step.details = .ok binding.values := by
    by_cases hliteral : binding.origin = .inline ∧ binding.definition.pattern = binding.step.details
    -- the text of the step is the pattern, which has no placeholder
    · obtain ⟨horigin, htext⟩ := hliteral
      have hnone : registry.containsPlaceholder binding.definition.pattern = false :=
        Bool.eq_false_iff.2 fun hcontains => hnot ⟨horigin, htext, hcontains⟩
      rw [hcarries.literal horigin htext, ← htext]
      exact Registry.captures_of_expression? hexpression hnone
    · obtain ⟨f, hf, hvalues⟩ := hcarries.captured hliteral
      obtain rfl : f = e := Option.some.inj (hf.symm.trans hexpression)
      exact hvalues
  exact ⟨hcaptures, Registry.length_captures_of_expression? hexpression hcaptures⟩

/-- A registry with one placeholder, which takes any text. -/
def anything : Registry :=
  { custom := [{ name := "a", fragment := ".*", convert := .text }] }

theorem built_anything : anything.Built := by
  have hregister : (Registry.empty.register
      { name := "a", fragment := ".*", convert := .text }).value = .ok anything := rfl
  exact .register .empty hregister

theorem captures_anything :
    ∃ e, anything.expression? "\x7ba\x7d" = some e ∧
      e.captures "\x7ba\x7d" = .ok [.text "\x7ba\x7d"] := by
  obtain ⟨e, he⟩ : ∃ e, anything.expression? "\x7ba\x7d" = some e :=
    Option.isSome_iff_exists.1 (by decide +kernel)
  have htokens : Expression.tokens "\x7ba\x7d" = [.placeholder 0 "a"] := by decide +kernel
  have hkinds : anything.kindsIn "\x7ba\x7d" =
      [.custom { name := "a", fragment := ".*", convert := .text }] := by
    rw [Registry.kindsIn, htokens]
    rfl
  have hread : Regex.read? ".*" =
      some (.rep 0 none true (.one { ranges := [(0, 9), (11, 1114111)] })) := by
    decide +kernel
  have hwhole (raw : String) :
      Expression.interleave anything.kind? (Expression.tokens "\x7ba\x7d") [raw] =
        [] ++ (raw.toList ++ []) := by
    rw [htokens]
    rfl
  have hraw : Regex.Denotes (.rep 0 none true (.one { ranges := [(0, 9), (11, 1114111)] }))
      "\x7ba\x7d".toList := by
    rw [Regex.denotes_rep_one_iff]
    exact ⟨List.all_eq_true.1 (by decide +kernel), Nat.zero_le _, by simp⟩
  exact ⟨e, he, built_anything.captures_single he hkinds hread rfl hwhole (by simp) hraw rfl⟩

/-- The plan for two steps that spell out the placeholder, with that pattern both inline and in a
    pool. -/
def anythingPlan : Plan Nat where
  bindings :=
    [{ definition := ⟨.Given, "\x7ba\x7d", 0⟩, origin := .inline, values := []
       index := 0, step := .ofKeyword .Given "\x7ba\x7d" },
     { definition := ⟨.Given, "\x7ba\x7d", 1⟩, origin := .predefined .global
       values := [.text "\x7ba\x7d"], index := 1, step := .ofKeyword .Given "\x7ba\x7d" }]
  unresolved := []

theorem resolve_anything :
    ((Plan.resolve [.ofKeyword .Given "\x7ba\x7d", .ofKeyword .Given "\x7ba\x7d"]
      [⟨.Given, "\x7ba\x7d", 0⟩] { global := [⟨.Given, "\x7ba\x7d", 1⟩] }).run.run
        anything).value.1 = .ok anythingPlan := by
  obtain ⟨e, hexpression, hcaptures⟩ := captures_anything
  have hpool : CompiledFrom (α := Nat) anything [(.global, ⟨.Given, "\x7ba\x7d", 1⟩)]
      [{ scope := .global, definition := ⟨.Given, "\x7ba\x7d", 1⟩, expression := e }] :=
    ⟨rfl, by simpa using hexpression⟩
  refine (resolve_of_literals rfl hpool).trans ?_
  simp [Plan.ofSlots, StepKeyword.resolveAll, Slot.bindBest, Slot.isFree, Slot.bind,
    PoolEntry.candidate?, Slot.answers, Step.ofKeyword, hcaptures, firstBest, prefer,
    anythingPlan]

/-- The inline definition takes nothing from the first of the two steps, and that of the pool the
    whole text of the second. -/
theorem values_resolve_anything :
    ((Plan.resolve [.ofKeyword .Given "\x7ba\x7d", .ofKeyword .Given "\x7ba\x7d"]
      [⟨.Given, "\x7ba\x7d", 0⟩] { global := [⟨.Given, "\x7ba\x7d", 1⟩] }).run.run
        anything).value.1 = .ok anythingPlan ∧
      ∀ binding ∈ anythingPlan.bindings, ∃ e,
        anything.expression? binding.definition.pattern = some e ∧
        (binding.SpellsPlaceholder anything → binding.values = []) ∧
        (¬ binding.SpellsPlaceholder anything →
          e.captures binding.step.details = .ok binding.values ∧
            binding.values.length = anything.placeholderCount binding.definition.pattern) := by
  obtain ⟨e, hexpression, -⟩ := captures_anything
  refine ⟨resolve_anything, ?_⟩
  intro binding hbinding
  have hpattern : ∀ other ∈ anythingPlan.bindings, other.definition.pattern = "\x7ba\x7d" := by
    simp [anythingPlan]
  have hcompiled : anything.expression? binding.definition.pattern = some e := by
    rw [hpattern binding hbinding, hexpression]
  exact ⟨e, hcompiled, values_resolve resolve_anything hbinding hcompiled⟩

/-- The first of the two has no values, although its expression would take the whole text. -/
theorem captures_ne_values_anything :
    ((Plan.resolve [.ofKeyword .Given "\x7ba\x7d", .ofKeyword .Given "\x7ba\x7d"]
      [⟨.Given, "\x7ba\x7d", 0⟩] { global := [⟨.Given, "\x7ba\x7d", 1⟩] }).run.run
        anything).value.1 = .ok anythingPlan ∧
      ∃ binding ∈ anythingPlan.bindings, ∃ e,
        anything.expression? binding.definition.pattern = some e ∧
        e.captures binding.step.details = .ok [.text "\x7ba\x7d"] ∧
        anything.placeholderCount binding.definition.pattern = 1 ∧ binding.values = [] := by
  obtain ⟨e, hexpression, hcaptures⟩ := captures_anything
  have hcount : anything.placeholderCount "\x7ba\x7d" = 1 := by decide +kernel
  exact ⟨resolve_anything, _, List.mem_cons_self, e, hexpression, hcaptures, hcount, rfl⟩

end Plan

end Gherkin
