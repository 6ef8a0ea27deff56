/-
  Gherkin.Proofs.Plan.Accounting

  A plan accounts for all that it was made from: every step is bound or
  unresolved, in its place, and every inline definition is bound to one step.
-/
import Gherkin.Proofs.Plan.Run

namespace Gherkin

open List (Perm)

variable {α : Type}

/-! ## Slots of steps -/

section Framed

variable {steps : List Step} {slots : List (Slot α)}

theorem Framed.bindBest (h : Framed steps slots) (pool : List (PoolEntry α)) :
    Framed steps (slots.map (Slot.bindBest pool)) := by
  have hsame : Slot.unbind ∘ Slot.bindBest pool = Slot.unbind := by
    funext slot
    exact Slot.unbind_bindBest pool slot
  rw [Framed, List.map_map, hsame]
  exact h

theorem Framed.length (h : Framed steps slots) : slots.length = steps.length := by
  rw [← List.length_map Slot.unbind, h, length_slotsOf]

/-- The slot at an index holds the step there. -/
theorem Framed.getElem? (h : Framed steps slots) {index : Nat} {slot : Slot α}
    (hslot : slots[index]? = some slot) :
    slot.index = index ∧ steps[index]? = some slot.step ∧
      slot.primary = primaryAt steps index := by
  have hindex : index < steps.length := by
    rw [← h.length]
    exact (List.getElem?_eq_some_iff.1 hslot).1
  have hbare : some slot.unbind =
      some { index, step := steps[index], primary := primaryAt steps index } := by
    rw [← getElem?_slotsOf hindex, ← h, List.getElem?_map, hslot]
    rfl
  have hfields := Option.some.inj hbare
  refine ⟨congrArg Slot.index hfields, ?_, congrArg Slot.primary hfields⟩
  rw [List.getElem?_eq_getElem hindex]
  exact congrArg some (congrArg Slot.step hfields).symm

theorem Framed.of_mem (h : Framed steps slots) {slot : Slot α} (hslot : slot ∈ slots) :
    steps[slot.index]? = some slot.step ∧ slot.primary = primaryAt steps slot.index := by
  obtain ⟨index, hindex⟩ := List.mem_iff_getElem?.1 hslot
  obtain ⟨rfl, hrest⟩ := h.getElem? hindex
  exact hrest

theorem Framed.map_index (h : Framed steps slots) :
    slots.map (·.index) = List.range steps.length := by
  apply List.ext_getElem?
  intro index
  rw [List.getElem?_map]
  cases hslot : slots[index]? with
  | none =>
    have hlength : steps.length ≤ index := by
      rw [← h.length]
      exact List.getElem?_eq_none_iff.1 hslot
    rw [List.getElem?_eq_none_iff.2 (by simpa using hlength)]
    rfl
  | some slot =>
    have hindex : index < steps.length := by
      rw [← h.length]
      exact (List.getElem?_eq_some_iff.1 hslot).1
    rw [Option.map_some, (h.getElem? hslot).1, List.getElem?_range hindex]

end Framed

/-! ## Plans of slots -/

namespace Plan

variable {slots : List (Slot α)}

theorem mem_bindings_ofSlots {binding : Binding α} :
    binding ∈ (ofSlots slots).bindings ↔
      ∃ slot ∈ slots, slot.binding = some binding.toMatch ∧ slot.index = binding.index ∧
        slot.step = binding.step := by
  simp only [ofSlots, List.mem_filterMap, Option.map_eq_some_iff]
  constructor
  · rintro ⟨slot, hslot, found, hfound, rfl⟩
    exact ⟨slot, hslot, hfound, rfl, rfl⟩
  · rintro ⟨slot, hslot, hfound, hindex, hstep⟩
    refine ⟨slot, hslot, binding.toMatch, hfound, ?_⟩
    rw [hindex, hstep]

theorem map_index_bindings_ofSlots (slots : List (Slot α)) :
    (ofSlots slots).bindings.map (·.index) =
      (slots.filter fun slot => !slot.isFree).map (·.index) := by
  induction slots with
  | nil => rfl
  | cons slot slots ih =>
    simp only [ofSlots] at ih ⊢
    cases hbinding : slot.binding with
    | none => simpa [hbinding, Slot.isFree] using ih
    | some found => simpa [hbinding, Slot.isFree] using ih

/-- The pools take no slot from an inline definition. -/
theorem inline_ofSlots {pool : List (PoolEntry α)}
    (hinline : ∀ slot ∈ slots, ∀ found, slot.binding = some found → found.origin = .inline) :
    ((ofSlots (slots.map (Slot.bindBest pool))).bindings.filter (·.origin = .inline)).map
      (·.definition) = definitionsIn slots := by
  induction slots with
  | nil => rfl
  | cons slot slots ih =>
    have hrest := ih fun other hother => hinline other (List.mem_cons_of_mem _ hother)
    simp only [ofSlots, definitionsIn, List.map_cons, List.filterMap_cons] at hrest ⊢
    cases hbinding : slot.binding with
    -- what an inline definition took, it keeps
    | some found =>
      have hbound : slot.isFree = false := by simp [Slot.isFree, hbinding]
      have horigin : found.origin = .inline := hinline slot List.mem_cons_self found hbinding
      simpa [Slot.bindBest_of_bound hbound, hbinding, horigin] using hrest
    -- what the pools give to a free slot is not inline
    | none =>
      have hfree := Slot.isFree_iff.2 hbinding
      cases hbest : (slot.bindBest pool).binding with
      | none => simpa using hrest
      | some found =>
        have horigin : found.origin ≠ .inline := (Slot.answers_of_bindBest hfree hbest).2
        simpa [horigin] using hrest

/-! ## The account -/

/-- What a plan says of the steps and the inline definitions it was made from. -/
structure Accounts (steps : List Step) (inline : List (Definition α)) (plan : Plan α) : Prop where
  /-- Bindings come in the order of their steps, at most one for each. -/
  increasing : (plan.bindings.map (·.index)).Pairwise (· < ·)
  /-- Each binding is of the step at its index. -/
  inPlace : ∀ binding ∈ plan.bindings, steps[binding.index]? = some binding.step
  /-- The steps that are not bound are the unresolved ones, in order. -/
  partition : ∃ positions : List Nat, positions.Pairwise (· < ·) ∧
    positions.map (steps[·]?) = plan.unresolved.map some ∧
    Perm (plan.bindings.map (·.index) ++ positions) (List.range steps.length)
  /-- A definition is written for the keyword of its step or for the primary keyword there. -/
  answers : ∀ binding ∈ plan.bindings,
    binding.definition.keyword = binding.step.keyword ∨
      binding.definition.keyword = primaryAt steps binding.index
  /-- Each inline definition is bound once, and stays so. -/
  inlineOnce : Perm ((plan.bindings.filter (·.origin = .inline)).map (·.definition)) inline

theorem accounts_ofSlots {steps : List Step} {inline : List (Definition α)}
    (h : Placed steps inline slots) (pool : List (PoolEntry α)) :
    (ofSlots (slots.map (Slot.bindBest pool))).Accounts steps inline := by
  have hframed : Framed steps (slots.map (Slot.bindBest pool)) := h.frame.bindBest pool
  have hincreasing := List.pairwise_lt_range (n := steps.length)
  rw [← hframed.map_index] at hincreasing
  constructor
  · rw [map_index_bindings_ofSlots]
    exact hincreasing.sublist (List.filter_sublist.map _)
  · intro binding hbinding
    obtain ⟨slot, hslot, -, hindex, hstep⟩ := mem_bindings_ofSlots.1 hbinding
    rw [← hindex, ← hstep]
    exact (hframed.of_mem hslot).1
  · refine ⟨((slots.map (Slot.bindBest pool)).filter Slot.isFree).map (·.index), ?_, ?_, ?_⟩
    · exact hincreasing.sublist (List.filter_sublist.map _)
    · rw [ofSlots, List.map_map, List.map_map]
      apply List.map_congr_left
      intro slot hslot
      exact (hframed.of_mem (List.mem_filter.1 hslot).1).1
    -- the bound slots and the free ones are all slots
    · rw [map_index_bindings_ofSlots, ← List.map_append, ← hframed.map_index]
      apply Perm.map
      exact List.perm_append_comm.trans (List.filter_append_perm _ _)
  · intro binding hbinding
    obtain ⟨slot, hslot, hfound, hindex, hstep⟩ := mem_bindings_ofSlots.1 hbinding
    have hprimary := (hframed.of_mem hslot).2
    have hanswers : slot.answers binding.definition = true := by
      obtain ⟨before, hbefore, rfl⟩ := List.mem_map.1 hslot
      by_cases hfree : before.isFree = true
      · rw [Slot.answers_bindBest]
        exact (Slot.answers_of_bindBest hfree hfound).1
      · have hbound : before.bindBest pool = before :=
          Slot.bindBest_of_bound (Bool.eq_false_iff.2 hfree)
        rw [hbound] at hfound ⊢
        exact (h.bound before hbefore _ hfound).1
    unfold Slot.answers at hanswers
    rw [hprimary, hstep, hindex] at hanswers
    simpa using hanswers
  · rw [inline_ofSlots fun slot hslot found hfound => (h.bound slot hslot found hfound).2]
    exact h.definitions

/-- A plan accounts for every step and every inline definition exactly once. -/
theorem accounts_resolve {registry : Registry} {steps : List Step}
    {inline : List (Definition α)} {pools : Pools α} {plan : Plan α}
    (h : ((Plan.resolve steps inline pools).run.run registry).value.1 = .ok plan) :
    plan.Accounts steps inline := by
  obtain ⟨after, hrun⟩ := Planning.gives_of_value h
  obtain ⟨slots, pool, hplaced, -, rfl⟩ := gives_resolve hrun
  exact accounts_ofSlots hplaced pool

/-- Two inline definitions of one text, of which the second finds the second step only; a step
    from the pools; and one that nothing covers. -/
theorem accounts_resolve_repeated :
    ∃ plan : Plan Nat,
      ((Plan.resolve
        [.ofKeyword .Given "a", .ofKeyword .And "a", .ofKeyword .When "b", .ofKeyword .Then "c"]
        [⟨.Given, "a", 0⟩, ⟨.Given, "a", 1⟩]
        { global := [⟨.When, "b", 2⟩, ⟨.And, "a", 3⟩] }).run.run
          Registry.empty).value.1 = .ok plan ∧
      plan.bindings.map (fun binding => (binding.index, binding.definition.implementation)) =
        [(0, 0), (1, 1), (2, 2)] ∧
      plan.Accounts
        [.ofKeyword .Given "a", .ofKeyword .And "a", .ofKeyword .When "b", .ofKeyword .Then "c"]
        [⟨.Given, "a", 0⟩, ⟨.Given, "a", 1⟩] := by
  have hvalue : ((Plan.resolve
      [.ofKeyword .Given "a", .ofKeyword .And "a", .ofKeyword .When "b", .ofKeyword .Then "c"]
      [⟨.Given, "a", 0⟩, ⟨.Given, "a", 1⟩]
      { global := [⟨.When, "b", 2⟩, ⟨.And, "a", 3⟩] }).run.run
        Registry.empty).value.1.toOption.map
        (fun plan => plan.bindings.map
          fun binding => (binding.index, binding.definition.implementation)) =
      some [(0, 0), (1, 1), (2, 2)] := by
    decide +kernel
  obtain ⟨plan, hplan, hbindings⟩ := exists_ok_of_map_toOption hvalue
  exact ⟨plan, hplan, hbindings, accounts_resolve hplan⟩

end Plan

end Gherkin
