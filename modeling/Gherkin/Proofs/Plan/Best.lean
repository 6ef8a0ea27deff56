/-
  Gherkin.Proofs.Plan.Best

  Which definition a step is bound to that no inline definition took: of the
  definitions in effect that cover it, the earliest one that no other outranks.
-/
import Gherkin.Proofs.Choice
import Gherkin.Proofs.Plan.Accounting

namespace Gherkin

variable {α : Type}

/-! ## Ranks -/

theorem Scope.rank_injective {a b : Scope} (h : a.rank = b.rank) : a = b := by
  revert h
  cases a <;> cases b <;> decide

/-- The first scope is more specific, or they are the same and the first expression has more
    literal characters, or as many and fewer placeholders. -/
def Outranks (a b : Scope × Specificity) : Prop :=
  b.1.rank < a.1.rank ∨ (a.1 = b.1 ∧
    (b.2.literals < a.2.literals ∨
      (a.2.literals = b.2.literals ∧ a.2.placeholders < b.2.placeholders)))

namespace Candidate

/-- What a candidate is ranked by. -/
def rank (candidate : Candidate α) : Scope × Specificity :=
  (candidate.scope, candidate.specificity)

theorem isBetter_eq_true {a b : Candidate α} :
    a.isBetter b = true ↔ b.scope.rank < a.scope.rank ∨ (a.scope.rank = b.scope.rank ∧
      (b.specificity.literals < a.specificity.literals ∨
        (a.specificity.literals = b.specificity.literals ∧
          a.specificity.placeholders < b.specificity.placeholders))) := by
  have hgt : (a.specificity.compare b.specificity).isGT = true ↔ _ :=
    Ordering.isGT_iff_eq_gt.trans Specificity.compare_eq_gt_iff
  simp only [isBetter, Bool.or_eq_true, Bool.and_eq_true, decide_eq_true_eq, hgt]

theorem isBetter_iff {a b : Candidate α} : a.isBetter b = true ↔ Outranks a.rank b.rank := by
  have hsame : a.scope.rank = b.scope.rank ↔ a.scope = b.scope :=
    ⟨Scope.rank_injective, congrArg Scope.rank⟩
  rw [isBetter_eq_true, hsame]
  rfl

/-- Candidates are ordered by rank, and those of one rank tie. -/
theorem ordersUpToTies : OrdersUpToTies (isBetter : Candidate α → Candidate α → Bool) where
  asymm a b h := by
    rw [isBetter_eq_true] at h
    rw [← Bool.not_eq_true, isBetter_eq_true]
    omega
  split a b c h := by
    rw [isBetter_eq_true] at h
    rw [isBetter_eq_true, isBetter_eq_true]
    omega

end Candidate

/-! ## Cover -/

/-- An entry is for a step: it is written for the keyword of the step or for its primary keyword,
    and the expression for its pattern takes the values from the text of the step. -/
structure Covers (registry : Registry) (step : Step) (primary : StepKeyword) (entry : Entry α)
    (e : Expression) (values : List Value) : Prop where
  answers : entry.2.keyword = step.keyword ∨ entry.2.keyword = primary
  expression : registry.expression? entry.2.pattern = some e
  captures : e.captures step.details = .ok values

/-- Of the entries that cover a step, the one at `place` is the first with the greatest rank, and
    the step is bound by it. -/
structure BestCover (registry : Registry) (entries : List (Entry α)) (step : Step)
    (primary : StepKeyword) (place : Nat) (entry : Entry α) (e : Expression) (found : Match α) :
    Prop where
  inEffect : entries[place]? = some entry
  covers : Covers registry step primary entry e found.values
  definition : found.definition = entry.2
  origin : found.origin = .predefined entry.1
  /-- No entry that covers the step outranks it. -/
  greatest : ∀ other ∈ entries, ∀ f values, Covers registry step primary other f values →
    ¬ Outranks (other.1, f.specificity) (entry.1, e.specificity)
  /-- Those before it that cover the step are of lower rank. -/
  earliest : ∀ earlier < place, ∀ other f values, entries[earlier]? = some other →
    Covers registry step primary other f values →
      Outranks (entry.1, e.specificity) (other.1, f.specificity)

section Pool

variable {registry : Registry} {entries : List (Entry α)} {pool : List (PoolEntry α)}

/-- The entry at a place of the pool is the one in effect there. -/
theorem CompiledFrom.getElem? (h : CompiledFrom registry entries pool) {place : Nat}
    {entry : PoolEntry α} (hentry : pool[place]? = some entry) :
    entries[place]? = some (entry.scope, entry.definition) := by
  rw [← h.entries, List.getElem?_map, hentry]
  rfl

/-- An entry in effect covers the step of a slot just in case its candidate is there. -/
theorem CompiledFrom.covers_iff (h : CompiledFrom registry entries pool) {slot : Slot α}
    {entry : PoolEntry α} (hentry : entry ∈ pool) {e : Expression} {values : List Value} :
    Covers registry slot.step slot.primary (entry.scope, entry.definition) e values ↔
      e = entry.expression ∧ entry.candidate? slot =
        some { scope := entry.scope, specificity := entry.expression.specificity
               definition := entry.definition, values } := by
  have hexpression := h.expression entry hentry
  have hanswers : slot.answers entry.definition = true ↔
      entry.definition.keyword = slot.step.keyword ∨ entry.definition.keyword = slot.primary := by
    simp [Slot.answers]
  rw [PoolEntry.candidate?_eq_some, hanswers]
  constructor
  · rintro ⟨hkeyword, hfound, hcaptures⟩
    obtain rfl : e = entry.expression := Option.some.inj (hfound.symm.trans hexpression)
    exact ⟨rfl, hkeyword, values, hcaptures, rfl⟩
  · rintro ⟨rfl, hkeyword, other, hcaptures, hsame⟩
    obtain rfl : values = other := congrArg Candidate.values hsame
    exact ⟨hkeyword, hexpression, hcaptures⟩

/-- The slot after the pools is bound just in case some entry covers its step. -/
theorem CompiledFrom.bound_iff (h : CompiledFrom registry entries pool) {slot : Slot α}
    (hfree : slot.isFree = true) :
    (∃ found, (slot.bindBest pool).binding = some found) ↔
      ∃ entry ∈ entries, ∃ e values,
        Covers registry slot.step slot.primary entry e values := by
  rw [Slot.binding_bindBest hfree]
  constructor
  · rintro ⟨found, hfound⟩
    obtain ⟨best, hbest, -⟩ := Option.map_eq_some_iff.1 hfound
    obtain ⟨entry, hentry, hcandidate⟩ := List.mem_filterMap.1 (firstBest_mem hbest)
    obtain ⟨-, values, -, rfl⟩ := PoolEntry.candidate?_eq_some.1 hcandidate
    refine ⟨(entry.scope, entry.definition), ?_, entry.expression, values, ?_⟩
    · rw [← h.entries]
      exact List.mem_map_of_mem hentry
    · exact (h.covers_iff hentry).2 ⟨rfl, hcandidate⟩
  · rintro ⟨entry, hentry, e, values, hcovers⟩
    rw [← h.entries] at hentry
    obtain ⟨entry, hpool, rfl⟩ := List.mem_map.1 hentry
    obtain ⟨-, hcandidate⟩ := (h.covers_iff hpool).1 hcovers
    have hmem := List.mem_filterMap.2 ⟨entry, hpool, hcandidate⟩
    cases hbest : firstBest Candidate.isBetter (pool.filterMap (PoolEntry.candidate? slot)) with
    | none =>
      rw [firstBest_eq_none_iff.1 hbest] at hmem
      cases hmem
    | some best => exact ⟨_, rfl⟩

/-- What a slot takes from the pools is the best entry for its step. -/
theorem CompiledFrom.best (h : CompiledFrom registry entries pool) {slot : Slot α}
    (hfree : slot.isFree = true) {found : Match α}
    (hfound : (slot.bindBest pool).binding = some found) :
    ∃ place entry e, BestCover registry entries slot.step slot.primary place entry e found := by
  rw [Slot.binding_bindBest hfree] at hfound
  obtain ⟨best, hbest, rfl⟩ := Option.map_eq_some_iff.1 hfound
  obtain ⟨place, entry, hentry, hcandidate, hothers⟩ :=
    firstBest_filterMap Candidate.ordersUpToTies hbest
  obtain ⟨-, values, -, rfl⟩ := PoolEntry.candidate?_eq_some.1 hcandidate
  have hcovers := (h.covers_iff (List.mem_of_getElem? hentry)).2 ⟨rfl, hcandidate⟩
  -- told of places, so that both what holds of all other entries and of earlier ones follow
  have hrank : ∀ (other : Nat) (otherEntry : Entry α) (f : Expression) (values : List Value),
      entries[other]? = some otherEntry →
      Covers registry slot.step slot.primary otherEntry f values →
      ¬ Outranks (otherEntry.1, f.specificity) (entry.scope, entry.expression.specificity) ∧
      (other < place →
        Outranks (entry.scope, entry.expression.specificity) (otherEntry.1, f.specificity)) := by
    intro other otherEntry f values hother hotherCovers
    rw [← h.entries, List.getElem?_map] at hother
    obtain ⟨otherEntry, hpool, rfl⟩ := Option.map_eq_some_iff.1 hother
    obtain ⟨rfl, hotherCandidate⟩ :=
      (h.covers_iff (List.mem_of_getElem? hpool)).1 hotherCovers
    obtain ⟨hnot, hearlier⟩ := hothers other otherEntry _ hpool hotherCandidate
    rw [← Bool.not_eq_true, Candidate.isBetter_iff] at hnot
    rw [Candidate.isBetter_iff] at hearlier
    exact ⟨hnot, hearlier⟩
  refine ⟨place, _, entry.expression, h.getElem? hentry, hcovers, rfl, rfl, ?_, ?_⟩
  · intro other hother f values hotherCovers
    obtain ⟨index, hindex⟩ := List.mem_iff_getElem?.1 hother
    exact (hrank index other f values hindex hotherCovers).1
  · intro earlier hlt other f values hother hotherCovers
    exact (hrank earlier other f values hother hotherCovers).2 hlt

end Pool

/-! ## Plans -/

namespace Plan

/-- The binding at an index is that of the slot there. -/
theorem binding_at_iff {steps : List Step} {slots : List (Slot α)} (hframed : Framed steps slots)
    {index : Nat} {slot : Slot α} (hslot : slots[index]? = some slot) (binding : Binding α) :
    binding ∈ (ofSlots slots).bindings ∧ binding.index = index ↔
      slot.binding = some binding.toMatch ∧ binding.index = index ∧ binding.step = slot.step := by
  obtain ⟨hindex, -, -⟩ := hframed.getElem? hslot
  rw [mem_bindings_ofSlots]
  constructor
  · rintro ⟨⟨other, hother, hfound, hsame, hstep⟩, rfl⟩
    obtain ⟨place, hplace⟩ := List.mem_iff_getElem?.1 hother
    obtain rfl : place = binding.index := (hframed.getElem? hplace).1.symm.trans hsame
    obtain rfl : other = slot := Option.some.inj (hplace.symm.trans hslot)
    exact ⟨hfound, rfl, hstep.symm⟩
  · rintro ⟨hfound, rfl, hstep⟩
    exact ⟨⟨slot, List.mem_of_getElem? hslot, hfound, hindex, hstep.symm⟩, rfl⟩

/-- A step that no inline definition took is bound just in case a definition in effect covers it,
    and then to the best one. -/
theorem best_resolve {registry : Registry} {steps : List Step} {inline : List (Definition α)}
    {pools : Pools α} {plan : Plan α}
    (h : ((Plan.resolve steps inline pools).run.run registry).value.1 = .ok plan)
    {index : Nat} {step : Step} (hstep : steps[index]? = some step)
    (hinline : ∀ binding ∈ plan.bindings, binding.index = index → binding.origin ≠ .inline) :
    ((∃ binding ∈ plan.bindings, binding.index = index) ↔
      ∃ entry ∈ pools.effective.value, ∃ e values,
        Covers registry step (primaryAt steps index) entry e values) ∧
    ∀ binding ∈ plan.bindings, binding.index = index → ∃ place entry e,
      BestCover registry pools.effective.value step (primaryAt steps index) place entry e
        binding.toMatch := by
  obtain ⟨after, hrun⟩ := Planning.gives_of_value h
  obtain ⟨filled, pool, hplaced, hpool, rfl⟩ := gives_resolve hrun
  have hframed := hplaced.frame
  have hbest := hframed.bindBest pool
  have hlt : index < filled.length := by
    rw [hframed.length]
    exact (List.getElem?_eq_some_iff.1 hstep).1
  obtain ⟨slot, hslot⟩ : ∃ slot, filled[index]? = some slot :=
    ⟨filled[index], List.getElem?_eq_getElem hlt⟩
  obtain ⟨-, hsame, hprimary⟩ := hframed.getElem? hslot
  obtain rfl : step = slot.step := Option.some.inj (hstep.symm.trans hsame)
  have hlast : (filled.map (Slot.bindBest pool))[index]? = some (slot.bindBest pool) := by
    rw [List.getElem?_map, hslot]
    rfl
  have hat := binding_at_iff hbest hlast
  -- the slot is free: what inline definitions take, they keep
  have hfree : slot.isFree = true := by
    cases hbinding : slot.binding with
    | none => exact Slot.isFree_iff.2 hbinding
    | some found =>
      have hbound : slot.bindBest pool = slot :=
        Slot.bindBest_of_bound (by simp [Slot.isFree, hbinding])
      have hthere := (hat { found with index, step := slot.step }).2
        ⟨by rw [hbound, hbinding], rfl, by rw [hbound]⟩
      exact absurd (hplaced.bound slot (List.mem_of_getElem? hslot) found hbinding).2
        (hinline _ hthere.1 rfl)
  rw [← hprimary]
  constructor
  · rw [← hpool.bound_iff hfree]
    constructor
    · rintro ⟨binding, hbinding⟩
      exact ⟨binding.toMatch, ((hat binding).1 hbinding).1⟩
    · rintro ⟨found, hfound⟩
      exact ⟨_, (hat { found with index, step := (slot.bindBest pool).step }).2
        ⟨hfound, rfl, rfl⟩⟩
  · intro binding hbinding hindex
    exact hpool.best hfree ((hat binding).1 ⟨hbinding, hindex⟩).1

/-- A conjunction that a definition for its own keyword and one for its primary keyword cover: the
    one of the more specific scope counts. -/
theorem best_resolve_conjunction :
    ∃ plan : Plan Nat,
      ((Plan.resolve [.ofKeyword .Given "a", .ofKeyword .And "b"] []
        { global := [⟨.Given, "a", 0⟩, ⟨.Given, "b", 1⟩], feature := [⟨.And, "b", 2⟩] }).run.run
          Registry.empty).value.1 = .ok plan ∧
      plan.bindings.map (fun binding => (binding.index, binding.origin)) =
        [(0, .predefined .global), (1, .predefined .feature)] ∧
      ∀ binding ∈ plan.bindings, binding.index = 1 → ∃ place entry e,
        BestCover Registry.empty [(.feature, ⟨.And, "b", 2⟩), (.global, ⟨.Given, "a", 0⟩),
          (.global, ⟨.Given, "b", 1⟩)] (.ofKeyword .And "b") .Given place entry e
          binding.toMatch := by
  have hvalue : ((Plan.resolve [.ofKeyword .Given "a", .ofKeyword .And "b"] []
      { global := [⟨.Given, "a", 0⟩, ⟨.Given, "b", 1⟩], feature := [⟨.And, "b", 2⟩] }).run.run
        Registry.empty).value.1.toOption.map
        (fun plan => plan.bindings.map fun binding => (binding.index, binding.origin)) =
      some [(0, .predefined .global), (1, .predefined .feature)] := by
    decide +kernel
  obtain ⟨plan, hplan, hbindings⟩ := exists_ok_of_map_toOption hvalue
  refine ⟨plan, hplan, hbindings, ?_⟩
  apply (best_resolve hplan rfl ?_).2
  intro binding hbinding _ horigin
  have hmem := List.mem_map_of_mem (f := fun binding : Binding Nat =>
    (binding.index, binding.origin)) hbinding
  rw [hbindings, horigin] at hmem
  simp at hmem

end Plan

end Gherkin
