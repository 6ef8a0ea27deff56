/-
  Gherkin.Proofs.Plan.Overridden

  Definitions that are overridden count for nothing. A plan is the same whether
  steps are bound from the definitions in effect or from all that are declared,
  repetitions included: a repetition is of no greater rank than the definition
  that it repeats, covers the same steps and stands behind it. Its expression has
  been made before, so that the registry is left the same, too.
-/
import Gherkin.Proofs.Plan.Best

namespace Gherkin

/-! ## Definitions in effect -/

section Keys

variable {α : Type}

/-- What two entries have in common if one overrides the other. -/
def keyOf (entry : Entry α) : StepKeyword × String := entry.2.key

/-- What two entries of a pool have in common if one overrides the other. -/
def PoolEntry.key (entry : PoolEntry α) : StepKeyword × String := entry.definition.key

end Keys

namespace Pools

variable {α : Type}

/-- What is not overridden is the first of its keyword and pattern. -/
theorem value_notOverridden (seen : List (StepKeyword × String)) (entries : List (Entry α)) :
    (notOverridden seen entries).value =
      firstOfKey keyOf seen entries := by
  induction entries generalizing seen with
  | nil => rfl
  | cons entry entries ih =>
    obtain ⟨scope, definition⟩ := entry
    rw [notOverridden, firstOfKey, keyOf]
    split
    · exact ih seen
    · rw [← ih]
      rfl

/-- The definitions in effect are the first ones of each keyword and pattern. -/
theorem value_effective (pools : Pools α) :
    pools.effective.value = firstOfKey keyOf [] pools.declared :=
  value_notOverridden [] pools.declared

/-- More specific scopes come first. -/
theorem pairwise_declared (pools : Pools α) :
    pools.declared.Pairwise fun a b => b.1.rank ≤ a.1.rank := by
  rw [declared, List.pairwise_flatMap]
  constructor
  · intro scope _
    rw [List.pairwise_map]
    exact List.pairwise_of_forall fun _ _ => Nat.le_refl _
  · have hscopes : Scope.all.Pairwise fun a b => b.rank ≤ a.rank := by decide
    refine hscopes.imp ?_
    intro a b hle x hx y hy
    obtain ⟨_, -, rfl⟩ := List.mem_map.1 hx
    obtain ⟨_, -, rfl⟩ := List.mem_map.1 hy
    exact hle

theorem mem_declared_iff {pools : Pools α} {entry : Entry α} :
    entry ∈ pools.declared ↔ entry.2 ∈ pools.declaredIn entry.1 := by
  obtain ⟨scope, definition⟩ := entry
  cases scope <;> simp [declared, Scope.all]

/-- For each definition that is declared there is one in effect with its keyword and pattern, in its
    scope or in a more specific one. -/
theorem exists_effective_of_mem_declared {pools : Pools α} {entry : Entry α}
    (h : entry ∈ pools.declared) :
    ∃ other ∈ pools.effective.value, keyOf other = keyOf entry ∧
      entry.1.rank ≤ other.1.rank := by
  rw [value_effective]
  exact exists_mem_firstOfKey pools.pairwise_declared (fun _ => Nat.le_refl _) h (by simp)

end Pools

/-! ## Expressions that are made again -/

/-- An expression that has been made is kept, and no other is given up for it. -/
theorem Registry.lookup_compile (registry : Registry) (pattern : String) :
    (∀ e, (compile pattern registry).value.1 = some e →
        (compile pattern registry).value.2.kept.lookup pattern = some e) ∧
      ∀ other e, registry.kept.lookup other = some e →
        (compile pattern registry).value.2.kept.lookup other = some e := by
  unfold compile
  split
  next e hkept =>
    refine ⟨fun e' he => ?_, fun _ _ h => h⟩
    obtain rfl := Option.some.inj he
    exact hkept
  next hnone =>
    split
    next => exact ⟨nofun, fun _ _ h => h⟩
    next e _ =>
      refine ⟨fun e' he => ?_, fun other e' hother => ?_⟩
      · obtain rfl := Option.some.inj he
        exact List.lookup_cons_self
      · -- the new expression hides none, since there was none for its pattern
        have hne : other ≠ pattern := by
          rintro rfl
          rw [hnone] at hother
          cases hother
        show List.lookup other ((pattern, e) :: registry.kept) = some e'
        rw [List.lookup_cons, beq_false_of_ne hne]
        exact hother

namespace Planning

variable {registry between : Registry} {pattern : String} {e : Expression}

theorem outcome_compile (pattern : String) (registry : Registry) :
    (compile pattern).outcome registry =
      match (Registry.compile pattern registry).value with
      | (some e, after) => (.ok e, after)
      | (none, after) => (.error (.expression .unreadable), after) := by
  have hlift : (liftM (Registry.compile pattern) : Planning (Option Expression)).outcome registry =
      (.ok (Registry.compile pattern registry).value.1,
        (Registry.compile pattern registry).value.2) := rfl
  rw [compile, outcome_bind, hlift]
  generalize (Registry.compile pattern registry).value = made
  obtain ⟨_ | e, after⟩ := made <;> rfl

/-- An expression that is kept is taken as it is. -/
theorem outcome_compile_of_lookup (h : registry.kept.lookup pattern = some e) :
    (compile pattern).outcome registry = (.ok e, registry) := by
  have hmade : (Registry.compile pattern registry).value = (some e, registry) := by
    rw [Registry.compile, h]
    rfl
  rw [outcome_compile, hmade]

/-- After a pattern has been compiled its expression is kept, and so are those kept before. -/
theorem lookup_of_outcome_compile (h : (compile pattern).outcome registry = (.ok e, between)) :
    between.kept.lookup pattern = some e ∧
      ∀ other, (registry.kept.lookup other).isSome = true →
        (between.kept.lookup other).isSome = true := by
  obtain ⟨hnew, hold⟩ := Registry.lookup_compile registry pattern
  rw [outcome_compile] at h
  generalize (Registry.compile pattern registry).value = made at h hnew hold
  obtain ⟨_ | e', after⟩ := made
  · cases h
  · cases h
    refine ⟨hnew e rfl, fun other hother => ?_⟩
    obtain ⟨e', he'⟩ := Option.isSome_iff_exists.1 hother
    rw [hold other e' he']
    rfl

end Planning

/-! ## Pools with repetitions -/

section Pool

variable {α : Type} {registry between : Registry} {scope : Scope} {definition : Definition α}
  {entries : List (Entry α)} {e : Expression}

/-- The pool of entries is that of the first one and of the others. -/
theorem outcome_compileEntries_cons_of_ok
    (h : (Planning.compile definition.pattern).outcome registry = (.ok e, between)) :
    (compileEntries ((scope, definition) :: entries)).outcome registry =
      ((compileEntries entries).outcome between).map
        (Except.map ({ scope, definition, expression := e } :: ·)) id := by
  rw [compileEntries, Planning.outcome_bind, h]
  simp only
  rw [Planning.outcome_bind]
  generalize (compileEntries entries).outcome between = reached
  obtain ⟨_ | pool, after⟩ := reached <;> rfl

theorem outcome_compileEntries_cons_of_error {fault : PlanFault}
    (h : (Planning.compile definition.pattern).outcome registry = (.error fault, between)) :
    (compileEntries ((scope, definition) :: entries)).outcome registry =
      (.error fault, between) := by
  rw [compileEntries, Planning.outcome_bind, h]

/-- Without repetitions the same pool comes out, also without repetitions, or the same fault. The
    patterns of repetitions have been compiled before. -/
theorem outcome_compileEntries_firstOfKey {seen : List (StepKeyword × String)}
    (hseen : ∀ key ∈ seen, (registry.kept.lookup key.2).isSome = true)
    (entries : List (Entry α)) :
    (compileEntries (firstOfKey keyOf seen entries)).outcome
        registry =
      ((compileEntries entries).outcome registry).map
        (Except.map (firstOfKey PoolEntry.key seen)) id := by
  induction entries generalizing seen registry with
  | nil => rfl
  | cons entry entries ih =>
    obtain ⟨scope, definition⟩ := entry
    -- a pattern that was seen before has been compiled, so that compiling it again changes nothing
    by_cases hkey : keyOf (scope, definition) ∈ seen
    · obtain ⟨e, he⟩ := Option.isSome_iff_exists.1 (hseen _ hkey)
      rw [firstOfKey_cons_of_mem hkey, ih hseen,
        outcome_compileEntries_cons_of_ok (Planning.outcome_compile_of_lookup he)]
      generalize (compileEntries entries).outcome registry = reached
      obtain ⟨_ | pool, after⟩ := reached
      · rfl
      · simp only [Prod.map, Except.map]
        rw [firstOfKey_cons_of_mem (by exact hkey)]
        rfl
    · rw [firstOfKey_cons_of_not_mem hkey]
      cases hcompile : (Planning.compile definition.pattern).outcome registry with
      | mk result between =>
        cases result with
        | error fault =>
          rw [outcome_compileEntries_cons_of_error hcompile,
            outcome_compileEntries_cons_of_error hcompile]
          rfl
        | ok e =>
          obtain ⟨hnew, hold⟩ := Planning.lookup_of_outcome_compile hcompile
          have hkept : ∀ key ∈ keyOf (scope, definition) :: seen,
              (between.kept.lookup key.2).isSome = true := by
            intro key hmem
            rcases List.mem_cons.1 hmem with rfl | hmem
            · rw [keyOf, Definition.key, hnew]
              rfl
            · exact hold _ (hseen key hmem)
          rw [outcome_compileEntries_cons_of_ok hcompile,
            outcome_compileEntries_cons_of_ok hcompile, ih hkept]
          generalize (compileEntries entries).outcome between = reached
          obtain ⟨_ | pool, after⟩ := reached
          · rfl
          · simp only [Prod.map, Except.map]
            rw [firstOfKey_cons_of_not_mem (by exact hkey)]
            rfl

/-- A repetition in a pool is no better for a slot than what it repeats. -/
theorem CompiledFrom.noBetter {pool : List (PoolEntry α)}
    (h : CompiledFrom registry entries pool) {first later : PoolEntry α} (hfirst : first ∈ pool)
    (hlater : later ∈ pool) (hrank : later.scope.rank ≤ first.scope.rank)
    (hkey : later.key = first.key) (slot : Slot α) :
    NoBetter Candidate.isBetter (PoolEntry.candidate? slot) first later := by
  intro candidate hcandidate
  obtain ⟨hanswers, values, hvalues, rfl⟩ := PoolEntry.candidate?_eq_some.1 hcandidate
  obtain ⟨hkeyword, hpattern⟩ := Prod.mk.inj hkey
  have hexpression : later.expression = first.expression := by
    have hboth := h.expression later hlater
    rw [hpattern, h.expression first hfirst] at hboth
    exact (Option.some.inj hboth).symm
  have hfirstAnswers : slot.answers first.definition = true := by
    rw [Slot.answers] at hanswers ⊢
    rwa [← hkeyword]
  rw [hexpression] at hvalues
  refine ⟨_, PoolEntry.candidate?_eq_some.2 ⟨hfirstAnswers, values, hvalues, rfl⟩, ?_⟩
  -- the expressions are the same, so only the scopes count
  rw [← Bool.not_eq_true, Candidate.isBetter_eq_true, hexpression]
  simp only
  omega

/-- Slots are bound alike from a pool with repetitions and without. -/
theorem CompiledFrom.bindBest_firstOfKey {pool : List (PoolEntry α)}
    (h : CompiledFrom registry entries pool)
    (hsorted : entries.Pairwise fun a b => b.1.rank ≤ a.1.rank) (slot : Slot α) :
    slot.bindBest (firstOfKey PoolEntry.key [] pool) = slot.bindBest pool := by
  rw [← h.entries, List.pairwise_map] at hsorted
  have hlater : pool.Pairwise fun first later => later.key = first.key →
      NoBetter Candidate.isBetter (PoolEntry.candidate? slot) first later :=
    hsorted.imp_of_mem fun hfirst hlater hrank hkey => h.noBetter hfirst hlater hrank hkey slot
  rw [Slot.bindBest, firstBest_firstOfKey Candidate.ordersUpToTies hlater]
  rfl

end Pool

/-! ## Plans -/

namespace Plan

variable {α : Type}

/-- Binds steps to inline definitions and, by the same ranks, to some entries. -/
def resolveAmong (steps : List Step) (inline : List (Definition α))
    (entries : Noted (List (Entry α))) : Planning (Plan α) := do
  let (slots, pending) := bindLiterals (slotsOf steps) inline
  let slots ← bindPending slots pending
  let entries ← (liftM (liftM entries : Compiling (List (Entry α))) : Planning _)
  let pool ← compileEntries entries
  let plan := Plan.ofSlots (slots.map (Slot.bindBest pool))
  if !plan.isComplete then
    Planning.say (.stepsUnresolved plan.unresolved.length)
  return plan

/-- Steps are bound from the definitions in effect. -/
theorem resolve_eq_resolveAmong (steps : List Step) (inline : List (Definition α))
    (pools : Pools α) : resolve steps inline pools = resolveAmong steps inline pools.effective :=
  rfl

/-- The plan is made of what the inline definitions leave and of the pool of the entries. -/
theorem outcome_resolveAmong (steps : List Step) (inline : List (Definition α))
    (entries : Noted (List (Entry α))) (registry : Registry) :
    (resolveAmong steps inline entries).outcome registry =
      match (bindPending (bindLiterals (slotsOf steps) inline).1
        (bindLiterals (slotsOf steps) inline).2).outcome registry with
      | (.ok slots, between) => ((compileEntries entries.value).outcome between).map
          (Except.map fun pool => ofSlots (slots.map (Slot.bindBest pool))) id
      | (.error fault, between) => (.error fault, between) := by
  unfold resolveAmong
  rw [Planning.outcome_bind]
  generalize (bindPending (bindLiterals (slotsOf steps) inline).1
    (bindLiterals (slotsOf steps) inline).2).outcome registry = filled
  obtain ⟨_ | slots, between⟩ := filled
  · rfl
  · have hentries : (liftM (liftM entries : Compiling (List (Entry α))) : Planning _).outcome
        between = (.ok entries.value, between) := rfl
    simp only
    rw [Planning.outcome_bind, hentries]
    simp only
    rw [Planning.outcome_bind]
    generalize (compileEntries entries.value).outcome between = reached
    obtain ⟨_ | pool, after⟩ := reached
    · rfl
    · -- raising the notice about unbound steps changes nothing
      simp only [Prod.map, Except.map]
      split <;> rfl

/-- Binding steps from the definitions in effect comes to the same as binding them from all that
    are declared, the most specific scope first: the same plan or the same fault, and the same
    registry. -/
theorem value_resolve_declared (steps : List Step) (inline : List (Definition α))
    (pools : Pools α) (registry : Registry) :
    ((resolve steps inline pools).run.run registry).value =
      ((resolveAmong steps inline (pure pools.declared)).run.run registry).value := by
  show (resolve steps inline pools).outcome registry =
    (resolveAmong steps inline (pure pools.declared)).outcome registry
  rw [resolve_eq_resolveAmong, outcome_resolveAmong, outcome_resolveAmong, Noted.pure_value,
    Pools.value_effective]
  generalize (bindPending (bindLiterals (slotsOf steps) inline).1
    (bindLiterals (slotsOf steps) inline).2).outcome registry = filled
  obtain ⟨_ | slots, between⟩ := filled
  · rfl
  · simp only
    rw [outcome_compileEntries_firstOfKey (by simp)]
    cases hpool : (compileEntries pools.declared).outcome between with
    | mk result after =>
      cases result with
      | error fault => rfl
      | ok pool =>
        have hcompiled : CompiledFrom between pools.declared pool :=
          (gives_compileEntries hpool).1
        -- the pool is sorted by scope, so an entry whose key came before is never the best one
        have hbound : Slot.bindBest (firstOfKey PoolEntry.key [] pool) = Slot.bindBest pool :=
          funext (hcompiled.bindBest_firstOfKey pools.pairwise_declared)
        simp only [Prod.map, Except.map, hbound]
        rfl

end Plan

end Gherkin
