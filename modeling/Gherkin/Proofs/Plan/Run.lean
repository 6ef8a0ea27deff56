/-
  Gherkin.Proofs.Plan.Run

  What a run that binds steps has done if it gives a plan: all inline
  definitions were placed, and each slot left free took the best entry of the
  pool of definitions in effect. A run may keep more expressions than before, but
  it changes none.
-/
import Gherkin.Proofs.Plan.Slot

namespace Gherkin

open List (Perm)

/-! ## Expressions of a registry -/

namespace Registry

/-- Whether two registries know the same placeholders and so make the same expressions. -/
def Alike (before after : Registry) : Prop := after.custom = before.custom

theorem Alike.expression? {before after : Registry} (h : before.Alike after) (pattern : String) :
    after.expression? pattern = before.expression? pattern := by
  unfold Registry.expression? Registry.kind?
  rw [h]

theorem Alike.containsPlaceholder {before after : Registry} (h : before.Alike after)
    (pattern : String) : after.containsPlaceholder pattern = before.containsPlaceholder pattern := by
  unfold Registry.containsPlaceholder Registry.kind?
  rw [h]

end Registry

/-! ## Runs that succeed -/

namespace Planning

/-- What a run comes to: its result, and the registry that it leaves. -/
def outcome (x : Planning β) (registry : Registry) : Except PlanFault β × Registry :=
  (x.run.run registry).value

/-- The run succeeds with a result and leaves the registry `after`. -/
def Gives (x : Planning β) (registry : Registry) (result : β) (after : Registry) : Prop :=
  (x.run.run registry).value = (.ok result, after)

variable {registry after : Registry}

theorem outcome_bind (x : Planning β) (f : β → Planning γ) (registry : Registry) :
    (x >>= f).outcome registry =
      match x.outcome registry with
      | (.ok b, between) => (f b).outcome between
      | (.error fault, between) => (.error fault, between) := by
  show ((ExceptT.bindCont f ((x.run.run registry).value.1)).run
    ((x.run.run registry).value.2)).value = _
  unfold outcome
  generalize (x.run.run registry).value = reached
  obtain ⟨result, between⟩ := reached
  cases result <;> rfl

theorem gives_pure {a b : β} :
    Gives (pure a : Planning β) registry b after ↔ a = b ∧ registry = after := by
  show ((Except.ok a : Except PlanFault β), registry) = (.ok b, after) ↔ _
  simp

theorem gives_bind {x : Planning β} {f : β → Planning γ} {c : γ} :
    Gives (x >>= f) registry c after ↔
      ∃ b between, x.Gives registry b between ∧ (f b).Gives between c after := by
  show (x >>= f).outcome registry = _ ↔ ∃ b between, x.outcome registry = _ ∧ _
  rw [outcome_bind]
  generalize x.outcome registry = reached
  obtain ⟨result, between⟩ := reached
  cases result with
  | error fault => simp
  | ok b =>
    constructor
    · intro h
      exact ⟨b, between, rfl, h⟩
    · rintro ⟨_, _, hsame, h⟩
      cases hsame
      exact h

/-- Work that cannot fail gives what it makes. -/
theorem gives_lift {x : Compiling β} {b : β} :
    Gives (liftM x : Planning β) registry b after ↔ (x.run registry).value = (b, after) := by
  show ((Except.ok (x.run registry).value.1 : Except PlanFault β), (x.run registry).value.2) =
    (.ok b, after) ↔ _
  generalize (x.run registry).value = outcome
  obtain ⟨made, between⟩ := outcome
  simp

theorem not_gives_throw {fault : PlanFault} {b : β} :
    ¬ Gives (throw fault : Planning β) registry b after := by
  intro h
  have herror : ((Except.error fault : Except PlanFault β), registry) = (.ok b, after) := h
  cases herror

/-- A pattern is compiled to its expression, and placeholders stay as they are. -/
theorem gives_compile {pattern : String} {e : Expression}
    (h : (compile pattern).Gives registry e after) :
    registry.expression? pattern = some e ∧ registry.Alike after := by
  obtain ⟨made, between, hmade, hrest⟩ := gives_bind.1 h
  have hvalue : (Registry.compile pattern registry).value = (made, between) := gives_lift.1 hmade
  have hfst : made = registry.expression? pattern := by
    rw [← Registry.compile_value_fst, hvalue]
  have hsnd : registry.Alike between := by
    rw [Registry.Alike, ← Registry.compile_value_snd_custom registry pattern, hvalue]
  cases made with
  | none => exact absurd hrest not_gives_throw
  | some made =>
    obtain ⟨rfl, rfl⟩ := gives_pure.1 hrest
    exact ⟨hfst.symm, hsnd⟩

/-- A readable pattern is compiled without a fault. -/
theorem gives_compile_of_expression? {pattern : String} {e : Expression}
    (h : registry.expression? pattern = some e) :
    ∃ after, (compile pattern).Gives registry e after := by
  have hmade : ((Registry.compile pattern).run registry).value =
      (some e, ((Registry.compile pattern).run registry).value.2) := by
    refine Prod.ext ?_ rfl
    rw [← h]
    exact Registry.compile_value_fst registry pattern
  exact ⟨_, gives_bind.2 ⟨_, _, gives_lift.2 hmade, gives_pure.2 ⟨rfl, rfl⟩⟩⟩

theorem gives_of_value {x : Planning β} {b : β} (h : (x.run.run registry).value.1 = .ok b) :
    ∃ after, x.Gives registry b after :=
  ⟨(x.run.run registry).value.2, Prod.ext h rfl⟩

end Planning

/-! ## The passes -/

section Passes

variable {α : Type} {steps : List Step} {slots : List (Slot α)} {registry after : Registry}

/-- Every definition that is left over finds a slot. -/
theorem Placed.bindPending {placed pending : List (Definition α)} (h : Placed steps placed slots)
    {filled : List (Slot α)} (hrun : (bindPending slots pending).Gives registry filled after) :
    Placed steps (pending ++ placed) filled ∧ registry.Alike after := by
  induction pending generalizing slots placed registry with
  | nil =>
    obtain ⟨rfl, rfl⟩ := Planning.gives_pure.1 hrun
    exact ⟨h, rfl⟩
  | cons definition pending ih =>
    rw [Gherkin.bindPending] at hrun
    obtain ⟨e, between, hcompile, hrest⟩ := Planning.gives_bind.1 hrun
    have hbetween := (Planning.gives_compile hcompile).2
    cases hfirst : Gherkin.bindFirst? (Slot.bindMatching? definition e) slots with
    -- a definition without a slot ends the run
    | none =>
      rw [hfirst] at hrest
      exact absurd hrest Planning.not_gives_throw
    | some next =>
      rw [hfirst] at hrest
      have hnext : Placed steps (definition :: placed) next :=
        h.bindFirst? (fun _ _ => Slot.takes_of_bindMatching?) hfirst
      obtain ⟨hfilled, hafter⟩ := ih hnext hrest
      refine ⟨⟨hfilled.frame, ?_, hfilled.bound⟩, hafter.trans hbetween⟩
      exact hfilled.definitions.trans List.perm_middle

/-- The entries of a pool are these, each with the expression for its pattern. -/
structure CompiledFrom (registry : Registry) (entries : List (Entry α))
    (pool : List (PoolEntry α)) : Prop where
  entries : pool.map (fun entry => (entry.scope, entry.definition)) = entries
  expression : ∀ entry ∈ pool,
    registry.expression? entry.definition.pattern = some entry.expression

theorem gives_compileEntries {entries : List (Entry α)} {pool : List (PoolEntry α)}
    (hrun : (compileEntries entries).Gives registry pool after) :
    CompiledFrom registry entries pool ∧ registry.Alike after := by
  induction entries generalizing pool registry with
  | nil =>
    obtain ⟨rfl, rfl⟩ := Planning.gives_pure.1 hrun
    exact ⟨⟨rfl, by simp⟩, rfl⟩
  | cons entry entries ih =>
    obtain ⟨scope, definition⟩ := entry
    rw [compileEntries] at hrun
    obtain ⟨e, between, hcompile, hrest⟩ := Planning.gives_bind.1 hrun
    obtain ⟨hexpression, hbetween⟩ := Planning.gives_compile hcompile
    obtain ⟨rest, last, hentries, hreturn⟩ := Planning.gives_bind.1 hrest
    obtain ⟨rfl, rfl⟩ := Planning.gives_pure.1 hreturn
    obtain ⟨hrest, hlast⟩ := ih hentries
    refine ⟨⟨by rw [List.map_cons, hrest.entries], ?_⟩, hlast.trans hbetween⟩
    intro other hother
    rcases List.mem_cons.1 hother with rfl | hother
    · exact hexpression
    · rw [← hbetween.expression?]
      exact hrest.expression other hother

/-- A pool of these entries is what compiling them gives. -/
theorem CompiledFrom.gives {entries : List (Entry α)} {pool : List (PoolEntry α)}
    (h : CompiledFrom registry entries pool) :
    ∃ after, (compileEntries entries).Gives registry pool after := by
  obtain rfl := h.entries
  induction pool generalizing registry with
  | nil => exact ⟨registry, Planning.gives_pure.2 ⟨rfl, rfl⟩⟩
  | cons entry pool ih =>
    obtain ⟨between, hcompile⟩ :=
      Planning.gives_compile_of_expression? (h.expression entry List.mem_cons_self)
    have hbetween := (Planning.gives_compile hcompile).2
    have hrest : CompiledFrom between
        (pool.map fun entry => (entry.scope, entry.definition)) pool := by
      refine ⟨rfl, ?_⟩
      intro other hother
      rw [hbetween.expression?]
      exact h.expression other (List.mem_cons_of_mem _ hother)
    obtain ⟨after, hentries⟩ := ih hrest
    rw [List.map_cons, compileEntries]
    exact ⟨after, Planning.gives_bind.2 ⟨_, _, hcompile,
      Planning.gives_bind.2 ⟨_, _, hentries, Planning.gives_pure.2 ⟨rfl, rfl⟩⟩⟩⟩

/-- What a run that gives a plan goes through: the passes over the inline definitions, then the
    pool of the definitions in effect. -/
theorem gives_resolve_passes {inline : List (Definition α)} {pools : Pools α} {plan : Plan α}
    (hrun : (Plan.resolve steps inline pools).Gives registry plan after) :
    ∃ (filled : List (Slot α)) (between : Registry) (pool : List (PoolEntry α)),
      (bindPending (bindLiterals (slotsOf steps) inline).1
        (bindLiterals (slotsOf steps) inline).2).Gives registry filled between ∧
      Placed steps inline filled ∧ CompiledFrom registry pools.effective.value pool ∧
      plan = Plan.ofSlots (filled.map (Slot.bindBest pool)) := by
  obtain ⟨taken, htaken, hinline⟩ := (Placed.start (α := α) steps).bindLiterals inline
  unfold Plan.resolve at hrun
  obtain ⟨filled, between, hfilled, hrest⟩ := Planning.gives_bind.1 hrun
  obtain ⟨hplaced, hbetween⟩ := htaken.bindPending hfilled
  obtain ⟨entries, same, hentries, hrest⟩ := Planning.gives_bind.1 hrest
  obtain ⟨rfl, rfl⟩ := Prod.mk.inj (Planning.gives_lift.1 hentries)
  obtain ⟨pool, last, hpool, hrest⟩ := Planning.gives_bind.1 hrest
  obtain ⟨hpool, -⟩ := gives_compileEntries hpool
  refine ⟨filled, between, pool, hfilled, ⟨hplaced.frame, ?_, hplaced.bound⟩,
    ⟨hpool.entries, ?_⟩, ?_⟩
  · refine hplaced.definitions.trans (Perm.trans ?_ hinline)
    rw [List.append_nil]
    exact List.perm_append_comm
  · intro entry hentry
    rw [← hbetween.expression?]
    exact hpool.expression entry hentry
  · -- raising the notice about unbound steps changes nothing
    simp only at hrest
    split at hrest
    · obtain ⟨_, _, -, hrest⟩ := Planning.gives_bind.1 hrest
      exact (Planning.gives_pure.1 hrest).1.symm
    · exact (Planning.gives_pure.1 hrest).1.symm

/-- What a plan is made of. -/
theorem gives_resolve {inline : List (Definition α)} {pools : Pools α} {plan : Plan α}
    (hrun : (Plan.resolve steps inline pools).Gives registry plan after) :
    ∃ (filled : List (Slot α)) (pool : List (PoolEntry α)), Placed steps inline filled ∧
      CompiledFrom registry pools.effective.value pool ∧
      plan = Plan.ofSlots (filled.map (Slot.bindBest pool)) := by
  obtain ⟨filled, -, pool, -, hrest⟩ := gives_resolve_passes hrun
  exact ⟨filled, pool, hrest⟩

/-- If each inline definition is the text of a step, and the patterns in effect are readable, the
    run gives the plan of what the pools leave. -/
theorem resolve_of_literals {inline : List (Definition α)} {pools : Pools α}
    {filled : List (Slot α)} {pool : List (PoolEntry α)}
    (hliterals : bindLiterals (slotsOf steps) inline = (filled, []))
    (hpool : CompiledFrom registry pools.effective.value pool) :
    ((Plan.resolve steps inline pools).run.run registry).value.1 =
      .ok (Plan.ofSlots (filled.map (Slot.bindBest pool))) := by
  obtain ⟨after, hentries⟩ := hpool.gives
  have hgives : (Plan.resolve steps inline pools).Gives registry
      (Plan.ofSlots (filled.map (Slot.bindBest pool))) after := by
    unfold Plan.resolve
    rw [hliterals]
    refine Planning.gives_bind.2 ⟨filled, registry, Planning.gives_pure.2 ⟨rfl, rfl⟩, ?_⟩
    refine Planning.gives_bind.2 ⟨_, registry, Planning.gives_lift.2 rfl, ?_⟩
    refine Planning.gives_bind.2 ⟨pool, after, hentries, ?_⟩
    simp only
    split
    · exact Planning.gives_bind.2
        ⟨(), after, Planning.gives_lift.2 rfl, Planning.gives_pure.2 ⟨rfl, rfl⟩⟩
    · exact Planning.gives_pure.2 ⟨rfl, rfl⟩
  exact congrArg Prod.fst hgives

end Passes

end Gherkin
