/-
  Gherkin.Proofs.Plan.Slot

  Slots while inline definitions are placed in them. A slot keeps its step, its
  index and its primary keyword; only a free slot is bound, to a definition that
  it answers; and the definitions bound so far are the ones placed so far. The
  pools then bind the slots that are still free.
-/
import Gherkin.Plan.Resolve

namespace Gherkin

open List (Perm)

/-! ## Primary keywords -/

namespace StepKeyword

/-- The last keyword up to an index that is no conjunction, or `Given` if there is none. -/
def primaryAt (keywords : List StepKeyword) (index : Nat) : StepKeyword :=
  ((keywords.take (index + 1)).filter (!·.isConjunction)).getLast?.getD Given

theorem getElem?_resolveAll (previous : Option StepKeyword) {keywords : List StepKeyword}
    {index : Nat} (h : index < keywords.length) :
    (resolveAll previous keywords)[index]? =
      some ((((keywords.take (index + 1)).filter (!·.isConjunction)).getLast?.or previous).getD
        Given) := by
  induction keywords generalizing previous index with
  | nil => cases h
  | cons keyword rest ih =>
    cases index with
    | zero => cases keyword <;> rfl
    | succ index =>
      have hindex : index < rest.length := Nat.lt_of_succ_lt_succ h
      rw [resolveAll, List.getElem?_cons_succ, ih _ hindex, List.take_succ_cons]
      by_cases hconjunction : keyword.isConjunction = true
      · simp [advance, hconjunction]
      · -- the keyword becomes the previous one, unless a later one takes over
        rw [advance, if_neg hconjunction, List.filter_cons_of_pos (by simpa using hconjunction)]
        cases hlast : ((rest.take (index + 1)).filter (!·.isConjunction)).getLast? with
        | none => simp [List.getLast?_cons, hlast]
        | some last => simp [List.getLast?_cons, hlast]

theorem getElem?_resolveAll_none {keywords : List StepKeyword} {index : Nat}
    (h : index < keywords.length) :
    (resolveAll none keywords)[index]? = some (primaryAt keywords index) := by
  rw [getElem?_resolveAll none h, Option.or_none]
  rfl

end StepKeyword

/-- The primary keyword of the step at an index. -/
def primaryAt (steps : List Step) (index : Nat) : StepKeyword :=
  StepKeyword.primaryAt (steps.map (·.keyword)) index

theorem getElem?_slotsOf {steps : List Step} {index : Nat} (h : index < steps.length) :
    (slotsOf steps : List (Slot α))[index]? =
      some { index, step := steps[index], primary := primaryAt steps index } := by
  have hprimary : (StepKeyword.resolveAll none (steps.map (·.keyword)))[index]? =
      some (primaryAt steps index) :=
    StepKeyword.getElem?_resolveAll_none (by simpa using h)
  have hstep : steps.zipIdx[index]? = some (steps[index], index) := by
    simp [h]
  have hzip : (steps.zipIdx.zip (StepKeyword.resolveAll none (steps.map (·.keyword))))[index]? =
      some ((steps[index], index), primaryAt steps index) :=
    List.getElem?_zip_eq_some.2 ⟨hstep, hprimary⟩
  rw [slotsOf, List.getElem?_map, hzip]
  rfl

theorem binding_of_mem_slotsOf {steps : List Step} {slot : Slot α} (h : slot ∈ slotsOf steps) :
    slot.binding = none := by
  obtain ⟨-, -, rfl⟩ := List.mem_map.1 h
  rfl

/-! ## The first slot that can be bound -/

theorem bindFirst?_eq_some {bind? : Slot α → Option (Slot α)} {slots bound : List (Slot α)}
    (h : bindFirst? bind? slots = some bound) :
    ∃ before slot after found, slots = before ++ slot :: after ∧ bind? slot = some found ∧
      (∀ other ∈ before, bind? other = none) ∧ bound = before ++ found :: after := by
  induction slots generalizing bound with
  | nil => cases h
  | cons slot slots ih =>
    rw [bindFirst?] at h
    cases hslot : bind? slot with
    | some found =>
      rw [hslot] at h
      exact ⟨[], slot, slots, found, rfl, hslot, by simp, (Option.some.inj h).symm⟩
    | none =>
      rw [hslot] at h
      obtain ⟨rest, hrest, rfl⟩ := Option.map_eq_some_iff.1 h
      obtain ⟨before, other, after, found, rfl, hother, hbefore, rfl⟩ := ih hrest
      refine ⟨slot :: before, other, after, found, rfl, hother, ?_, rfl⟩
      intro earlier hearlier
      rcases List.mem_cons.1 hearlier with rfl | hearlier
      · exact hslot
      · exact hbefore earlier hearlier

theorem bindFirst?_eq_none_iff {bind? : Slot α → Option (Slot α)} {slots : List (Slot α)} :
    bindFirst? bind? slots = none ↔ ∀ slot ∈ slots, bind? slot = none := by
  induction slots with
  | nil => simp [bindFirst?]
  | cons slot slots ih =>
    rw [bindFirst?]
    cases hslot : bind? slot with
    | some found => simp [hslot]
    | none => simp [hslot, ih]

/-- What holds of the slots, and of a slot that is bound because it held of it before, holds of
    the slots after one is bound. -/
theorem forall_bindFirst? {P : Slot α → Prop} {bind? : Slot α → Option (Slot α)}
    {slots after : List (Slot α)} (hslots : ∀ slot ∈ slots, P slot)
    (hbind : ∀ slot bound, P slot → bind? slot = some bound → P bound)
    (hafter : bindFirst? bind? slots = some after) : ∀ slot ∈ after, P slot := by
  obtain ⟨first, slot, last, found, rfl, hfound, -, rfl⟩ := bindFirst?_eq_some hafter
  simp only [List.forall_mem_append, List.forall_mem_cons] at hslots ⊢
  obtain ⟨hfirst, hslot, hlast⟩ := hslots
  exact ⟨hfirst, hbind slot found hslot hfound, hlast⟩

namespace Slot

theorem isFree_iff {slot : Slot α} : slot.isFree = true ↔ slot.binding = none := by
  simp [isFree]

/-- The slot without its binding. -/
def unbind (slot : Slot α) : Slot α := { slot with binding := none }

/-- `bound` is the slot with an inline definition placed in it, which may be done only if it is
    free and answers the definition. -/
def Takes (slot : Slot α) (definition : Definition α) (bound : Slot α) : Prop :=
  slot.isFree = true ∧ slot.answers definition = true ∧
    ∃ values, bound = slot.bind { definition, origin := .inline, values }

variable {slot bound : Slot α} {definition : Definition α} {e : Expression}

theorem bindLiteral?_eq_some_iff :
    slot.bindLiteral? definition = some bound ↔ slot.isFree = true ∧
      slot.answers definition = true ∧ slot.step.details = definition.pattern ∧
        bound = slot.bind { definition, origin := .inline, values := [] } := by
  unfold bindLiteral?
  simp [and_assoc, @eq_comm _ bound]

theorem bindMatching?_eq_some_iff :
    slot.bindMatching? definition e = some bound ↔ slot.isFree = true ∧
      slot.answers definition = true ∧ ∃ values, e.captures slot.step.details = .ok values ∧
        bound = slot.bind { definition, origin := .inline, values } := by
  unfold bindMatching?
  cases hcaptures : e.captures slot.step.details with
  | error miss => simp
  | ok values => simp [and_assoc, @eq_comm _ bound]

theorem takes_of_bindLiteral? (h : slot.bindLiteral? definition = some bound) :
    slot.Takes definition bound := by
  obtain ⟨hfree, hanswers, -, hbound⟩ := bindLiteral?_eq_some_iff.1 h
  exact ⟨hfree, hanswers, [], hbound⟩

theorem takes_of_bindMatching? (h : slot.bindMatching? definition e = some bound) :
    slot.Takes definition bound := by
  obtain ⟨hfree, hanswers, values, -, hbound⟩ := bindMatching?_eq_some_iff.1 h
  exact ⟨hfree, hanswers, values, hbound⟩

end Slot

/-! ## Placed definitions -/

/-- The definitions that slots are bound to, in order. -/
def definitionsIn (slots : List (Slot α)) : List (Definition α) :=
  (slots.filterMap (·.binding)).map (·.definition)

/-- Slots that differ from those of steps only in what they are bound to. -/
def Framed (steps : List Step) (slots : List (Slot α)) : Prop :=
  slots.map Slot.unbind = slotsOf steps

/-- The slots of steps after inline definitions have been placed in them. -/
structure Placed (steps : List Step) (placed : List (Definition α)) (slots : List (Slot α)) :
    Prop where
  /-- Only bindings have changed. -/
  frame : Framed steps slots
  /-- Each definition is in one slot and nothing else is in any. -/
  definitions : Perm (definitionsIn slots) placed
  /-- Slots answer the definitions in them. -/
  bound : ∀ slot ∈ slots, ∀ found, slot.binding = some found →
    slot.answers found.definition = true ∧ found.origin = .inline

namespace Placed

variable {steps : List Step} {placed : List (Definition α)} {slots : List (Slot α)}

/-- At first nothing is placed. -/
theorem start (steps : List Step) : Placed steps [] (slotsOf steps : List (Slot α)) where
  frame := by
    rw [Framed, slotsOf, List.map_map]
    rfl
  definitions := by
    have hnone : (slotsOf steps : List (Slot α)).filterMap (·.binding) = [] := by
      rw [List.filterMap_eq_nil_iff]
      intro slot hslot
      exact binding_of_mem_slotsOf hslot
    rw [definitionsIn, hnone]
    exact Perm.nil
  bound := by
    intro slot hslot found hfound
    rw [binding_of_mem_slotsOf hslot] at hfound
    cases hfound

/-- Placing one more definition takes a free slot and leaves the others as they are. -/
theorem bindFirst? (h : Placed steps placed slots) {definition : Definition α}
    {bind? : Slot α → Option (Slot α)}
    (htakes : ∀ slot bound, bind? slot = some bound → slot.Takes definition bound)
    {after : List (Slot α)} (hafter : Gherkin.bindFirst? bind? slots = some after) :
    Placed steps (definition :: placed) after := by
  obtain ⟨first, slot, last, found, rfl, hbind, -, rfl⟩ := bindFirst?_eq_some hafter
  obtain ⟨hfree, hanswers, values, rfl⟩ := htakes slot found hbind
  have hnone := Slot.isFree_iff.1 hfree
  constructor
  -- binding a slot changes nothing else in it
  · rw [Framed, ← h.frame]
    simp [Slot.unbind, Slot.bind]
  -- the slot was free, so nothing leaves it
  · refine Perm.trans ?_ (h.definitions.cons definition)
    simp only [definitionsIn, List.filterMap_append, List.filterMap_cons, hnone, Slot.bind,
      List.map_append, List.map_cons]
    exact List.perm_middle
  · intro other hother taken htaken
    rcases List.mem_append.1 hother with hother | hother
    · exact h.bound other (List.mem_append_left _ hother) taken htaken
    · rcases List.mem_cons.1 hother with rfl | hother
      · obtain rfl := Option.some.inj htaken
        exact ⟨hanswers, rfl⟩
      · exact h.bound other (List.mem_append_right _ (List.mem_cons_of_mem _ hother)) taken htaken

/-- Literal definitions are placed; the others are left over, and none is lost. -/
theorem bindLiterals (h : Placed steps placed slots) (inline : List (Definition α)) :
    ∃ taken, Placed steps (taken ++ placed) (Gherkin.bindLiterals slots inline).1 ∧
      Perm (taken ++ (Gherkin.bindLiterals slots inline).2) inline := by
  induction inline generalizing slots placed with
  | nil => exact ⟨[], h, Perm.nil⟩
  | cons definition inline ih =>
    rw [Gherkin.bindLiterals]
    cases hfirst : Gherkin.bindFirst? (Slot.bindLiteral? definition) slots with
    | some after =>
      have hplaced : Placed steps (definition :: placed) after :=
        h.bindFirst? (fun _ _ => Slot.takes_of_bindLiteral?) hfirst
      obtain ⟨taken, htaken, hperm⟩ := ih hplaced
      refine ⟨definition :: taken, ?_, hperm.cons definition⟩
      exact ⟨htaken.frame, htaken.definitions.trans List.perm_middle, htaken.bound⟩
    | none =>
      obtain ⟨taken, htaken, hperm⟩ := ih h
      exact ⟨taken, htaken, List.perm_middle.trans (hperm.cons definition)⟩

end Placed

/-! ## Slots after the pools -/

theorem PoolEntry.candidate?_eq_some {slot : Slot α} {entry : PoolEntry α}
    {candidate : Candidate α} :
    entry.candidate? slot = some candidate ↔ slot.answers entry.definition = true ∧
      ∃ values, entry.expression.captures slot.step.details = .ok values ∧
        candidate =
          { scope := entry.scope, specificity := entry.expression.specificity
            definition := entry.definition, values } := by
  unfold candidate?
  by_cases hanswers : slot.answers entry.definition = true
  · rw [if_pos hanswers]
    cases hcaptures : entry.expression.captures slot.step.details with
    | error miss => simp
    | ok values => simp [hanswers, eq_comm]
  · simp [hanswers]

namespace Slot

variable {pool : List (PoolEntry α)} {slot : Slot α}

theorem bindBest_of_bound (hbound : slot.isFree = false) : slot.bindBest pool = slot := by
  simp [bindBest, hbound]

/-- A free slot is bound to the best candidate, if there is one. -/
theorem binding_bindBest (hfree : slot.isFree = true) :
    (slot.bindBest pool).binding =
      (firstBest Candidate.isBetter (pool.filterMap (PoolEntry.candidate? slot))).map fun best =>
        { definition := best.definition, origin := .predefined best.scope
          values := best.values } := by
  unfold bindBest
  rw [if_pos hfree]
  split
  next best hbest =>
    rw [hbest]
    rfl
  next hbest =>
    rw [hbest]
    exact isFree_iff.1 hfree

theorem unbind_bindBest (pool : List (PoolEntry α)) (slot : Slot α) :
    (slot.bindBest pool).unbind = slot.unbind := by
  unfold bindBest
  split
  · split <;> rfl
  · rfl

theorem step_bindBest (pool : List (PoolEntry α)) (slot : Slot α) :
    (slot.bindBest pool).step = slot.step := by
  show (slot.bindBest pool).unbind.step = slot.unbind.step
  rw [unbind_bindBest]

theorem answers_bindBest (pool : List (PoolEntry α)) (slot : Slot α)
    (definition : Definition α) :
    (slot.bindBest pool).answers definition = slot.answers definition := by
  unfold bindBest
  split
  · split <;> rfl
  · rfl

/-- What a free slot takes from the pools it answers, and no inline definition is among it. -/
theorem answers_of_bindBest (hfree : slot.isFree = true) {found : Match α}
    (h : (slot.bindBest pool).binding = some found) :
    slot.answers found.definition = true ∧ found.origin ≠ .inline := by
  rw [binding_bindBest hfree] at h
  obtain ⟨best, hbest, rfl⟩ := Option.map_eq_some_iff.1 h
  obtain ⟨entry, -, hcandidate⟩ := List.mem_filterMap.1 (firstBest_mem hbest)
  obtain ⟨hanswers, values, -, rfl⟩ := PoolEntry.candidate?_eq_some.1 hcandidate
  exact ⟨hanswers, by simp⟩

end Slot

end Gherkin
