/-
  Gherkin.Proofs.Regex.Search

  A search finds a route of its expression if there is one. Every thread is the
  rest of a run, so what is found is a route. Conversely a run that is left out
  because its instruction was tried before is not lost: the thread that came to
  the instruction first has a run of its own left, with fewer steps to go.
-/
import Mathlib.Data.Finset.Card
import Mathlib.Data.Finset.Range
import Gherkin.Proofs.Regex.Run

namespace Gherkin.Regex

variable {program : Program} {text : Array Char} {place : Nat}

/-! ## Threads are the rests of runs -/

/-- Whether every run that a thread can be continued to is the rest of a run of the program from a
    place before, with the marks that the thread has left. -/
def Thread.Rooted (program : Program) (text : Array Char) (place : Nat) (thread : Thread) : Prop :=
  ∃ start ≤ place, ∀ n j marks, Accepts program text n thread.instr place j marks →
    ∃ n', Accepts program text n' 0 start j (thread.marks.reverse ++ marks)

/-- Whether a thread that waits is the rest of a run if the character is one it waits for. -/
def Waiting.Rooted (program : Program) (text : Array Char) (place : Nat) (waiting : Waiting) :
    Prop :=
  ∀ c, text[place]? = some c → waiting.awaited.contains c = true →
    waiting.thread.Rooted program text (place + 1)

namespace Thread.Rooted

variable {thread : Thread} {op : Instr}

theorem start (program : Program) (text : Array Char) (place : Nat) :
    Thread.Rooted program text place { instr := 0 } :=
  ⟨place, Nat.le_refl place, fun n _ _ hrun => ⟨n, hrun⟩⟩

theorem leads (h : thread.Rooted program text place) (hop : program[thread.instr]? = some op)
    {next k : Nat} {first : Marks} (hle : place ≤ k) (hleads : op.Leads text next place k first) :
    Thread.Rooted program text k { instr := next, marks := first.reverse ++ thread.marks } := by
  obtain ⟨start, hstart, hrooted⟩ := h
  refine ⟨start, Nat.le_trans hstart hle, ?_⟩
  intro n j marks hrun
  have hstep : Accepts program text (n + 1) thread.instr place j (first ++ marks) :=
    ⟨op, next, hop, Route.andThen_intro hleads hrun⟩
  obtain ⟨n', hrun'⟩ := hrooted (n + 1) j (first ++ marks) hstep
  exact ⟨n', by simpa using hrun'⟩

/-- What comes of a thread by one instruction. -/
theorem moves (h : thread.Rooted program text place) (hop : program[thread.instr]? = some op)
    {threads : List Thread} (hstep : thread.step text place op = .moves threads) :
    ∀ next ∈ threads, next.Rooted program text place := by
  cases op with
  | accept => cases hstep
  | take s next => cases hstep
  | goto next =>
    obtain rfl := Outcome.moves.inj hstep
    simpa using h.leads hop (Nat.le_refl place) .goto
  | look l next =>
    obtain rfl := Outcome.moves.inj hstep
    split
    next hl => simpa using h.leads hop (Nat.le_refl place) (.look hl)
    next => simp
  | mark m next =>
    obtain rfl := Outcome.moves.inj hstep
    simpa using h.leads hop (Nat.le_refl place) .mark
  | fork b c =>
    obtain rfl := Outcome.moves.inj hstep
    have hfirst := h.leads hop (Nat.le_refl place) .first
    have hsecond := h.leads hop (Nat.le_refl place) .second
    simpa using And.intro hfirst hsecond

theorem waits (h : thread.Rooted program text place) (hop : program[thread.instr]? = some op)
    {waiting : Waiting} (hstep : thread.step text place op = .waits waiting) :
    waiting.Rooted program text place := by
  cases op with
  | take s next =>
    obtain rfl := Outcome.waits.inj hstep
    intro c hc hs
    simpa using h.leads hop (Nat.le_succ place) (.take hc hs)
  | _ => cases hstep

theorem accepts (h : thread.Rooted program text place) (hop : program[thread.instr]? = some op)
    (hstep : thread.step text place op = .accepts) :
    ∃ start ≤ place, ∃ n, Accepts program text n 0 start place thread.marks.reverse := by
  cases op with
  | accept =>
    obtain ⟨start, hstart, hrooted⟩ := h
    obtain ⟨n, hrun⟩ := hrooted 0 place [] ⟨hop, rfl, rfl⟩
    exact ⟨start, hstart, n, by simpa using hrun⟩
  | _ => cases hstep

end Thread.Rooted

/-- What settles at a place belongs to runs. -/
theorem settle_rooted {fuel : Nat} {tried : Std.HashSet Nat} {waiting : List Waiting}
    {stack : List Thread} (hwaiting : ∀ w ∈ waiting, w.Rooted program text place)
    (hstack : ∀ t ∈ stack, t.Rooted program text place) :
    (∀ w ∈ (settle program text place fuel tried waiting stack).waiting,
        w.Rooted program text place) ∧
      ∀ marks ∈ (settle program text place fuel tried waiting stack).accepted,
        ∃ start ≤ place, ∃ n, Accepts program text n 0 start place marks.reverse := by
  fun_induction settle program text place fuel tried waiting stack with
  | case1 tried waiting stack => exact ⟨by simpa using hwaiting, by simp⟩
  | case2 fuel tried waiting => exact ⟨by simpa using hwaiting, by simp⟩
  | case3 fuel tried waiting thread stack _ ih =>
    exact ih hwaiting (List.forall_mem_cons.1 hstack).2
  | case4 fuel tried waiting thread stack _ _ _ ih =>
    exact ih hwaiting (List.forall_mem_cons.1 hstack).2
  | case5 fuel tried waiting thread stack _ houtcome =>
    obtain ⟨op, hop, hstep⟩ := Option.map_eq_some_iff.1 houtcome
    refine ⟨by simpa using hwaiting, ?_⟩
    simpa using (List.forall_mem_cons.1 hstack).1.accepts hop hstep
  | case6 fuel tried waiting thread stack _ _ w houtcome ih =>
    obtain ⟨op, hop, hstep⟩ := Option.map_eq_some_iff.1 houtcome
    obtain ⟨hthread, hrest⟩ := List.forall_mem_cons.1 hstack
    exact ih (List.forall_mem_cons.2 ⟨hthread.waits hop hstep, hwaiting⟩) hrest
  | case7 fuel tried waiting thread stack _ _ threads houtcome ih =>
    obtain ⟨op, hop, hstep⟩ := Option.map_eq_some_iff.1 houtcome
    obtain ⟨hthread, hrest⟩ := List.forall_mem_cons.1 hstack
    exact ih hwaiting (List.forall_mem_append.2 ⟨hthread.moves hop hstep, hrest⟩)

/-- Where a run from the first instruction may be found, by the marks it leaves. -/
def Found (program : Program) (text : Array Char) (marks : Marks) : Prop :=
  ∃ i ≤ text.size, ∃ n j, Accepts program text n 0 i j marks.reverse

/-- What a search finds is a run. -/
theorem runFrom_found {best : Option Marks} {threads : List Thread} {found : Marks}
    (hplace : place ≤ text.size) (hbest : ∀ marks ∈ best, Found program text marks)
    (hthreads : ∀ t ∈ threads, t.Rooted program text place)
    (h : runFrom program text place best threads = some found) : Found program text found := by
  fun_induction runFrom program text place best threads with
  | case1 => exact hbest found h
  | case2 place best threads started _ settled best' hlt next ih =>
    obtain ⟨hwaiting, hbest'⟩ := settled_rooted hplace hbest hthreads
    refine ih hlt hbest' ?_ h
    intro t ht
    obtain ⟨w, hw, rfl⟩ := List.mem_map.1 ht
    obtain ⟨hw, hawaited⟩ := List.mem_filter.1 hw
    exact hwaiting w hw _ (Array.getElem?_eq_getElem hlt) hawaited
  | case3 place best threads started _ settled best' _ =>
    exact (settled_rooted hplace hbest hthreads).2 found h
where
  /-- A search goes on from a place as it came to it. -/
  settled_rooted {place : Nat} {best : Option Marks} {threads : List Thread}
      (hplace : place ≤ text.size) (hbest : ∀ marks ∈ best, Found program text marks)
      (hthreads : ∀ t ∈ threads, t.Rooted program text place) :
      let started := if best.isNone then threads ++ [{ instr := 0 }] else threads
      let settled := settle program text place (enoughSteps program started) {} [] started
      (∀ w ∈ settled.waiting, w.Rooted program text place) ∧
        ∀ marks ∈ settled.accepted.or best, Found program text marks := by
    intro started settled
    have hstarted : ∀ t ∈ started, t.Rooted program text place := by
      unfold started
      split
      · refine List.forall_mem_append.2 ⟨hthreads, ?_⟩
        simpa using Thread.Rooted.start program text place
      · exact hthreads
    obtain ⟨hwaiting, haccepted⟩ :=
      @settle_rooted program text place (enoughSteps program started) {} [] _ (by simp) hstarted
    refine ⟨hwaiting, fun marks hmarks => ?_⟩
    rcases Option.or_eq_some_iff.1 hmarks with hmarks | ⟨-, hmarks⟩
    · obtain ⟨i, hi, n, hrun⟩ := haccepted marks hmarks
      exact ⟨i, Nat.le_trans hi hplace, n, place, hrun⟩
    · exact hbest marks hmarks

/-- A match is a route of its expression. -/
theorem path_of_captures? {r : Regex} {s : String} {caps : Captures}
    (h : r.captures? s = some caps) : caps.text = s.toList.toArray ∧
      ∃ i ≤ s.length, ∃ j, Path caps.text r i j caps.marks.reverse := by
  obtain ⟨marks, hfound, rfl⟩ := Option.map_eq_some_iff.1 h
  obtain ⟨i, hi, n, j, hrun⟩ := runFrom_found (Nat.zero_le _) (by simp) (by simp) hfound
  rw [List.size_toArray, String.length_toList] at hi
  exact ⟨rfl, i, hi, j, (accepts_program_iff r).1 ⟨n, hrun⟩⟩

/-! ## No run is lost -/

/-- Whether an instruction at a place is `n` steps before the end of a run. -/
def Alive (program : Program) (text : Array Char) (place instr n : Nat) : Prop :=
  ∃ j marks, Accepts program text n instr place j marks

/-- Whether a thread that waits gets its character and is then before the end of a run. -/
def Waiting.Promising (program : Program) (text : Array Char) (place : Nat) (waiting : Waiting) :
    Prop :=
  ∃ c, text[place]? = some c ∧ waiting.awaited.contains c = true ∧
    ∃ n, Alive program text (place + 1) waiting.thread.instr n

/-- What comes of a thread before the end of a run: it accepts, waits for what comes, or moves on
    with fewer steps to go. -/
theorem Thread.step_alive {thread : Thread} {n : Nat}
    (h : Alive program text place thread.instr n) {outcome : Option Outcome}
    (houtcome : program[thread.instr]?.map (thread.step text place) = outcome) :
    outcome = some .accepts ∨
      (∃ w, outcome = some (.waits w) ∧ w.Promising program text place) ∨
      ∃ threads, outcome = some (.moves threads) ∧
        ∃ t ∈ threads, ∃ n' < n, Alive program text place t.instr n' := by
  obtain ⟨j, marks, hrun⟩ := h
  subst houtcome
  -- without a step to go this is the end of the run; else the next step tells what comes of the
  -- thread
  cases n with
  | zero =>
    rw [hrun.1]
    exact .inl rfl
  | succ n =>
    obtain ⟨op, next, hop, k, first, second, hleads, hrest, rfl⟩ := hrun
    rw [hop]
    right
    cases hleads with
    | take hc hs => exact .inl ⟨_, rfl, _, hc, hs, n, j, second, hrest⟩
    | goto => exact .inr ⟨_, rfl, _, List.mem_cons_self, n, Nat.lt_succ_self n, j, second, hrest⟩
    | look hl =>
      refine .inr ⟨_, rfl, ?_⟩
      rw [if_pos hl]
      exact ⟨_, List.mem_cons_self, n, Nat.lt_succ_self n, j, second, hrest⟩
    | mark => exact .inr ⟨_, rfl, _, List.mem_cons_self, n, Nat.lt_succ_self n, j, second, hrest⟩
    | first => exact .inr ⟨_, rfl, _, List.mem_cons_self, n, Nat.lt_succ_self n, j, second, hrest⟩
    | second =>
      exact .inr ⟨_, rfl, _, List.mem_cons_of_mem _ List.mem_cons_self, n, Nat.lt_succ_self n, j,
        second, hrest⟩

/-- Whether a thread of a stack is closer than `n` steps to the end of a run. -/
def Closer (program : Program) (text : Array Char) (place : Nat) (stack : List Thread) (n : Nat) :
    Prop :=
  ∃ t ∈ stack, ∃ n' < n, Alive program text place t.instr n'

/-- Whether a run is still in sight: by a thread that waits, or else by one on the stack. What was
    tried and is before the end of a run has left a thread on the stack that is closer to it. -/
def InSight (program : Program) (text : Array Char) (place : Nat) (tried : Std.HashSet Nat)
    (waiting : List Waiting) (stack : List Thread) : Prop :=
  (∃ w ∈ waiting, w.Promising program text place) ∨
    (∃ n, Closer program text place stack n) ∧
      ∀ instr n, tried.contains instr = true → Alive program text place instr n →
        Closer program text place stack n

namespace InSight

variable {tried : Std.HashSet Nat} {waiting waiting' : List Waiting} {thread : Thread}
  {threads stack : List Thread}

/-- A thread whose instruction was tried is not needed. -/
theorem skip (h : InSight program text place tried waiting (thread :: stack))
    (htried : tried.contains thread.instr = true) :
    InSight program text place tried waiting stack := by
  refine h.imp_right ?_
  rintro ⟨⟨n, hcloser⟩, hbehind⟩
  -- what has the thread closer to the end has one behind it that is closer still
  have hstack {n : Nat} (hcloser : Closer program text place (thread :: stack) n) :
      Closer program text place stack n := by
    induction n using Nat.strongRecOn with
    | _ n ih =>
      obtain ⟨t, ht, n', hn', halive⟩ := hcloser
      rcases List.mem_cons.1 ht with rfl | ht
      · obtain ⟨t, ht, n'', hn'', halive⟩ := ih n' hn' (hbehind _ n' htried halive)
        exact ⟨t, ht, n'', by omega, halive⟩
      · exact ⟨t, ht, n', hn', halive⟩
  exact ⟨⟨n, hstack hcloser⟩, fun instr n hinstr halive => hstack (hbehind instr n hinstr halive)⟩

/-- A thread that is tried is replaced by what comes of it. -/
theorem step (threads : List Thread)
    (h : InSight program text place tried waiting (thread :: stack))
    (hsub : ∀ w ∈ waiting, w ∈ waiting')
    (hstep : ∀ n, Alive program text place thread.instr n →
      (∃ w ∈ waiting', w.Promising program text place) ∨ Closer program text place threads n) :
    InSight program text place (tried.insert thread.instr) waiting' (threads ++ stack) := by
  -- once a waiting thread is promising nothing more has to be found
  by_cases hwaits : ∃ w ∈ waiting', w.Promising program text place
  · exact .inl hwaits
  obtain ⟨w, hw, hpromising⟩ | ⟨⟨n, hcloser⟩, hbehind⟩ := h
  · exact absurd ⟨w, hsub w hw, hpromising⟩ hwaits
  have hthread {n : Nat} (halive : Alive program text place thread.instr n) :
      Closer program text place (threads ++ stack) n := by
    obtain ⟨t, ht, hcloser⟩ := (hstep n halive).resolve_left hwaits
    exact ⟨t, List.mem_append_left _ ht, hcloser⟩
  have hstack {n : Nat} (hcloser : Closer program text place (thread :: stack) n) :
      Closer program text place (threads ++ stack) n := by
    obtain ⟨t, ht, n', hn', halive⟩ := hcloser
    rcases List.mem_cons.1 ht with rfl | ht
    · obtain ⟨t, ht, n'', hn'', halive⟩ := hthread halive
      exact ⟨t, ht, n'', by omega, halive⟩
    · exact ⟨t, List.mem_append_right _ ht, n', hn', halive⟩
  refine .inr ⟨⟨n, hstack hcloser⟩, fun instr n hinstr halive => ?_⟩
  rw [Std.HashSet.contains_insert, Bool.or_eq_true, beq_iff_eq] at hinstr
  rcases hinstr with rfl | hinstr
  · exact hthread halive
  · exact hstack (hbehind instr n hinstr halive)

end InSight

/-! ## There are enough steps -/

/-- The instructions that are left to try. -/
def untried (program : Program) (tried : Std.HashSet Nat) : Finset Nat :=
  (Finset.range program.size).filter fun instr => tried.contains instr = false

theorem untried_insert_subset (tried : Std.HashSet Nat) (instr : Nat) :
    untried program (tried.insert instr) ⊆ untried program tried := by
  intro other hother
  simp only [untried, Finset.mem_filter, Std.HashSet.contains_insert, Bool.or_eq_false_iff]
    at hother ⊢
  exact ⟨hother.1, hother.2.2⟩

/-- An instruction of the program is tried only once. -/
theorem card_untried_insert_lt {tried : Std.HashSet Nat} {instr : Nat} (hlt : instr < program.size)
    (hnew : tried.contains instr = false) :
    (untried program (tried.insert instr)).card < (untried program tried).card := by
  refine Finset.card_lt_card ((Finset.ssubset_iff_of_subset (untried_insert_subset tried instr)).2
    ⟨instr, ?_, ?_⟩)
  · simpa [untried, hlt] using hnew
  · simp [untried]

theorem Thread.length_moves_le {thread : Thread} {op : Instr} {threads : List Thread}
    (h : thread.step text place op = .moves threads) : threads.length ≤ 2 := by
  cases op with
  | look l next =>
    obtain rfl := Outcome.moves.inj h
    split <;> simp
  | accept => cases h
  | take s next => cases h
  | _ =>
    obtain rfl := Outcome.moves.inj h
    simp

/-- Of a run in sight, settling finds the end or a thread that waits for what comes. -/
theorem settle_inSight {fuel : Nat} {tried : Std.HashSet Nat} {waiting : List Waiting}
    {stack : List Thread} (h : InSight program text place tried waiting stack)
    (hfuel : stack.length + 2 * (untried program tried).card < fuel) :
    (settle program text place fuel tried waiting stack).accepted.isSome = true ∨
      ∃ w ∈ (settle program text place fuel tried waiting stack).waiting,
        w.Promising program text place := by
  -- fuel is enough for the threads on the stack and for two more for each instruction not yet tried
  fun_induction settle program text place fuel tried waiting stack with
  | case1 => omega
  | case2 fuel tried waiting =>
    obtain ⟨w, hw, hpromising⟩ | ⟨⟨n, t, ht, -⟩, -⟩ := h
    · exact .inr ⟨w, List.mem_reverse.2 hw, hpromising⟩
    · cases ht
  | case3 fuel tried waiting thread stack htried ih =>
    rw [List.length_cons] at hfuel
    exact ih (h.skip htried) (by omega)
  | case4 fuel tried waiting thread stack _ tried' houtcome ih =>
    rw [List.length_cons] at hfuel
    have hle : (untried program tried').card ≤ (untried program tried).card :=
      Finset.card_le_card (untried_insert_subset tried thread.instr)
    refine ih (h.step [] (fun w hw => hw) fun n halive => ?_) (by omega)
    -- a thread that goes nowhere was not alive
    rcases thread.step_alive halive houtcome with h | ⟨w, h, -⟩ | ⟨threads, h, -⟩ <;> cases h
  | case5 => exact .inl rfl
  | case6 fuel tried waiting thread stack _ tried' w houtcome ih =>
    rw [List.length_cons] at hfuel
    have hle : (untried program tried').card ≤ (untried program tried).card :=
      Finset.card_le_card (untried_insert_subset tried thread.instr)
    refine ih (h.step [] (fun _ => List.mem_cons_of_mem w) fun n halive => ?_)
      (by omega)
    rcases thread.step_alive halive houtcome with h | ⟨w, h, hpromising⟩ | ⟨threads, h, -⟩ <;>
      cases h
    exact .inl ⟨w, List.mem_cons_self, hpromising⟩
  | case7 fuel tried waiting thread stack htried tried' threads houtcome ih =>
    obtain ⟨op, hop, hmoves⟩ := Option.map_eq_some_iff.1 houtcome
    -- the two new threads are paid for by the instruction that has now been tried
    have hlt : (untried program tried').card < (untried program tried).card :=
      card_untried_insert_lt (Array.getElem?_eq_some_iff.1 hop).1 (Bool.not_eq_true _ ▸ htried)
    have hlength := Thread.length_moves_le hmoves
    rw [List.length_cons] at hfuel
    refine ih (h.step threads (fun w hw => hw) fun n halive => ?_)
      (by rw [List.length_append]; omega)
    rcases thread.step_alive halive houtcome with h | ⟨w, h, -⟩ | ⟨threads, h, hcloser⟩ <;> cases h
    exact .inr hcloser

/-- A search that has a match, or a run before it, finds one. -/
theorem runFrom_isSome {best : Option Marks} {threads : List Thread}
    (h : best.isSome = true ∨ (∃ t ∈ threads, ∃ n, Alive program text place t.instr n) ∨
      ∃ start, place ≤ start ∧ start ≤ text.size ∧ ∃ n, Alive program text start 0 n) :
    (runFrom program text place best threads).isSome = true := by
  fun_induction runFrom program text place best threads with
  | case1 place best threads started hempty =>
    cases best with
    | some marks => rfl
    | none => simp [started] at hempty
  | case2 place best threads started _ settled best' hlt next ih =>
    refine ih ?_
    rcases settled_cases h with hbest | ⟨w, hw, c, hc, hawaited, n, halive⟩ | hlater
    · exact .inl hbest
    · obtain rfl := Option.some.inj ((Array.getElem?_eq_getElem hlt).symm.trans hc)
      exact .inr (.inl ⟨w.thread, List.mem_map.2 ⟨w, List.mem_filter.2 ⟨hw, hawaited⟩, rfl⟩, n,
        halive⟩)
    · exact .inr (.inr hlater)
  | case3 place best threads started _ settled best' hlt =>
    rcases settled_cases h with hbest | ⟨w, hw, c, hc, -⟩ | ⟨start, hle, hsize, -⟩
    · exact hbest
    · exact absurd (Array.getElem?_eq_some_iff.1 hc).1 hlt
    · omega
where
  /-- After a place is settled there is a match, or a run goes on, or one starts later. -/
  settled_cases {place : Nat} {best : Option Marks} {threads : List Thread}
      (h : best.isSome = true ∨ (∃ t ∈ threads, ∃ n, Alive program text place t.instr n) ∨
        ∃ start, place ≤ start ∧ start ≤ text.size ∧ ∃ n, Alive program text start 0 n) :
      let started := if best.isNone then threads ++ [{ instr := 0 }] else threads
      let settled := settle program text place (enoughSteps program started) {} [] started
      (settled.accepted.or best).isSome = true ∨
        (∃ w ∈ settled.waiting, w.Promising program text place) ∨
        ∃ start, place + 1 ≤ start ∧ start ≤ text.size ∧ ∃ n, Alive program text start 0 n := by
    intro started settled
    by_cases hbest : best.isSome = true
    · exact .inl (by simp [hbest])
    have hsettled {t : Thread} (ht : t ∈ started) {n : Nat}
        (halive : Alive program text place t.instr n) :
        settled.accepted.isSome = true ∨ ∃ w ∈ settled.waiting, w.Promising program text place := by
      refine settle_inSight (.inr ⟨⟨n + 1, t, ht, n, Nat.lt_succ_self n, halive⟩, by simp⟩) ?_
      have hcard := Finset.card_filter_le (Finset.range program.size)
        fun instr => (∅ : Std.HashSet Nat).contains instr = false
      rw [Finset.card_range] at hcard
      unfold enoughSteps untried
      omega
    have hstarted : started = threads ++ [{ instr := 0 }] := by
      rw [Bool.not_eq_true, Option.isSome_eq_false_iff] at hbest
      exact if_pos hbest
    have hgoesOn {t : Thread} (ht : t ∈ started) {n : Nat}
        (halive : Alive program text place t.instr n) :
        (settled.accepted.or best).isSome = true ∨
          ∃ w ∈ settled.waiting, w.Promising program text place :=
      (hsettled ht halive).imp_left fun haccepted => by simp [haccepted]
    obtain hsome | ⟨t, ht, n, halive⟩ | ⟨start, hle, hsize, n, halive⟩ := h
    · exact absurd hsome hbest
    · exact (hgoesOn (hstarted ▸ List.mem_append_left _ ht) halive).imp_right .inl
    · rcases Nat.lt_or_eq_of_le hle with hlt | rfl
      · exact .inr (.inr ⟨start, hlt, hsize, n, halive⟩)
      · have hfirst : { instr := 0 } ∈ started := by simp [hstarted]
        exact (hgoesOn hfirst halive).imp_right .inl

/-- An expression that has a route through a text matches the text. -/
theorem captures?_isSome {r : Regex} {s : String} {i j : Nat} {marks : Marks} (hi : i ≤ s.length)
    (h : Path s.toList.toArray r i j marks) : (r.captures? s).isSome = true := by
  obtain ⟨n, hrun⟩ := (accepts_program_iff r).2 h
  rw [captures?, Option.isSome_map]
  refine runFrom_isSome (.inr (.inr ⟨i, Nat.zero_le i, ?_, n, j, marks, hrun⟩))
  rwa [List.size_toArray, String.length_toList]

end Gherkin.Regex
