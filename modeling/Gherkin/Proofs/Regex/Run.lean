/-
  Gherkin.Proofs.Regex.Run

  The program of an expression leads through a text where the expression does.
  What a stretch of instructions realizes is told by what becomes of the runs
  that enter it: they leave it at its end after a route of the expression. Loops
  are told by the number of steps that are left.
-/
import Gherkin.Proofs.Regex.Route

namespace Gherkin.Regex

/-! ## Runs -/

/-- Where one instruction leads at a place: to the next instruction, at this place or the one after
    it, with a mark or none. -/
inductive Instr.Leads (text : Array Char) : Instr → Nat → Route
  | goto {next i : Nat} : Leads text (.goto next) next i i []
  | take {s : CharClass} {next i : Nat} {c : Char} (hc : text[i]? = some c)
    (hs : s.contains c = true) : Leads text (.take s next) next i (i + 1) []
  | look {l : Look} {next i : Nat} (hl : holdsAt text i l = true) :
    Leads text (.look l next) next i i []
  | mark {m : Mark} {next i : Nat} : Leads text (.mark m next) next i i [(m, i)]
  | first {b c i : Nat} : Leads text (.fork b c) b i i []
  | second {b c i : Nat} : Leads text (.fork b c) c i i []

/-- The runs of `n` steps from an instruction to one that accepts. -/
def Accepts (program : Program) (text : Array Char) : Nat → Nat → Route
  | 0, a => fun i j marks => program[a]? = some .accept ∧ j = i ∧ marks = []
  | n + 1, a => fun i j marks => ∃ op next, program[a]? = some op ∧
    (op.Leads text next).andThen (Accepts program text n next) i j marks

variable {program : Program} {text : Array Char} {R S : Route} {a b c d : Nat}

/-- A run from an instruction that does not accept takes a step. -/
theorem accepts_iff {op : Instr} (h : program[a]? = some op) (hop : op ≠ .accept) {n i j : Nat}
    {marks : Marks} :
    Accepts program text n a i j marks ↔ ∃ n', n = n' + 1 ∧
      ∃ next, (op.Leads text next).andThen (Accepts program text n' next) i j marks := by
  constructor
  · intro hrun
    cases n with
    | zero =>
      have haccept := h.symm.trans hrun.1
      exact absurd (Option.some.inj haccept) hop
    | succ n =>
      obtain ⟨op', next, hop', hleads⟩ := hrun
      obtain rfl := Option.some.inj (h.symm.trans hop')
      exact ⟨n, rfl, next, hleads⟩
  · rintro ⟨n', rfl, next, hleads⟩
    exact ⟨op, next, h, hleads⟩

/-- A run that is accepted at once. -/
theorem accepts_accept_iff (h : program[a]? = some .accept) {n i j : Nat} {marks : Marks} :
    Accepts program text n a i j marks ↔ n = 0 ∧ Route.stay i j marks := by
  cases n with
  | zero => exact ⟨fun hrun => ⟨rfl, hrun.2⟩, fun hrun => ⟨h, hrun.2⟩⟩
  | succ n =>
    refine ⟨?_, fun hrun => absurd hrun.1 (Nat.succ_ne_zero n)⟩
    rintro ⟨op, next, hop, k, first, second, hleads, -⟩
    obtain rfl := Option.some.inj (h.symm.trans hop)
    cases hleads

/-- A run from a fork goes on with one of its branches. -/
theorem accepts_prefer_iff {greedy : Bool} (h : program[a]? = some (prefer greedy b c))
    {n i j : Nat} {marks : Marks} :
    Accepts program text n a i j marks ↔ ∃ n', n = n' + 1 ∧
      (Accepts program text n' b i j marks ∨ Accepts program text n' c i j marks) := by
  have hop : prefer greedy b c ≠ .accept := by cases greedy <;> simp [prefer]
  rw [accepts_iff h hop]
  -- being greedy decides which branch comes first, not which can be taken
  refine exists_congr fun n' => and_congr_right fun _ => ⟨?_, ?_⟩
  · rintro ⟨next, k, first, second, hleads, hrun, rfl⟩
    cases greedy with
    | true =>
      cases hleads with
      | first => exact .inl hrun
      | second => exact .inr hrun
    | false =>
      cases hleads with
      | first => exact .inr hrun
      | second => exact .inl hrun
  · rintro (hrun | hrun)
    · refine ⟨b, i, [], marks, ?_, hrun, rfl⟩
      cases greedy with
      | true => exact .first
      | false => exact .second
    · refine ⟨c, i, [], marks, ?_, hrun, rfl⟩
      cases greedy with
      | true => exact .second
      | false => exact .first

/-! ## What stretches of a program realize -/

/-- Runs from instruction `a` are those that take a route of the set `R` to instruction `b` and go
    on from there, with no more steps. -/
structure Realizes (program : Program) (text : Array Char) (a b : Nat) (R : Route) : Prop where
  sound : ∀ {n i j marks}, Accepts program text n a i j marks →
    ∃ n' ≤ n, R.andThen (Accepts program text n' b) i j marks
  complete : ∀ {n i j marks}, R.andThen (Accepts program text n b) i j marks →
    ∃ n', Accepts program text n' a i j marks

namespace Realizes

theorem stay : Realizes program text a a .stay where
  sound {n} _ _ _ h := ⟨n, Nat.le_refl n, by rwa [Route.stay_andThen]⟩
  complete {n} _ _ _ h := ⟨n, by rwa [Route.stay_andThen] at h⟩

/-- One instruction. -/
theorem single {op : Instr} (h : program[a]? = some op) (hop : op ≠ .accept)
    (hleads : ∀ next i j marks, op.Leads text next i j marks ↔ next = b ∧ R i j marks) :
    Realizes program text a b R where
  sound {n i j marks} hrun := by
    obtain ⟨n', rfl, next, k, first, second, hfirst, hsecond, rfl⟩ := (accepts_iff h hop).1 hrun
    obtain ⟨rfl, hR⟩ := (hleads next i k first).1 hfirst
    exact ⟨n', Nat.le_succ n', Route.andThen_intro hR hsecond⟩
  complete {n i j marks} hrun := by
    obtain ⟨k, first, second, hR, hsecond, rfl⟩ := hrun
    have hfirst := (hleads b i k first).2 ⟨rfl, hR⟩
    exact ⟨n + 1, (accepts_iff h hop).2 ⟨n, rfl, b, Route.andThen_intro hfirst hsecond⟩⟩

theorem goto (h : program[a]? = some (.goto b)) : Realizes program text a b .stay := by
  refine single h (by simp) fun next i j marks => ⟨?_, ?_⟩
  · rintro ⟨⟩
    exact ⟨rfl, rfl, rfl⟩
  · rintro ⟨rfl, rfl, rfl⟩
    exact .goto

theorem take {s : CharClass} (h : program[a]? = some (.take s b)) :
    Realizes program text a b (Path text (.one s)) := by
  refine single h (by simp) fun next i j marks => ⟨?_, ?_⟩
  · rintro ⟨⟩
    exact ⟨rfl, ⟨_, by assumption, by assumption⟩, rfl, rfl⟩
  · rintro ⟨rfl, ⟨c, hc, hs⟩, rfl, rfl⟩
    exact .take hc hs

theorem look {l : Look} (h : program[a]? = some (.look l b)) :
    Realizes program text a b (Path text (.look l)) := by
  refine single h (by simp) fun next i j marks => ⟨?_, ?_⟩
  · rintro ⟨⟩
    exact ⟨rfl, by assumption, rfl, rfl⟩
  · rintro ⟨rfl, hl, rfl, rfl⟩
    exact .look hl

theorem mark {m : Mark} (h : program[a]? = some (.mark m b)) :
    Realizes program text a b fun i j marks => j = i ∧ marks = [(m, i)] := by
  refine single h (by simp) fun next i j marks => ⟨?_, ?_⟩
  · rintro ⟨⟩
    exact ⟨rfl, rfl, rfl⟩
  · rintro ⟨rfl, rfl, rfl⟩
    exact .mark

theorem repeated_congr {P Q : Nat → Prop} (h : Realizes program text a b (R.repeated P))
    (hPQ : ∀ n, P n ↔ Q n) : Realizes program text a b (R.repeated Q) :=
  Route.repeated_congr hPQ ▸ h

theorem andThen (hR : Realizes program text a b R) (hS : Realizes program text b c S) :
    Realizes program text a c (R.andThen S) where
  sound h := by
    obtain ⟨n₁, hn₁, k, first, second, hfirst, hsecond, rfl⟩ := hR.sound h
    obtain ⟨n₂, hn₂, hrest⟩ := hS.sound hsecond
    refine ⟨n₂, Nat.le_trans hn₂ hn₁, ?_⟩
    rw [Route.andThen_assoc]
    exact Route.andThen_intro hfirst hrest
  complete h := by
    rw [Route.andThen_assoc] at h
    obtain ⟨k, first, second, hfirst, hsecond, rfl⟩ := h
    obtain ⟨n', hrest⟩ := hS.complete hsecond
    exact hR.complete (Route.andThen_intro hfirst hrest)

/-- The branches of a fork, whichever is preferred. -/
theorem prefer {greedy : Bool} (h : program[a]? = some (Regex.prefer greedy b c))
    (hR : Realizes program text b d R) (hS : Realizes program text c d S) :
    Realizes program text a d (R.either S) where
  sound hrun := by
    obtain ⟨n, rfl, hrun | hrun⟩ := (accepts_prefer_iff h).1 hrun
    · obtain ⟨n', hle, k, first, second, hroute, hrest, hmarks⟩ := hR.sound hrun
      exact ⟨n', Nat.le_succ_of_le hle, k, first, second, .inl hroute, hrest, hmarks⟩
    · obtain ⟨n', hle, k, first, second, hroute, hrest, hmarks⟩ := hS.sound hrun
      exact ⟨n', Nat.le_succ_of_le hle, k, first, second, .inr hroute, hrest, hmarks⟩
  complete hrun := by
    obtain ⟨k, first, second, hroute | hroute, hrest, rfl⟩ := hrun
    · obtain ⟨n, hrun⟩ := hR.complete (Route.andThen_intro hroute hrest)
      exact ⟨n + 1, (accepts_prefer_iff h).2 ⟨n, rfl, .inl hrun⟩⟩
    · obtain ⟨n, hrun⟩ := hS.complete (Route.andThen_intro hroute hrest)
      exact ⟨n + 1, (accepts_prefer_iff h).2 ⟨n, rfl, .inr hrun⟩⟩

/-! ### Repetitions -/

/-- Copies one after the other; the places where they start are those of `p`. -/
theorem times {p : Nat → Nat} {n : Nat}
    (h : ∀ i < n, Realizes program text (p i) (p (i + 1)) R) :
    Realizes program text (p 0) (p n) (R.times n) := by
  induction n generalizing p with
  | zero => exact stay
  | succ n ih =>
    have hrest := ih (p := fun i => p (i + 1)) fun i hi => h (i + 1) (by omega)
    exact (h 0 (Nat.succ_pos n)).andThen hrest

/-- Copies each of which can be left out together with those after it. -/
theorem atMost {p : Nat → Nat} {n : Nat} {greedy : Bool}
    (hfork : ∀ i < n, program[p i]? = some (Regex.prefer greedy (p i + 1) b))
    (hbody : ∀ i < n, Realizes program text (p i + 1) (p (i + 1)) R)
    (hlast : program[p n]? = some (.goto b)) :
    Realizes program text (p 0) b (R.repeated (· ≤ n)) := by
  induction n generalizing p with
  | zero =>
    have hroute : Realizes program text (p 0) b .stay := goto hlast
    rw [← Route.repeated_zero R] at hroute
    exact hroute.repeated_congr fun n => Nat.le_zero.symm
  | succ n ih =>
    have hrest := ih (p := fun i => p (i + 1)) (fun i hi => hfork (i + 1) (by omega))
      (fun i hi => hbody (i + 1) (by omega)) hlast
    have hroute := prefer (hfork 0 (Nat.succ_pos n)) ((hbody 0 (Nat.succ_pos n)).andThen hrest) stay
    rw [Route.andThen_repeated, Route.repeated_either_stay] at hroute
    exact hroute.repeated_congr fun m => by omega

/-- A loop that is left by the fork it is entered by. The number of steps falls with every round. -/
theorem loop {greedy : Bool} (h : program[a]? = some (Regex.prefer greedy b c))
    (hbody : Realizes program text b a R) :
    Realizes program text a c (R.repeated fun _ => True) where
  sound {n i j marks} hrun := by
    induction n using Nat.strongRecOn generalizing i marks with
    | _ n ih =>
      obtain ⟨n', rfl, hgoOn | hleave⟩ := (accepts_prefer_iff h).1 hrun
      · -- one round, and from there the loop again
        obtain ⟨n₁, hn₁, k, round, rest, hround, hrest, rfl⟩ := hbody.sound hgoOn
        obtain ⟨n₂, hn₂, l, rounds, last, ⟨m, -, hm⟩, hlast, rfl⟩ := ih n₁ (by omega) hrest
        refine ⟨n₂, by omega, l, round ++ rounds, last, ?_, hlast, by simp⟩
        exact ⟨m + 1, trivial, Route.andThen_intro hround hm⟩
      · exact ⟨n', Nat.le_succ n', i, [], marks, ⟨0, trivial, Route.stay_self⟩, hleave, rfl⟩
  complete {n i j marks} hrun := by
    obtain ⟨l, rounds, last, ⟨m, -, hm⟩, hlast, rfl⟩ := hrun
    induction m generalizing i rounds with
    | zero =>
      obtain ⟨rfl, rfl⟩ := hm
      exact ⟨n + 1, (accepts_prefer_iff h).2 ⟨n, rfl, .inr hlast⟩⟩
    | succ m ih =>
      obtain ⟨k, round, rounds, hround, hrounds, rfl⟩ := hm
      obtain ⟨n₁, hrest⟩ := ih rounds hrounds
      obtain ⟨n₂, hrun⟩ := hbody.complete (Route.andThen_intro hround hrest)
      rw [List.append_assoc]
      exact ⟨n₂ + 1, (accepts_prefer_iff h).2 ⟨n₂, rfl, .inl hrun⟩⟩

/-- A loop of one or more rounds. -/
theorem loopOnce {greedy : Bool} (hbody : Realizes program text a b R)
    (h : program[b]? = some (Regex.prefer greedy a c)) :
    Realizes program text a c (R.repeated (1 ≤ ·)) := by
  have hroute := hbody.andThen (loop h hbody)
  rw [Route.andThen_repeated] at hroute
  exact hroute.repeated_congr fun n => and_iff_left trivial

end Realizes

/-! ## Code in its place -/

/-- Whether instructions stand in a program from a place on. -/
def Stands (program : Program) : Nat → List Instr → Prop
  | _, [] => True
  | start, op :: ops => program[start]? = some op ∧ Stands program (start + 1) ops

theorem stands_append {ops ops' : List Instr} {start : Nat} :
    Stands program start (ops ++ ops') ↔
      Stands program start ops ∧ Stands program (start + ops.length) ops' := by
  induction ops generalizing start with
  | nil => simp [Stands]
  | cons op ops ih =>
    rw [List.cons_append, Stands, Stands, ih, List.length_cons, and_assoc, Nat.add_right_comm,
      Nat.add_assoc]

theorem stands_singleton {op : Instr} {start : Nat} :
    Stands program start [op] ↔ program[start]? = some op := by
  simp [Stands]

/-- Stretches of one length one after the other. -/
theorem stands_flatMap_range {f : Nat → List Instr} {m : Nat} (hf : ∀ i, (f i).length = m)
    {n start : Nat} (h : Stands program start ((List.range n).flatMap f)) :
    ∀ i < n, Stands program (start + i * m) (f i) := by
  induction n with
  | zero => exact fun i hi => absurd hi (Nat.not_lt_zero i)
  | succ n ih =>
    rw [List.range_succ, List.flatMap_append, stands_append] at h
    intro i hi
    rcases Nat.lt_succ_iff_lt_or_eq.1 hi with hi | rfl
    · exact ih h.1 i hi
    · simpa [length_flatMap_range hf] using h.2

section Code

variable {body : Code} {m : Nat}

theorem realizes_copies (hlength : ∀ s t, (body s t).length = m)
    (hbody : ∀ {s t}, Stands program s (body s t) → Realizes program text s t R)
    {n start next : Nat}
    (h : Stands program start (copies m body n start next)) :
    Realizes program text start next (R.times n) := by
  have hlengths (i : Nat) : (body (start + i * m) (start + (i + 1) * m)).length = m :=
    hlength _ _
  obtain ⟨hcopies, hlast⟩ := stands_append.1 h
  rw [length_flatMap_range hlengths, stands_singleton] at hlast
  have htimes := Realizes.times (R := R) (p := fun i => start + i * m)
    fun i hi => hbody (stands_flatMap_range hlengths hcopies i hi)
  rw [Nat.zero_mul, Nat.add_zero] at htimes
  simpa using htimes.andThen (Realizes.goto hlast)

theorem realizes_optionals (hlength : ∀ s t, (body s t).length = m)
    (hbody : ∀ {s t}, Stands program s (body s t) → Realizes program text s t R) {greedy : Bool}
    {n start next : Nat} (h : Stands program start (optionals greedy m body n start next)) :
    Realizes program text start next (R.repeated (· ≤ n)) := by
  let place (i : Nat) : Nat := start + i * (m + 1)
  have hlengths (i : Nat) : (prefer greedy (place i + 1) next ::
      body (place i + 1) (place i + 1 + m)).length = m + 1 := congrArg (· + 1) (hlength _ _)
  obtain ⟨hcopies, hlast⟩ := stands_append.1 h
  rw [length_flatMap_range hlengths, stands_singleton] at hlast
  have hstands := stands_flatMap_range hlengths hcopies
  have hplace (i : Nat) : place i + 1 + m = place (i + 1) := by
    simp only [place, Nat.succ_mul]
    omega
  have hatMost := Realizes.atMost (R := R) (p := place) (fun i hi => (hstands i hi).1)
    (fun i hi => hplace i ▸ hbody (hstands i hi).2) hlast
  simpa [place] using hatMost

theorem realizes_loop (hlength : ∀ s t, (body s t).length = m)
    (hbody : ∀ {s t}, Stands program s (body s t) → Realizes program text s t R) {greedy : Bool}
    {start next : Nat} (h : Stands program start (loop greedy m body start next)) :
    Realizes program text start next (R.repeated (1 ≤ ·)) := by
  obtain ⟨hround, hlast⟩ := stands_append.1 h
  rw [hlength, stands_singleton] at hlast
  exact (hbody hround).loopOnce hlast

theorem takes_cons (c : Char) (s : List Char) (start next : Nat) :
    takes (c :: s) start next = .take (.char c) (start + 1) :: takes s (start + 1) next := by
  rw [takes, takes, List.mapIdx_cons, List.cons_append]
  congr 3
  funext i c
  rw [Nat.add_right_comm start 1 i, Nat.add_assoc start i 1]

theorem realizes_takes {s : List Char} {start next : Nat}
    (h : Stands program start (takes s start next)) :
    Realizes program text start next (Path text (.text s)) := by
  induction s generalizing start with
  | nil =>
    have hnil : Path text (.text []) = .stay := rfl
    rw [hnil]
    exact .goto (stands_singleton.1 h)
  | cons c s ih =>
    rw [takes_cons] at h
    rw [← List.singleton_append, path_text_append, ← path_char]
    exact (Realizes.take h.1).andThen (ih h.2)

theorem realizes_group {r : Regex} {name : String} {index start next : Nat}
    (hbody : ∀ {s t}, Stands program s (r.code s t) → Realizes program text s t (Path text r))
    (h : Stands program start ((group index (some name) r).code start next)) :
    Realizes program text start next (Path text (group index (some name) r)) := by
  obtain ⟨hopen, hrest⟩ := h
  obtain ⟨hcode, hclose⟩ := stands_append.1 hrest
  rw [length_code, stands_singleton] at hclose
  have hroute := (Realizes.mark hopen).andThen ((hbody hcode).andThen (.mark hclose))
  refine (congrArg (Realizes program text start next) ?_).mp hroute
  funext i j marks
  refine propext ⟨?_, ?_⟩
  · rintro ⟨k, opened, rest, ⟨rfl, rfl⟩, ⟨l, inner, closed, hinner, ⟨rfl, rfl⟩, rfl⟩, rfl⟩
    exact ⟨inner, hinner, rfl⟩
  · rintro ⟨inner, hinner, rfl⟩
    exact ⟨i, _, _, ⟨rfl, rfl⟩, ⟨j, inner, _, hinner, ⟨rfl, rfl⟩, rfl⟩, rfl⟩

theorem realizes_rep {r : Regex} {least : Nat} {most : Option Nat} {greedy : Bool}
    {start next : Nat}
    (hbody : ∀ {s t}, Stands program s (r.code s t) → Realizes program text s t (Path text r))
    (h : Stands program start ((rep least most greedy r).code start next)) :
    Realizes program text start next (Path text (rep least most greedy r)) := by
  have hlength := length_code r
  -- with a bound: copies, then optional ones; without: copies, then a loop
  cases most with
  | some most =>
    obtain ⟨hcopies, hoptionals⟩ := stands_append.1 h
    rw [length_copies hlength] at hoptionals
    have hroute := (realizes_copies hlength hbody hcopies).andThen
      (realizes_optionals hlength hbody hoptionals)
    rw [Route.times_andThen_repeated] at hroute
    refine hroute.repeated_congr fun n => ?_
    simp only [Option.mem_some_iff, forall_eq']
    omega
  | none =>
    cases least with
    | zero =>
      obtain ⟨hfork, hrounds⟩ := h
      have hroute : Realizes program text start next ((Path text r).repeated fun _ => True) := by
        split at hrounds
        · exact .loop hfork (hbody hrounds)
        · have hroute := Realizes.prefer hfork (realizes_loop hlength hbody hrounds) .stay
          rw [Route.repeated_either_stay] at hroute
          exact hroute.repeated_congr fun n => iff_of_true (by omega) trivial
      exact hroute.repeated_congr fun n => by simp
    | succ least =>
      obtain ⟨hcopies, hloop⟩ := stands_append.1 h
      rw [length_copies hlength] at hloop
      have hroute := (realizes_copies hlength hbody hcopies).andThen
        (realizes_loop hlength hbody hloop)
      rw [Route.times_andThen_repeated] at hroute
      refine hroute.repeated_congr fun n => ?_
      simp only [Option.mem_def, reduceCtorEq, false_implies, implies_true, and_true]
      omega

end Code

/-- The code of an expression realizes its routes, wherever it stands. -/
theorem realizes_code (r : Regex) {start next : Nat}
    (h : Stands program start (r.code start next)) :
    Realizes program text start next (Path text r) := by
  induction r generalizing start next with
  | empty => exact .goto (stands_singleton.1 h)
  | text s => exact realizes_takes h
  | one s => exact .take (stands_singleton.1 h)
  | look l => exact .look (stands_singleton.1 h)
  | group index name r ih =>
    cases name with
    | none => exact ih h
    | some name => exact realizes_group ih h
  | seq r₁ r₂ ih₁ ih₂ =>
    obtain ⟨h₁, h₂⟩ := stands_append.1 h
    rw [length_code] at h₂
    exact (ih₁ h₁).andThen (ih₂ h₂)
  | alt r₁ r₂ ih₁ ih₂ =>
    obtain ⟨(hfork : program[start]? = some (prefer true _ _)), hbranches⟩ := h
    obtain ⟨h₁, h₂⟩ := stands_append.1 hbranches
    rw [length_code] at h₂
    exact .prefer hfork (ih₁ h₁) (ih₂ h₂)
  | rep least most greedy r ih => exact realizes_rep ih h

theorem stands_toArray (ops before : List Instr) :
    Stands (before ++ ops).toArray before.length ops := by
  induction ops generalizing before with
  | nil => trivial
  | cons op ops ih =>
    refine ⟨by simp, ?_⟩
    simpa using ih (before ++ [op])

/-- The runs of a program take the routes of its expression. -/
theorem accepts_program_iff (r : Regex) {i j : Nat} {marks : Marks} :
    (∃ n, Accepts r.program text n 0 i j marks) ↔ Path text r i j marks := by
  have hstands : Stands r.program 0 (r.code 0 r.size ++ [.accept]) := stands_toArray _ []
  obtain ⟨hcode, haccept⟩ := stands_append.1 hstands
  rw [length_code, stands_singleton, Nat.zero_add] at haccept
  have hrealizes : Realizes r.program text 0 _ (Path text r) := realizes_code r hcode
  constructor
  · rintro ⟨n, hrun⟩
    obtain ⟨n', -, k, first, second, hpath, hrest, rfl⟩ := hrealizes.sound hrun
    obtain ⟨-, rfl, rfl⟩ := (accepts_accept_iff haccept).1 hrest
    rwa [List.append_nil]
  · intro hpath
    refine hrealizes.complete (n := 0) ⟨j, marks, [], hpath, ?_, (List.append_nil marks).symm⟩
    exact (accepts_accept_iff haccept).2 ⟨rfl, Route.stay_self⟩

end Gherkin.Regex
