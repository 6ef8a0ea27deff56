/-
  Gherkin.Proofs.Regex.Steady.Basic

  Reading a text that a closing parenthesis follows. The readers of signs take
  from it what they take from the text alone and leave the parenthesis, as no
  sign goes on with one. There is one exception: a comment that is open at the
  end of the text takes the parenthesis in, and with it all that follows on the
  line.
-/
import Mathlib.Data.List.TakeDrop
import Mathlib.Data.List.TakeWhile
import Gherkin.Regex.Escape

namespace Gherkin.Regex

variable {flags : Flags} {α β : Type}

/-! ## Steady readers -/

/-- Whether a reader reads a text that a closing parenthesis follows as it reads the text alone. -/
def Firm (P : List Char → Option (α × List Char)) : Prop :=
  ∀ u a rest, P u = some (a, rest) → ∀ v, P (u ++ ')' :: v) = some (a, rest ++ ')' :: v)

/-- Whether a reader reads a text likewise, or else reads it to its end with a comment open there:
    it then takes in what follows on the line as well. -/
def Steady (P : List Char → Option (α × List Char)) : Prop :=
  ∀ u a rest, P u = some (a, rest) →
    (∀ v, P (u ++ ')' :: v) = some (a, rest ++ ')' :: v)) ∨
      rest = [] ∧ P (u ++ [')', '$']) = some (a, [])

theorem Firm.steady {P : List Char → Option (α × List Char)} (h : Firm P) : Steady P :=
  fun u a rest hu => .inl (h u a rest hu)

theorem firm_pure (a : α) : Firm fun s => some (a, s) := by
  rintro u a rest ⟨⟩ v
  rfl

namespace Steady

variable {P : List Char → Option (α × List Char)}

theorem of_ne_nil (h : Steady P) {u : List Char} {a : α} {rest : List Char}
    (hu : P u = some (a, rest)) (hne : rest ≠ []) (v : List Char) :
    P (u ++ ')' :: v) = some (a, rest ++ ')' :: v) :=
  (h u a rest hu).elim (fun hall => hall v) fun hend => absurd hend.1 hne

/-- Two readers one after the other, of which the second leaves nothing of nothing. -/
theorem bind (h : Steady P) {Q : α → List Char → Option (β × List Char)} (hQ : ∀ a, Steady (Q a))
    (hnil : ∀ a b rest, Q a [] = some (b, rest) → rest = []) :
    Steady fun s => (P s).bind fun p => Q p.1 p.2 := by
  intro u b rest hu
  obtain ⟨⟨a, t⟩, ht, hrest⟩ := Option.bind_eq_some_iff.1 hu
  rcases h u a t ht with hall | ⟨rfl, hend⟩
  · rcases hQ a t b rest hrest with hall' | ⟨rfl, hend'⟩
    · refine .inl fun v => ?_
      simp only [hall v, Option.bind_some, hall' v]
    · refine .inr ⟨rfl, ?_⟩
      simp only [hall ['$'], Option.bind_some, hend']
  · obtain rfl := hnil a b rest hrest
    refine .inr ⟨rfl, ?_⟩
    simp only [hend, Option.bind_some]
    exact hrest

/-- A reader that reads nothing of nothing, told by the first character. -/
theorem ofCons (hnil : P [] = none) (h : ∀ c, Steady fun s => P (c :: s)) : Steady P := by
  intro u a rest hu
  cases u with
  | nil => rw [hnil] at hu; cases hu
  | cons c s => exact h c s a rest hu

/-- What is read may be changed or refused. -/
theorem filterMap (h : Steady P) (f : α → Option β) :
    Steady fun s => (P s).bind fun p => (f p.1).map fun b => (b, p.2) := by
  refine h.bind (Q := fun a s => (f a).map fun b => (b, s)) (fun a u b rest hu => ?_)
    fun a b rest hu => ?_
  · obtain ⟨b, hb, ⟨⟩⟩ := Option.map_eq_some_iff.1 hu
    exact .inl fun v => by rw [hb]; rfl
  · obtain ⟨b, hb, ⟨⟩⟩ := Option.map_eq_some_iff.1 hu
    rfl

theorem map (h : Steady P) (f : α → β) : Steady fun s => (P s).map fun p => (f p.1, p.2) := by
  have hmap := h.filterMap fun a => some (f a)
  simp only [Option.map_some] at hmap
  simpa only [Option.map_eq_bind, Function.comp_def] using hmap

end Steady

/-! ## Lists before a parenthesis -/

/-- A parenthesis that follows is no sign `d`. -/
theorem append_paren_ne_cons {s : List Char} {d : Char} (hd : d ≠ ')')
    (h : ∀ t, s = d :: t → False) (v : List Char) : ∀ t, s ++ ')' :: v = d :: t → False := by
  intro t heq
  cases s with
  | nil => exact hd (List.cons.inj heq).1.symm
  | cons c s =>
    obtain ⟨rfl, -⟩ := List.cons.inj heq
    exact h s rfl

/-- A parenthesis that follows makes no sign of two characters. -/
theorem append_paren_ne_cons_cons {s : List Char} {d e : Char} (hd : d ≠ ')') (he : e ≠ ')')
    (h : ∀ t, s = d :: e :: t → False) (v : List Char) :
    ∀ t, s ++ ')' :: v = d :: e :: t → False := by
  intro t heq
  cases s with
  | nil => exact hd (List.cons.inj heq).1.symm
  | cons c s =>
    obtain ⟨rfl, htail⟩ := List.cons.inj heq
    exact append_paren_ne_cons he (fun t' hs => h t' (congrArg (c :: ·) hs)) v t htail

theorem dropWhile_append_of_ne_nil {p : Char → Bool} {s : List Char} (h : s.dropWhile p ≠ [])
    (w : List Char) : (s ++ w).dropWhile p = s.dropWhile p ++ w := by
  rw [List.dropWhile_append, if_neg (by simpa using h)]

theorem takeWhile_append_of_ne_nil {p : Char → Bool} {s : List Char} (h : s.dropWhile p ≠ [])
    (w : List Char) : (s ++ w).takeWhile p = s.takeWhile p := by
  rw [List.takeWhile_append, if_neg]
  intro heq
  have hsplit := congrArg List.length (List.takeWhile_append_dropWhile (p := p) (l := s))
  rw [List.length_append, heq] at hsplit
  exact h (List.length_eq_zero_iff.1 (by omega))

theorem listSpan_append_of_ne_nil {p : Char → Bool} {s : List Char} (h : (s.span p).2 ≠ [])
    (w : List Char) : (s ++ w).span p = ((s.span p).1, (s.span p).2 ++ w) := by
  rw [List.span_eq_takeWhile_dropWhile] at h ⊢
  rw [List.span_eq_takeWhile_dropWhile, dropWhile_append_of_ne_nil h,
    takeWhile_append_of_ne_nil h]

/-! ## Blanks and comments -/

/-- Passing over goes on in what follows only if it comes to the end, and then as if by itself, in a
    comment or not. -/
theorem skipVerbose_append (comment : Bool) (u : List Char) :
    (skipVerbose comment u ≠ [] ∧
        ∀ w, skipVerbose comment (u ++ w) = skipVerbose comment u ++ w) ∨
      skipVerbose comment u = [] ∧
        ∃ open' : Bool, ∀ w, skipVerbose comment (u ++ w) = skipVerbose open' w := by
  induction u generalizing comment with
  | nil => exact .inr ⟨rfl, comment, fun w => rfl⟩
  | cons c s ih =>
    simp only [List.cons_append, skipVerbose]
    split
    · exact ih _
    · split
      · exact ih _
      · split
        · exact ih _
        · exact .inl ⟨List.cons_ne_nil _ _, fun w => rfl⟩

theorem skip_append_of_ne_nil {u : List Char} (h : flags.skip u ≠ []) (w : List Char) :
    flags.skip (u ++ w) = flags.skip u ++ w := by
  unfold Flags.skip at h ⊢
  split
  next hverbose =>
    rw [if_pos hverbose] at h
    rcases skipVerbose_append false u with ⟨-, happend⟩ | ⟨hnil, -⟩
    · exact happend w
    · exact absurd hnil h
  · rfl

/-- A character that is no blank and starts no comment counts. -/
theorem skip_cons {c : Char} (hblank : Text.isBlank c = false) (hhash : c ≠ '#') (s : List Char) :
    flags.skip (c :: s) = c :: s := by
  unfold Flags.skip
  split
  · simp [skipVerbose, hblank, hhash]
  · rfl

theorem skip_paren (v : List Char) : flags.skip (')' :: v) = ')' :: v :=
  skip_cons (by decide) (by decide) v

@[simp] theorem skip_nil : flags.skip [] = [] := by
  unfold Flags.skip
  split <;> rfl

/-- Passing over blanks and comments leaves the parenthesis, or is in a comment at the end. -/
theorem skip_append_paren (u : List Char) :
    (∀ v, flags.skip (u ++ ')' :: v) = flags.skip u ++ ')' :: v) ∨
      flags.skip u = [] ∧ flags.skip (u ++ [')', '$']) = [] := by
  by_cases hne : flags.skip u = []
  · by_cases hverbose : flags.verbose = true
    · rcases skipVerbose_append false u with ⟨hskip, -⟩ | ⟨-, open', hopen⟩
      · exact absurd (by rwa [Flags.skip, if_pos hverbose] at hne) hskip
      · cases open' with
        | false =>
          refine .inl fun v => ?_
          have hparen := @skip_paren flags v
          rw [Flags.skip, if_pos hverbose] at hparen
          rw [hne, Flags.skip, if_pos hverbose, hopen, hparen, List.nil_append]
        | true =>
          refine .inr ⟨hne, ?_⟩
          rw [Flags.skip, if_pos hverbose, hopen]
          rfl
    · simp only [Flags.skip, if_neg hverbose, implies_true, true_or]
  · exact .inl fun v => skip_append_of_ne_nil hne _

theorem steady_skip : Steady fun s => some ((), flags.skip s) := by
  rintro u a rest ⟨⟩
  rcases @skip_append_paren flags u with hall | ⟨hnil, hend⟩
  · exact .inl fun v => by simp only [hall v]
  · exact .inr ⟨hnil, by simp only [hend]⟩

/-- A reader that first passes over blanks and comments. -/
theorem Steady.skip {P : List Char → Option (α × List Char)} (h : Steady P)
    (hnil : ∀ a rest, P [] = some (a, rest) → rest = []) : Steady fun s => P (flags.skip s) :=
  steady_skip.bind (Q := fun _ => P) (fun _ => h) fun _ => hnil

/-- A reader that passes over blanks and comments in the end. -/
theorem Steady.thenSkip {P : List Char → Option (α × List Char)} (h : Steady P) :
    Steady fun s => (P s).map fun p => (p.1, flags.skip p.2) := by
  have hskip : Steady fun s => (P s).bind fun p => some (p.1, flags.skip p.2) := by
    refine h.bind (Q := fun a s => some (a, flags.skip s)) (fun a => ?_) fun a b rest hnil => ?_
    · exact (@steady_skip flags).map fun _ => a
    · rw [skip_nil] at hnil
      exact (Prod.mk.inj (Option.some.inj hnil)).2.symm
  simpa only [Option.map_eq_bind, Function.comp_def] using hskip

/-! ## Spans -/

@[simp] theorem span_nil (p : Char → Bool) : flags.span p [] = ([], []) := by
  rw [Flags.span]

theorem span_cons_of_pos {p : Char → Bool} {c : Char} (h : p c = true) (s : List Char) :
    flags.span p (c :: s) =
      (c :: (flags.span p (flags.skip s)).1, (flags.span p (flags.skip s)).2) := by
  rw [Flags.span, if_pos h]

theorem span_cons_of_neg {p : Char → Bool} {c : Char} (h : ¬ p c = true) (s : List Char) :
    flags.span p (c :: s) = ([], c :: s) := by
  rw [Flags.span, if_neg h]

/-- A span that ends before the text does is not changed by what follows. -/
theorem span_append_of_ne_nil {p : Char → Bool} {u : List Char} (h : (flags.span p u).2 ≠ [])
    (w : List Char) :
    flags.span p (u ++ w) = ((flags.span p u).1, (flags.span p u).2 ++ w) := by
  fun_induction Flags.span flags p u with
  | case1 => exact absurd rfl h
  | case2 c s hc _ taken rest hspan ih =>
    have hskip : flags.skip s ≠ [] := by
      intro hnil
      rw [hnil, span_nil] at hspan
      obtain ⟨-, rfl⟩ := Prod.mk.inj hspan
      exact h rfl
    rw [List.cons_append, span_cons_of_pos hc, skip_append_of_ne_nil hskip, ih (by rwa [hspan])]
    simp [hspan]
  | case3 c s hc => rw [List.cons_append, span_cons_of_neg hc]

/-- A span of characters other than the parenthesis is steady. -/
theorem span_append_paren {p : Char → Bool} (hp : p ')' = false) (u : List Char) :
    (∀ v, flags.span p (u ++ ')' :: v) = ((flags.span p u).1, (flags.span p u).2 ++ ')' :: v)) ∨
      (flags.span p u).2 = [] ∧ flags.span p (u ++ [')', '$']) = ((flags.span p u).1, []) := by
  fun_induction Flags.span flags p u with
  | case1 =>
    refine .inl fun v => ?_
    rw [List.nil_append, span_cons_of_neg (by simp [hp])]
  | case2 c s hc _ taken rest hspan ih =>
    rw [hspan] at ih
    rcases @skip_append_paren flags s with hall | ⟨hnil, hend⟩
    · refine ih.imp (fun hih v => ?_) fun ⟨hrest, hih⟩ => ⟨hrest, ?_⟩
      · rw [List.cons_append, span_cons_of_pos hc, hall, hih]
      · rw [List.cons_append, span_cons_of_pos hc, hall, hih]
    · rw [hnil, span_nil] at hspan
      obtain ⟨rfl, rfl⟩ := Prod.mk.inj hspan
      refine .inr ⟨rfl, ?_⟩
      rw [List.cons_append, span_cons_of_pos hc, hend, span_nil]
  | case3 c s hc => exact .inl fun v => by rw [List.cons_append, span_cons_of_neg hc]

/-- What stands before a closing brace, and what stands after it. -/
def braced? (flags : Flags) (s : List Char) : Option (List Char × List Char) :=
  let found := flags.span (· ≠ '\x7d') (flags.skip s)
  if found.2.isEmpty then none else some (found.1, found.2.tail)

theorem firm_braced? : Firm (braced? flags) := by
  intro u digits rest hu v
  unfold braced? at hu ⊢
  dsimp only at hu ⊢
  split at hu
  · cases hu
  next hne =>
    obtain ⟨rfl, rfl⟩ := Prod.mk.inj (Option.some.inj hu)
    have hrest : (flags.span (· ≠ '\x7d') (flags.skip u)).2 ≠ [] := by simpa using hne
    have hskip : flags.skip u ≠ [] := by
      intro hnil
      rw [hnil, span_nil] at hrest
      exact hrest rfl
    rw [skip_append_of_ne_nil hskip, span_append_of_ne_nil hrest, if_neg (by simp),
      List.tail_append_of_ne_nil hrest]

end Gherkin.Regex
