/-
  Gherkin.Proofs.Regex.Steady.Bracket

  Classes in brackets are read firmly: a bracket that is closed in a text is
  closed there whatever follows. What a hyphen and a name in a bracket mean is
  decided by what stands before the closing bracket.
-/
import Gherkin.Regex.Bracket
import Gherkin.Proofs.Regex.Steady.Escape

namespace Gherkin.Regex

variable {flags : Flags}

/-! ## Items -/

/-- An item of a class, which is no condition on a place. -/
def plainItem? (flags : Flags) (s : List Char) : Option (Escaped × List Char) :=
  (readItem? flags s).bind fun p => (plain? p.1).map fun e => (e, p.2)
where
  /-- What stands for characters. -/
  plain? : Escaped → Option Escaped
    | .look _ => none
    | e => some e

theorem plainItem?_eq_some {s rest : List Char} {e : Escaped} :
    plainItem? flags s = some (e, rest) ↔
      readItem? flags s = some (e, rest) ∧ ∀ l, e ≠ .look l := by
  constructor
  · intro h
    obtain ⟨⟨e', rest'⟩, hread, hplain⟩ := Option.bind_eq_some_iff.1 h
    obtain ⟨e'', he, heq⟩ := Option.map_eq_some_iff.1 hplain
    obtain ⟨rfl, rfl⟩ := Prod.mk.inj heq
    cases e' with
    | look l => cases he
    | _ =>
      obtain rfl := Option.some.inj he
      exact ⟨hread, fun l => nofun⟩
  · rintro ⟨hread, he⟩
    refine Option.bind_eq_some_iff.2 ⟨(e, rest), hread, ?_⟩
    cases e with
    | look l => exact absurd rfl (he l)
    | _ => rfl

theorem steady_plainItem? : Steady (plainItem? flags) := by
  intro u e rest hu
  obtain ⟨hread, he⟩ := plainItem?_eq_some.1 hu
  cases u with
  | nil => cases hread
  | cons c s =>
    by_cases hc : c = '\\'
    · subst hc
      -- the sign of a boundary is a condition on a place
      have hescape := (readEscape?_steady hread).resolve_right fun h => h.1.elim he
      exact hescape.imp (fun h v => plainItem?_eq_some.2 ⟨h v, he⟩)
        fun h => ⟨h.1, plainItem?_eq_some.2 ⟨h.2, he⟩⟩
    · have hchar (s : List Char) : readItem? flags (c :: s) = some (.char c, s) :=
        readItem?.eq_3 flags c s hc
      rw [hchar] at hread
      obtain ⟨rfl, rfl⟩ := Prod.mk.inj (Option.some.inj hread)
      exact .inl fun v => plainItem?_eq_some.2 ⟨hchar _, he⟩

/-! ## Classes by name -/

theorem ascii?_of_paren {name : List Char} (h : ')' ∈ name) :
    CharClass.ascii? (.ofList name) = none := by
  have hname : ∀ known : String, ')' ∉ known.toList → String.ofList name ≠ known := by
    rintro known hknown rfl
    exact hknown (by simpa using h)
  unfold CharClass.ascii?
  split <;> first
    | rfl
    | next heq => exact absurd heq (hname _ (by decide))

/-- A name and the signs that close it, after the sign that may negate it. -/
def closedName? (s : List Char) : Option (Text.Ranges × List Char) :=
  ([':', ']'].isPrefixOf? (s.dropWhile (· ≠ ':'))).bind fun rest =>
    (CharClass.ascii? (.ofList (s.takeWhile (· ≠ ':')))).map fun found => (found, rest)

theorem isPrefixOf?_cons_nil (c : Char) (p : List Char) : (c :: p).isPrefixOf? [] = none := rfl

theorem isPrefixOf?_cons_cons (c d : Char) (p s : List Char) :
    (c :: p).isPrefixOf? (d :: s) = if c == d then p.isPrefixOf? s else none := rfl

theorem isPrefixOf?_append_paren {p : List Char} (hp : ')' ∉ p) (s v : List Char) :
    p.isPrefixOf? (s ++ ')' :: v) = (p.isPrefixOf? s).map (· ++ ')' :: v) := by
  induction p generalizing s with
  | nil => rfl
  | cons c p ih =>
    rw [List.mem_cons, not_or] at hp
    obtain ⟨hc, hp⟩ := hp
    cases s with
    | nil =>
      rw [List.nil_append, isPrefixOf?_cons_cons, if_neg (by simpa using Ne.symm hc),
        isPrefixOf?_cons_nil, Option.map_none]
    | cons d s =>
      rw [List.cons_append, isPrefixOf?_cons_cons, isPrefixOf?_cons_cons]
      split
      · exact ih hp s
      · rfl

theorem closedName?_append_paren (s v : List Char) :
    closedName? (s ++ ')' :: v) = (closedName? s).map fun p => (p.1, p.2 ++ ')' :: v) := by
  unfold closedName?
  by_cases hnil : s.dropWhile (· ≠ ':') = []
  · -- the name goes on and has a parenthesis in it
    have hall := List.dropWhile_eq_nil_iff.1 hnil
    have hmem : ')' ∈ (s ++ ')' :: v).takeWhile (· ≠ ':') := by
      rw [List.takeWhile_append_of_pos hall, List.takeWhile_cons_of_pos (by decide)]
      simp
    rw [ascii?_of_paren hmem, hnil, isPrefixOf?_cons_nil]
    simp
  · rw [dropWhile_append_of_ne_nil hnil, takeWhile_append_of_ne_nil hnil,
      isPrefixOf?_append_paren (by decide)]
    cases [':', ']'].isPrefixOf? (s.dropWhile (· ≠ ':')) with
    | none => rfl
    | some rest =>
      cases CharClass.ascii? (.ofList (s.takeWhile (· ≠ ':'))) <;> rfl

/-- The sign of negation, if it comes first, and what follows. -/
def signOfNegation (s : List Char) : Bool × List Char :=
  match s with
  | '^' :: s => (true, s)
  | s => (false, s)

theorem signOfNegation_append_paren (s v : List Char) :
    signOfNegation (s ++ ')' :: v) = ((signOfNegation s).1, (signOfNegation s).2 ++ ')' :: v) := by
  cases s with
  | nil => rfl
  | cons c s =>
    by_cases hc : c = '^'
    · subst hc
      rfl
    · have hne (t : List Char) : signOfNegation (c :: t) = (false, c :: t) := by
        unfold signOfNegation
        split
        next heq => exact absurd (List.cons.inj heq).1 hc
        · rfl
      rw [List.cons_append, hne, hne]
      rfl

theorem className?_eq (s : List Char) :
    className? s = ([':'].isPrefixOf? s).bind fun s =>
      (closedName? (signOfNegation s).2).map fun p => (p.1, (signOfNegation s).1, p.2) := by
  unfold className?
  cases [':'].isPrefixOf? s with
  | none => rfl
  | some s =>
    change _ = (closedName? (signOfNegation s).2).map fun p => (p.1, (signOfNegation s).1, p.2)
    unfold closedName?
    simp only [List.span_eq_takeWhile_dropWhile, Option.map_eq_bind, Option.bind_assoc,
      Function.comp_def, Option.bind_some]
    rfl

/-- A class by name does not go on with a parenthesis, and no name has one in it. -/
theorem className?_append_paren (s v : List Char) :
    className? (s ++ ')' :: v) = (className? s).map fun p => (p.1, p.2.1, p.2.2 ++ ')' :: v) := by
  rw [className?_eq, className?_eq, isPrefixOf?_append_paren (by decide)]
  cases [':'].isPrefixOf? s with
  | none => rfl
  | some s =>
    simp only [Option.map_some, Option.bind_some, signOfNegation_append_paren,
      closedName?_append_paren, Option.map_map, Function.comp_def]

/-! ## Ranges -/

theorem dropBlanks_append {s : List Char} (h : Text.dropBlanks s ≠ []) (w : List Char) :
    Text.dropBlanks (s ++ w) = Text.dropBlanks s ++ w := dropWhile_append_of_ne_nil h w

theorem skipVerbose_of_blanks {s : List Char} (h : Text.dropBlanks s = []) (comment : Bool) :
    skipVerbose comment s = [] := by
  have hblank := List.dropWhile_eq_nil_iff.1 h
  induction s generalizing comment with
  | nil => rfl
  | cons c s ih =>
    obtain ⟨hc, hs⟩ := List.forall_mem_cons.1 hblank
    have hnil : Text.dropBlanks s = [] := List.dropWhile_eq_nil_iff.2 hs
    simp only [skipVerbose, hc, if_true]
    split <;> exact ih hnil _ hs

theorem skipVerbose_dropBlanks (s : List Char) :
    skipVerbose false s = skipVerbose false (Text.dropBlanks s) := by
  induction s with
  | nil => rfl
  | cons c s ih =>
    cases hc : Text.isBlank c with
    | true =>
      have hdrop : Text.dropBlanks (c :: s) = Text.dropBlanks s := List.dropWhile_cons_of_pos hc
      rw [hdrop, ← ih]
      simp [skipVerbose, hc]
    | false => rw [Text.dropBlanks, List.dropWhile_cons_of_neg (by simp [hc])]

/-- What is seen behind a hyphen in verbose notation. -/
def seen (s : List Char) : List Char :=
  match Text.dropBlanks s with
  | '#' :: t => Text.dropBlanks t
  | t => t

theorem peek?_eq (s : List Char) :
    flags.peek? s = if flags.verbose then (seen s).head?.or s.head? else s.head? := rfl

theorem seen_cases (s : List Char) :
    (∃ t, Text.dropBlanks s = '#' :: t ∧ seen s = Text.dropBlanks t) ∨
      (∀ t, Text.dropBlanks s ≠ '#' :: t) ∧ seen s = Text.dropBlanks s := by
  unfold seen
  split
  next t heq => exact .inl ⟨t, heq, rfl⟩
  next hne => exact .inr ⟨hne, rfl⟩

theorem seen_append {s : List Char} (h : seen s ≠ []) (w : List Char) :
    seen (s ++ w) = seen s ++ w := by
  rcases seen_cases s with ⟨t, ht, hseen⟩ | ⟨hne, hseen⟩
  · rw [hseen] at h ⊢
    have hdrop : Text.dropBlanks (s ++ w) = '#' :: (t ++ w) := by
      rw [dropBlanks_append (by simp [ht]), ht, List.cons_append]
    rw [seen, hdrop]
    exact dropBlanks_append h w
  · rw [hseen] at h ⊢
    obtain ⟨c, t, ht⟩ := List.exists_cons_of_ne_nil h
    rw [seen, dropBlanks_append h, ht]
    split
    next heq =>
      obtain ⟨rfl, -⟩ := List.cons.inj heq
      exact absurd ht (hne t)
    · rfl

/-- Where nothing is seen nothing counts, and blanks or a comment come first. -/
theorem seen_eq_nil {s : List Char} (h : seen s = []) :
    skipVerbose false s = [] ∧ ∀ c ∈ s.head?, Text.isBlank c = true ∨ c = '#' := by
  rcases seen_cases s with ⟨t, ht, hseen⟩ | ⟨-, hseen⟩
  · constructor
    · have hblank : Text.isBlank '#' = false := by decide
      rw [skipVerbose_dropBlanks, ht]
      simpa [skipVerbose, hblank] using skipVerbose_of_blanks (hseen ▸ h) true
    · intro c hc
      cases s with
      | nil => cases hc
      | cons d s =>
        obtain rfl := Option.some.inj hc
        by_cases hd : Text.isBlank d = true
        · exact .inl hd
        · rw [Text.dropBlanks, List.dropWhile_cons_of_neg hd] at ht
          exact .inr (List.cons.inj ht).1
  · have hnil : Text.dropBlanks s = [] := hseen ▸ h
    refine ⟨skipVerbose_of_blanks hnil false, fun c hc => .inl ?_⟩
    exact List.dropWhile_eq_nil_iff.1 hnil c (List.mem_of_mem_head? hc)

/-- What decides on a hyphen stands in the text. -/
theorem peek?_append {s : List Char}
    (h : flags.skip s ≠ [] ∨ ∃ c ∈ flags.peek? s, Text.isBlank c = false ∧ c ≠ '#')
    (w : List Char) :
    flags.peek? (s ++ w) = flags.peek? s := by
  have hhead {t : List Char} (ht : t ≠ []) : (t ++ w).head? = t.head? := by
    obtain ⟨c, t, rfl⟩ := List.exists_cons_of_ne_nil ht
    rfl
  rw [peek?_eq, peek?_eq]
  rw [peek?_eq] at h
  split
  next hverbose =>
    -- were nothing seen in verbose notation, only blanks or a comment would stand there
    have hseen : seen s ≠ [] := by
      intro hnil
      obtain ⟨hskip, hfirst⟩ := seen_eq_nil hnil
      rcases h with h | ⟨c, hc, hblank, hhash⟩
      · exact h (by rw [Flags.skip, if_pos hverbose, hskip])
      · rw [if_pos hverbose, hnil] at hc
        rcases hfirst c hc with hc | hc
        · rw [hblank] at hc
          cases hc
        · exact hhash hc
    obtain ⟨c, t, ht⟩ := List.exists_cons_of_ne_nil hseen
    rw [seen_append hseen, ht]
    rfl
  next hverbose =>
    refine hhead ?_
    rcases h with h | ⟨c, hc, -⟩
    · rwa [Flags.skip, if_neg hverbose] at h
    · rw [if_neg hverbose] at hc
      rintro rfl
      cases hc

theorem rangeSign?_hyphen (s : List Char) :
    rangeSign? flags ('-' :: s) =
      if flags.peek? s = some ']' ∨ flags.peek? s = some '-' then none
      else some (flags.skip s) := by
  rw [rangeSign?.eq_1]
  split
  next heq => rw [if_pos (.inl heq)]
  next heq => rw [if_pos (.inr heq)]
  next hbracket hhyphen => rw [if_neg (not_or.2 ⟨hbracket, hhyphen⟩)]

theorem rangeSign?_of_ne {c : Char} (hc : c ≠ '-') (s : List Char) :
    rangeSign? flags (c :: s) = none := rangeSign?.eq_2 flags _ fun _ h => hc (List.cons.inj h).1

theorem rangeSign?_append_of_none {t : List Char} (h : rangeSign? flags t = none) (v : List Char) :
    rangeSign? flags (t ++ ')' :: v) = none := by
  cases t with
  | nil => exact rangeSign?_of_ne (by decide) v
  | cons c s =>
    by_cases hc : c = '-'
    · subst hc
      rw [rangeSign?_hyphen] at h
      have hpeek : flags.peek? s = some ']' ∨ flags.peek? s = some '-' := by
        by_contra hnot
        rw [if_neg hnot] at h
        cases h
      have hsigns : Text.isBlank ']' = false ∧ Text.isBlank '-' = false := by decide
      have hseen : ∃ c ∈ flags.peek? s, Text.isBlank c = false ∧ c ≠ '#' := by
        rcases hpeek with hpeek | hpeek
        · exact ⟨']', hpeek, hsigns.1, by decide⟩
        · exact ⟨'-', hpeek, hsigns.2, by decide⟩
      rw [List.cons_append, rangeSign?_hyphen, peek?_append (.inr hseen), if_pos hpeek]
    · exact rangeSign?_of_ne hc _

theorem rangeSign?_append_of_some {t r : List Char} (h : rangeSign? flags t = some r) (hne : r ≠ [])
    (w : List Char) : rangeSign? flags (t ++ w) = some (r ++ w) := by
  cases t with
  | nil => cases h
  | cons c s =>
    by_cases hc : c = '-'
    · subst hc
      rw [rangeSign?_hyphen] at h
      split at h
      · cases h
      next hpeek =>
        obtain rfl := Option.some.inj h
        rw [List.cons_append, rangeSign?_hyphen, peek?_append (.inl hne), if_neg hpeek,
          skip_append_of_ne_nil hne]
    · rw [rangeSign?_of_ne hc] at h
      cases h

/-- What an item comes to with what may follow it: a range, or itself. -/
def rangeFrom? (flags : Flags) (first : Escaped) (t : List Char) :
    Option (Text.Ranges × List Char) :=
  match rangeSign? flags t with
  | some r => (plainItem? flags r).bind fun p => (rangeClass? flags first p.1).map fun s => (s, p.2)
  | none => (itemClass? flags first).map fun s => (s, t)

theorem steady_rangeFrom? (first : Escaped) : Steady (rangeFrom? flags first) := by
  intro t s rest h
  cases hsign : rangeSign? flags t with
  | none =>
    rw [rangeFrom?, hsign] at h
    obtain ⟨s, hs, heq⟩ := Option.map_eq_some_iff.1 h
    obtain ⟨rfl, rfl⟩ := Prod.mk.inj heq
    refine .inl fun v => ?_
    rw [rangeFrom?, rangeSign?_append_of_none hsign]
    exact Option.map_eq_some_iff.2 ⟨s, hs, rfl⟩
  | some r =>
    rw [rangeFrom?, hsign] at h
    have hne : r ≠ [] := by
      rintro rfl
      cases h
    have hlast := steady_plainItem?.filterMap (rangeClass? flags first) r s rest h
    have hgoesOn (w : List Char) : rangeFrom? flags first (t ++ w) =
        (plainItem? flags (r ++ w)).bind fun p =>
          (rangeClass? flags first p.1).map fun s => (s, p.2) := by
      rw [rangeFrom?, rangeSign?_append_of_some hsign hne]
    exact hlast.imp (fun hall v => by rw [hgoesOn]; exact hall v)
      fun hend => ⟨hend.1, by rw [hgoesOn]; exact hend.2⟩

theorem rangeFrom?_nil {first : Escaped} {s : Text.Ranges} {rest : List Char}
    (h : rangeFrom? flags first [] = some (s, rest)) : rest = [] := by
  obtain ⟨_, _, heq⟩ := Option.map_eq_some_iff.1 h
  exact (Prod.mk.inj heq).2.symm

/-- Conditions on a place make no class and no range. -/
theorem readRange?_eq (s : List Char) :
    readRange? flags s =
      (plainItem? flags s).bind fun p => rangeFrom? flags p.1 (flags.skip p.2) := by
  -- neither the end of a range nor its beginning may be a condition on a place
  have hlast (first : Escaped) (r : List Char) :
      ((readItem? flags r).bind fun p => (rangeClass? flags first p.1).map fun s => (s, p.2)) =
        (plainItem? flags r).bind fun p => (rangeClass? flags first p.1).map fun s => (s, p.2) := by
    unfold plainItem?
    cases readItem? flags r with
    | none => rfl
    | some p =>
      obtain ⟨e, rest⟩ := p
      cases e with
      | look l => cases first <;> rfl
      | _ => rfl
  have hlook (l : Look) (t : List Char) : rangeFrom? flags (.look l) t = none := by
    unfold rangeFrom?
    split
    next r _ => cases plainItem? flags r <;> rfl
    · rfl
  have hread : readRange? flags s =
      (readItem? flags s).bind fun p => rangeFrom? flags p.1 (flags.skip p.2) := by
    unfold readRange? rangeFrom?
    cases readItem? flags s with
    | none => rfl
    | some p =>
      simp only [Option.bind_some, ← hlast]
      cases hsign : rangeSign? flags (flags.skip p.2) with
      | none =>
        simp only [Option.bind_eq_bind, Option.bind_some, hsign, Option.map_eq_bind]
        rfl
      | some r =>
        simp only [Option.bind_eq_bind, Option.bind_some, hsign, Option.map_eq_bind]
        rfl
  rw [hread]
  unfold plainItem?
  cases readItem? flags s with
  | none => rfl
  | some p =>
    obtain ⟨e, rest⟩ := p
    cases e with
    | look l => exact hlook l _
    | _ => rfl

theorem steady_readRange? : Steady (readRange? flags) := by
  rw [funext readRange?_eq]
  exact steady_plainItem?.bind
    (fun first => (steady_rangeFrom? first).skip fun _ _ => rangeFrom?_nil)
    fun first s rest h => rangeFrom?_nil (by simpa using h)

/-! ## Signs in brackets -/

/-- The sign of negation at the start of a bracket. -/
def bracketSign (flags : Flags) (s : List Char) : Bool × List Char :=
  match flags.skip s with
  | '^' :: s => (true, flags.skip s)
  | s => (false, s)

/-- The signs at the start of a bracket that stand for themselves. -/
def bracketStart (negated : Bool) (found : List Char × List Char) : Bracket × List Char :=
  match found with
  | ([], ']' :: s) => ({ negated, items := [{ set := CharClass.point ']' }] }, s)
  | (hyphens, s) => ({ negated, items := hyphens.map fun c => { set := CharClass.point c } }, s)

theorem openBracket_eq (s : List Char) :
    openBracket flags s = bracketStart (bracketSign flags s).1
      (flags.span (· = '-') (bracketSign flags s).2) := rfl

theorem bracketSign_append {u : List Char} (h : (bracketSign flags u).2 ≠ []) (w : List Char) :
    bracketSign flags (u ++ w) = ((bracketSign flags u).1, (bracketSign flags u).2 ++ w) := by
  have hskip : flags.skip u ≠ [] := by
    intro hnil
    rw [bracketSign, hnil] at h
    exact h rfl
  obtain ⟨c, t, ht⟩ := List.exists_cons_of_ne_nil hskip
  have happend := skip_append_of_ne_nil hskip w
  rw [ht, List.cons_append] at happend
  unfold bracketSign at h ⊢
  rw [ht] at h ⊢
  rw [happend]
  by_cases hc : c = '^'
  · subst hc
    exact congrArg (Prod.mk true) (skip_append_of_ne_nil h w)
  · split
    next heq => exact absurd (List.cons.inj heq).1 hc
    · split
      next heq => exact absurd (List.cons.inj heq).1 hc
      · rfl

theorem bracketStart_append (negated : Bool) {found : List Char × List Char} (h : found.2 ≠ [])
    (w : List Char) :
    bracketStart negated (found.1, found.2 ++ w) =
      ((bracketStart negated found).1, (bracketStart negated found).2 ++ w) := by
  obtain ⟨hyphens, s⟩ := found
  obtain ⟨c, t, rfl⟩ := List.exists_cons_of_ne_nil h
  by_cases hclose : hyphens = [] ∧ c = ']'
  · obtain ⟨rfl, rfl⟩ := hclose
    rfl
  · have hitems (t : List Char) : bracketStart negated (hyphens, c :: t) =
        ({ negated, items := hyphens.map fun c => { set := CharClass.point c } }, c :: t) := by
      unfold bracketStart
      split
      next heq =>
        obtain ⟨hnil, hcons⟩ := Prod.mk.inj heq
        exact absurd ⟨hnil, (List.cons.inj hcons).1⟩ hclose
      next heq =>
        obtain ⟨rfl, rfl⟩ := Prod.mk.inj heq
        rfl
    rw [hitems, List.cons_append, hitems]

/-- The start of a bracket that does not end the text. -/
theorem openBracket_append {u : List Char} (h : (openBracket flags u).2 ≠ []) (w : List Char) :
    openBracket flags (u ++ w) = ((openBracket flags u).1, (openBracket flags u).2 ++ w) := by
  rw [openBracket_eq] at h
  have hspan : (flags.span (· = '-') (bracketSign flags u).2).2 ≠ [] := by
    intro hnil
    generalize flags.span (· = '-') (bracketSign flags u).2 = found at h hnil
    obtain ⟨hyphens, s⟩ := found
    obtain rfl : s = [] := hnil
    cases hyphens <;> exact h rfl
  have hsign : (bracketSign flags u).2 ≠ [] := by
    intro hnil
    rw [hnil, span_nil] at hspan
    exact hspan rfl
  rw [openBracket_eq, bracketSign_append hsign, span_append_of_ne_nil hspan,
    bracketStart_append _ hspan, openBracket_eq]

/-- A sign in a bracket that does not end the text before the bracket is closed. -/
theorem bracketStep?_append {bracket : Bracket} {outer : List Bracket} {u rest : List Char}
    {step : BracketStep} (h : bracketStep? flags bracket outer u = some (step, rest))
    (hne : rest ≠ [] ∨ ∃ item, step = .done item) (v : List Char) :
    bracketStep? flags bracket outer (u ++ ')' :: v) = some (step, rest ++ ')' :: v) := by
  -- what goes on in a bracket: a named class, an inner bracket, the end, an operator, or a range
  fun_cases bracketStep? flags bracket outer u with
  | case1 => cases h
  | case2 s found negated rest' hname =>
    rw [bracketStep?.eq_2, hname] at h
    rw [List.cons_append, bracketStep?.eq_2, className?_append_paren, hname]
    obtain ⟨set, hset, heq⟩ := Option.map_eq_some_iff.1 h
    obtain ⟨rfl, rfl⟩ := Prod.mk.inj heq
    exact Option.map_eq_some_iff.2 ⟨set, hset, rfl⟩
  | case3 s hname inner rest' hopen =>
    rw [bracketStep?.eq_2, hname] at h
    dsimp only at h
    rw [hopen] at h
    obtain ⟨rfl, rfl⟩ := Prod.mk.inj (Option.some.inj h)
    -- a bracket that is opened is not done, so something is left for it
    have hrest : (openBracket flags s).2 ≠ [] := by
      rw [hopen]
      exact hne.resolve_right fun ⟨item, hitem⟩ => by cases hitem
    rw [List.cons_append, bracketStep?.eq_2, className?_append_paren, hname]
    dsimp only [Option.map_none]
    rw [openBracket_append hrest, hopen]
  | case4 s =>
    rw [bracketStep?.eq_3] at h
    rw [List.cons_append, bracketStep?.eq_3]
    obtain ⟨item, hitem, heq⟩ := Option.map_eq_some_iff.1 h
    refine Option.map_eq_some_iff.2 ⟨item, hitem, ?_⟩
    cases outer with
    | nil =>
      obtain ⟨rfl, rfl⟩ := Prod.mk.inj heq
      rfl
    | cons parent outer =>
      obtain ⟨rfl, rfl⟩ := Prod.mk.inj heq
      rfl
  | case5 s =>
    obtain ⟨rfl, rfl⟩ := Prod.mk.inj (Option.some.inj h)
    rfl
  | case6 s =>
    obtain ⟨rfl, rfl⟩ := Prod.mk.inj (Option.some.inj h)
    rfl
  | case7 s =>
    obtain ⟨rfl, rfl⟩ := Prod.mk.inj (Option.some.inj h)
    rfl
  | case8 _ hnil hopen hclose hinter hdiff hsymm =>
    rw [bracketStep?.eq_7 flags bracket outer _ hnil hopen hclose hinter hdiff hsymm] at h
    obtain ⟨⟨set, rest'⟩, hrange, heq⟩ := Option.map_eq_some_iff.1 h
    obtain ⟨rfl, rfl⟩ := Prod.mk.inj heq
    -- a parenthesis behind the text makes it none of the other cases
    have hrest := hne.resolve_right fun ⟨item, hitem⟩ => by cases hitem
    rw [bracketStep?.eq_7 flags bracket outer (u ++ ')' :: v) (by simp)
      (append_paren_ne_cons (by decide) hopen v) (append_paren_ne_cons (by decide) hclose v)
      (append_paren_ne_cons_cons (by decide) (by decide) hinter v)
      (append_paren_ne_cons_cons (by decide) (by decide) hdiff v)
      (append_paren_ne_cons_cons (by decide) (by decide) hsymm v)]
    exact Option.map_eq_some_iff.2 ⟨_, steady_readRange?.of_ne_nil hrange hrest v, rfl⟩

/-! ## Brackets -/

theorem readBracket?_cons_ne_nil {n : Nat} {bracket : Bracket} {outer : List Bracket}
    {s : List Char} {found : ClassItem × List Char}
    (h : readBracket? flags n bracket outer s = some found) : flags.skip s ≠ [] := by
  intro hnil
  cases n with
  | zero => cases h
  | succ n =>
    rw [readBracket?, hnil] at h
    cases h

theorem firm_readBracket? (n : Nat) (bracket : Bracket) (outer : List Bracket) :
    Firm (readBracket? flags n bracket outer) := by
  induction n generalizing bracket outer with
  | zero => rintro u item rest h; cases h
  | succ n ih =>
    intro u item rest h v
    have hskip := readBracket?_cons_ne_nil h
    rw [readBracket?] at h ⊢
    rw [skip_append_of_ne_nil hskip]
    cases hstep : bracketStep? flags bracket outer (flags.skip u) with
    | none => rw [hstep] at h; cases h
    | some p =>
      obtain ⟨step, rest'⟩ := p
      rw [hstep] at h
      cases step with
      | done found =>
        rw [bracketStep?_append hstep (.inr ⟨found, rfl⟩)]
        obtain ⟨rfl, rfl⟩ := Prod.mk.inj (Option.some.inj h)
        rfl
      | more bracket outer =>
        have hne : rest' ≠ [] := by
          rintro rfl
          exact readBracket?_cons_ne_nil h skip_nil
        rw [bracketStep?_append hstep (.inl hne)]
        exact ih bracket outer rest' item rest h v

theorem readClass?_eq (n : Nat) (s : List Char) :
    readClass? flags n s =
      readBracket? flags n (openBracket flags s).1 [] (openBracket flags s).2 := rfl

theorem firm_readClass? (n : Nat) : Firm (readClass? flags n) := by
  intro u item rest h v
  rw [readClass?_eq] at h ⊢
  have hne : (openBracket flags u).2 ≠ [] := by
    intro hnil
    refine readBracket?_cons_ne_nil h ?_
    rw [hnil, skip_nil]
  rw [openBracket_append hne]
  exact firm_readBracket? n _ [] _ item rest h v

/-- More steps do not change what is read. -/
theorem readBracket?_mono {m n : Nat} (hle : m ≤ n) {bracket : Bracket} {outer : List Bracket}
    {s : List Char} {found : ClassItem × List Char}
    (h : readBracket? flags m bracket outer s = some found) :
    readBracket? flags n bracket outer s = some found := by
  induction m generalizing n bracket outer s with
  | zero => cases h
  | succ m ih =>
    obtain ⟨n, rfl⟩ := Nat.exists_eq_add_of_le' hle
    rw [← Nat.add_assoc, readBracket?]
    rw [readBracket?] at h
    cases hstep : bracketStep? flags bracket outer (flags.skip s) with
    | none => rw [hstep] at h; cases h
    | some p =>
      obtain ⟨step, rest'⟩ := p
      rw [hstep] at h
      cases step with
      | done found => exact h
      | more bracket outer => exact ih (Nat.le_add_left m n) h

theorem readClass?_mono {m n : Nat} (hle : m ≤ n) {s : List Char} {found : ClassItem × List Char}
    (h : readClass? flags m s = some found) : readClass? flags n s = some found :=
  readBracket?_mono hle h

end Gherkin.Regex
