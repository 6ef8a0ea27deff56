/-
  Gherkin.Proofs.Regex.Steady.Escape

  Escapes are read steadily. The one case that is not, a boundary before a brace
  that leads to nothing, is one in which the text alone cannot be read on.
-/
import Gherkin.Proofs.Regex.Steady.Basic

namespace Gherkin.Regex

variable {flags : Flags}

/-! ## Code points -/

theorem takeChars?_nil {n : Nat} {a rest : List Char} (h : takeChars? flags n [] = some (a, rest)) :
    rest = [] := by
  cases n with
  | zero => exact (Prod.mk.inj (Option.some.inj h)).2.symm
  | succ n => cases h

theorem steady_takeChars? (n : Nat) : Steady (takeChars? flags n) := by
  induction n with
  | zero => exact (firm_pure []).steady
  | succ n ih => exact .ofCons rfl fun c => (ih.skip fun _ _ => takeChars?_nil).map (c :: ·)

theorem steady_readBraced? : Steady (readBraced? flags) := by
  have hread (s : List Char) : readBraced? flags s =
      ((braced? flags s).bind fun p => (codePoint? p.1).map fun c => (c, p.2)).map
        fun p => (p.1, flags.skip p.2) := by
    unfold readBraced? braced?
    dsimp only
    split
    · rfl
    · simp [Option.map_map, Function.comp_def]
  rw [funext hread]
  exact (firm_braced?.steady.filterMap codePoint?).thenSkip

/-- A code point, after what is passed over. -/
def codePointIn? (flags : Flags) (width : Nat) (s : List Char) : Option (Char × List Char) :=
  match s with
  | '\x7b' :: s => readBraced? flags s
  | s => (takeChars? flags width s).bind fun p => (codePoint? p.1).map fun c => (c, p.2)

theorem readCodePoint?_eq (width : Nat) (s : List Char) :
    readCodePoint? flags width s = codePointIn? flags width (flags.skip s) := by
  unfold readCodePoint? codePointIn?
  generalize flags.skip s = t
  split
  · rfl
  · simp only [Option.map_eq_bind]
    rfl

theorem codePointIn?_nil (width : Nat) : codePointIn? flags width [] = none := by
  cases width <;> rfl

theorem codePointIn?_cons_of_ne (width : Nat) {c : Char} (hc : c ≠ '\x7b') (s : List Char) :
    codePointIn? flags width (c :: s) =
      (takeChars? flags width (c :: s)).bind fun p => (codePoint? p.1).map fun c => (c, p.2) := by
  unfold codePointIn?
  split
  next heq => exact absurd (List.cons.inj heq).1 hc
  · rfl

theorem steady_codePointIn? (width : Nat) : Steady (codePointIn? flags width) := by
  refine .ofCons (codePointIn?_nil width) fun c => ?_
  by_cases hc : c = '\x7b'
  · subst hc
    exact steady_readBraced?
  · simp only [codePointIn?_cons_of_ne width hc]
    exact fun u => (steady_takeChars? width).filterMap codePoint? (c :: u)

theorem steady_readCodePoint? (width : Nat) : Steady (readCodePoint? flags width) := by
  rw [funext (readCodePoint?_eq width)]
  exact (steady_codePointIn? width).skip fun a rest h => by rw [codePointIn?_nil] at h; cases h

theorem steady_readShort? : Steady (readShort? flags) := by
  intro u c rest hu
  obtain ⟨⟨c', rest'⟩, hread, hif⟩ := Option.bind_eq_some_iff.1 hu
  -- a code point was read, so what decides on it stands in the text
  have hskip : flags.skip u ≠ [] := by
    intro hnil
    rw [readCodePoint?_eq, hnil, codePointIn?_nil] at hread
    cases hread
  have hhead (w : List Char) : (flags.skip (u ++ w)).head? = (flags.skip u).head? := by
    obtain ⟨c, t, ht⟩ := List.exists_cons_of_ne_nil hskip
    rw [skip_append_of_ne_nil hskip, ht]
    rfl
  dsimp only at hif
  split at hif
  next hok =>
    obtain ⟨rfl, rfl⟩ := Prod.mk.inj (Option.some.inj hif)
    have hread' {w t : List Char} (h : readCodePoint? flags 2 (u ++ w) = some (c', t)) :
        readShort? flags (u ++ w) = some (c', t) := by
      refine Option.bind_eq_some_iff.2 ⟨_, h, ?_⟩
      dsimp only
      rw [hhead, if_pos hok]
    exact (steady_readCodePoint? 2 u c' rest' hread).imp (fun h v => hread' (h v))
      fun h => ⟨h.1, hread' h.2⟩
  · cases hif

/-! ## Escapes -/

/-- Characters that may stand in the name of a boundary. -/
def isBoundaryPart (c : Char) : Bool := c.isAlpha || c = '-'

/-- A boundary whose name or what stands for it is told by a span. -/
def boundaryOf? (s : List Char) (found : List Char × List Char) : Option (WordLook × List Char) :=
  match found with
  | ([], _) => some (.boundary, s)
  | (name, '\x7d' :: rest) => (boundary? (.ofList name)).map fun l => (l, rest)
  | _ => none

theorem readBoundary?_brace (t : List Char) :
    readBoundary? flags ('\x7b' :: t) =
      boundaryOf? ('\x7b' :: t) (flags.span isBoundaryPart (flags.skip t)) := rfl

theorem readBoundary?_of_ne {s : List Char} (h : ∀ t, s ≠ '\x7b' :: t) :
    readBoundary? flags s = some (.boundary, s) := by
  unfold readBoundary?
  split
  next t => exact absurd rfl (h t)
  · rfl

theorem boundaryOf?_append {s name rest : List Char} {p : WordLook × List Char} (w : List Char)
    (h : boundaryOf? s (name, rest) = some p) :
    boundaryOf? (s ++ w) (name, rest ++ w) = some (p.1, p.2 ++ w) := by
  cases name with
  | nil =>
    obtain rfl := Option.some.inj h
    rfl
  | cons c name =>
    unfold boundaryOf? at h
    split at h
    next heq => cases (Prod.mk.inj heq).1
    next heq =>
      obtain ⟨rfl, rfl⟩ := Prod.mk.inj heq
      obtain ⟨l, hl, rfl⟩ := Option.map_eq_some_iff.1 h
      exact Option.map_eq_some_iff.2 ⟨l, hl, rfl⟩
    · cases h

/-- Whether a brace stands there and behind it nothing that counts: no sign of repetition. -/
def Stuck (flags : Flags) (s : List Char) : Prop := ∃ t, s = '\x7b' :: t ∧ flags.skip t = []

/-- A boundary is read likewise, unless a brace follows that leads to nothing. -/
theorem readBoundary?_steady {u rest : List Char} {l : WordLook}
    (hu : readBoundary? flags u = some (l, rest)) :
    (∀ v, readBoundary? flags (u ++ ')' :: v) = some (l, rest ++ ')' :: v)) ∨ Stuck flags rest := by
  -- only a brace goes on: what follows it may be the name of a boundary
  by_cases hbrace : ∃ t, u = '\x7b' :: t
  · obtain ⟨t, rfl⟩ := hbrace
    rw [readBoundary?_brace] at hu
    by_cases hnil : flags.skip t = []
    · rw [hnil, span_nil] at hu
      obtain ⟨rfl, rfl⟩ := Prod.mk.inj (Option.some.inj hu)
      exact .inr ⟨t, rfl, hnil⟩
    · refine .inl fun v => ?_
      have hspan := @span_append_paren flags isBoundaryPart (by decide) (flags.skip t)
      rw [List.cons_append, readBoundary?_brace, skip_append_of_ne_nil hnil]
      rcases hspan with hall | ⟨hrest, -⟩
      · rw [hall]
        exact boundaryOf?_append _ hu
      · -- the name goes on to the end of the text, so it is not closed
        exfalso
        obtain ⟨c, t', ht'⟩ := List.exists_cons_of_ne_nil hnil
        rw [ht'] at hu hrest
        by_cases hc : isBoundaryPart c = true
        · rw [span_cons_of_pos hc] at hu hrest
          dsimp only at hrest
          rw [hrest] at hu
          cases hu
        · rw [span_cons_of_neg hc] at hrest
          cases hrest
  · have hne (t : List Char) : u ≠ '\x7b' :: t := fun h => hbrace ⟨t, h⟩
    rw [readBoundary?_of_ne hne] at hu
    obtain ⟨rfl, rfl⟩ := Prod.mk.inj (Option.some.inj hu)
    refine .inl fun v => readBoundary?_of_ne fun t => ?_
    cases u with
    | nil => simp
    | cons c u =>
      intro h
      exact hne u (by rw [(List.cons.inj h).1])

/-! ## Properties -/

/-- A query, after what is passed over. -/
def queryIn? (flags : Flags) (s : List Char) : Option (Text.Property.Query × List Char) :=
  match s with
  | [] => none
  | '\\' :: _ => none
  | '\x7b' :: s => (braced? flags s).map fun p => (.read p.1, p.2)
  | c :: s => some (.named [c], s)

theorem queryIn?_cons {c : Char} (hbackslash : c ≠ '\\') (hbrace : c ≠ '\x7b') (s : List Char) :
    queryIn? flags (c :: s) = some (.named [c], s) := by
  unfold queryIn?
  split
  next heq => cases heq
  next heq => exact absurd (List.cons.inj heq).1 hbackslash
  next heq => exact absurd (List.cons.inj heq).1 hbrace
  next heq =>
    obtain ⟨rfl, rfl⟩ := List.cons.inj heq
    rfl

theorem readQuery?_eq (s : List Char) : readQuery? flags s = queryIn? flags (flags.skip s) := by
  unfold readQuery?
  generalize flags.skip s = t
  split
  · rfl
  · rfl
  next s =>
    change _ = (braced? flags s).map fun p => (Text.Property.Query.read p.1, p.2)
    unfold braced?
    dsimp only
    split <;> rfl
  next hbackslash hbrace => exact (queryIn?_cons hbackslash hbrace _).symm

theorem steady_queryIn? : Steady (queryIn? flags) := by
  refine .ofCons rfl fun c => ?_
  by_cases hbackslash : c = '\\'
  · subst hbackslash
    rintro u a rest ⟨⟩
  by_cases hbrace : c = '\x7b'
  · subst hbrace
    exact firm_braced?.steady.map Text.Property.Query.read
  · simp only [queryIn?_cons hbackslash hbrace]
    exact (firm_pure _).steady

/-- The set of a property that was asked for. -/
def propertySet? (flags : Flags) (negated : Bool) (query : Text.Property.Query) : Option Escaped :=
  (if flags.everyScript then query.ranges? else none).bind fun found =>
    (flags.negate? (negated != query.isNegated) (flags.fold found)).map .set

theorem readProperty?_eq (negated : Bool) (s : List Char) :
    readProperty? flags negated s =
      (readQuery? flags s).bind fun p =>
        (propertySet? flags negated p.1).map fun e => (e, p.2) := by
  unfold readProperty? propertySet?
  cases readQuery? flags s with
  | none => rfl
  | some p =>
    cases flags.everyScript with
    | false => simp
    | true => simp [Option.map_eq_bind, Option.bind_assoc]

theorem steady_readProperty? (negated : Bool) : Steady (readProperty? flags negated) := by
  have hquery : Steady (readQuery? flags) := by
    rw [funext readQuery?_eq]
    exact steady_queryIn?.skip fun a rest h => by cases h
  rw [funext (readProperty?_eq negated)]
  exact hquery.filterMap (propertySet? flags negated)

/-! ## All escapes -/

/-- An escape other than that of a boundary. -/
theorem steady_readEscape?_cons {c : Char} (hc : c ≠ 'b') :
    Steady fun s => readEscape? flags (c :: s) := by
  -- letters behind which more is read; any other is an escape by itself
  by_cases hp : c = 'p'
  · subst hp
    exact steady_readProperty? false
  by_cases hP : c = 'P'
  · subst hP
    exact steady_readProperty? true
  by_cases hx : c = 'x'
  · subst hx
    exact steady_readShort?.map Escaped.char
  by_cases hu : c = 'u'
  · subst hu
    exact (steady_readCodePoint? 4).map Escaped.char
  by_cases hU : c = 'U'
  · subst hU
    exact (steady_readCodePoint? 8).map Escaped.char
  have hsign (s : List Char) : readEscape? flags (c :: s) =
      if isEscapable c then some (.char c, s) else (escapedSign? flags c).map fun e => (e, s) :=
    readEscape?.eq_8 flags c s hc hp hP hx hu hU
  rintro u e rest h
  simp only [hsign] at h ⊢
  split at h
  next hescapable =>
    obtain ⟨rfl, rfl⟩ := Prod.mk.inj (Option.some.inj h)
    exact .inl fun v => if_pos hescapable
  next hescapable =>
    obtain ⟨e, he, heq⟩ := Option.map_eq_some_iff.1 h
    obtain ⟨rfl, rfl⟩ := Prod.mk.inj heq
    exact .inl fun v => by rw [if_neg hescapable, he]; rfl

/-- What follows a backslash is read likewise, unless it is the sign of a boundary before a brace
    that leads to nothing. -/
theorem readEscape?_steady {u rest : List Char} {e : Escaped}
    (hu : readEscape? flags u = some (e, rest)) :
    ((∀ v, readEscape? flags (u ++ ')' :: v) = some (e, rest ++ ')' :: v)) ∨
        rest = [] ∧ readEscape? flags (u ++ [')', '$']) = some (e, [])) ∨
      (∃ l, e = .look l) ∧ Stuck flags rest := by
  cases u with
  | nil => cases hu
  | cons c s =>
    by_cases hc : c = 'b'
    · subst hc
      obtain ⟨⟨l, rest'⟩, hl, heq⟩ := Option.map_eq_some_iff.1 hu
      obtain ⟨rfl, rfl⟩ := Prod.mk.inj heq
      rcases readBoundary?_steady hl with hall | hstuck
      · exact .inl (.inl fun v => Option.map_eq_some_iff.2 ⟨_, hall v, rfl⟩)
      · exact .inr ⟨⟨_, rfl⟩, hstuck⟩
    · exact .inl (steady_readEscape?_cons hc s e rest hu)

end Gherkin.Regex
