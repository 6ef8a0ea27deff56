/-
  Gherkin.Proofs.Expression.Literal

  How many characters of an expression stand for themselves. Together with the
  texts that the placeholders take they are the length of the text that is put
  together. A pattern without placeholders counts as many as are left when its
  escapes and doubled braces are collapsed, and so fewer than it has, unless it
  has none of these.
-/
import Gherkin.Proofs.Expression.Reassembly

namespace Gherkin

open Expression (Token Mark)

/-! ## Ranks of parts -/

section Parts

variable {kindOf : String → Option Kind} {seen : List String} {tokens : List Token} {start : Nat}
  {name : String}

/-- The rank that tokens add up to. -/
def rankOf (kindOf : String → Option Kind) (seen : List String) (tokens : List Token) :
    Specificity :=
  .sum ((parts kindOf seen tokens).map Part.specificity)

theorem Expression.length_braced (name : String) : (braced name).length = name.length + 2 := by
  simp [braced, String.length_toList]

theorem rankOf_literal (text : List Char) :
    rankOf kindOf seen (.literal text :: tokens) =
      Specificity.add { literals := text.length } (rankOf kindOf seen tokens) := rfl

theorem rankOf_known (h : (kindOf name).isSome = true) :
    rankOf kindOf seen (.placeholder start name :: tokens) =
      Specificity.add { placeholders := 1 } (rankOf kindOf (name :: seen) tokens) := by
  obtain ⟨kind, hkind⟩ := Option.isSome_iff_exists.1 h
  rw [rankOf, parts_known hkind]
  rfl

theorem rankOf_unknown (h : (kindOf name).isSome = false) :
    rankOf kindOf seen (.placeholder start name :: tokens) =
      Specificity.add { literals := name.length + 2 } (rankOf kindOf seen tokens) := by
  have hnone : kindOf name = none := by simpa using h
  have hlength : ('\x7b' :: name.toList ++ ['\x7d']).length = name.length + 2 :=
    Expression.length_braced name
  rw [rankOf, parts_unknown hnone, List.map_cons, Specificity.sum_cons, Part.specificity, hlength]
  rfl

/-- Every known placeholder counts once. -/
theorem placeholders_rankOf (kindOf : String → Option Kind) (seen : List String)
    (tokens : List Token) :
    (rankOf kindOf seen tokens).placeholders = tokens.countP (Token.isKnown kindOf) := by
  induction tokens generalizing seen with
  | nil => rfl
  | cons token tokens ih =>
    cases token with
    | literal text =>
      rw [List.countP_cons_of_neg (by simp [Token.isKnown]), ← ih seen, rankOf_literal]
      exact Nat.zero_add _
    | placeholder start name =>
      cases hname : (kindOf name).isSome with
      | false =>
        rw [List.countP_cons_of_neg (by simp [Token.isKnown, hname]), ← ih seen,
          rankOf_unknown hname]
        exact Nat.zero_add _
      | true =>
        rw [List.countP_cons_of_pos (by simp [Token.isKnown, hname]), ← ih (name :: seen),
          rankOf_known hname]
        exact Nat.add_comm _ _

/-- The literal characters and the texts of the placeholders make up the text. -/
theorem length_interleave (kindOf : String → Option Kind) (seen : List String)
    {tokens : List Token} {raws : List String}
    (hraws : raws.length = tokens.countP (Token.isKnown kindOf)) :
    (Expression.interleave kindOf tokens raws).length =
      (rankOf kindOf seen tokens).literals + (raws.flatMap String.toList).length := by
  -- a known placeholder takes one text from the front; all else counts its own characters
  induction tokens generalizing seen raws with
  | nil =>
    obtain rfl : raws = [] := List.length_eq_zero_iff.1 hraws
    rfl
  | cons token tokens ih =>
    cases token with
    | literal text =>
      rw [List.countP_cons_of_neg (by simp [Token.isKnown])] at hraws
      rw [Expression.interleave, List.length_append, ih seen hraws, rankOf_literal]
      exact (Nat.add_assoc _ _ _).symm
    | placeholder start name =>
      cases hname : (kindOf name).isSome with
      | false =>
        rw [List.countP_cons_of_neg (by simp [Token.isKnown, hname])] at hraws
        rw [Expression.interleave, hname, if_neg Bool.false_ne_true, List.length_append,
          Expression.length_braced, ih seen hraws, rankOf_unknown hname]
        exact (Nat.add_assoc _ _ _).symm
      | true =>
        rw [List.countP_cons_of_pos (by simp [Token.isKnown, hname])] at hraws
        obtain ⟨raw, rest, rfl⟩ := List.exists_cons_of_length_eq_add_one hraws
        rw [List.length_cons, Nat.add_right_cancel_iff] at hraws
        rw [Expression.interleave, hname, if_pos rfl, List.length_append, List.headD_cons,
          List.tail_cons, ih (name :: seen) hraws, List.flatMap_cons, List.length_append,
          rankOf_known hname]
        simp only [Specificity.add]
        omega

end Parts

/-! ## Collapsed text -/

namespace Expression

/-- A mark as it is written where nothing is escaped. -/
def Mark.spelled : Mark → List Char
  | .char c => [c]
  | .placeholder _ name => braced name

/-- A pattern with its escapes and doubled braces collapsed. -/
def collapsed (pattern : String) : List Char := (marks 0 pattern.toList).flatMap Mark.spelled

/-- Whether a mark is a placeholder of a known kind. -/
def Mark.isKnown (kindOf : String → Option Kind) : Mark → Bool
  | .char _ => false
  | .placeholder _ name => (kindOf name).isSome

variable {kindOf : String → Option Kind}

theorem countP_isKnown_cons (m : Mark) (tokens : List Token) :
    (Token.cons m tokens).countP (Token.isKnown kindOf) =
      [m].countP (Mark.isKnown kindOf) + tokens.countP (Token.isKnown kindOf) := by
  fun_cases Token.cons m tokens
  case case1 c text tokens => simp [Token.isKnown, Mark.isKnown]
  case case2 c hopen => simp [Token.isKnown, Mark.isKnown]
  case case3 start name =>
    rw [List.countP_cons, List.countP_singleton, Nat.add_comm]
    rfl

/-- A mark in front is spelled in front, if it is not for a text that is put in. -/
theorem interleave_cons {m : Mark} (h : m.isKnown kindOf = false) (tokens : List Token) :
    interleave kindOf (Token.cons m tokens) [] = m.spelled ++ interleave kindOf tokens [] := by
  fun_cases Token.cons m tokens
  case case1 c text tokens => simp [interleave, Mark.spelled]
  case case2 c hopen => simp [interleave, Mark.spelled]
  case case3 start name =>
    have hname : ¬ (kindOf name).isSome = true := Bool.eq_false_iff.1 h
    rw [interleave, if_neg hname]
    rfl

/-- Without known placeholders a pattern stands for its collapsed text. -/
theorem interleave_tokens {pattern : String}
    (h : (tokens pattern).countP (Token.isKnown kindOf) = 0) :
    interleave kindOf (tokens pattern) [] = collapsed pattern := by
  have hmarks : ∀ ms : List Mark, (ms.foldr Token.cons []).countP (Token.isKnown kindOf) = 0 →
      interleave kindOf (ms.foldr Token.cons []) [] = ms.flatMap Mark.spelled := by
    intro ms
    induction ms with
    | nil => exact fun _ => rfl
    | cons m ms ih =>
      intro hnone
      rw [List.foldr_cons, countP_isKnown_cons, Nat.add_eq_zero_iff] at hnone
      have hm : m.isKnown kindOf = false := by simpa using hnone.1
      rw [List.foldr_cons, interleave_cons hm, ih hnone.2, List.flatMap_cons]
  exact hmarks _ h

/-- A text in which nothing is escaped or doubled. -/
structure IsVerbatim (s : List Char) : Prop where
  noBackslash : '\\' ∉ s
  noDoubledOpening : ¬ ['\x7b', '\x7b'] <:+: s
  noDoubledClosing : ¬ ['\x7d', '\x7d'] <:+: s

theorem IsVerbatim.of_suffix {s t : List Char} (h : IsVerbatim s) (hsuffix : t <:+ s) :
    IsVerbatim t where
  noBackslash hmem := h.noBackslash (hsuffix.subset hmem)
  noDoubledOpening hpart := h.noDoubledOpening (hpart.trans hsuffix.isInfix)
  noDoubledClosing hpart := h.noDoubledClosing (hpart.trans hsuffix.isInfix)

theorem spelled_marks_of_isVerbatim {start : Nat} {s : List Char} (h : IsVerbatim s) :
    (marks start s).flatMap Mark.spelled = s := by
  fun_induction marks start s with
  | case1 => rfl
  | case2 => exact absurd List.mem_cons_self h.noBackslash
  | case3 => exact absurd List.mem_cons_self h.noBackslash
  | case4 start s => exact absurd ⟨[], s, rfl⟩ h.noDoubledOpening
  | case5 start s _ name rest hread _ ih =>
    obtain rfl := (readName?_eq_some hread).2
    have hrest : rest <:+ '\x7b' :: (name ++ '\x7d' :: rest) :=
      ⟨'\x7b' :: (name ++ ['\x7d']), by simp⟩
    rw [List.flatMap_cons, ih (h.of_suffix hrest)]
    simp [Mark.spelled, braced]
  | case6 start s _ _ ih =>
    rw [List.flatMap_cons, ih (h.of_suffix (List.suffix_cons _ _))]
    rfl
  | case7 start s => exact absurd ⟨[], s, rfl⟩ h.noDoubledClosing
  | case8 start c s _ _ _ _ _ ih =>
    rw [List.flatMap_cons, ih (h.of_suffix (List.suffix_cons _ _))]
    rfl

/-- A text in which nothing is escaped or doubled collapses to itself. -/
theorem collapsed_of_isVerbatim {pattern : String} (h : IsVerbatim pattern.toList) :
    collapsed pattern = pattern.toList :=
  spelled_marks_of_isVerbatim h

end Expression

/-! ## Expressions of a registry -/

namespace Registry

variable {registry : Registry} {pattern text : String} {e : Expression} {values : List Value}

theorem specificity_of_expression? (he : registry.expression? pattern = some e) :
    e.specificity = rankOf registry.kind? [] (Expression.tokens pattern) := by
  rw [Expression.specificity, (Expression.pattern_of_ofPattern? he).2]
  rfl

theorem placeholders_of_expression? (he : registry.expression? pattern = some e) :
    e.specificity.placeholders = registry.placeholderCount pattern := by
  rw [specificity_of_expression? he, placeholders_rankOf]
  rfl

theorem placeholderCount_of_plain (hplain : registry.containsPlaceholder pattern = false) :
    registry.placeholderCount pattern = 0 := by
  have hcount := (registry.containsPlaceholder_iff pattern).not.1 (by simp [hplain])
  omega

/-- A plain pattern counts the characters that are left of it when it is collapsed. -/
theorem literals_of_plain (he : registry.expression? pattern = some e)
    (hplain : registry.containsPlaceholder pattern = false) :
    e.specificity.literals = (Expression.collapsed pattern).length := by
  have hnone := placeholderCount_of_plain hplain
  have hraws : ([] : List String).length = registry.placeholderCount pattern := hnone.symm
  rw [specificity_of_expression? he, ← Expression.interleave_tokens hnone,
    length_interleave registry.kind? [] hraws]
  rfl

/-- A plain pattern is matched by itself only, escapes included. -/
theorem pattern_of_captures_plain (he : registry.expression? pattern = some e)
    (hplain : registry.containsPlaceholder pattern = false) (h : e.captures text = .ok values) :
    pattern = text := by
  have hempty : e.placeholders = [] := by
    rw [← List.length_eq_zero_iff, length_placeholders_of_expression? he]
    exact placeholderCount_of_plain hplain
  have hnone : e.hasPlaceholders = false := by simp [Expression.hasPlaceholders, hempty]
  rw [Expression.captures, hnone, if_neg (by simp)] at h
  split at h
  next hpattern => rw [← hpattern, (Expression.pattern_of_ofPattern? he).1]
  next => cases h

/-- A kind in a pattern that is not built in is registered. -/
theorem mem_custom_of_mem_kindsIn {placeholder : Placeholder}
    (h : .custom placeholder ∈ registry.kindsIn pattern) :
    placeholder ∈ registry.custom := by
  obtain ⟨token, -, htoken⟩ := List.mem_filterMap.1 h
  cases token with
  | literal text => cases htoken
  | placeholder start name =>
    rcases Option.or_eq_some_iff.1 htoken with hbuiltin | ⟨-, hcustom⟩
    · obtain ⟨kind, -, hsame⟩ := Option.map_eq_some_iff.1 hbuiltin
      cases hsame
    · obtain ⟨found, hfound, hsame⟩ := Option.map_eq_some_iff.1 hcustom
      obtain rfl := Kind.custom.inj hsame
      exact List.mem_of_find?_eq_some hfound

/-- An expression with placeholders has no more literal characters than the texts that it matches,
    if the fragments can be read by themselves. -/
theorem Built.literals_le (hbuilt : registry.Built) (he : registry.expression? pattern = some e)
    (hplaceholder : registry.containsPlaceholder pattern = true)
    (hread : ∀ placeholder ∈ registry.custom, (Regex.read? placeholder.fragment).isSome = true)
    (h : e.captures text = .ok values) :
    e.specificity.literals ≤ text.length := by
  obtain ⟨raws, hraws⟩ : ∃ raws, e.regex.groups? e.groups text = some raws := by
    rw [Expression.captures, if_pos (hasPlaceholders_of_expression? he hplaceholder)] at h
    cases hraws : e.regex.groups? e.groups text with
    | none => simp [hraws] at h
    | some raws => exact ⟨raws, rfl⟩
  have htiles := hbuilt.tiles he
    (fun placeholder hmem => hread placeholder (mem_custom_of_mem_kindsIn hmem)) hraws
  have hlength := congrArg List.length htiles.interleave_eq
  rw [length_interleave registry.kind? [] htiles.length_eq, ← specificity_of_expression? he]
    at hlength
  simp at hlength
  omega

end Registry

end Gherkin
