/-
  Gherkin.Proofs.Expression.Rank

  The rank of an expression and the rank of its pattern alone. The one is told
  from the parts, once the names are resolved in a registry, the other from the
  tokens with the built-in kinds only. They differ by the placeholders of one's
  own: each is one placeholder more and its name with its braces fewer literal
  characters. The literal characters are those of the texts that the literal
  parts match, which are what is left of the pattern when it is collapsed and
  its known placeholders are taken out.
-/
import Gherkin.Proofs.Expression.Compilation
import Gherkin.Proofs.Expression.Literal
import Mathlib.Algebra.GroupWithZero.Nat

namespace Gherkin

open Expression (Token Mark)

/-! ## The rank of tokens -/

/-- The rank told from the tokens is that of the parts with the built-in kinds. -/
theorem rankOf_builtin (seen : List String) (tokens : List Token) :
    rankOf Kind.builtin? seen tokens = .sum (tokens.map Token.specificity) := by
  induction tokens generalizing seen with
  | nil => rfl
  | cons token tokens ih =>
    rw [List.map_cons, Specificity.sum_cons]
    cases token with
    | literal text => rw [rankOf_literal, ih, Token.specificity]
    | placeholder start name =>
      have hsame : (Kind.builtin? name).isSome = (BuiltinKind.ofName? name).isSome :=
        Option.isSome_map
      rw [Token.specificity, ← hsame]
      split
      next hknown => rw [rankOf_known hknown, ih]
      next hunknown => rw [rankOf_unknown (Bool.eq_false_iff.2 hunknown), ih]

/-! ## Placeholders of one's own -/

namespace Registry

variable {registry : Registry} {pattern : String} {e : Expression}

/-- The names of the placeholders among tokens that were registered, from left to right. -/
def customsAmong (registry : Registry) (tokens : List Token) : List String :=
  (tokens.filterMap Token.name?).filter fun name => (registry.placeholder? name).isSome

/-- The names of the placeholders in a pattern that were registered, from left to right. -/
def customsIn (registry : Registry) (pattern : String) : List String :=
  registry.customsAmong (Expression.tokens pattern)

theorem isSome_kind? (registry : Registry) (name : String) :
    (registry.kind? name).isSome =
      ((BuiltinKind.ofName? name).isSome || (registry.placeholder? name).isSome) := by
  rw [kind?, kindAmong?, Kind.builtin?, Option.isSome_or, Option.isSome_map, Option.isSome_map]
  rfl

/-- A name that was registered is not that of a built-in kind. -/
theorem WellNamed.ofName?_eq_none (h : registry.WellNamed) {name : String}
    (hname : (registry.placeholder? name).isSome = true) : BuiltinKind.ofName? name = none := by
  obtain ⟨placeholder, hfind⟩ := Option.isSome_iff_exists.1 hname
  have hsame : placeholder.name = name := by simpa using List.find?_some hfind
  rw [Option.eq_none_iff_forall_ne_some]
  intro kind hkind
  exact h.notBuiltin name (hsame ▸ List.mem_map_of_mem (List.mem_of_find?_eq_some hfind)) kind
    (BuiltinKind.name_of_ofName? hkind).symm

section Customs

variable {tokens : List Token} {start : Nat} {name : String}

theorem customsAmong_literal (text : List Char) :
    registry.customsAmong (.literal text :: tokens) = registry.customsAmong tokens := rfl

theorem customsAmong_custom (h : (registry.placeholder? name).isSome = true) :
    registry.customsAmong (.placeholder start name :: tokens) =
      name :: registry.customsAmong tokens :=
  List.filter_cons_of_pos h

theorem customsAmong_other (h : (registry.placeholder? name).isSome = false) :
    registry.customsAmong (.placeholder start name :: tokens) = registry.customsAmong tokens :=
  List.filter_cons_of_neg (Bool.eq_false_iff.1 h)

end Customs

/-- Both ranks of tokens, whatever has been seen before them. -/
theorem WellNamed.rankOf_kind? (h : registry.WellNamed) (seen : List String)
    (tokens : List Token) :
    (rankOf registry.kind? seen tokens).placeholders =
        (Specificity.sum (tokens.map Token.specificity)).placeholders +
          (registry.customsAmong tokens).length ∧
      (rankOf registry.kind? seen tokens).literals +
          ((registry.customsAmong tokens).map fun name => name.length + 2).sum =
        (Specificity.sum (tokens.map Token.specificity)).literals := by
  induction tokens generalizing seen with
  | nil => exact ⟨rfl, rfl⟩
  | cons token tokens ih =>
    rw [List.map_cons, Specificity.sum_cons]
    cases token with
    | literal text =>
      obtain ⟨hplaceholders, hliterals⟩ := ih seen
      rw [rankOf_literal, customsAmong_literal, Token.specificity]
      simp only [Specificity.add]
      omega
    | placeholder start name =>
      have hkind := registry.isSome_kind? name
      cases hcustom : (registry.placeholder? name).isSome with
      | true =>
        -- a placeholder for the registry, a literal for the built-in kinds
        have hbuiltin : (BuiltinKind.ofName? name).isSome = false := by
          rw [h.ofName?_eq_none hcustom]
          rfl
        rw [hbuiltin, hcustom, Bool.or_true] at hkind
        obtain ⟨hplaceholders, hliterals⟩ := ih (name :: seen)
        rw [rankOf_known hkind, customsAmong_custom hcustom, Token.specificity, hbuiltin]
        rw [if_neg Bool.false_ne_true, List.map_cons, List.sum_cons, List.length_cons]
        simp only [Specificity.add]
        omega
      | false =>
        -- the registry knows the name just in case it is built in
        rw [hcustom, Bool.or_false] at hkind
        rw [customsAmong_other hcustom, Token.specificity, ← hkind]
        cases hknown : (registry.kind? name).isSome with
        | true =>
          obtain ⟨hplaceholders, hliterals⟩ := ih (name :: seen)
          rw [rankOf_known hknown, if_pos rfl]
          simp only [Specificity.add]
          omega
        | false =>
          obtain ⟨hplaceholders, hliterals⟩ := ih seen
          rw [rankOf_unknown hknown, if_neg Bool.false_ne_true]
          simp only [Specificity.add]
          omega

end Registry

/-! ## Literal text -/

/-- The text of a literal part. -/
def Part.literal? : Part → Option (List Char)
  | literal text => some text
  | capture .. => none

/-- The texts of the literal parts, from left to right. -/
def segments (ps : List Part) : List (List Char) := ps.filterMap Part.literal?

/-- What is left of a pattern when its escapes and doubled braces are collapsed and its known
    placeholders are taken out. -/
def Expression.literalText (kindOf : String → Option Kind) (pattern : String) : List Char :=
  ((marks 0 pattern.toList).filter fun m => !m.isKnown kindOf).flatMap Mark.spelled

/-- The literal characters of a rank are those of the literal parts. -/
theorem length_flatten_segments (ps : List Part) :
    (segments ps).flatten.length = (Specificity.sum (ps.map Part.specificity)).literals := by
  induction ps with
  | nil => rfl
  | cons p ps ih =>
    cases p with
    | literal text =>
      have hsegments : segments (.literal text :: ps) = text :: segments ps := rfl
      rw [hsegments, List.flatten_cons, List.length_append, ih]
      rfl
    | capture kind group =>
      have hsegments : segments (.capture kind group :: ps) = segments ps := rfl
      rw [hsegments, ih]
      simp [Part.specificity, Specificity.add]

section Segments

variable {kindOf : String → Option Kind}

/-- The literal parts are what tokens are put together to without any texts for placeholders. -/
theorem flatten_segments_parts (seen : List String) (tokens : List Token) :
    (segments (parts kindOf seen tokens)).flatten = Expression.interleave kindOf tokens [] := by
  induction tokens generalizing seen with
  | nil => rfl
  | cons token tokens ih =>
    cases token with
    | literal text =>
      rw [Expression.interleave, ← ih seen]
      rfl
    | placeholder start name =>
      cases hname : kindOf name with
      | none =>
        rw [parts_unknown hname, Expression.interleave, hname, if_neg (by simp), ← ih seen]
        rfl
      | some kind =>
        rw [parts_known hname, Expression.interleave, hname, Option.isSome_some, if_pos rfl,
          List.tail_nil, ← ih (name :: seen)]
        rfl

/-- A mark of a known placeholder leaves nothing, any other mark what it is spelled as. -/
theorem interleave_cons_nil (m : Mark) (tokens : List Token) :
    Expression.interleave kindOf (Token.cons m tokens) [] =
      (if m.isKnown kindOf then [] else m.spelled) ++ Expression.interleave kindOf tokens [] := by
  cases hm : m.isKnown kindOf with
  | false => exact Expression.interleave_cons hm tokens
  | true =>
    cases m with
    | char c => cases hm
    | placeholder start name =>
      have hname : (kindOf name).isSome = true := hm
      rw [Token.cons, Expression.interleave, if_pos hname]
      rfl

theorem interleave_tokens_nil (pattern : String) :
    Expression.interleave kindOf (Expression.tokens pattern) [] =
      Expression.literalText kindOf pattern := by
  rw [Expression.tokens, Expression.literalText]
  induction Expression.marks 0 pattern.toList with
  | nil => rfl
  | cons m ms ih =>
    rw [List.foldr_cons, interleave_cons_nil, ih, List.filter_cons]
    cases m.isKnown kindOf <;> rfl

/-- The literal parts of a pattern are its collapsed text without the known placeholders. -/
theorem flatten_segments_partsOf (kindOf : String → Option Kind) (pattern : String) :
    (segments (partsOf kindOf pattern)).flatten = Expression.literalText kindOf pattern :=
  (flatten_segments_parts [] _).trans (interleave_tokens_nil pattern)

end Segments

/-! ## What literal parts match -/

/-- Whether the regular expression of a part by itself matches a text. -/
def Part.Matches (p : Part) (text : String) : Prop :=
  ∃ r, Regex.read? (partsSource [p]) = some r ∧ (r.captures? text).isSome = true

/-- The routes of a literal part by itself are those over a text that is its own. -/
theorem exists_read?_literal (s : List Char) :
    ∃ r, Regex.read? (partsSource [.literal s]) = some r ∧
      ∀ (text : Array Char) (i j : Nat) (marks : Regex.Marks), Regex.Path text r i j marks ↔
        i = 0 ∧ j = text.size ∧ Regex.Spelled text s i j ∧ marks = [] := by
  have hreadable : ∀ p ∈ [Part.literal s], p.Readable := by
    intro p hp
    rw [List.mem_singleton.1 hp]
    trivial
  have hsome : (Regex.read? (partsSource [Part.literal s])).isSome = true := by
    rw [read?_partsSource_isSome_iff hreadable]
    exact ⟨List.nodup_nil, fun place hplace => by cases hplace⟩
  obtain ⟨r, hr⟩ := Option.isSome_iff_exists.1 hsome
  -- between the anchors are the characters of the text, each by itself
  obtain ⟨rs, hformed, -, hseqs⟩ := formed_of_read? hr hreadable
  obtain rfl : rs = s.map fun c => .text [c] := by
    cases hformed with
    | literal hrest =>
      cases hrest
      rw [List.append_nil]
  refine ⟨r, hr, fun text i j marks => ?_⟩
  rw [hseqs, path_anchored_iff, Regex.chain_chars]
  rfl

/-- A literal part matches its text and nothing else. -/
theorem Part.matches_literal_iff (s : List Char) (text : String) :
    (Part.literal s).Matches text ↔ text = .ofList s := by
  obtain ⟨r, hr, hpath⟩ := exists_read?_literal s
  constructor
  · rintro ⟨found, hfound, hcaptures⟩
    obtain rfl := Option.some.inj (hr.symm.trans hfound)
    obtain ⟨caps, hcaps⟩ := Option.isSome_iff_exists.1 hcaptures
    obtain ⟨htext, i, -, j, hroute⟩ := Regex.path_of_captures? hcaps
    rw [htext] at hroute
    obtain ⟨rfl, rfl, hspelled, -⟩ := (hpath _ _ _ _).1 hroute
    have hwhole : text.toList = s := by simpa using hspelled.extract
    rw [← hwhole, String.ofList_toList]
  · rintro rfl
    have hspelled : Regex.Spelled (String.ofList s).toList.toArray s 0 (0 + s.length) :=
      @Regex.spelled_of_toList _ [] s [] (by simp)
    have hroute := (hpath _ _ _ _).2 ⟨rfl, by simp, hspelled, rfl⟩
    exact ⟨r, hr, Regex.captures?_isSome (Nat.zero_le _) hroute⟩

/-- Whether a number counts the characters that literal parts match: each matches its own text, and
    together these texts are a text of so many characters. -/
structure CountsLiterals (ps : List Part) (whole : List Char) (n : Nat) : Prop where
  length : whole.length = n
  flatten : (segments ps).flatten = whole
  matched : ∀ s ∈ segments ps, ∀ text, (Part.literal s).Matches text ↔ text = .ofList s

theorem countsLiterals_rankOf (kindOf : String → Option Kind) (pattern : String) :
    CountsLiterals (partsOf kindOf pattern) (Expression.literalText kindOf pattern)
      (rankOf kindOf [] (Expression.tokens pattern)).literals where
  length := by
    rw [← flatten_segments_partsOf, length_flatten_segments]
    rfl
  flatten := flatten_segments_partsOf kindOf pattern
  matched s _ text := Part.matches_literal_iff s text

/-! ## The two ranks of a pattern -/

namespace Registry

variable {registry : Registry} {pattern : String} {e : Expression}

/-- Whatever a registry has been asked before, an expression has one placeholder more than its
    pattern alone for each placeholder of one's own, and fewer literal characters by its name in
    braces. So the ranks are the same where there are none. Either counts the characters that the
    literal parts match, which are those of the collapsed pattern without the known placeholders. -/
theorem specificity_compile {requests : List (Nat × Request)}
    (hmem : registry ∈ (calls [empty] requests).2)
    (he : (compile pattern registry).value.1 = some e) :
    e.specificity.placeholders =
        (Specificity.ofPattern pattern).placeholders + (registry.customsIn pattern).length ∧
      e.specificity.literals + ((registry.customsIn pattern).map fun name => name.length + 2).sum =
        (Specificity.ofPattern pattern).literals ∧
      (registry.customsIn pattern = [] → e.specificity = .ofPattern pattern) ∧
      CountsLiterals e.parts (Expression.literalText registry.kind? pattern)
        e.specificity.literals ∧
      CountsLiterals (partsOf Kind.builtin? pattern)
        (Expression.literalText Kind.builtin? pattern)
        (Specificity.ofPattern pattern).literals := by
  rw [compile_value_fst] at he
  have hnamed : registry.WellNamed :=
    wellNamed_calls (List.forall_mem_singleton.2 wellNamed_empty) requests registry hmem
  have hrank := specificity_of_expression? he
  have halone : Specificity.ofPattern pattern =
      rankOf Kind.builtin? [] (Expression.tokens pattern) := (rankOf_builtin [] _).symm
  -- to the pattern alone the registry's own placeholders are text, braces included
  obtain ⟨hplaceholders, hliterals⟩ := hnamed.rankOf_kind? [] (Expression.tokens pattern)
  rw [← hrank] at hplaceholders hliterals
  refine ⟨hplaceholders, hliterals, ?_, ?_, ?_⟩
  · intro hnone
    have hcustoms : registry.customsAmong (Expression.tokens pattern) = [] := hnone
    rw [hcustoms] at hplaceholders hliterals
    exact Specificity.ext hliterals hplaceholders
  · rw [hrank, (Expression.pattern_of_ofPattern? he).2]
    exact countsLiterals_rankOf registry.kind? pattern
  · rw [halone]
    exact countsLiterals_rankOf Kind.builtin? pattern

/-- A pattern with an escaped and a doubled brace, a built-in kind, a placeholder of one's own twice
    and a name that nobody knows. -/
def mixedPattern : String :=
  "\\\x7b \x7b\x7ba\x7d\x7d \x7bint\x7d \x7bcolor\x7d-\x7bcolor\x7d \x7bx\x7d"

/-- After a registration the pattern is compiled, kept and compiled again. -/
theorem specificity_compile_mixed :
    ∃ (registry : Registry) (e : Expression),
      registry ∈ (calls [empty]
        [(0, .register colorPlaceholder), (0, .compile mixedPattern)]).2 ∧
      (compile mixedPattern registry).value.1 = some e ∧
      Specificity.ofPattern mixedPattern = { literals := 26, placeholders := 1 } ∧
      e.specificity = { literals := 12, placeholders := 3 } ∧
      CountsLiterals e.parts "\x7b \x7ba\x7d  - \x7bx\x7d".toList 12 := by
  have hregistered : (empty.serve (.register colorPlaceholder)).2.custom = [colorPlaceholder] := by
    have hnone : refusal? empty.custom colorPlaceholder = none := by decide +kernel
    rw [serve_custom, known, hnone]
    rfl
  let registry := ((empty.serve (.register colorPlaceholder)).2.serve (.compile mixedPattern)).2
  have hcustom : registry.custom = [colorPlaceholder] := by
    rw [serve_custom, hregistered]
    rfl
  have hkind : registry.kind? = kindAmong? [colorPlaceholder] := by rw [kind?, hcustom]
  have hmem : registry ∈ (calls [empty]
      [(0, .register colorPlaceholder), (0, .compile mixedPattern)]).2 :=
    List.mem_singleton_self _
  obtain ⟨e, he⟩ : ∃ e, (compile mixedPattern registry).value.1 = some e := by
    rw [compile_value_fst, expression?, hkind, ← Option.isSome_iff_exists]
    decide +kernel
  have hcustoms : registry.customsIn mixedPattern = ["color", "color"] := by
    have hfind : registry.placeholder? =
        fun name => [colorPlaceholder].find? (·.name = name) := by
      funext name
      rw [placeholder?, hcustom]
    rw [customsIn, customsAmong, hfind]
    decide +kernel
  have halone : Specificity.ofPattern mixedPattern = { literals := 26, placeholders := 1 } := by
    decide +kernel
  have htext : Expression.literalText registry.kind? mixedPattern =
      "\x7b \x7ba\x7d  - \x7bx\x7d".toList := by
    rw [hkind]
    decide +kernel
  -- twice the name of a colour in its braces makes fourteen characters
  obtain ⟨hplaceholders, hliterals, -, hcounts, -⟩ := specificity_compile hmem he
  rw [hcustoms, halone] at hplaceholders hliterals
  have hrank : e.specificity = { literals := 12, placeholders := 3 } :=
    Specificity.ext (Nat.add_right_cancel hliterals) hplaceholders
  rw [htext, hrank] at hcounts
  exact ⟨registry, e, hmem, he, halone, hrank, hcounts⟩

end Registry

end Gherkin
