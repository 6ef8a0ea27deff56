/-
  Gherkin.Proofs.Expression.Acceptance

  Which texts the built-in kinds accept. A kind accepts a text if its fragment
  between anchors matches it. For the kinds whose conversion can fail the form of
  the texts is told: what a fragment stands for is read off from it, part by part.
-/
import Gherkin.Proofs.Expression.Reassembly
import Gherkin.Proofs.Number.Decimal
import Gherkin.Proofs.Regex.Language

namespace Gherkin

open Number (AreDigits IsSign IsMantissa IsExponent IsNumeral)
open Regex (Denotes denotes_rep_one_iff denotes_optional_iff)

namespace BuiltinKind

variable {kind : BuiltinKind} {raw : String} {r : Regex}

/-! ## Acceptance -/

/-- Whether the fragment of a kind, between anchors, matches a text. -/
def Accepts (kind : BuiltinKind) (raw : String) : Prop :=
  ∃ r, Regex.read? s!"^(?:{kind.fragment})$" = some r ∧ (r.captures? raw).isSome = true

/-- Between anchors a fragment is read as it is read alone. -/
theorem exists_read?_anchored (kind : BuiltinKind) :
    ∃ r, Regex.read? kind.fragment = some r ∧
      Regex.read? s!"^(?:{kind.fragment})$" =
        some (Regex.seqs (.look .textStart :: ([r] ++ [.look .textEnd]))) := by
  obtain ⟨halone, hanchored⟩ := kind.fragment_readable
  obtain ⟨r, hr⟩ := Option.isSome_iff_exists.1 halone
  obtain ⟨anchored, hread⟩ := Option.isSome_iff_exists.1 hanchored
  exact ⟨r, hr, by rw [hread, Regex.eq_of_read?_anchored hr hread]⟩

theorem accepts_iff_matches : kind.Accepts raw ↔ (Kind.builtin kind).Matches raw := by
  have hsize : raw.toList.toArray.size = raw.length := by
    rw [List.size_toArray, String.length_toList]
  constructor
  · rintro ⟨anchored, hread, hsome⟩
    obtain ⟨caps, hcaps⟩ := Option.isSome_iff_exists.1 hsome
    obtain ⟨htext, i, -, j, hpath⟩ := Regex.path_of_captures? hcaps
    obtain ⟨r, hr, hanchored⟩ := kind.exists_read?_anchored
    obtain rfl := Option.some.inj (hanchored.symm.trans hread)
    -- between the anchors nothing is left to the fragment but the whole text
    obtain ⟨rfl, rfl, hroute⟩ := path_anchored_iff.1 hpath
    rw [Regex.chain_cons, Regex.chain_nil, Regex.Route.andThen_stay, htext, hsize] at hroute
    exact ⟨r, _, hr, hroute⟩
  · rintro ⟨r, marks, hr, hpath⟩
    obtain ⟨r', hr', hread⟩ := kind.exists_read?_anchored
    obtain rfl : r = r' := Option.some.inj (hr.symm.trans hr')
    refine ⟨_, hread, ?_⟩
    have hanchored : Regex.Path raw.toList.toArray
        (Regex.seqs (.look .textStart :: ([r] ++ [.look .textEnd]))) 0 raw.length marks := by
      rw [path_anchored_iff, Regex.chain_cons, Regex.chain_nil, Regex.Route.andThen_stay]
      exact ⟨rfl, hsize.symm, hpath⟩
    exact Regex.captures?_isSome (Nat.zero_le _) hanchored

/-- A fragment without conditions on places accepts the texts that it stands for. -/
theorem accepts_iff_denotes (hr : Regex.read? kind.fragment = some r)
    (hplaceless : r.placeless = true) :
    kind.Accepts raw ↔ Denotes r raw.toList := by
  rw [accepts_iff_matches]
  exact @Kind.matches_iff_denotes (.builtin kind) r hr hplaceless raw

/-! ## Parts of fragments -/

/-- Digits of any script. -/
def digits (least : Nat) (most : Option Nat) : Regex :=
  .rep least most true (.one { ranges := Text.digitRanges })

/-- A plus or a minus. -/
def plusOrMinus : Regex := .one { ranges := [(0x2b, 0x2b), (0x2d, 0x2d)] }

/-- Once or not at all. -/
def optional (r : Regex) : Regex := .rep 0 (some 1) true r

/-- What the fragment of a mantissa is read as. -/
def mantissa : Regex :=
  .alt (.seq (digits 1 none) (optional (.seq (.text ['.']) (digits 1 none))))
    (.seq (.text ['.']) (digits 1 none))

/-- What the fragment of an exponent is read as. -/
def exponent : Regex :=
  optional (.seq (.one { ranges := [(0x45, 0x45), (0x65, 0x65)] })
    (.seq (optional plusOrMinus) (digits 1 none)))

/-- What the fragment of seconds is read as. -/
def seconds : Regex :=
  .seq (.text [':']) (.seq (digits 2 (some 2)) (optional (.seq (.text ['.']) (digits 1 none))))

/-- What the fragment of a zone is read as. -/
def zone : Regex :=
  .alt (.text ['Z'])
    (.seq plusOrMinus
      (.seq (digits 2 (some 2)) (.seq (optional (.text [':'])) (digits 2 (some 2)))))

/-- What the fragment of a clock is read as. -/
def clock : Regex :=
  .seq (.one { ranges := [(0x20, 0x20), (0x54, 0x54)] })
    (.seq (digits 2 (some 2))
      (.seq (.text [':'])
        (.seq (digits 2 (some 2)) (.seq (optional seconds) (optional zone)))))

/-- What the fragment of a date with hyphens is read as. -/
def hyphens : Regex :=
  .seq (digits 4 (some 4))
    (.seq (.text ['-'])
      (.seq (digits 2 (some 2)) (.seq (.text ['-']) (.seq (digits 2 (some 2)) (optional clock)))))

/-- What the fragment of three numbers with slashes is read as. -/
def slashes (first second third : Regex) : Regex :=
  .seq first (.seq (.text ['/']) (.seq second (.seq (.text ['/']) third)))

/-- What the fragment of a kind is read as whose conversion looks at the text. -/
def expression? : BuiltinKind → Option Regex
  | int => some (.seq (optional plusOrMinus) (digits 1 none))
  | number | float => some (.seq (optional plusOrMinus) (.seq mantissa exponent))
  | char => some (.one { ranges := Text.Ranges.complement Text.blankRanges })
  | boolean => some (.alt (.text "true".toList) (.text "false".toList))
  | date => some (.alt hyphens
      (.alt (slashes (digits 1 (some 2)) (digits 1 (some 2)) (digits 4 (some 4)))
        (slashes (digits 4 (some 4)) (digits 1 (some 2)) (digits 1 (some 2)))))
  | string | word | email | list => none

/-- The expressions are those that the characters of the fragments are read as. -/
theorem exists_chars_expression (kind : BuiltinKind) :
    ∃ chars, kind.fragment = .ofList chars ∧ ∀ r ∈ kind.expression?,
      (Regex.lastState? (chars.length + 1) {} chars).map (·.content.whole.regex) = some r := by
  cases kind with
  | date => exact ⟨_, ofList_pieces _ _ _ _ _, by decide +kernel⟩
  | _ => exact ⟨_, rfl, by decide +kernel⟩

theorem read?_of_expression? (h : kind.expression? = some r) :
    Regex.read? kind.fragment = some r ∧ r.placeless = true := by
  obtain ⟨last, hlast, -, hdepth, hplaceless⟩ := kind.exists_lastState
  have hregex : last.content.whole.regex = r := by
    obtain ⟨chars, hchars, hexpression⟩ := kind.exists_chars_expression
    have hr := hexpression r h
    rw [hchars, String.length_ofList, String.toList_ofList] at hlast
    rwa [hlast, Option.map_some, Option.some_inj] at hr
  refine ⟨Regex.read?_eq_some_iff.2 ⟨last, hlast, by omega, hregex⟩, ?_⟩
  have hword : kind ≠ .word := by
    rintro rfl
    cases h
  exact hregex ▸ hplaceless hword

/-- Such a kind accepts the texts that its expression stands for. -/
theorem accepts_iff_denotes_expression (h : kind.expression? = some r) :
    kind.Accepts raw ↔ Denotes r raw.toList :=
  accepts_iff_denotes (read?_of_expression? h).1 (read?_of_expression? h).2

/-! ### Texts of parts -/

theorem denotes_digits_iff {least : Nat} {most : Option Nat} {s : List Char} :
    Denotes (digits least most) s ↔
      (∀ c ∈ s, Text.isDigit c = true) ∧ least ≤ s.length ∧
        ∀ bound ∈ most, s.length ≤ max least bound :=
  denotes_rep_one_iff

theorem denotes_digits_one_iff {s : List Char} :
    Denotes (digits 1 none) s ↔ AreDigits Text.isDigit s := by
  rw [denotes_digits_iff, AreDigits, ← List.length_pos_iff]
  simp [and_comm, Nat.succ_le_iff]

/-- A class of two characters. -/
theorem contains_two_iff (first second c : Char) :
    (⟨[(first.toNat, first.toNat), (second.toNat, second.toNat)], true⟩ : CharClass).contains c =
      true ↔ c = first ∨ c = second := by
  simp only [CharClass.contains, Text.Ranges.contains_iff, List.mem_cons, List.not_mem_nil,
    or_false, exists_eq_or_imp, exists_eq_left, ← Char.toNat_inj]
  omega

theorem denotes_plusOrMinus_iff {s : List Char} :
    Denotes plusOrMinus s ↔ s = ['+'] ∨ s = ['-'] := by
  have hsign (c : Char) : (⟨[(0x2b, 0x2b), (0x2d, 0x2d)], true⟩ : CharClass).contains c = true ↔
      c = '+' ∨ c = '-' :=
    contains_two_iff '+' '-' c
  rw [plusOrMinus, Denotes]
  simp only [hsign]
  constructor
  · rintro ⟨c, rfl, rfl | rfl⟩
    · exact .inl rfl
    · exact .inr rfl
  · rintro (rfl | rfl)
    · exact ⟨'+', rfl, .inl rfl⟩
    · exact ⟨'-', rfl, .inr rfl⟩

theorem denotes_optional_sign_iff {s : List Char} :
    Denotes (optional plusOrMinus) s ↔ ∃ negative, IsSign s negative := by
  rw [optional, denotes_optional_iff, denotes_plusOrMinus_iff]
  constructor
  · rintro (rfl | rfl | rfl)
    · exact ⟨_, .nothing⟩
    · exact ⟨_, .plus⟩
    · exact ⟨_, .minus⟩
  · rintro ⟨negative, hsign⟩
    cases hsign with
    | nothing => exact .inl rfl
    | plus => exact .inr (.inl rfl)
    | minus => exact .inr (.inr rfl)

/-! ## Whole numbers -/

/-- Whole numbers are a sign or none and digits of any script. -/
theorem accepts_int_iff :
    int.Accepts raw ↔ ∃ sign negative digits, raw.toList = sign ++ digits ∧ IsSign sign negative ∧
      AreDigits Text.isDigit digits := by
  rw [accepts_iff_denotes_expression rfl, Denotes]
  simp only [denotes_optional_sign_iff, denotes_digits_one_iff]
  constructor
  · rintro ⟨sign, digits, htext, ⟨negative, hsign⟩, hdigits⟩
    exact ⟨sign, negative, digits, htext, hsign, hdigits⟩
  · rintro ⟨sign, negative, digits, htext, hsign, hdigits⟩
    exact ⟨sign, digits, htext, ⟨negative, hsign⟩, hdigits⟩

/-! ## Decimal numbers -/

theorem denotes_fraction_iff {s : List Char} :
    Denotes (.seq (.text ['.']) (digits 1 none)) s ↔
      ∃ fraction, s = '.' :: fraction ∧ AreDigits Text.isDigit fraction := by
  simp only [Denotes, denotes_digits_one_iff]
  constructor
  · rintro ⟨_, fraction, rfl, rfl, hfraction⟩
    exact ⟨fraction, rfl, hfraction⟩
  · rintro ⟨fraction, rfl, hfraction⟩
    exact ⟨_, fraction, rfl, rfl, hfraction⟩

theorem denotes_mantissa_iff {s : List Char} : Denotes mantissa s ↔ IsMantissa Text.isDigit s := by
  rw [mantissa, Denotes, Denotes, denotes_fraction_iff]
  simp only [optional, denotes_optional_iff, denotes_fraction_iff, denotes_digits_one_iff]
  constructor
  · rintro (⟨whole, _, rfl, hwhole, rfl | ⟨fraction, rfl, hfraction⟩⟩ | ⟨fraction, rfl, hfraction⟩)
    · rw [List.append_nil]
      exact .inl hwhole
    · exact .inr ⟨whole, fraction, rfl, .inr hwhole, hfraction⟩
    · exact .inr ⟨[], fraction, rfl, .inl rfl, hfraction⟩
  · rintro (hdigits | ⟨whole, fraction, rfl, rfl | hwhole, hfraction⟩)
    · exact .inl ⟨s, [], (List.append_nil s).symm, hdigits, .inl rfl⟩
    · exact .inr ⟨fraction, rfl, hfraction⟩
    · exact .inl ⟨whole, _, rfl, hwhole, .inr ⟨fraction, rfl, hfraction⟩⟩

theorem denotes_exponent_iff {s : List Char} : Denotes exponent s ↔ IsExponent Text.isDigit s := by
  have hmark (c : Char) : (⟨[(0x45, 0x45), (0x65, 0x65)], true⟩ : CharClass).contains c = true ↔
      c = 'e' ∨ c = 'E' :=
    (contains_two_iff 'E' 'e' c).trans or_comm
  rw [exponent, optional, denotes_optional_iff]
  simp only [Denotes, hmark, denotes_optional_sign_iff, denotes_digits_one_iff]
  refine or_congr_right ⟨?_, ?_⟩
  · rintro ⟨_, _, rfl, ⟨mark, rfl, hmark⟩, sign, digits, rfl, ⟨negative, hsign⟩, hdigits⟩
    exact ⟨mark, sign, negative, digits, rfl, hmark, hsign, hdigits⟩
  · rintro ⟨mark, sign, negative, digits, rfl, hmark, hsign, hdigits⟩
    exact ⟨[mark], _, rfl, ⟨mark, rfl, hmark⟩, sign, digits, rfl, ⟨negative, hsign⟩, hdigits⟩

/-- Decimal numbers are numerals in digits of any script. -/
theorem accepts_number_iff (h : kind = number ∨ kind = float) :
    kind.Accepts raw ↔ IsNumeral Text.isDigit raw.toList := by
  have hexpression : kind.expression? =
      some (.seq (optional plusOrMinus) (.seq mantissa exponent)) := by
    rcases h with rfl | rfl <;> rfl
  rw [accepts_iff_denotes_expression hexpression]
  simp only [Denotes, denotes_optional_sign_iff, denotes_mantissa_iff, denotes_exponent_iff]
  constructor
  · rintro ⟨sign, _, htext, ⟨negative, hsign⟩, m, e, rfl, hm, he⟩
    exact ⟨sign, negative, m, e, htext, hsign, hm, he⟩
  · rintro ⟨sign, negative, m, e, htext, hsign, hm, he⟩
    exact ⟨sign, _, htext, ⟨negative, hsign⟩, m, e, rfl, hm, he⟩

/-! ## Characters and truth values -/

theorem ne_nil_of_accepts_char (h : char.Accepts raw) : raw.toList ≠ [] := by
  rw [accepts_iff_denotes_expression rfl] at h
  obtain ⟨d, hd, -⟩ := h
  rw [hd]
  exact List.cons_ne_nil _ _

theorem accepts_boolean_iff : boolean.Accepts raw ↔ raw = "true" ∨ raw = "false" := by
  rw [accepts_iff_denotes_expression rfl, Denotes, Denotes, Denotes]
  simp only [String.toList_inj]

end BuiltinKind

end Gherkin
