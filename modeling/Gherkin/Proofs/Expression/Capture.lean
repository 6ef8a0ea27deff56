/-
  Gherkin.Proofs.Expression.Capture

  How many values an expression takes from a text that it matches: as many as
  its pattern has placeholders of a known kind, whatever the text is.
-/
import Gherkin.Expression.Registry

namespace Gherkin

open Expression (Token)

/-! ## Known placeholders -/

/-- Whether a token is a placeholder of a known kind. -/
def Expression.Token.isKnown (kindOf : String → Option Kind) : Token → Bool
  | .literal _ => false
  | .placeholder _ name => (kindOf name).isSome

/-- The number of placeholders of a known kind in a pattern. -/
def Registry.placeholderCount (registry : Registry) (pattern : String) : Nat :=
  (Expression.tokens pattern).countP (Token.isKnown registry.kind?)

theorem Registry.containsPlaceholder_iff (registry : Registry) (pattern : String) :
    registry.containsPlaceholder pattern = true ↔ 0 < registry.placeholderCount pattern := by
  rw [placeholderCount, List.countP_pos_iff, containsPlaceholder, List.any_eq_true]
  exact Iff.rfl

/-- A known placeholder becomes a group, and nothing else does. -/
theorem length_filterMap_capture? (kindOf : String → Option Kind) (seen : List String)
    (tokens : List Token) :
    ((parts kindOf seen tokens).filterMap Part.capture?).length =
      tokens.countP (Token.isKnown kindOf) := by
  induction tokens generalizing seen with
  | nil => rfl
  | cons token tokens ih =>
    cases token with
    | literal text => simp [parts, List.filterMap_cons, Part.capture?, Token.isKnown, ih]
    | placeholder start name =>
      cases hkind : kindOf name with
      -- a name that is not known stands for itself
      | none => simp [parts, List.filterMap_cons, Part.capture?, Token.isKnown, hkind, ih]
      | some kind => simp [parts, Part.capture?, Token.isKnown, hkind, ih]

/-! ## Values -/

namespace Expression

/-- Each text that was taken gives one value. -/
theorem length_convertAll {taken : List (Kind × String)} {values : List Value}
    (h : convertAll taken = .ok values) : values.length = taken.length := by
  induction taken generalizing values with
  | nil =>
    obtain rfl := Except.ok.inj h
    rfl
  | cons pair taken ih =>
    rw [convertAll] at h
    split at h
    next => cases h
    next value _ =>
      split at h
      next => cases h
      next rest hrest =>
        obtain rfl := Except.ok.inj h
        rw [List.length_cons, List.length_cons, ih hrest]

/-- A text that matches gives one value for each placeholder of the expression. -/
theorem length_captures {e : Expression} {text : String} {values : List Value}
    (h : e.captures text = .ok values) : values.length = e.placeholders.length := by
  unfold captures at h
  split at h
  next =>
    split at h
    next => cases h
    next raws hraws =>
      split at h
      next => cases h
      next converted hconverted =>
        obtain rfl := Except.ok.inj h
        obtain ⟨caps, -, rfl⟩ := Option.map_eq_some_iff.1 hraws
        rw [length_convertAll hconverted]
        simp [kinds, groups]
  next hnone =>
    have hempty : e.placeholders = [] := by simpa [hasPlaceholders] using hnone
    split at h
    next =>
      obtain rfl := Except.ok.inj h
      rw [hempty]
      rfl
    next => cases h

end Expression

namespace Registry

variable {registry : Registry} {pattern text : String} {e : Expression}

theorem length_placeholders_of_expression? (h : registry.expression? pattern = some e) :
    e.placeholders.length = registry.placeholderCount pattern := by
  rw [Expression.placeholders, (Expression.pattern_of_ofPattern? h).2]
  exact length_filterMap_capture? _ _ _

/-- The values that the expression for a pattern takes from a text are as many as the known
    placeholders of the pattern. -/
theorem length_captures_of_expression? (h : registry.expression? pattern = some e)
    {values : List Value} (hvalues : e.captures text = .ok values) :
    values.length = registry.placeholderCount pattern := by
  rw [Expression.length_captures hvalues, length_placeholders_of_expression? h]

/-- A pattern without known placeholders is matched by its own text only, which has no values. -/
theorem captures_of_expression? (h : registry.expression? pattern = some e)
    (hnone : registry.containsPlaceholder pattern = false) : e.captures pattern = .ok [] := by
  have hcount : ¬ 0 < registry.placeholderCount pattern := by
    rw [← containsPlaceholder_iff, hnone]
    exact Bool.false_ne_true
  have hempty : e.placeholders = [] := by
    rw [← List.length_eq_zero_iff, length_placeholders_of_expression? h]
    omega
  have hpattern : e.pattern = pattern := (Expression.pattern_of_ofPattern? h).1
  simp [Expression.captures, Expression.hasPlaceholders, hempty, hpattern]

end Registry

end Gherkin
