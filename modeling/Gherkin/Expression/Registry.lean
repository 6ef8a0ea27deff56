/-
  Gherkin.Expression.Registry

  Registries: the placeholders known besides the built-in kinds, and the
  expressions made so far. An expression is made once and then kept, until a new
  placeholder is registered. The registry carries the proof that what it keeps is
  what would be made afresh.
-/
import Gherkin.Expression.Basic
import Gherkin.Notice

namespace Gherkin

/-- The kind with a name among the built-in ones and `custom`. -/
def kindAmong? (custom : List Placeholder) (name : String) : Option Kind :=
  (Kind.builtin? name).or ((custom.find? (·.name = name)).map .custom)

/-- The known placeholders and the expressions made with them. -/
structure Registry where
  /-- The placeholders in order of registration. -/
  custom : List Placeholder := []
  kept : List (String × Expression) := []
  kept_sound : ∀ entry ∈ kept, Expression.ofPattern? (kindAmong? custom) entry.1 = some entry.2 :=
    by simp

/-- Work that makes expressions with a registry and may raise notices. -/
abbrev Compiling := StateT Registry Noted

namespace Registry

/-- The registry that knows the built-in kinds only. -/
def empty : Registry := {}

/-- A registry with the same placeholders that keeps no expression yet. -/
def copy (registry : Registry) : Registry := { custom := registry.custom }

/-- The names of the placeholders. -/
def names (registry : Registry) : List String := registry.custom.map (·.name)

/-- The placeholder with a name. -/
def placeholder? (registry : Registry) (name : String) : Option Placeholder :=
  registry.custom.find? (·.name = name)

/-- The kind with a name. -/
def kind? (registry : Registry) : String → Option Kind := kindAmong? registry.custom

/-- The expression for a pattern, made afresh. -/
def expression? (registry : Registry) (pattern : String) : Option Expression :=
  Expression.ofPattern? registry.kind? pattern

/-- Whether a pattern has a placeholder of a known kind. -/
def containsPlaceholder (registry : Registry) (pattern : String) : Bool :=
  (Expression.tokens pattern).any fun
    | .literal _ => false
    | .placeholder _ name => (registry.kind? name).isSome

/-! ## Registration -/

/-- Names for placeholders. The last character is no digit, so that the number of a group cannot
    run into the name. -/
def isPlaceholderName (name : String) : Bool :=
  Expression.isName name.toList && !name.toList.getLast?.any Char.isDigit

/-- Adds a placeholder; what was made before is no longer kept. -/
def register (registry : Registry) (placeholder : Placeholder) :
    Noted (Except ExpressionFault Registry) :=
  let name := placeholder.name
  if (BuiltinKind.ofName? name).isSome then pure (.error (.reservedName name))
  else if (registry.placeholder? name).isSome then pure (.error (.duplicateName name))
  else if !isPlaceholderName name then pure (.error (.invalidName name))
  else if (Regex.read? s!"^(?:{placeholder.fragment})$").isNone then
    pure (.error (.invalidFragment name))
  else do
    Noted.say (.placeholderRegistered name)
    return .ok { custom := registry.custom ++ [placeholder] }

/-! ## Expressions -/

/-- Keeps an expression. -/
def keep (registry : Registry) (pattern : String) (e : Expression)
    (h : registry.expression? pattern = some e) : Registry :=
  { registry with
    kept := (pattern, e) :: registry.kept
    kept_sound := by
      intro entry mem
      rcases List.mem_cons.1 mem with rfl | mem
      · exact h
      · exact registry.kept_sound entry mem }

/-- The expression for a pattern: the one that is kept, or else a new one. -/
def compile (pattern : String) : Compiling (Option Expression) := fun registry =>
  match registry.kept.lookup pattern with
  | some e => pure (some e, registry)
  | none =>
    match h : registry.expression? pattern with
    | none => pure (none, registry)
    | some e => do
      Noted.say (.expressionCompiled pattern e.source)
      return (some e, registry.keep pattern e h)

theorem expression?_of_lookup {registry : Registry} {pattern : String} {e : Expression}
    (h : registry.kept.lookup pattern = some e) : registry.expression? pattern = some e := by
  obtain ⟨before, after, split, _⟩ := List.lookup_eq_some_iff.1 h
  exact registry.kept_sound (pattern, e) (by simp [split])

/-- What is kept cannot be told from what is made afresh. -/
theorem compile_value_fst (registry : Registry) (pattern : String) :
    (compile pattern registry).value.1 = registry.expression? pattern := by
  unfold compile
  split
  · next h => exact (expression?_of_lookup h).symm
  · split <;> simp [*]

/-- Making expressions registers nothing. -/
theorem compile_value_snd_custom (registry : Registry) (pattern : String) :
    (compile pattern registry).value.2.custom = registry.custom := by
  unfold compile
  split
  · rfl
  · split <;> simp [keep]

/-- Matches a text against a pattern. -/
def matchText (pattern text : String) : Compiling (Except ExpressionFault (List Value)) := do
  match ← compile pattern with
  | none => return .error .unreadable
  | some e =>
    match e.captures text with
    | .error miss => return .error (.mismatch miss)
    | .ok values => return .ok values

/-- Matches a text against a pattern; whatever goes wrong is a miss. -/
def tryText (pattern text : String) : Compiling (Except Miss (List Value)) := do
  match ← compile pattern with
  | none => return .error { pattern, text, reason := some .unreadable }
  | some e => return e.captures text

/-! ## Description -/

/-- A registry in one line. -/
def description (registry : Registry) : String :=
  let items := registry.custom.map fun p =>
    s!"CustomPlaceholder \x7b name: {Text.quote p.name}, regex: {Text.quote p.fragment}, .. \x7d"
  "ExpressionRegistry \x7b custom: [" ++ ", ".intercalate items ++ "], .. \x7d"

end Registry

end Gherkin
