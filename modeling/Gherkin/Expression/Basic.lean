/-
  Gherkin.Expression.Basic

  Expressions: patterns whose placeholders are resolved to kinds. The parts of
  an expression make up one regular expression, anchored at both ends, with a
  group for each placeholder; a group is named after its placeholder and the
  number of placeholders of that name before it.
-/
import Gherkin.Expression.Fault
import Gherkin.Expression.Specificity
import Gherkin.Expression.Token
import Gherkin.Regex.Escape
import Gherkin.Regex.Match
import Gherkin.Regex.Syntax

namespace Gherkin

/-! ## Parts -/

/-- A part of an expression: text that stands for itself, or a placeholder with its group. -/
inductive Part where
  | literal (text : List Char)
  | capture (kind : Kind) (group : String)

namespace Part

/-- The kind and the group of a placeholder. -/
def capture? : Part → Option (Kind × String)
  | literal _ => none
  | capture kind group => some (kind, group)

/-- The notation of a part in the regular expression. -/
def source : Part → String
  | literal text => Regex.escape (.ofList text)
  | capture kind group => s!"(?P<{group}>(?:{kind.fragment}))"

/-- What a part adds to the rank of its expression. -/
def specificity : Part → Specificity
  | literal text => { literals := text.length }
  | capture .. => { placeholders := 1 }

end Part

/-- The parts of an expression. A name that `kindOf` does not know stands for itself, braces
    included; `seen` are the known names before. -/
def parts (kindOf : String → Option Kind) (seen : List String) :
    List Expression.Token → List Part
  | [] => []
  | .literal text :: tokens => .literal text :: parts kindOf seen tokens
  | .placeholder _ name :: tokens =>
    match kindOf name with
    | some kind => .capture kind s!"{name}{seen.count name}" :: parts kindOf (name :: seen) tokens
    | none => .literal ('\x7b' :: name.toList ++ ['\x7d']) :: parts kindOf seen tokens

/-- The parts of a pattern. -/
def partsOf (kindOf : String → Option Kind) (pattern : String) : List Part :=
  parts kindOf [] (Expression.tokens pattern)

/-- The regular expression made up of parts. -/
def partsSource (ps : List Part) : String := "^" ++ String.join (ps.map Part.source) ++ "$"

/-! ## Expressions -/

/-- A pattern made ready for matching. -/
structure Expression where
  pattern : String
  parts : List Part
  regex : Regex

namespace Expression

/-- The expression for a pattern; none if its regular expression cannot be read. -/
def ofPattern? (kindOf : String → Option Kind) (pattern : String) : Option Expression :=
  let parts := partsOf kindOf pattern
  (Regex.read? (partsSource parts)).map fun regex => { pattern, parts, regex }

/-- The notation of the regular expression. -/
def source (e : Expression) : String := partsSource e.parts

/-- The placeholders with their groups, from left to right. -/
def placeholders (e : Expression) : List (Kind × String) := e.parts.filterMap Part.capture?

/-- The kinds of the placeholders, from left to right. -/
def kinds (e : Expression) : List Kind := e.placeholders.map (·.1)

/-- The groups of the placeholders, from left to right. -/
def groups (e : Expression) : List String := e.placeholders.map (·.2)

/-- Whether there is a placeholder. -/
def hasPlaceholders (e : Expression) : Bool := !e.placeholders.isEmpty

/-- The rank of the expression. -/
def specificity (e : Expression) : Specificity := .sum (e.parts.map Part.specificity)

/-- The values of the texts that placeholders took, in order; the first fault counts. -/
def convertAll : List (Kind × String) → Except ConversionFault (List Value)
  | [] => .ok []
  | (kind, raw) :: rest =>
    match kind.convert raw with
    | .error fault => .error fault
    | .ok value =>
      match convertAll rest with
      | .error fault => .error fault
      | .ok values => .ok (value :: values)

/-- Matches a text and gives the values of the placeholders. An expression without placeholders
    matches the text that its pattern is, whatever is escaped in it. -/
def captures (e : Expression) (text : String) : Except Miss (List Value) :=
  if e.hasPlaceholders then
    match e.regex.groups? e.groups text with
    | none => .error { pattern := e.pattern, text }
    | some raws =>
      match convertAll (e.kinds.zip raws) with
      | .error fault => .error { pattern := e.pattern, text, reason := some (.conversion fault) }
      | .ok values => .ok values
  else if e.pattern = text then .ok []
  else .error { pattern := e.pattern, text }

/-- Whether a text matches. -/
def isMatch (e : Expression) (text : String) : Bool := (e.captures text).toBool

theorem pattern_of_ofPattern? {kindOf : String → Option Kind} {pattern : String} {e : Expression}
    (h : ofPattern? kindOf pattern = some e) :
    e.pattern = pattern ∧ e.parts = partsOf kindOf pattern := by
  obtain ⟨regex, _, rfl⟩ := Option.map_eq_some_iff.1 h
  exact ⟨rfl, rfl⟩

end Expression

/-! ## With built-in kinds only -/

/-- The regular expression of a pattern that knows the built-in kinds only. -/
def builtinSource (pattern : String) : String := partsSource (partsOf Kind.builtin? pattern)

/-- What a token adds to the rank of a pattern that knows the built-in kinds only. Any other name
    counts as it is written, braces included. -/
def Expression.Token.specificity : Expression.Token → Specificity
  | .literal text => { literals := text.length }
  | .placeholder _ name =>
    if (BuiltinKind.ofName? name).isSome then { placeholders := 1 }
    else { literals := name.length + 2 }

/-- The rank of a pattern that knows the built-in kinds only, told from its tokens. -/
def Specificity.ofPattern (pattern : String) : Specificity :=
  .sum ((Expression.tokens pattern).map Expression.Token.specificity)

end Gherkin
