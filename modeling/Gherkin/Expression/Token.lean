/-
  Gherkin.Expression.Token

  Expressions as tokens: literal text and `{name}` placeholders. A backslash
  takes the next character as it is, a doubled brace stands for one brace, and a
  brace that opens no placeholder stands for itself. Which names are known is
  not decided here.
-/
import Gherkin.Text.Blank

namespace Gherkin.Expression

/-! ## Names -/

/-- Letters, in ASCII, and the underscore. -/
def isNameStart (c : Char) : Bool := c.isAlpha || c == '_'

/-- Letters and digits, in ASCII, and the underscore. -/
def isNameChar (c : Char) : Bool := c.isAlphanum || c == '_'

/-- Whether the characters can stand between braces as the name of a placeholder. -/
def isName : List Char → Bool
  | [] => false
  | c :: s => isNameStart c && s.all isNameChar

/-- Reads a name and the closing brace after it. -/
def readName? (s : List Char) : Option (List Char × List Char) :=
  match s.dropWhile isNameChar with
  | '\x7d' :: rest =>
    if isName (s.takeWhile isNameChar) then some (s.takeWhile isNameChar, rest) else none
  | _ => none

theorem readName?_eq_some {s name rest : List Char} (h : readName? s = some (name, rest)) :
    isName name = true ∧ s = name ++ '\x7d' :: rest := by
  have split := List.takeWhile_append_dropWhile (p := isNameChar) (l := s)
  unfold readName? at h
  split at h
  case h_1 rest' tail =>
    split at h
    · simp only [Option.some.injEq, Prod.mk.injEq] at h
      obtain ⟨rfl, rfl⟩ := h
      exact ⟨by assumption, by rw [← tail]; exact split.symm⟩
    · cases h
  case h_2 => cases h

theorem length_readName? {s name rest : List Char} (h : readName? s = some (name, rest)) :
    rest.length < s.length := by
  rw [(readName?_eq_some h).2]
  simp
  omega

/-! ## Marks -/

/-- What a place of an expression stands for: a character, or a placeholder that starts so many
    bytes into the expression. -/
inductive Mark where
  | char (c : Char)
  | placeholder (start : Nat) (name : String)
  deriving DecidableEq, Repr

/-- The marks of an expression of which `start` bytes have been read. -/
def marks (start : Nat) : List Char → List Mark
  | [] => []
  | ['\\'] => [.char '\\']
  | '\\' :: c :: s => .char c :: marks (start + 1 + c.utf8Size) s
  | '\x7b' :: '\x7b' :: s => .char '\x7b' :: marks (start + 2) s
  | '\x7b' :: s =>
    match h : readName? s with
    | some (name, rest) =>
      have := length_readName? h
      .placeholder start (.ofList name) :: marks (start + name.length + 2) rest
    | none => .char '\x7b' :: marks (start + 1) s
  | '\x7d' :: '\x7d' :: s => .char '\x7d' :: marks (start + 2) s
  | c :: s => .char c :: marks (start + c.utf8Size) s
termination_by s => s.length

/-! ## Tokens -/

/-- A part of an expression. -/
inductive Token where
  | literal (text : List Char)
  /-- A placeholder and the byte at which it starts. -/
  | placeholder (start : Nat) (name : String)
  deriving DecidableEq, Repr

/-- Puts a mark in front of tokens; a character joins a literal that follows. -/
def Token.cons : Mark → List Token → List Token
  | .char c, .literal text :: tokens => .literal (c :: text) :: tokens
  | .char c, tokens => .literal [c] :: tokens
  | .placeholder start name, tokens => .placeholder start name :: tokens

/-- The tokens of an expression. -/
def tokens (pattern : String) : List Token := (marks 0 pattern.toList).foldr Token.cons []

example : tokens "a \x7bint\x7d é\x7b\x7bx\x7d\x7d \x7by" =
    [.literal "a ".toList, .placeholder 2 "int", .literal " é\x7bx\x7d \x7by".toList] := by
  decide +kernel

end Gherkin.Expression
