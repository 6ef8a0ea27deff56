/-
  Gherkin.Outline.Template

  Texts with slots. A slot is a name between angle brackets; the name does not
  start with a blank and holds no closing bracket. A text is cut into segments
  once, from the left, and then filled, so what is filled in is never cut again.
-/
import Gherkin.Text.Blank

namespace Gherkin.Template

/-- A piece of a text: a character that stands for itself, or a slot. -/
inductive Segment where
  | char (c : Char)
  | slot (name : String)
  deriving DecidableEq, Repr

/-- Whether the characters can stand between angle brackets as the name of a slot. -/
def isSlotName (name : List Char) : Bool :=
  name.head?.any (!Text.isBlank ·) && !name.contains '>'

/-- Reads the name of a slot and the closing bracket after it. -/
def readSlot? (s : List Char) : Option (List Char × List Char) :=
  match s.dropWhile (· ≠ '>') with
  | [] => none
  | _ :: rest =>
    if isSlotName (s.takeWhile (· ≠ '>')) then some (s.takeWhile (· ≠ '>'), rest) else none

theorem readSlot?_eq_some {s name rest : List Char} (h : readSlot? s = some (name, rest)) :
    isSlotName name = true ∧ s = name ++ '>' :: rest := by
  have split := List.takeWhile_append_dropWhile (p := (· ≠ '>')) (l := s)
  have head := List.head?_dropWhile_not (· ≠ '>') s
  unfold readSlot? at h
  split at h
  case h_1 => cases h
  case h_2 c rest' tail =>
    split at h
    · simp only [Option.some.injEq, Prod.mk.injEq] at h
      obtain ⟨rfl, rfl⟩ := h
      rw [tail] at split head
      obtain rfl : c = '>' := by simpa using head
      exact ⟨by assumption, split.symm⟩
    · cases h

theorem length_readSlot? {s name rest : List Char} (h : readSlot? s = some (name, rest)) :
    rest.length < s.length := by
  rw [(readSlot?_eq_some h).2]
  simp
  omega

/-- The segments of a text. An opening bracket without a slot stands for itself. -/
def segments : List Char → List Segment
  | [] => []
  | '<' :: s =>
    match h : readSlot? s with
    | some (name, rest) =>
      have := length_readSlot? h
      .slot (.ofList name) :: segments rest
    | none => .char '<' :: segments s
  | c :: s => .char c :: segments s
termination_by s => s.length

namespace Segment

/-- The name of a slot. -/
def slot? : Segment → Option String
  | char _ => none
  | slot name => some name

/-- The segment as it is written. -/
def written : Segment → List Char
  | char c => [c]
  | slot name => '<' :: name.toList ++ ['>']

/-- The segment with its slot filled, if `value?` has a text for it. -/
def fill (value? : String → Option String) : Segment → List Char
  | char c => [c]
  | slot name =>
    match value? name with
    | some text => text.toList
    | none => written (slot name)

end Segment

/-- The names of the slots of a text, from left to right. -/
def slots (text : String) : List String := (segments text.toList).filterMap Segment.slot?

/-- The text with its slots filled. -/
def fill (value? : String → Option String) (text : String) : String :=
  .ofList ((segments text.toList).flatMap (Segment.fill value?))

/-- Cutting loses nothing. -/
theorem flatMap_written_segments (s : List Char) : (segments s).flatMap Segment.written = s := by
  fun_induction segments s with
  | case1 => rfl
  | case2 s name rest h _ ih => simp [Segment.written, ih, (readSlot?_eq_some h).2]
  | case3 s _ ih => simp [Segment.written, ih]
  | case4 c s _ ih => simp [Segment.written, ih]

example : slots "<a> < b> <<c d> <>" = ["a", "<c d"] := by decide +kernel

end Gherkin.Template
