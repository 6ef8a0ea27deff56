/-
  Gherkin.Proofs.Expression.Builtin

  The fragments of the kinds that need no registration. Each of them can be read
  by itself and between anchors, opens no groups by name, is not nested deep and,
  but for the one of words, looks at nothing around it. All of this is seen from
  their characters.
-/
import Gherkin.Expression.Kind
import Gherkin.Proofs.Regex.Fragment
import Gherkin.Proofs.Regex.Route

namespace Gherkin

open Regex (lastState? depthLimit)

/-- A text in five pieces is the text of all their characters. -/
theorem ofList_pieces (a b c d e : List Char) :
    String.ofList a ++ .ofList b ++ .ofList c ++ .ofList d ++ .ofList e =
      .ofList (a ++ b ++ c ++ d ++ e) := by
  simp only [String.ofList_append]

/-- Whether a fragment of these characters can be used in every pattern: it can be read by itself
    and between anchors, opens no groups by name, leaves room for the groups around it and has no
    conditions on places, unless it `mayLook`. -/
def Regex.isHarmless (mayLook : Bool) (chars : List Char) : Bool :=
  ((lastState? (chars.length + 1) {} chars).any fun last =>
    last.names = [] && last.content.whole.depth + 3 ≤ depthLimit &&
      (mayLook || last.content.whole.regex.placeless)) &&
  (lastState? (chars.length + 7) {} ('^' :: (['(', '?', ':'] ++ (chars ++ [')', '$'])))).any
    (·.content.whole.depth ≤ depthLimit)

namespace BuiltinKind

/-- The fragments are evaluated on lists of characters: to take the characters out of a literal
    takes the kernel time that grows with the square of its length. -/
theorem exists_chars (kind : BuiltinKind) :
    ∃ chars, kind.fragment = .ofList chars ∧ Regex.isHarmless (kind = .word) chars = true := by
  cases kind with
  | date => exact ⟨_, ofList_pieces _ _ _ _ _, by decide +kernel⟩
  | _ => exact ⟨_, rfl, by decide +kernel⟩

/-- The state after the fragment of a kind, read by itself. -/
theorem exists_lastState (kind : BuiltinKind) :
    ∃ last, lastState? (kind.fragment.length + 1) {} kind.fragment.toList = some last ∧
      last.names = [] ∧ last.content.whole.depth + 3 ≤ depthLimit ∧
      (kind ≠ .word → last.content.whole.regex.placeless = true) := by
  obtain ⟨chars, hchars, hharmless⟩ := kind.exists_chars
  obtain ⟨last, hlast, hall⟩ := (Option.any_eq_true _ _).1 (Bool.and_eq_true_iff.1 hharmless).1
  simp only [Bool.and_eq_true, Bool.or_eq_true, decide_eq_true_eq] at hall
  rw [hchars, String.length_ofList, String.toList_ofList]
  exact ⟨last, hlast, hall.1.1, hall.1.2, hall.2.resolve_left⟩

/-- The fragments of the kinds that need no registration can be read, by themselves and between
    anchors. -/
theorem fragment_readable (kind : BuiltinKind) :
    (Regex.read? kind.fragment).isSome = true ∧
      (Regex.read? s!"^(?:{kind.fragment})$").isSome = true := by
  constructor
  · obtain ⟨last, hlast, -, hdepth, -⟩ := kind.exists_lastState
    exact Option.isSome_iff_exists.2
      ⟨_, Regex.read?_eq_some_iff.2 ⟨last, hlast, by omega, rfl⟩⟩
  · obtain ⟨chars, hchars, hharmless⟩ := kind.exists_chars
    obtain ⟨last, hlast, hdepth⟩ := (Option.any_eq_true _ _).1 (Bool.and_eq_true_iff.1 hharmless).2
    have htoList : (s!"^(?:{kind.fragment})$").toList =
        '^' :: (['(', '?', ':'] ++ (chars ++ [')', '$'])) := by
      rw [Regex.toList_anchored, hchars, String.toList_ofList, String.toList_ofList]
    have hlength : (s!"^(?:{kind.fragment})$").length + 1 = chars.length + 7 := by
      rw [← String.length_toList, htoList]
      simp
    refine Option.isSome_iff_exists.2
      ⟨_, Regex.read?_eq_some_iff.2 ⟨last, ?_, of_decide_eq_true hdepth, rfl⟩⟩
    rw [hlength, htoList, hlast]

/-- The kinds that need no registration look at nothing around them, but for words. -/
theorem placeless_fragment (kind : BuiltinKind) (h : kind ≠ .word) :
    (Regex.read? kind.fragment).any Regex.placeless = true := by
  obtain ⟨last, hlast, -, hdepth, hplaceless⟩ := kind.exists_lastState
  rw [Regex.read?_eq_some_iff.2 ⟨last, hlast, by omega, rfl⟩, Option.any_some]
  exact hplaceless h

/-- The fragments of the kinds that need no registration open no groups by name and are not nested
    deep. -/
theorem fragment_harmless (kind : BuiltinKind) :
    Regex.namesOf kind.fragment = [] ∧ Regex.depthOf kind.fragment + 3 ≤ depthLimit := by
  obtain ⟨last, hlast, hnames, hdepth, -⟩ := kind.exists_lastState
  rw [Regex.namesOf, Regex.depthOf, hlast, Option.elim_some, Option.elim_some, hnames]
  exact ⟨rfl, hdepth⟩

end BuiltinKind

end Gherkin
