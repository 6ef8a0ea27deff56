/-
  Gherkin.Proofs.Text.Strip

  Text without the blanks around it. Blanks that are put at either end do not
  show, and a text that neither starts nor ends with a blank is left as it is.
-/
import Gherkin.Text.Blank
import Mathlib.Data.List.TakeWhile

namespace Gherkin.Text

variable {s before behind : List Char}

/-! ## Blanks at either end -/

theorem dropBlanks_pad (h : ∀ c ∈ before, isBlank c = true) (s : List Char) :
    dropBlanks (before ++ s) = dropBlanks s :=
  List.dropWhile_append_of_pos h

theorem trim_pad {pad : String} (h : ∀ c ∈ pad.toList, isBlank c = true) (line : String) :
    trim (pad ++ line) = trim line := by
  rw [trim, trim, strip, strip, String.toList_append, dropBlanks_pad h]

theorem dropBlanksRight_before (h : ∀ c ∈ behind, isBlank c = true) (s : List Char) :
    dropBlanksRight (s ++ behind) = dropBlanksRight s := by
  have hreverse : ∀ c ∈ behind.reverse, isBlank c = true := by
    intro c hc
    exact h c (List.mem_reverse.1 hc)
  rw [dropBlanksRight, dropBlanksRight, List.reverse_append, dropBlanks_pad hreverse]

/-- Blanks may be put around a text. -/
theorem strip_between (hbefore : ∀ c ∈ before, isBlank c = true)
    (hbehind : ∀ c ∈ behind, isBlank c = true) (s : List Char) :
    strip (before ++ s ++ behind) = strip s := by
  rw [List.append_assoc, strip, strip, dropBlanks_pad hbefore]
  by_cases hnil : dropBlanks s = []
  · -- a text of blanks disappears, and those behind it with it
    have hall : ∀ c ∈ s ++ behind, isBlank c = true := by
      rw [List.forall_mem_append]
      exact ⟨List.dropWhile_eq_nil_iff.1 hnil, hbehind⟩
    rw [hnil, dropBlanks, List.dropWhile_eq_nil_iff.2 hall]
  · have hrest : dropBlanks (s ++ behind) = dropBlanks s ++ behind := by
      rw [dropBlanks, List.dropWhile_append, if_neg (by rwa [List.isEmpty_iff])]
      rfl
    rw [hrest, dropBlanksRight_before hbehind]

/-! ## Text that is left as it is -/

theorem dropBlanks_eq_self_iff : dropBlanks s = s ↔ ∀ c ∈ s.head?, isBlank c = false := by
  cases s with
  | nil => simp
  | cons c s =>
    cases hc : isBlank c with
    | true =>
      have hdrop : dropBlanks (c :: s) = dropBlanks s := List.dropWhile_cons_of_pos hc
      have hlength := List.length_dropWhile_le isBlank s
      rw [hdrop]
      simp only [List.head?_cons, Option.mem_some_iff, forall_eq', hc, Bool.true_eq_false,
        iff_false]
      intro hsame
      have hlong := congrArg List.length hsame
      simp only [dropBlanks, List.length_cons] at hlong
      omega
    | false => simp [dropBlanks, hc]

/-- Text is left as it is if it has no blank at either end. -/
theorem strip_eq_self (hhead : ∀ c ∈ s.head?, isBlank c = false)
    (hlast : ∀ c ∈ s.getLast?, isBlank c = false) : strip s = s := by
  have hreverse : ∀ c ∈ s.reverse.head?, isBlank c = false := by
    rwa [List.head?_reverse]
  rw [strip, dropBlanks_eq_self_iff.2 hhead, dropBlanksRight, dropBlanks_eq_self_iff.2 hreverse,
    List.reverse_reverse]

/-- Text that is left as it is has no blank at its end. -/
theorem isBlank_getLast_of_strip (h : strip s = s) : ∀ c ∈ s.getLast?, isBlank c = false := by
  have hsuffix : dropBlanks s = s := by
    have hlength := congrArg List.length h
    have hright : (strip s).length ≤ (dropBlanks s).length := by
      have hreverse : (dropBlanks s).reverse.length = (dropBlanks s).length := List.length_reverse
      rw [strip, dropBlanksRight, List.length_reverse, ← hreverse]
      exact List.length_dropWhile_le _ _
    have hleft : (dropBlanks s).length ≤ s.length := List.length_dropWhile_le _ _
    exact (List.dropWhile_suffix isBlank).eq_of_length (by
      show (dropBlanks s).length = s.length
      omega)
  rw [strip, hsuffix, dropBlanksRight, List.reverse_eq_iff] at h
  rw [← List.head?_reverse]
  exact dropBlanks_eq_self_iff.1 h

/-- Text keeps its first character if it is no blank. -/
theorem exists_strip_cons {c : Char} (hc : isBlank c = false) (s : List Char) :
    ∃ t, strip (c :: s) = c :: t := by
  have hleft : dropBlanks (c :: s) = c :: s :=
    dropBlanks_eq_self_iff.2 (by simpa using hc)
  have hright : dropBlanks (s.reverse ++ [c]) ≠ [] := by
    rw [dropBlanks, Ne, List.dropWhile_eq_nil_iff]
    intro hall
    simpa [hc] using hall c
  rw [strip, hleft, dropBlanksRight, List.reverse_cons]
  by_cases hnil : dropBlanks s.reverse = []
  · refine ⟨[], ?_⟩
    rw [dropBlanks_pad (List.dropWhile_eq_nil_iff.1 hnil)]
    simp [dropBlanks, hc]
  · refine ⟨(dropBlanks s.reverse).reverse, ?_⟩
    rw [dropBlanks, List.dropWhile_append, if_neg (by rwa [List.isEmpty_iff]),
      List.reverse_append]
    rfl

/-- Characters that are no blanks stay. -/
theorem mem_strip {c : Char} (hc : isBlank c = false) (h : c ∈ s) : c ∈ strip s := by
  have hdrop : ∀ {t : List Char}, c ∈ t → c ∈ dropBlanks t := by
    intro t ht
    have hsplit := List.takeWhile_append_dropWhile (p := isBlank) (l := t)
    rw [← hsplit, List.mem_append] at ht
    rcases ht with hblank | hrest
    · rw [List.mem_takeWhile_imp hblank] at hc
      cases hc
    · exact hrest
  rw [strip, dropBlanksRight, List.mem_reverse]
  exact hdrop (List.mem_reverse.2 (hdrop h))

/-- What is left is a part of the text. -/
theorem strip_isInfix (s : List Char) : strip s <:+: s := by
  have hright : dropBlanksRight (dropBlanks s) <+: dropBlanks s := by
    rw [dropBlanksRight, ← List.reverse_suffix, List.reverse_reverse]
    exact List.dropWhile_suffix isBlank
  exact hright.isInfix.trans (List.dropWhile_suffix isBlank).isInfix

end Gherkin.Text
