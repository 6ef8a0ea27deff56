/-
  Gherkin.Proofs.Text.Size

  Sizes of texts in bytes. Of two texts that the same text starts with, the one
  with fewer bytes is the one with fewer characters.
-/
import Gherkin.Text.Blank

namespace Gherkin.Text

theorem byteLength_append (s t : List Char) :
    byteLength (s ++ t) = byteLength s + byteLength t := by
  induction s with
  | nil => simp
  | cons c s ih =>
    rw [List.cons_append, byteLength_cons, byteLength_cons, ih, Nat.add_assoc]

theorem byteLength_pos {s : List Char} (h : s ≠ []) : 0 < byteLength s := by
  cases s with
  | nil => exact absurd rfl h
  | cons c s =>
    have hsize : 0 < c.utf8Size := Char.utf8Size_pos c
    rw [byteLength_cons]
    omega

/-- A shorter start of a text has fewer bytes. -/
theorem byteLength_lt_of_prefix {s t whole : List Char} (hs : s <+: whole) (ht : t <+: whole)
    (h : s.length < t.length) : byteLength s < byteLength t := by
  obtain ⟨rest, rfl⟩ : s <+: t := List.prefix_of_prefix_length_le hs ht (Nat.le_of_lt h)
  have hrest : rest ≠ [] := by
    rintro rfl
    simp at h
  have hpos := byteLength_pos hrest
  rw [byteLength_append]
  omega

theorem byteLength_lt_iff {s t whole : List Char} (hs : s <+: whole) (ht : t <+: whole) :
    byteLength s < byteLength t ↔ s.length < t.length := by
  refine ⟨fun hbytes => ?_, byteLength_lt_of_prefix hs ht⟩
  rcases Nat.lt_trichotomy s.length t.length with hlt | heq | hgt
  · exact hlt
  · have hsame : s = t :=
      (List.prefix_of_prefix_length_le hs ht (Nat.le_of_eq heq)).eq_of_length heq
    rw [hsame] at hbytes
    exact absurd hbytes (Nat.lt_irrefl _)
  · have := byteLength_lt_of_prefix ht hs hgt
    omega

end Gherkin.Text
