/-
  Gherkin.Proofs.Text.Split

  Text that is cut at separators. The pieces have no separator in them, and pieces
  without separators are got back from the text that joins them.
-/
import Gherkin.Text.Blank

namespace Gherkin.Text

/-- A text is cut at every separator. The piece in work, written backwards in `done`, has none. -/
theorem forall_mem_splitOnPPrepend {α : Type} {p : α → Bool} {s done piece : List α}
    (hdone : ∀ c ∈ done, p c = false) (hpiece : piece ∈ s.splitOnPPrepend p done) :
    ∀ c ∈ piece, p c = false := by
  induction s generalizing done with
  | nil =>
    rw [List.splitOnPPrepend_nil, List.mem_singleton] at hpiece
    simpa [hpiece] using hdone
  | cons first s ih =>
    by_cases hfirst : p first = true
    · rw [List.splitOnPPrepend_cons_pos hfirst, ← List.splitOnPPrepend_nil_right] at hpiece
      rcases List.mem_cons.1 hpiece with rfl | hlater
      · simpa using hdone
      · exact ih (by simp) hlater
    · rw [Bool.not_eq_true] at hfirst
      rw [List.splitOnPPrepend_cons_neg hfirst] at hpiece
      exact ih (List.forall_mem_cons.2 ⟨hfirst, hdone⟩) hpiece

theorem isBlank_of_mem_words {s word : String} (h : word ∈ words s) :
    ∀ c ∈ word.toList, isBlank c = false := by
  obtain ⟨piece, hpiece, rfl⟩ := List.mem_map.1 h
  rw [String.toList_ofList]
  have hcut := (List.mem_filter.1 hpiece).1
  rw [← List.splitOnPPrepend_nil_right] at hcut
  exact forall_mem_splitOnPPrepend (by simp) hcut

/-- A piece has the characters of the text, without the separator. -/
theorem not_mem_of_mem_splitAt {sep : Char} {s piece : String} (h : piece ∈ splitAt sep s) :
    sep ∉ piece.toList := by
  obtain ⟨cut, hcut, rfl⟩ := List.mem_map.1 h
  rw [String.toList_ofList]
  intro hsep
  rw [List.splitOn_eq_splitOnP, ← List.splitOnPPrepend_nil_right] at hcut
  have hother := forall_mem_splitOnPPrepend (by simp) hcut sep hsep
  simp at hother

/-- What is joined has the characters of its pieces. -/
theorem mem_intercalate {α : Type} {sep piece : List α} {pieces : List (List α)} {c : α}
    (hpiece : piece ∈ pieces) (hc : c ∈ piece) : c ∈ sep.intercalate pieces := by
  induction pieces with
  | nil => cases hpiece
  | cons first rest ih =>
    by_cases hrest : rest = []
    · subst hrest
      rw [List.intercalate_singleton]
      exact List.mem_singleton.1 hpiece ▸ hc
    · rw [List.intercalate_cons_of_ne_nil hrest, List.mem_append, List.mem_append]
      rcases List.mem_cons.1 hpiece with rfl | hpiece
      · exact .inl (.inl hc)
      · exact .inr (ih hpiece)

/-- What is joined has no characters but those of its pieces and of the separator. -/
theorem mem_of_mem_intercalate {α : Type} {sep : List α} {pieces : List (List α)} {c : α}
    (h : c ∈ sep.intercalate pieces) : c ∈ sep ∨ ∃ piece ∈ pieces, c ∈ piece := by
  induction pieces with
  | nil => cases h
  | cons first rest ih =>
    by_cases hrest : rest = []
    · subst hrest
      rw [List.intercalate_singleton] at h
      exact .inr ⟨first, List.mem_singleton_self _, h⟩
    · rw [List.intercalate_cons_of_ne_nil hrest, List.mem_append, List.mem_append] at h
      rcases h with (hfirst | hsep) | hlater
      · exact .inr ⟨first, List.mem_cons_self, hfirst⟩
      · exact .inl hsep
      · exact (ih hlater).imp_right fun ⟨piece, hpiece, hc⟩ =>
          ⟨piece, List.mem_cons_of_mem _ hpiece, hc⟩

theorem mem_of_mem_splitAt {sep c : Char} {s piece : String} (h : piece ∈ splitAt sep s)
    (hc : c ∈ piece.toList) : c ∈ s.toList := by
  obtain ⟨cut, hcut, rfl⟩ := List.mem_map.1 h
  rw [String.toList_ofList] at hc
  have hjoined : [sep].intercalate (s.toList.splitOn sep) = s.toList := List.intercalate_splitOn sep
  rw [← hjoined]
  exact mem_intercalate hcut hc

theorem splitAt_ne_nil (sep : Char) (s : String) : splitAt sep s ≠ [] := by
  rw [splitAt, Ne, List.map_eq_nil_iff]
  exact List.splitOn_ne_nil sep s.toList

/-- Pieces that are joined by a separator are got back, if they do not have it in them. -/
theorem splitAt_intercalate {sep : Char} {pieces : List String}
    (hsep : ∀ piece ∈ pieces, sep ∉ piece.toList) (hne : pieces ≠ []) :
    splitAt sep ((String.singleton sep).intercalate pieces) = pieces := by
  have hpieces : ∀ piece ∈ pieces.map String.toList, sep ∉ piece :=
    List.forall_mem_map.2 hsep
  have hback : (pieces.map String.toList).map String.ofList = pieces := by
    simp [List.map_map, Function.comp_def]
  rw [splitAt, String.toList_intercalate, String.toList_singleton,
    List.splitOn_intercalate sep hpieces (by simpa using hne), hback]

end Gherkin.Text
