/-
  Gherkin.Proofs.Tag.Set

  Tags that need no normalising, and what adding them to a set comes to: those
  that are not there yet are put at the end, each once.
-/
import Gherkin.Tag.Set

namespace Gherkin

/-! ## Bare tags -/

/-- A tag without blanks and without an at-sign in front. -/
structure IsBareTag (tag : String) : Prop where
  noBlank : ∀ c ∈ tag.toList, Text.isBlank c = false
  noSign : tag.toList.head? ≠ some '@'

theorem isBareTag_iff {tag : String} : IsBareTag tag ↔
    tag.toList.all (fun c => !Text.isBlank c) = true ∧ tag.toList.head? ≠ some '@' := by
  rw [List.all_eq_true]
  constructor
  · intro h
    exact ⟨by simpa using h.noBlank, h.noSign⟩
  · rintro ⟨hblank, hsign⟩
    exact ⟨by simpa using hblank, hsign⟩

instance (tag : String) : Decidable (IsBareTag tag) := decidable_of_iff _ isBareTag_iff.symm

theorem dropBlanks_of_noBlank {s : List Char} (h : ∀ c ∈ s, Text.isBlank c = false) :
    Text.dropBlanks s = s := by
  cases s with
  | nil => rfl
  | cons c s =>
    have hfirst : ¬ Text.isBlank c = true := by simp [h c List.mem_cons_self]
    exact List.dropWhile_cons_of_neg hfirst

theorem strip_of_noBlank {s : List Char} (h : ∀ c ∈ s, Text.isBlank c = false) :
    Text.strip s = s := by
  have hreverse : ∀ c ∈ s.reverse, Text.isBlank c = false := by
    intro c hc
    exact h c (List.mem_reverse.1 hc)
  rw [Text.strip, dropBlanks_of_noBlank h, Text.dropBlanksRight, dropBlanks_of_noBlank hreverse,
    List.reverse_reverse]

/-- A bare tag is its own name. -/
theorem tagName_of_isBareTag {tag : String} (h : IsBareTag tag) : tagName tag = tag := by
  have hkept : tag.toList.dropWhile (· == '@') = tag.toList := by
    cases hchars : tag.toList with
    | nil => rfl
    | cons c s =>
      have hfirst : ¬ (c == '@') = true := by
        rw [beq_iff_eq]
        rintro rfl
        exact h.noSign (by rw [hchars]; rfl)
      exact List.dropWhile_cons_of_neg hfirst
  rw [tagName, strip_of_noBlank h.noBlank, hkept, String.ofList_toList]

/-! ## Adding bare tags -/

namespace TagSet

theorem names_insert_of_isBareTag (tags : TagSet) {tag : String} (h : IsBareTag tag) :
    (tags.insert tag).names =
      if tag ≠ "" ∧ tag ∉ tags.names then tags.names ++ [tag] else tags.names := by
  have hname := tagName_of_isBareTag h
  have hadmits : tags.admits tag = true ↔ tag ≠ "" ∧ tag ∉ tags.names := by
    rw [admits, contains, hname, hname]
    simp
  unfold insert
  rw [hname]
  by_cases hnew : tag ≠ "" ∧ tag ∉ tags.names
  · rw [if_pos (hadmits.2 hnew), if_pos hnew]
  · rw [if_neg (mt hadmits.1 hnew), if_neg hnew]

/-- Bare tags that have a character and are not in a set yet are added to it in order, each
    once. -/
theorem names_extend_of_isBareTag (tags : TagSet) {more : List String}
    (h : ∀ tag ∈ more, IsBareTag tag) :
    (tags.extend more).names =
      tags.names ++ (more.filter fun tag => tag ≠ "" ∧ tag ∉ tags.names).eraseDups := by
  induction more generalizing tags with
  | nil => simp
  | cons tag more ih =>
    have hinsert := tags.names_insert_of_isBareTag (h tag List.mem_cons_self)
    rw [extend_cons, ih _ fun other hother => h other (List.mem_cons_of_mem _ hother)]
    by_cases hnew : tag ≠ "" ∧ tag ∉ tags.names
    · rw [if_pos hnew] at hinsert
      -- once the tag is there, its repetitions are no longer new
      have hfilter : (more.filter fun other => other ≠ "" ∧ other ∉ tags.names ++ [tag]) =
          (more.filter fun other => other ≠ "" ∧ other ∉ tags.names).filter (!· == tag) := by
        rw [List.filter_filter]
        apply List.filter_congr
        intro other _
        rw [Bool.eq_iff_iff]
        simp only [decide_eq_true_eq, Bool.and_eq_true, Bool.not_eq_true', beq_eq_false_iff_ne,
          List.mem_append, List.mem_singleton, not_or]
        constructor
        · rintro ⟨hempty, hold, hne⟩
          exact ⟨hne, hempty, hold⟩
        · rintro ⟨hne, hempty, hold⟩
          exact ⟨hempty, hold, hne⟩
      rw [hinsert, hfilter, List.filter_cons_of_pos (by simpa using hnew), List.eraseDups_cons,
        List.append_assoc, List.singleton_append]
    · rw [if_neg hnew] at hinsert
      rw [hinsert, List.filter_cons_of_neg (by simpa using hnew)]

end TagSet

/-! ## Clean sets -/

/-- Without blanks in it a tag gives a bare name. -/
theorem isBareTag_tagName {tag : String} (h : ∀ c ∈ tag.toList, Text.isBlank c = false) :
    IsBareTag (tagName tag) := by
  have hname : (tagName tag).toList = tag.toList.dropWhile (· == '@') := by
    rw [toList_tagName, strip_of_noBlank h]
  constructor
  · intro c hc
    rw [hname] at hc
    exact h c ((List.dropWhile_sublist _).subset hc)
  · intro hsign
    rw [hname] at hsign
    have hfirst := List.head?_dropWhile_not (· == '@') tag.toList
    rw [hsign] at hfirst
    simp at hfirst

namespace TagSet

/-- The names of the set are bare tags, none is empty and no two are the same. -/
structure Clean (tags : TagSet) : Prop where
  nodup : tags.names.Nodup
  named : ∀ name ∈ tags.names, name ≠ "" ∧ IsBareTag name

theorem clean_empty : ({} : TagSet).Clean where
  nodup := List.nodup_nil
  named := by simp

theorem Clean.insert {tags : TagSet} (h : tags.Clean) {tag : String}
    (hblank : ∀ c ∈ tag.toList, Text.isBlank c = false) : (tags.insert tag).Clean := by
  have hbare := isBareTag_tagName hblank
  unfold TagSet.insert
  split
  next hadmits =>
    obtain ⟨hnew, hname⟩ : tagName tag ≠ "" ∧ tagName tag ∉ tags.names := by
      simpa [admits, contains, tagName_of_isBareTag hbare] using hadmits
    constructor
    · refine List.nodup_append.2 ⟨h.nodup, by simp, ?_⟩
      rintro name hold _ hmem rfl
      exact hname (List.mem_singleton.1 hmem ▸ hold)
    · rw [List.forall_mem_append, List.forall_mem_singleton]
      exact ⟨h.named, hnew, hbare⟩
  next => exact h

theorem Clean.extend {tags : TagSet} (h : tags.Clean) {more : List String}
    (hblank : ∀ tag ∈ more, ∀ c ∈ tag.toList, Text.isBlank c = false) :
    (tags.extend more).Clean := by
  induction more generalizing tags with
  | nil => exact h
  | cons tag more ih =>
    rw [extend_cons]
    exact ih (h.insert (hblank tag List.mem_cons_self)) fun other hother =>
      hblank other (List.mem_cons_of_mem _ hother)

end TagSet

end Gherkin
