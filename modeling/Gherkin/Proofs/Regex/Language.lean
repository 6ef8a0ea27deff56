/-
  Gherkin.Proofs.Regex.Language

  The language of an expression: the texts that it stands for, told from the texts
  of its parts. What an expression matches between two places of a text is in its
  language. An expression without conditions on places matches every text of its
  language, wherever that stands.
-/
import Gherkin.Proofs.Regex.Route

namespace Gherkin.Regex

/-- Whether an expression stands for a text. Conditions on places do not count. -/
def Denotes : Regex → List Char → Prop
  | empty, s => s = []
  | Regex.text t, s => s = t
  | one c, s => ∃ d, s = [d] ∧ c.contains d = true
  | look _, s => s = []
  | group _ _ r, s => Denotes r s
  | seq r₁ r₂, s => ∃ s₁ s₂, s = s₁ ++ s₂ ∧ Denotes r₁ s₁ ∧ Denotes r₂ s₂
  | alt r₁ r₂, s => Denotes r₁ s ∨ Denotes r₂ s
  | rep least most _ r, s => ∃ ss : List (List Char), s = ss.flatten ∧ (∀ t ∈ ss, Denotes r t) ∧
      least ≤ ss.length ∧ ∀ bound ∈ most, ss.length ≤ max least bound

/-! ## Texts of parts -/

section Parts

variable {c : CharClass} {r : Regex} {least : Nat} {most : Option Nat} {greedy : Bool}
  {s : List Char}

/-- Characters of a class, one after the other. -/
theorem denotes_rep_one_iff :
    Denotes (rep least most greedy (one c)) s ↔
      (∀ d ∈ s, c.contains d = true) ∧ least ≤ s.length ∧
        ∀ bound ∈ most, s.length ≤ max least bound := by
  constructor
  · rintro ⟨ss, rfl, hss, hcount⟩
    have hlength : ss.flatten.length = ss.length := by
      rw [List.length_flatten]
      have hones : ss.map List.length = ss.map fun _ => 1 := by
        refine List.map_congr_left fun t ht => ?_
        obtain ⟨d, rfl, -⟩ := hss t ht
        rfl
      rw [hones, List.map_const', List.sum_replicate_nat, Nat.mul_one]
    rw [hlength]
    refine ⟨fun d hd => ?_, hcount⟩
    obtain ⟨t, ht, hd⟩ := List.mem_flatten.1 hd
    obtain ⟨e, rfl, he⟩ := hss t ht
    rwa [List.mem_singleton.1 hd]
  · rintro ⟨hs, hcount⟩
    refine ⟨s.map ([·]), ?_, ?_, by rwa [List.length_map]⟩
    · rw [← List.flatMap_def, List.flatMap_singleton']
    · rintro _ ht
      obtain ⟨d, hd, rfl⟩ := List.mem_map.1 ht
      exact ⟨d, rfl, hs d hd⟩

/-- What may be there once or not at all. -/
theorem denotes_optional_iff : Denotes (rep 0 (some 1) greedy r) s ↔ s = [] ∨ Denotes r s := by
  constructor
  · rintro ⟨ss, rfl, hss, -, hcount⟩
    have hlength : ss.length ≤ 1 := hcount 1 rfl
    match ss, hlength with
    | [], _ => exact .inl rfl
    | [t], _ => exact .inr (by simpa using hss)
  · rintro (rfl | hs)
    · exact ⟨[], rfl, by simp, Nat.zero_le _, fun _ _ => Nat.zero_le _⟩
    · refine ⟨[s], by simp, by simpa using hs, Nat.zero_le _, ?_⟩
      rintro bound hbound
      rw [← Option.some.inj hbound]
      exact Nat.le_refl _

end Parts

/-! ## Matches -/

variable {text : Array Char} {r : Regex} {i j : Nat} {marks : Marks}

/-- What an expression matches it stands for. -/
theorem Path.denotes (h : Path text r i j marks) : Denotes r (text.extract i j).toList := by
  induction r generalizing i j marks with
  | empty => simp [Denotes, h.1]
  | text s => exact h.1.extract
  | one c =>
    obtain ⟨⟨d, hd, hc⟩, rfl, -⟩ := h
    have hone : Spelled text [d] i (i + 1) := ⟨hd, rfl⟩
    exact ⟨d, hone.extract, hc⟩
  | look l => simp [Denotes, h.2.1]
  | group index name r ih =>
    cases name with
    | none => exact ih h
    | some name =>
      obtain ⟨inner, hinner, -⟩ := h
      exact ih hinner
  | seq r₁ r₂ ih₁ ih₂ =>
    obtain ⟨k, first, second, hfirst, hsecond, -⟩ := h
    rw [← extract_append hfirst.bounds.1 hsecond.bounds.1]
    exact ⟨_, _, rfl, ih₁ hfirst, ih₂ hsecond⟩
  | alt r₁ r₂ ih₁ ih₂ => exact h.imp ih₁ ih₂
  | rep least most greedy r ih =>
    obtain ⟨n, hcount, hn⟩ := h
    -- one text for each round
    suffices hrounds : ∃ ss : List (List Char), ss.length = n ∧
        (text.extract i j).toList = ss.flatten ∧ ∀ t ∈ ss, Denotes r t by
      obtain ⟨ss, rfl, hflatten, hss⟩ := hrounds
      exact ⟨ss, hflatten, hss, hcount⟩
    clear hcount
    induction n generalizing i marks with
    | zero => exact ⟨[], rfl, by simp [hn.1], by simp⟩
    | succ n ihn =>
      obtain ⟨k, first, second, hfirst, hsecond, -⟩ := hn
      obtain ⟨ss, hlength, hflatten, hss⟩ := ihn hsecond
      have hkj : k ≤ j := Route.times_induct (P := fun i j => i ≤ j) Nat.le_refl Nat.le_trans
        (fun hstep => hstep.bounds.1) hsecond
      refine ⟨(text.extract i k).toList :: ss, by rw [List.length_cons, hlength], ?_, ?_⟩
      · rw [List.flatten_cons, ← hflatten, extract_append hfirst.bounds.1 hkj]
      · exact List.forall_mem_cons.2 ⟨ih hfirst, hss⟩

/-- An expression without conditions on places matches a text that it stands for, wherever it
    is. -/
theorem Denotes.path (hr : r.placeless = true) {before s after : List Char} (h : Denotes r s)
    (htext : text.toList = before ++ (s ++ after)) :
    ∃ marks, Path text r before.length (before.length + s.length) marks := by
  induction r generalizing before s after with
  | empty =>
    obtain rfl := h
    exact ⟨[], rfl, rfl⟩
  | text t =>
    obtain rfl := h
    exact ⟨[], spelled_of_toList htext, rfl⟩
  | one c =>
    obtain ⟨d, rfl, hc⟩ := h
    exact ⟨[], ⟨d, (spelled_of_toList htext).1, hc⟩, rfl, rfl⟩
  | look l => cases hr
  | group index name r ih =>
    obtain ⟨marks, hmarks⟩ := ih hr h htext
    cases name with
    | none => exact ⟨marks, hmarks⟩
    | some name => exact ⟨_, marks, hmarks, rfl⟩
  | seq r₁ r₂ ih₁ ih₂ =>
    obtain ⟨hr₁, hr₂⟩ := Bool.and_eq_true_iff.1 hr
    obtain ⟨s₁, s₂, rfl, h₁, h₂⟩ := h
    obtain ⟨first, hfirst⟩ := ih₁ hr₁ h₁ (by rw [htext, List.append_assoc])
    have hbehind : text.toList = before ++ s₁ ++ (s₂ ++ after) := by simp [htext]
    obtain ⟨second, hsecond⟩ := ih₂ hr₂ h₂ hbehind
    rw [List.length_append] at hsecond
    rw [List.length_append, ← Nat.add_assoc]
    exact ⟨_, Route.andThen_intro hfirst hsecond⟩
  | alt r₁ r₂ ih₁ ih₂ =>
    obtain ⟨hr₁, hr₂⟩ := Bool.and_eq_true_iff.1 hr
    rcases h with h | h
    · exact (ih₁ hr₁ h htext).imp fun _ => Or.inl
    · exact (ih₂ hr₂ h htext).imp fun _ => Or.inr
  | rep least most greedy r ih =>
    obtain ⟨ss, rfl, hss, hcount⟩ := h
    suffices hrounds : ∃ marks, (Path text r).times ss.length before.length
        (before.length + ss.flatten.length) marks from
      hrounds.imp fun _ hmarks => ⟨ss.length, hcount, hmarks⟩
    clear hcount
    -- each round moves what stands before it on by its text
    induction ss generalizing before with
    | nil => exact ⟨[], rfl, rfl⟩
    | cons t ss ihss =>
      obtain ⟨ht, hss⟩ := List.forall_mem_cons.1 hss
      obtain ⟨first, hfirst⟩ := ih hr ht (by rw [htext, List.flatten_cons, List.append_assoc])
      have hbehind : text.toList = before ++ t ++ (ss.flatten ++ after) := by simp [htext]
      obtain ⟨second, hsecond⟩ := ihss hbehind hss
      rw [List.length_append] at hsecond
      rw [List.flatten_cons, List.length_append, ← Nat.add_assoc]
      exact ⟨_, Route.andThen_intro hfirst hsecond⟩

/-- A text that stands alone is matched if it is in the language. -/
theorem path_whole_iff (hr : r.placeless = true) {s : List Char} :
    (∃ marks, Path s.toArray r 0 s.length marks) ↔ Denotes r s := by
  constructor
  · rintro ⟨marks, h⟩
    simpa using h.denotes
  · intro h
    have halone : s.toArray.toList = [] ++ (s ++ []) := by simp
    simpa using h.path hr halone

end Gherkin.Regex
