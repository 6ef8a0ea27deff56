/-
  Gherkin.Proofs.Reader.Fence

  Lines of a doc-string as they are written: behind the blanks that the opening
  fence stands behind, and with a backslash before each mark of a fence that is
  text. A line that holds no escaped fence of its own comes back as it was, and
  no line that is written so closes the doc-string.
-/
import Gherkin.Proofs.Reader.Form
import Gherkin.Proofs.Text.Size

namespace Gherkin

/-! ## Text behind blanks -/

namespace Text

variable {blanks : List Char}

theorem indentOf_pad (h : ∀ c ∈ blanks, isBlank c = true) (s : List Char) :
    indentOf (blanks ++ s) = byteLength blanks + indentOf s := by
  rw [indentOf, List.takeWhile_append_of_pos h, byteLength_append]
  rfl

theorem dropBytes?_append (s t : List Char) (n : Nat) :
    dropBytes? (byteLength s + n) (s ++ t) = dropBytes? n t := by
  induction s with
  | nil => simp
  | cons c s ih =>
    have hpos : 0 < c.utf8Size := c.utf8Size_pos
    have hrest : c.utf8Size + byteLength s + n - c.utf8Size = byteLength s + n := by omega
    rw [List.cons_append, byteLength_cons, dropBytes?, if_neg (by omega), if_pos (by omega), hrest,
      ih]

/-- Blanks that come before a line and before the fence alike do not show in the text. -/
theorem unindent_pad (h : ∀ c ∈ blanks, isBlank c = true) (indent : Nat) (s : List Char) :
    unindent (byteLength blanks + indent) (blanks ++ s) = unindent indent s := by
  rw [unindent, unindent, indentOf_pad h, Nat.add_min_add_left, dropBytes?_append,
    dropBlanks_pad h]

theorem unindent_zero (s : List Char) : unindent 0 s = s := by
  cases s <;> simp [unindent, dropBytes?]

/-! ## Replacing -/

variable {old new : List Char}

theorem replaceFrom_length (s t : List Char) :
    replaceFrom old new s.length (s ++ t) = replace old new t := by
  induction s with
  | nil => rfl
  | cons c s ih => exact ih

theorem replace_append (h : old ≠ []) (t : List Char) :
    replace old new (old ++ t) = new ++ replace old new t := by
  obtain ⟨c, s, rfl⟩ := List.exists_cons_of_ne_nil h
  have hprefix : (c :: s).isPrefixOf (c :: (s ++ t)) = true :=
    List.isPrefixOf_iff_prefix.2 (List.prefix_append (c :: s) t)
  rw [List.cons_append, replace, replaceFrom, if_pos hprefix, List.length_cons,
    Nat.add_sub_cancel, replaceFrom_length]

theorem replace_cons {c : Char} {t : List Char} (h : ¬ old <+: c :: t) :
    replace old new (c :: t) = c :: replace old new t := by
  rw [replace, replaceFrom, if_neg (by rwa [List.isPrefixOf_iff_prefix])]
  rfl

end Text

/-! ## Writing -/

namespace Fence

variable (fence : Fence) {c : Char} {s t u : List Char}

/-- A line of text with the fences in it escaped. -/
def write (text : String) : String :=
  .ofList (Text.replace fence.text.toList fence.escaped text.toList)

/-- The second text is the first with the fences in it escaped. -/
inductive Escaped : List Char → List Char → Prop
  | nil : Escaped [] []
  | fence {s u : List Char} : Escaped s u → Escaped (fence.text.toList ++ s) (fence.escaped ++ u)
  | char {c : Char} {s u : List Char} :
    ¬ fence.text.toList <+: c :: s → Escaped s u → Escaped (c :: s) (c :: u)

variable {fence}

theorem text_ne_nil : fence.text.toList ≠ [] := by
  rw [toList_text]
  exact List.cons_ne_nil _ _

theorem escaped_eq :
    fence.escaped = ['\\', fence.mark, '\\', fence.mark, '\\', fence.mark] := by
  rw [escaped, toList_text]
  rfl

theorem mark_ne_backslash : fence.mark ≠ '\\' := by
  cases fence <;> decide

theorem escaped_replace (s : List Char) :
    fence.Escaped s (Text.replace fence.text.toList fence.escaped s) := by
  induction h : s.length using Nat.strongRecOn generalizing s with
  | ind n ih =>
    subst h
    cases s with
    | nil => exact .nil
    | cons c s =>
      by_cases hprefix : fence.text.toList <+: c :: s
      · obtain ⟨t, ht⟩ := hprefix
        have hshort : t.length < (c :: s).length := by
          rw [← ht, toList_text]
          simp
          omega
        rw [← ht, Text.replace_append text_ne_nil]
        exact .fence (ih t.length hshort t rfl)
      · rw [Text.replace_cons hprefix]
        exact .char hprefix (ih s.length (by simp) s rfl)

/-! ## Reading -/

/-- Where what was written goes on with a mark and a backslash, so did the text. -/
theorem Escaped.exists_mark_backslash (h : fence.Escaped s (fence.mark :: '\\' :: u)) :
    ∃ t, s = fence.mark :: '\\' :: t ∧ fence.Escaped t u := by
  generalize hv : fence.mark :: '\\' :: u = v at h
  cases h with
  | nil => cases hv
  | fence hrest =>
    rw [escaped_eq, List.cons_append, List.cons.injEq] at hv
    exact absurd hv.1 mark_ne_backslash
  | @char c s v hprefix hrest =>
    obtain ⟨rfl, rfl⟩ := List.cons.inj hv
    generalize hw : '\\' :: u = w at hrest
    cases hrest with
    | nil => cases hw
    | @fence s w hrest =>
      -- four marks in a row are a fence and a mark
      refine absurd ?_ hprefix
      rw [toList_text]
      exact ⟨fence.mark :: s, rfl⟩
    | @char c s w _ hrest =>
      obtain ⟨rfl, rfl⟩ := List.cons.inj hw
      exact ⟨s, rfl, hrest⟩

theorem Escaped.exists_mark (h : fence.Escaped s (fence.mark :: u)) :
    ∃ t, s = fence.mark :: t := by
  generalize hv : fence.mark :: u = v at h
  cases h with
  | nil => cases hv
  | fence hrest =>
    rw [escaped_eq, List.cons_append, List.cons.injEq] at hv
    exact absurd hv.1 mark_ne_backslash
  | @char c s v _ hrest =>
    obtain ⟨rfl, rfl⟩ := List.cons.inj hv
    exact ⟨s, rfl⟩

/-- An escaped fence that was not written for a fence stood in the text. -/
theorem Escaped.escaped_prefix (h : fence.Escaped s u) (hstart : fence.escaped <+: c :: u) :
    fence.escaped <+: c :: s := by
  obtain ⟨rest, hrest⟩ := hstart
  rw [escaped_eq] at hrest ⊢
  obtain ⟨rfl, rfl⟩ := List.cons.inj hrest
  obtain ⟨s₁, rfl, h₁⟩ := h.exists_mark_backslash
  obtain ⟨s₂, rfl, h₂⟩ := h₁.exists_mark_backslash
  obtain ⟨s₃, rfl⟩ := h₂.exists_mark
  exact ⟨s₃, rfl⟩

/-- Text without escaped fences comes back. -/
theorem Escaped.replace (h : fence.Escaped s u) (hfree : ¬ fence.escaped <:+: s) :
    Text.replace fence.escaped fence.text.toList u = s := by
  induction h with
  | nil => rfl
  | @fence s u _ ih =>
    have hne : fence.escaped ≠ [] := by
      rw [escaped_eq]
      exact List.cons_ne_nil _ _
    rw [Text.replace_append hne, ih]
    intro hfound
    exact hfree (hfound.trans (List.suffix_append _ _).isInfix)
  | @char c s u _ hrest ih =>
    have hstart : ¬ fence.escaped <+: c :: u := by
      intro hescaped
      exact hfree (hrest.escaped_prefix hescaped).isInfix
    rw [Text.replace_cons hstart, ih]
    intro hfound
    exact hfree (hfound.trans (List.suffix_cons c s).isInfix)

/-- What is written without backslashes holds no fence. -/
theorem Escaped.not_infix (h : fence.Escaped s u) (hplain : '\\' ∉ u) :
    ¬ fence.text.toList <:+: u := by
  suffices hsame : u = s ∧ ¬ fence.text.toList <:+: s by
    rw [hsame.1]
    exact hsame.2
  induction h with
  | nil =>
    refine ⟨rfl, ?_⟩
    rw [List.infix_nil]
    exact text_ne_nil
  | fence _ _ =>
    rw [escaped_eq] at hplain
    simp at hplain
  | @char c s u hprefix _ ih =>
    obtain ⟨rfl, hfree⟩ := ih (fun hmem => hplain (List.mem_cons_of_mem c hmem))
    refine ⟨rfl, ?_⟩
    rw [List.infix_cons_iff]
    rintro (hhead | htail)
    · exact hprefix hhead
    · exact hfree htail

/-! ## Lines of a doc-string -/

variable {pad text : String}

/-- A line that is written is no closing fence. -/
theorem trim_write_ne (hblank : ∀ c ∈ pad.toList, Text.isBlank c = true) (text : String) :
    Text.trim (pad ++ fence.write text) ≠ fence.text := by
  have hescaped := fence.escaped_replace text.toList
  have hwrite : (fence.write text).toList =
      Text.replace fence.text.toList fence.escaped text.toList := String.toList_ofList
  rw [← hwrite] at hescaped
  intro htrim
  have hstrip : Text.strip (fence.write text).toList = fence.text.toList := by
    rw [← Text.toList_trim, ← Text.trim_pad hblank, htrim]
  by_cases hslash : '\\' ∈ (fence.write text).toList
  · have hmem := Text.mem_strip (by decide) hslash
    rw [hstrip, toList_text] at hmem
    simp [mark_ne_backslash.symm] at hmem
  · exact hescaped.not_infix hslash (hstrip ▸ Text.strip_isInfix _)

/-- A line that is written behind the blanks of the fence is read as it was. -/
theorem content_write (hblank : ∀ c ∈ pad.toList, Text.isBlank c = true)
    (hfree : ¬ fence.escaped <:+: text.toList) :
    fence.content (Text.byteLength pad.toList) (pad ++ fence.write text) = text := by
  have hunindent := Text.unindent_pad hblank 0 (fence.write text).toList
  rw [Nat.add_zero, Text.unindent_zero] at hunindent
  rw [content, String.toList_append, hunindent, write, String.toList_ofList,
    (fence.escaped_replace text.toList).replace hfree, String.ofList_toList]

/-- The opening fence is indented by what stands before it. -/
theorem indentOf_fence (hblank : ∀ c ∈ pad.toList, Text.isBlank c = true) (media : String) :
    Text.indentOf (pad ++ fence.text ++ media).toList = Text.byteLength pad.toList := by
  rw [String.append_assoc, String.toList_append, Text.indentOf_pad hblank, String.toList_append,
    toList_text]
  simp [Text.indentOf, isBlank_mark]

/-- A line of blanks, a fence and a media type opens a doc-string of that type. -/
theorem form_open (hblank : ∀ c ∈ pad.toList, Text.isBlank c = true) {media : String}
    (hmedia : Text.trim media = media) (language : Language) :
    language.form (Text.trim (pad ++ fence.text ++ media)) =
      .fence fence (nonempty? media) := by
  have hstrip : Text.strip media.toList = media.toList := by
    rw [← Text.toList_trim, hmedia]
  have hself : Text.strip (fence.text ++ media).toList = (fence.text ++ media).toList := by
    apply Text.strip_eq_self
    · rw [String.toList_append, toList_text]
      rintro c ⟨⟩
      exact fence.isBlank_mark
    · rw [String.toList_append, List.getLast?_append]
      cases hlast : media.toList.getLast? with
      | none =>
        rw [toList_text]
        rintro c ⟨⟩
        exact fence.isBlank_mark
      | some last =>
        rintro c ⟨⟩
        exact Text.isBlank_getLast_of_strip hstrip last hlast
  have htrim : Text.trim (pad ++ fence.text ++ media) = fence.text ++ media := by
    rw [String.append_assoc, Text.trim_pad hblank, Text.trim, hself, String.ofList_toList]
  rw [htrim, language.form_fence fence (String.toList_append ..), hstrip, String.ofList_toList]

/-- A fence alone closes the doc-string. -/
theorem trim_close (hblank : ∀ c ∈ pad.toList, Text.isBlank c = true) :
    Text.trim (pad ++ fence.text) = fence.text := by
  rw [Text.trim_pad hblank]
  cases fence <;> decide

end Fence

end Gherkin
