/-
  Gherkin.Proofs.Reader.Form

  Lines that are told by the mark they start with. No language spells a header
  keyword with a bar, a quotation mark or a backquote in front, so a stripped
  line that starts with a bar is a row and one that starts with a fence opens a
  doc-string, whatever comes behind.
-/
import Gherkin.Proofs.Text.Strip
import Gherkin.Reader.Form

namespace Gherkin

/-! ## Marks -/

/-- Marks that start a row or a fence. -/
def tableMarks : List Char := ['|', '"', '`']

namespace Language

variable (language : Language) {mark : Char} {line : String}

/-- Header keywords start with something else. -/
theorem head?_headers {kind : HeaderKeyword} {keyword : String} (hmark : mark ∈ tableMarks)
    (h : keyword ∈ language.headers kind) :
    ∃ c s, keyword.toList = c :: s ∧ (c == mark) = false := by
  have hall : ∀ language ∈ all, ∀ kind ∈ HeaderKeyword.all, ∀ keyword ∈ language.headers kind,
      keyword.toList.head?.any fun c => tableMarks.all fun mark => (c == mark) = false := by
    decide +kernel
  have hhead := hall language (mem_all language) kind kind.mem_all keyword h
  obtain ⟨c, hc, hmarks⟩ := (Option.any_eq_true _ _).1 hhead
  obtain ⟨s, hs⟩ := List.head?_eq_some_iff.1 hc
  exact ⟨c, s, hs, by simpa using List.all_eq_true.1 hmarks mark hmark⟩

theorem header?_of_mark (hmark : mark ∈ tableMarks) (hblank : Text.isBlank mark = false)
    {s : List Char} (h : line.toList = mark :: s) : language.header? line = none := by
  obtain ⟨t, ht⟩ := Text.exists_strip_cons hblank s
  have hcandidates : language.headerCandidates (mark :: t) = [] := by
    unfold headerCandidates
    rw [List.flatMap_eq_nil_iff]
    intro kind _
    rw [List.filterMap_eq_nil_iff]
    intro keyword hkeyword
    obtain ⟨c, rest, hchars, hother⟩ := language.head?_headers hmark hkeyword
    have hnone : (c :: rest).isPrefixOf? (mark :: t) = none := if_neg (by simp [hother])
    simp [headerWith?, hchars, hnone]
  rw [header?, h, ht, hcandidates]
  rfl

/-- A stripped line that starts with a bar is a row. -/
theorem form_row {s : List Char} (h : line.toList = '|' :: s) :
    language.form line = .row (Row.cells line) := by
  have hheader : language.header? line = none :=
    language.header?_of_mark (by decide) (by decide) h
  simp [form, h, hheader]

end Language

/-! ## Fences -/

namespace Fence

/-- The mark of which a fence has three. -/
def mark : Fence → Char
  | quotes => '"'
  | backquotes => '`'

variable (fence : Fence)

theorem toList_text : fence.text.toList = [fence.mark, fence.mark, fence.mark] := by
  cases fence <;> rfl

theorem mark_mem_tableMarks : fence.mark ∈ tableMarks := by
  cases fence <;> decide

theorem isBlank_mark : Text.isBlank fence.mark = false := by
  cases fence <;> decide

/-- A line that starts with a fence opens with that one. -/
theorem ofLine?_append (rest : List Char) :
    ofLine? (fence.text.toList ++ rest) = some (fence, rest) := by
  cases fence <;> rfl

end Fence

/-- A stripped line that starts with a fence opens a doc-string. -/
theorem Language.form_fence (language : Language) (fence : Fence) {line : String}
    {rest : List Char} (h : line.toList = fence.text.toList ++ rest) :
    language.form line = .fence fence (nonempty? (.ofList (Text.strip rest))) := by
  have hcons : line.toList = fence.mark :: fence.mark :: fence.mark :: rest := by
    rw [h, fence.toList_text]
    rfl
  have hheader : language.header? line = none :=
    language.header?_of_mark fence.mark_mem_tableMarks fence.isBlank_mark hcons
  have hopens : Fence.ofLine? (fence.mark :: fence.mark :: fence.mark :: rest) =
      some (fence, rest) := by
    have hfence := fence.ofLine?_append rest
    rwa [fence.toList_text] at hfence
  -- the marks of a fence are none of those that are looked for before
  cases fence with
  | quotes =>
    simp only [Fence.mark] at hcons hopens
    simp [form, plainForm, hcons, hheader, hopens]
  | backquotes =>
    simp only [Fence.mark] at hcons hopens
    simp [form, plainForm, hcons, hheader, hopens]

end Gherkin
