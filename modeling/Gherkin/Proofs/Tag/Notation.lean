/-
  Gherkin.Proofs.Tag.Notation

  Lists of filters as they are written. Each item that is not blank gives a filter
  for the names between its plus signs, and a list is refused if one of these names
  cannot stand in a filter. Filters that were read are written so that the same
  filters are read back, also where one asks for a single tag and another for several.
-/
import Gherkin.Proofs.Tag.Reading
import Gherkin.Proofs.Text.Split
import Gherkin.Proofs.Text.Strip

namespace Gherkin

/-- A bare name is the name of the tag that is written for it. -/
theorem tagName_signed {name : String} (h : IsBareTag name) : tagName s!"@{name}" = name := by
  have hsigned : (s!"@{name}").toList = '@' :: name.toList := by
    simp [toString, String.toList_append]
  have hblank : ∀ c ∈ '@' :: name.toList, Text.isBlank c = false :=
    List.forall_mem_cons.2 ⟨by decide, h.noBlank⟩
  have hname := congrArg String.toList (tagName_of_isBareTag h)
  rw [toList_tagName, strip_of_noBlank h.noBlank] at hname
  apply String.toList_injective
  rw [toList_tagName, hsigned, strip_of_noBlank hblank, List.dropWhile_cons_of_pos (by decide),
    hname]

namespace TagFilter

/-! ## One filter -/

/-- A name that can be written in a list of filters: it is a bare tag, it is not empty and none of
    the signs between names and filters is in it. -/
structure IsListable (name : String) : Prop where
  nonempty : name ≠ ""
  bare : IsBareTag name
  noPlus : '+' ∉ name.toList
  noComma : ',' ∉ name.toList

/-- A filter that can be written in a list: it asks for names that can be written there, and where
    there is only one it is the filter for a single tag. -/
structure IsWritable (filter : TagFilter) : Prop where
  shape : filter = ofNames filter.names
  nonempty : filter.names ≠ []
  listable : ∀ name ∈ filter.names, IsListable name

theorem isWritable_of_read {item : String} {filter : TagFilter} (hcomma : ',' ∉ item.toList)
    (h : read item = .ok filter) : filter.IsWritable := by
  obtain ⟨hnames, hbare⟩ := names_of_read h
  refine ⟨?_, ?_, fun name hname => ?_⟩
  · rw [hnames]
    exact (eq_ofNames_of_read h).1
  · rw [hnames, Ne, List.map_eq_nil_iff]
    exact Text.splitAt_ne_nil '+' item
  · obtain ⟨hnonempty, hbare⟩ := hbare name hname
    rw [hnames] at hname
    obtain ⟨part, hpart, rfl⟩ := List.mem_map.1 hname
    -- a name has no characters but those of its part
    have hsubset : ∀ c ∈ (tagName part).toList, c ∈ part.toList := by
      intro c hc
      rw [toList_tagName] at hc
      exact (Text.strip_isInfix part.toList).subset ((List.dropWhile_sublist _).subset hc)
    exact ⟨hnonempty, hbare,
      fun hplus => Text.not_mem_of_mem_splitAt hpart (hsubset _ hplus),
      fun hc => hcomma (Text.mem_of_mem_splitAt hpart (hsubset _ hc))⟩

theorem toList_text (filter : TagFilter) :
    filter.text.toList = ['+'].intercalate (filter.names.map fun name => '@' :: name.toList) := by
  simp [text, toString, Function.comp_def]

/-- A filter that is written is read back. -/
theorem IsWritable.read_text {filter : TagFilter} (h : filter.IsWritable) :
    read filter.text = .ok filter := by
  have hpieces : Text.splitAt '+' filter.text = filter.names.map fun name => s!"@{name}" := by
    refine Text.splitAt_intercalate (List.forall_mem_map.2 fun name hname => ?_)
      (by simpa using h.nonempty)
    simpa [toString, String.toList_append] using (h.listable name hname).noPlus
  have hnames : (Text.splitAt '+' filter.text).map tagName = filter.names := by
    rw [hpieces, List.map_map]
    conv_rhs => rw [← List.map_id filter.names]
    exact List.map_congr_left fun name hname => tagName_signed (h.listable name hname).bare
  have hall : filter.names.all isName = true := by
    rw [List.all_eq_true]
    exact fun name hname => isName_iff.2
      ⟨(h.listable name hname).nonempty, (h.listable name hname).bare.noBlank⟩
  rw [read_eq, hnames, if_pos hall, ← h.shape]

/-- A filter that is written is an item of a list that is not blank. -/
theorem IsWritable.item {filter : TagFilter} (h : filter.IsWritable) :
    ',' ∉ filter.text.toList ∧ Text.trim filter.text ≠ "" := by
  constructor
  · rw [toList_text]
    intro hcomma
    rcases Text.mem_of_mem_intercalate hcomma with hplus | ⟨piece, hpiece, hmem⟩
    · simp at hplus
    · obtain ⟨name, hname, rfl⟩ := List.mem_map.1 hpiece
      exact (h.listable name hname).noComma (by simpa using hmem)
  · intro hblank
    obtain ⟨name, hname⟩ := List.exists_mem_of_ne_nil _ h.nonempty
    have hsign : '@' ∈ filter.text.toList := by
      rw [toList_text]
      exact Text.mem_intercalate (List.mem_map_of_mem hname) List.mem_cons_self
    have hkept : '@' ∈ (Text.trim filter.text).toList := by
      rw [Text.toList_trim]
      exact Text.mem_strip (by decide) hsign
    rw [hblank] at hkept
    cases hkept

/-! ## Lists of filters -/

/-- The items of a list: what stands between its commas and is not blank. -/
def items (text : String) : List String :=
  (Text.splitAt ',' text).filter fun item => !(Text.trim item).isEmpty

theorem readList_eq (text : String) : readList text = (items text).mapM read := rfl

/-- Filters that can be written are read back from the list of them. -/
theorem readList_intercalate {filters : List TagFilter}
    (h : ∀ filter ∈ filters, filter.IsWritable) :
    readList (",".intercalate (filters.map text)) = .ok filters := by
  by_cases hnil : filters = []
  · subst hnil
    decide +kernel
  · have hpieces : Text.splitAt ',' (",".intercalate (filters.map text)) = filters.map text := by
      refine Text.splitAt_intercalate (List.forall_mem_map.2 fun filter hfilter => ?_)
        (by simpa using hnil)
      exact (h filter hfilter).item.1
    -- no item is blank, so none is dropped
    have hitems : items (",".intercalate (filters.map text)) = filters.map text := by
      rw [items, hpieces, List.filter_eq_self, List.forall_mem_map]
      intro filter hfilter
      simpa using (h filter hfilter).item.2
    rw [readList_eq, hitems, mapM_eq_ok_iff, List.forall₂_map_left_iff, List.forall₂_same]
    exact fun filter hfilter => (h filter hfilter).read_text

/-- An item is refused if a name between its plus signs is empty or has a blank in it. -/
theorem exists_read_eq_error_iff {item : String} :
    (∃ fault, read item = .error fault) ↔ ∃ part ∈ Text.splitAt '+' item,
      tagName part = "" ∨ ∃ c ∈ (tagName part).toList, Text.isBlank c = true := by
  have hnames : ((Text.splitAt '+' item).map tagName).all isName = false ↔
      ∃ part ∈ Text.splitAt '+' item,
        tagName part = "" ∨ ∃ c ∈ (tagName part).toList, Text.isBlank c = true := by
    rw [← Bool.not_eq_true, List.all_eq_true, List.forall_mem_map]
    simp only [isName_iff]
    push Not
    refine exists_congr fun part => and_congr_right fun _ => ?_
    rw [or_iff_not_imp_left]
    simp
  rw [← hnames, read_eq]
  cases ((Text.splitAt '+' item).map tagName).all isName <;> simp

/-- Lists of filters are read and written consistently. What is read from a list is read back from
    the list of its filters. Each filter has names, all of them bare tags that are not empty, and
    accepts the sets that have all names between the plus signs of its item. A list is refused just
    in case one of its items has an empty name or one with a blank in it. -/
theorem readList_written (text : String) :
    (∀ filters, readList text = .ok filters →
      readList (",".intercalate (filters.map TagFilter.text)) = .ok filters ∧
        (∀ filter ∈ filters, filter.names ≠ [] ∧ ∀ name ∈ filter.names,
          name ≠ "" ∧ (∀ c ∈ name.toList, Text.isBlank c = false) ∧
            name.toList.head? ≠ some '@') ∧
        List.Forall₂ (fun item filter => ∀ tags : TagSet, filter.accepts tags = true ↔
          ∀ part ∈ Text.splitAt '+' item, tagName part ∈ tags.names) (items text) filters) ∧
      ((∃ fault, readList text = .error fault) ↔
        ∃ item ∈ items text, ∃ part ∈ Text.splitAt '+' item,
          tagName part = "" ∨ ∃ c ∈ (tagName part).toList, Text.isBlank c = true) := by
  constructor
  · intro filters h
    rw [readList_eq, mapM_eq_ok_iff] at h
    -- no item has a comma in it, so that writing the filters between commas keeps them apart
    have hwritable : ∀ filter ∈ filters, filter.IsWritable := by
      intro filter hfilter
      obtain ⟨item, hitem, hread⟩ := exists_of_forall₂_right h hfilter
      have hcomma := Text.not_mem_of_mem_splitAt (List.mem_filter.1 hitem).1
      exact isWritable_of_read hcomma hread
    refine ⟨readList_intercalate hwritable, fun filter hfilter => ?_,
      h.imp fun item filter hread => ?_⟩
    · refine ⟨(hwritable filter hfilter).nonempty, fun name hname => ?_⟩
      have hlistable := (hwritable filter hfilter).listable name hname
      exact ⟨hlistable.nonempty, hlistable.bare.noBlank, hlistable.bare.noSign⟩
    · intro tags
      obtain ⟨hnames, hbare⟩ := names_of_read hread
      rw [accepts_iff fun name hname => (hbare name hname).2, hnames, List.forall_mem_map]
  · rw [readList_eq, exists_mapM_eq_error_iff]
    exact exists_congr fun item => and_congr_right fun _ => exists_read_eq_error_iff

/-- A list with blanks, empty items, repeated signs and a filter of one tag and one of two. -/
example : readList " @smoke , ,@@web+slow,," = .ok [.tag "smoke", .all ["web", "slow"]] ∧
    ([.tag "smoke", .all ["web", "slow"]].map text) = ["@smoke", "@web+@slow"] := by
  decide +kernel

end TagFilter

end Gherkin
