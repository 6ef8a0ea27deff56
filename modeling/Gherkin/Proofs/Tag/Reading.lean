/-
  Gherkin.Proofs.Tag.Reading

  Filters as they are read. A filter asks for the names between the plus signs of
  its text, and each of them is a bare tag that is not empty. So a tag set meets a
  filter just in case the names are in it as they stand.
-/
import Gherkin.Proofs.Tag.Set
import Gherkin.Tag.Filter
import Mathlib.Data.List.Forall2

namespace Gherkin

/-- What is done to all members of a list succeeds just in case it does for each of them. -/
theorem mapM_eq_ok_iff {f : α → Except ε β} {xs : List α} {ys : List β} :
    xs.mapM f = .ok ys ↔ List.Forall₂ (fun x y => f x = .ok y) xs ys := by
  induction xs generalizing ys with
  | nil =>
    rw [List.forall₂_nil_left_iff]
    exact ⟨fun h => (Except.ok.inj h).symm, fun h => h ▸ rfl⟩
  | cons x xs ih =>
    rw [List.mapM_cons, List.forall₂_cons_left_iff]
    cases hfirst : f x with
    | error fault => simp [bind, Except.bind]
    | ok y =>
      cases hrest : xs.mapM f with
      | error fault => simp [bind, Except.bind, ← ih, hrest]
      | ok rest => simp [bind, Except.bind, pure, Except.pure, ← ih, hrest, eq_comm]

/-- What is done to all members of a list fails just in case it does for one of them. -/
theorem exists_mapM_eq_error_iff {f : α → Except ε β} {xs : List α} :
    (∃ fault, xs.mapM f = .error fault) ↔ ∃ x ∈ xs, ∃ fault, f x = .error fault := by
  induction xs with
  | nil => simp [pure, Except.pure]
  | cons x xs ih =>
    rw [List.mapM_cons, List.exists_mem_cons_iff, ← ih]
    cases hfirst : f x with
    | error fault => simp [bind, Except.bind]
    | ok y => cases xs.mapM f <;> simp [bind, Except.bind, pure, Except.pure]

theorem exists_of_forall₂_right {R : α → β → Prop} {xs : List α} {ys : List β}
    (h : List.Forall₂ R xs ys) {y : β} (hy : y ∈ ys) : ∃ x ∈ xs, R x y := by
  obtain ⟨i, hi, rfl⟩ := List.getElem_of_mem hy
  have hi' : i < xs.length := h.length_eq ▸ hi
  exact ⟨xs[i], List.getElem_mem hi', (List.forall₂_iff_get.1 h).2 i hi' hi⟩

/-! ## Names in filters -/

namespace TagFilter

theorem isName_iff {name : String} :
    isName name = true ↔ name ≠ "" ∧ ∀ c ∈ name.toList, Text.isBlank c = false := by
  simp [isName]

/-- A name that may be written in a filter is a bare tag. -/
theorem isBareTag_of_isName {tag : String} (h : isName (tagName tag) = true) :
    IsBareTag (tagName tag) where
  noBlank := (isName_iff.1 h).2
  noSign := by
    rw [toList_tagName]
    intro hsign
    have hfirst := List.head?_dropWhile_not (· == '@') (Text.strip tag.toList)
    rw [hsign] at hfirst
    simp at hfirst

/-- The filter for some names: for a single tag if there is only one. -/
def ofNames : List String → TagFilter
  | [name] => .tag name
  | names => .all names

@[simp] theorem names_ofNames (names : List String) : (ofNames names).names = names := by
  unfold ofNames
  split <;> rfl

/-- A filter is made of the names between the plus signs, if all of them can be written in
    filters. -/
theorem read_eq (text : String) :
    read text =
      if ((Text.splitAt '+' text).map tagName).all isName then
        .ok (ofNames ((Text.splitAt '+' text).map tagName))
      else .error (.tagExpression "tag filter" (Text.trim text)) := by
  rw [read]
  generalize hnames : (Text.splitAt '+' text).map tagName = names
  split
  next hall =>
    -- the names are normalised once more, which changes nothing
    have hsame : names.map tagName = names := by
      conv_rhs => rw [← List.map_id names]
      refine List.map_congr_left fun name hname => ?_
      have hisName := List.all_eq_true.1 hall name hname
      obtain ⟨tag, -, rfl⟩ := List.mem_map.1 (hnames ▸ hname)
      exact tagName_of_isBareTag (isBareTag_of_isName hisName)
    obtain _ | ⟨name, _ | ⟨second, rest⟩⟩ := names
    · rfl
    · exact congrArg (fun name => Except.ok (TagFilter.tag name)) (List.cons.inj hsame).1
    · exact congrArg (fun names => Except.ok (TagFilter.all names)) hsame
  next => rfl

/-- A filter that is read is the one for the names between the plus signs, which can be written in
    filters. -/
theorem eq_ofNames_of_read {text : String} {filter : TagFilter} (h : read text = .ok filter) :
    filter = ofNames ((Text.splitAt '+' text).map tagName) ∧
      ∀ name ∈ (Text.splitAt '+' text).map tagName, name ≠ "" ∧ IsBareTag name := by
  rw [read_eq] at h
  split at h
  next hall =>
    refine ⟨(Except.ok.inj h).symm, fun name hname => ?_⟩
    have hisName := List.all_eq_true.1 hall name hname
    obtain ⟨tag, -, rfl⟩ := List.mem_map.1 hname
    exact ⟨(isName_iff.1 hisName).1, isBareTag_of_isName hisName⟩
  next => cases h

/-- A filter that is read asks for the names between the plus signs. -/
theorem names_of_read {text : String} {filter : TagFilter} (h : read text = .ok filter) :
    filter.names = (Text.splitAt '+' text).map tagName ∧
      ∀ name ∈ filter.names, name ≠ "" ∧ IsBareTag name := by
  obtain ⟨rfl, hnames⟩ := eq_ofNames_of_read h
  rw [names_ofNames]
  exact ⟨rfl, hnames⟩

/-- The filters of a list that is read are read from its items. -/
theorem exists_read_of_readList {text : String} {filters : List TagFilter}
    (h : readList text = .ok filters) {filter : TagFilter} (hfilter : filter ∈ filters) :
    ∃ item, read item = .ok filter := by
  obtain ⟨item, -, hitem⟩ := exists_of_forall₂_right (mapM_eq_ok_iff.1 h) hfilter
  exact ⟨item, hitem⟩

/-- A filter of bare names asks for these names as they stand. -/
theorem accepts_iff {filter : TagFilter} {tags : TagSet}
    (hnames : ∀ name ∈ filter.names, IsBareTag name) :
    filter.accepts tags = true ↔ ∀ name ∈ filter.names, name ∈ tags.names := by
  rw [accepts, List.all_eq_true]
  refine forall₂_congr fun name hname => ?_
  rw [TagSet.contains, tagName_of_isBareTag (hnames name hname), List.contains_iff_mem]

end TagFilter

/-! ## Tags that are merged -/

/-- Bare tags with a character are in what is merged if they are in either set. -/
theorem TagSet.mem_merged_iff {tags parent : TagSet} (hbare : ∀ tag ∈ tags.names, IsBareTag tag)
    {name : String} (hname : name ≠ "") :
    name ∈ (tags.merged parent).names ↔ name ∈ parent.names ∨ name ∈ tags.names := by
  rw [merged, names_extend_of_isBareTag parent hbare, List.mem_append, List.mem_eraseDups,
    List.mem_filter, decide_eq_true_iff]
  by_cases hold : name ∈ parent.names
  · simp [hold]
  · simp [hold, hname]

end Gherkin
