/-
  Gherkin.Proofs.Tag.Insertion

  Tag sets as sets. A tag is normalised when it is inserted and its name once more
  when it is looked up, so that a set is one only for tags whose names are left as
  they are by normalising: those without a blank right behind their at-signs. What
  holds of all sets, whatever was inserted, is told with what holds of sets of such
  tags.
-/
import Gherkin.Proofs.Text.Strip
import Gherkin.Tag.Filter
import Mathlib.Data.List.DropRight
import Mathlib.Data.List.Nodup

namespace Gherkin

/-! ## Names that are normalised again -/

/-- A tag without a blank right behind the at-signs in front. -/
def IsSteadyTag (tag : String) : Prop :=
  ∀ c ∈ (tagName tag).toList.head?, Text.isBlank c = false

instance (tag : String) : Decidable (IsSteadyTag tag) :=
  Option.decidableForallMem (tagName tag).toList.head?

theorem Text.isBlank_getLast_strip (s : List Char) : ∀ c ∈ (strip s).getLast?, isBlank c = false := by
  intro c hc
  rw [strip, dropBlanksRight, List.getLast?_reverse] at hc
  have hfirst := List.head?_dropWhile_not isBlank (dropBlanks s).reverse
  rw [Option.mem_def, dropBlanks] at hc
  rw [hc] at hfirst
  simpa using hfirst

/-- Normalising leaves the name of a tag as it is just in case the tag is steady. -/
theorem tagName_tagName_iff {tag : String} :
    tagName (tagName tag) = tagName tag ↔ IsSteadyTag tag := by
  let name := (tagName tag).toList
  have hname : name = (Text.strip tag.toList).dropWhile (· == '@') := toList_tagName tag
  have hagain : (tagName (tagName tag)).toList = (Text.strip name).dropWhile (· == '@') :=
    toList_tagName _
  constructor
  · intro hsame
    -- a name that were shortened at its start would not come back
    have hlength := congrArg List.length (hagain.symm.trans (congrArg String.toList hsame))
    have hsigns : ((Text.strip name).dropWhile (· == '@')).length ≤ (Text.strip name).length :=
      List.length_dropWhile_le _ _
    have hright : (Text.strip name).length ≤ (Text.dropBlanks name).length := by
      have hreverse : (Text.dropBlanks name).reverse.length = (Text.dropBlanks name).length :=
        List.length_reverse
      rw [Text.strip, Text.dropBlanksRight, List.length_reverse, ← hreverse]
      exact List.length_dropWhile_le _ _
    have hlong : name.length ≤ (Text.dropBlanks name).length :=
      Nat.le_trans (Nat.le_of_eq hlength.symm) (Nat.le_trans hsigns hright)
    exact Text.dropBlanks_eq_self_iff.1
      ((List.dropWhile_suffix Text.isBlank).eq_of_length_le hlong)
  · intro hsteady
    have hlast : ∀ c ∈ name.getLast?, Text.isBlank c = false := by
      intro c hc
      refine Text.isBlank_getLast_strip tag.toList c ?_
      obtain ⟨before, hsplit⟩ := List.dropWhile_suffix (l := Text.strip tag.toList) (· == '@')
      rw [← hname] at hsplit
      rw [← hsplit, List.getLast?_append, Option.mem_def.1 hc]
      rfl
    apply String.toList_injective
    rw [hagain, Text.strip_eq_self hsteady hlast]
    show name.dropWhile (· == '@') = name
    rw [hname, List.dropWhile_idempotent]

/-! ## What an insertion does -/

namespace TagSet

variable {tags : TagSet} {tag : String}

theorem names_insert_of_admits (h : tags.admits tag = true) :
    (tags.insert tag).names = tags.names ++ [tagName tag] := by
  rw [insert, if_pos h]

theorem insert_of_not_admits (h : tags.admits tag = false) : tags.insert tag = tags := by
  rw [insert, if_neg (by simp [h])]

/-- A steady tag is added if it has a name that the set does not hold. -/
theorem admits_iff (h : IsSteadyTag tag) :
    tags.admits tag = true ↔ tagName tag ≠ "" ∧ tagName tag ∉ tags.names := by
  rw [admits, contains, tagName_tagName_iff.2 h]
  simp

/-- A tag is refused just in case it is held already or has no name. -/
theorem admits_eq_false_iff (h : IsSteadyTag tag) :
    tags.admits tag = false ↔ tags.contains tag = true ∨ tagName tag = "" := by
  rw [← Bool.not_eq_true, admits_iff h, contains, List.contains_iff_mem, not_and_or, not_not,
    not_not, or_comm]

/-- The name of a steady tag is in the set after it was inserted, if it has one. -/
theorem tagName_mem_insert (h : IsSteadyTag tag) (hname : tagName tag ≠ "") :
    tagName tag ∈ (tags.insert tag).names := by
  cases hadmits : tags.admits tag with
  | true =>
    rw [names_insert_of_admits hadmits]
    exact List.mem_append_right _ (List.mem_singleton_self _)
  | false =>
    rw [insert_of_not_admits hadmits]
    rw [admits_eq_false_iff h, contains, List.contains_iff_mem] at hadmits
    exact hadmits.resolve_right hname

/-! ## Sets that are made -/

/-- The sets that operations make from tags of some kind, the empty set being there. -/
inductive MadeOf (p : String → Prop) : TagSet → Prop
  | empty : MadeOf p .empty
  | insert {tags : TagSet} (h : MadeOf p tags) {tag : String} (htag : p tag) :
      MadeOf p (tags.insert tag)
  | extend {tags : TagSet} (h : MadeOf p tags) {more : List String} (hmore : ∀ tag ∈ more, p tag) :
      MadeOf p (tags.extend more)
  | ofList {more : List String} (hmore : ∀ tag ∈ more, p tag) : MadeOf p (ofList more)
  | merged {tags parent : TagSet} (h : MadeOf p tags) (hparent : MadeOf p parent) :
      MadeOf p (tags.merged parent)

variable {p : String → Prop}

/-- What the empty set has and what is kept when a tag of the kind, or a name from the set itself, is
    inserted, all sets have that are made of such tags. -/
theorem MadeOf.induct {P : TagSet → Prop} {q : String → Prop} (hempty : P .empty)
    (hinsert : ∀ tags tag, P tags → p tag ∨ q tag → P (tags.insert tag))
    (hnames : ∀ tags, P tags → ∀ name ∈ tags.names, q name) (h : MadeOf p tags) : P tags := by
  have hextend (more : List String) :
      ∀ tags, P tags → (∀ tag ∈ more, p tag ∨ q tag) → P (tags.extend more) := by
    induction more with
    | nil => exact fun tags htags _ => htags
    | cons tag more ih =>
      intro tags htags hmore
      rw [extend_cons]
      have hfirst := hinsert tags tag htags (hmore tag List.mem_cons_self)
      exact ih _ hfirst fun other hother => hmore other (List.mem_cons_of_mem _ hother)
  -- merging inserts names that were normalised before, not tags of the kind
  induction h with
  | empty => exact hempty
  | insert _ htag ih => exact hinsert _ _ ih (.inl htag)
  | extend _ hmore ih => exact hextend _ _ ih fun tag htag => .inl (hmore tag htag)
  | ofList hmore => exact hextend _ _ hempty fun tag htag => .inl (hmore tag htag)
  | merged _ _ ih ihparent =>
    exact hextend _ _ ihparent fun tag htag => .inr (hnames _ ih tag htag)

/-- No name is empty. -/
theorem MadeOf.named (h : MadeOf p tags) : ∀ name ∈ tags.names, name ≠ "" := by
  refine h.induct (P := fun tags => ∀ name ∈ tags.names, name ≠ "") (q := fun _ => True)
    (by simp [TagSet.empty]) ?_ fun _ _ _ _ => trivial
  intro tags tag htags _
  cases hadmits : tags.admits tag with
  | true =>
    rw [names_insert_of_admits hadmits, List.forall_mem_append, List.forall_mem_singleton]
    rw [admits, Bool.and_eq_true, Bool.not_eq_true', ← Bool.not_eq_true, String.isEmpty_iff]
      at hadmits
    exact ⟨htags, hadmits.1⟩
  | false => rwa [insert_of_not_admits hadmits]

/-- A name that normalising leaves as it is stands in a set at most once. -/
theorem MadeOf.count_le_one (h : MadeOf p tags) {name : String} (hname : tagName name = name) :
    tags.names.count name ≤ 1 := by
  refine h.induct (P := fun tags => tags.names.count name ≤ 1) (q := fun _ => True)
    (by simp [TagSet.empty]) ?_ fun _ _ _ _ => trivial
  intro tags tag htags _
  cases hadmits : tags.admits tag with
  | true =>
    rw [names_insert_of_admits hadmits, List.count_append, List.count_singleton]
    split
    next heq =>
      rw [beq_iff_eq] at heq
      obtain ⟨-, hnew⟩ : name ≠ "" ∧ name ∉ tags.names := by
        simpa [admits, contains, heq, hname] using hadmits
      rw [List.count_eq_zero.2 hnew]
    next => exact htags
  | false => rwa [insert_of_not_admits hadmits]

/-- Names made of steady tags are left as they are by normalising. -/
theorem MadeOf.tagName_eq (h : MadeOf p tags) (hp : ∀ tag, p tag → IsSteadyTag tag) :
    ∀ name ∈ tags.names, tagName name = name := by
  refine h.induct (P := fun tags => ∀ name ∈ tags.names, tagName name = name)
    (q := fun name => tagName name = name) (by simp [TagSet.empty]) ?_ fun _ htags => htags
  intro tags tag htags htag
  cases hadmits : tags.admits tag with
  | true =>
    rw [names_insert_of_admits hadmits, List.forall_mem_append, List.forall_mem_singleton]
    refine ⟨htags, ?_⟩
    rcases htag with htag | htag
    · exact tagName_tagName_iff.2 (hp tag htag)
    · rw [htag, htag]
  | false => rwa [insert_of_not_admits hadmits]

/-- Different names that are not in a set yet are added to it as they are. -/
theorem names_extend_of_nodup {more : List String} (hnodup : more.Nodup)
    (hmore : ∀ name ∈ more, name ≠ "" ∧ tagName name = name ∧ name ∉ tags.names) :
    (tags.extend more).names = tags.names ++ more := by
  induction more generalizing tags with
  | nil => simp
  | cons name more ih =>
    obtain ⟨hnew, hrest⟩ := List.nodup_cons.1 hnodup
    obtain ⟨hnonempty, hname, habsent⟩ := hmore name List.mem_cons_self
    have hadmits : tags.admits name = true := by
      simp [admits, contains, hname, hnonempty, habsent]
    have hnames := names_insert_of_admits hadmits
    rw [hname] at hnames
    rw [extend_cons, ih hrest, hnames, List.append_assoc, List.singleton_append]
    intro other hother
    obtain ⟨hnonempty', hname', habsent'⟩ := hmore other (List.mem_cons_of_mem _ hother)
    refine ⟨hnonempty', hname', ?_⟩
    rw [hnames, List.mem_append, List.mem_singleton, not_or]
    exact ⟨habsent', fun heq => hnew (heq ▸ hother)⟩

/-- A set of different names that normalising leaves as they are is not changed by being put into
    the empty set. -/
theorem merged_empty_of_nodup (hnodup : tags.names.Nodup)
    (hnames : ∀ name ∈ tags.names, name ≠ "" ∧ tagName name = name) :
    tags.merged .empty = tags := by
  have hextend : (TagSet.empty.extend tags.names).names = tags.names := by
    refine names_extend_of_nodup hnodup fun name hname => ?_
    exact ⟨(hnames name hname).1, (hnames name hname).2, List.not_mem_nil⟩
  exact congrArg TagSet.mk hextend

/-- The laws of tag sets. Whatever a set is made of, it has no empty name, what normalising leaves as
    it is stands in it at most once, and it is not changed by merging the empty set into it. Made of
    steady tags it has each name once and is not changed by being merged into the empty set. A steady
    tag is refused just in case the set holds it or it has no name, and once it is inserted it is
    found by itself, by its name and by its filter. -/
theorem MadeOf.isSet (h : MadeOf p tags) :
    (∀ name ∈ tags.names, name ≠ "") ∧
      (∀ name, tagName name = name → tags.names.count name ≤ 1) ∧
      TagSet.empty.merged tags = tags ∧
      ((∀ tag, p tag → IsSteadyTag tag) → tags.names.Nodup ∧ tags.merged .empty = tags) ∧
      ∀ tag, IsSteadyTag tag →
        (tags.admits tag = false ↔ tags.contains tag = true ∨ tagName tag = "") ∧
          (tagName tag ≠ "" →
            tagName tag ∈ (tags.insert tag).names ∧ (tags.insert tag).contains tag = true ∧
              (tags.insert tag).contains (tagName tag) = true ∧
              (TagFilter.ofTag tag).accepts (tags.insert tag) = true) := by
  refine ⟨h.named, fun _ => h.count_le_one, empty_merged tags, fun hp => ?_, fun tag htag => ?_⟩
  -- a steady name is what normalising makes of it, so that counting it once is enough
  · have hsame := h.tagName_eq hp
    have hnodup : tags.names.Nodup := by
      rw [List.nodup_iff_count_le_one]
      intro name
      by_cases hname : name ∈ tags.names
      · exact h.count_le_one (hsame name hname)
      · rw [List.count_eq_zero.2 hname]
        exact Nat.zero_le 1
    exact ⟨hnodup, merged_empty_of_nodup hnodup fun name hname =>
      ⟨h.named name hname, hsame name hname⟩⟩
  · refine ⟨admits_eq_false_iff htag, fun hname => ?_⟩
    have hmem : tagName tag ∈ (tags.insert tag).names := tagName_mem_insert htag hname
    have hcontains : (tags.insert tag).contains tag = true := List.contains_iff_mem.2 hmem
    have hagain : (tags.insert tag).contains (tagName tag) = true := by
      rwa [contains, tagName_tagName_iff.2 htag]
    refine ⟨hmem, hcontains, hagain, ?_⟩
    rw [TagFilter.accepts, TagFilter.ofTag, TagFilter.names, List.all_cons, List.all_nil, hagain]
    rfl

/-- A set made of tags with blanks and at-signs in many places, none right behind the at-signs in
    front. -/
theorem MadeOf.isSet_signs :
    ∃ tags : TagSet, MadeOf IsSteadyTag tags ∧ tags.names = ["web", "wip", "two @words"] ∧
      tags.names.Nodup ∧ tags.merged .empty = tags ∧ tags.admits "@wip " = false ∧
      (tags.insert " @@new@").contains "new@" = true := by
  have hchild : MadeOf IsSteadyTag (TagSet.ofList ["@@wip", " wip", "@two @words "]) :=
    .ofList (by decide +kernel)
  have hmade : MadeOf IsSteadyTag ((TagSet.ofList ["@@wip", " wip", "@two @words "]).merged
      (TagSet.empty.insert "\t@web")) :=
    hchild.merged (MadeOf.empty.insert (by decide +kernel))
  obtain ⟨-, -, -, hsteady, htags⟩ := hmade.isSet
  obtain ⟨hnodup, hmerged⟩ := hsteady fun _ htag => htag
  refine ⟨_, hmade, by decide +kernel, hnodup, hmerged, ?_, ?_⟩
  · exact (htags "@wip " (by decide +kernel)).1.2 (.inl (by decide +kernel))
  · have hname : tagName " @@new@" = "new@" := by decide +kernel
    have hinserted := (htags " @@new@" (by decide +kernel)).2 (by decide +kernel)
    rw [hname] at hinserted
    exact hinserted.2.2.1

/-- A tag with a blank right behind its at-sign is held by a set under a name that is not found, is
    added again, and is changed by merging with the empty set. -/
theorem insert_blankBehindSign :
    ∃ tags : TagSet, tags = TagSet.empty.insert "@ a" ∧ MadeOf (fun _ => True) tags ∧
      tagName "@ a" ≠ "" ∧ tags.contains "@ a" = true ∧ tags.admits "@ a" = true ∧
      ¬ (tags.insert "@ a").names.Nodup ∧ tags.contains (tagName "@ a") = false ∧
      (TagFilter.ofTag "@ a").accepts tags = false ∧ tags.merged .empty ≠ tags :=
  ⟨_, rfl, MadeOf.empty.insert trivial, by decide +kernel, by decide +kernel, by decide +kernel,
    by decide +kernel, by decide +kernel, by decide +kernel, by decide +kernel⟩

end TagSet

end Gherkin
