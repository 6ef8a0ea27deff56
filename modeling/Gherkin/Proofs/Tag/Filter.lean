/-
  Gherkin.Proofs.Tag.Filter

  Filters on tags that are inherited. A set holds what it held after tags were
  added to it, and so what accepts the tags of an entity accepts those of all
  that stands in it.
-/
import Gherkin.Tag.Filter

namespace Gherkin

namespace TagSet

variable {tags : TagSet} {tag : String}

theorem contains_insert (h : tags.contains tag = true) (other : String) :
    (tags.insert other).contains tag = true := by
  unfold insert
  split
  · unfold contains at h ⊢
    rw [List.contains_iff_mem] at h ⊢
    exact List.mem_append_left _ h
  · exact h

theorem contains_extend (h : tags.contains tag = true) (more : List String) :
    (tags.extend more).contains tag = true := by
  induction more generalizing tags with
  | nil => exact h
  | cons other more ih =>
    rw [extend_cons]
    exact ih (contains_insert h other)

/-- An entity carries the tags of what it stands in. -/
theorem contains_merged {parent : TagSet} (h : parent.contains tag = true) (tags : TagSet) :
    (tags.merged parent).contains tag = true := contains_extend h tags.names

end TagSet

namespace TagFilter

variable {parent : TagSet}

theorem accepts_merged {filter : TagFilter} (h : filter.accepts parent = true) (tags : TagSet) :
    filter.accepts (tags.merged parent) = true := by
  unfold accepts at h ⊢
  rw [List.all_eq_true] at h ⊢
  exact fun name hname => TagSet.contains_merged (h name hname) tags

theorem someAccepts_merged {filters : List TagFilter} (h : someAccepts filters parent = true)
    (tags : TagSet) : someAccepts filters (tags.merged parent) = true := by
  unfold someAccepts at h ⊢
  rw [List.any_eq_true] at h ⊢
  obtain ⟨filter, hfilter, haccepts⟩ := h
  exact ⟨filter, hfilter, accepts_merged haccepts tags⟩

end TagFilter

namespace TagPolicy

/-- There are no filters that let through, or one of them accepts the tags. -/
def LetsThrough (policy : TagPolicy) (tags : TagSet) : Prop :=
  policy.including = [] ∨ TagFilter.someAccepts policy.including tags = true

instance (policy : TagPolicy) (tags : TagSet) : Decidable (policy.LetsThrough tags) :=
  inferInstanceAs (Decidable (_ ∨ _))

theorem runs_iff {policy : TagPolicy} {tags : TagSet} :
    policy.runs tags = true ↔
      policy.LetsThrough tags ∧ TagFilter.someAccepts policy.excluding tags = false := by
  simp only [runs, LetsThrough, Bool.and_eq_true, Bool.or_eq_true, Bool.not_eq_true',
    List.isEmpty_iff]

/-- Where a policy runs an entity, it runs what the entity stands in just in case it is let through;
    the filters that keep out do not matter. -/
theorem runs_iff_of_runs_merged {policy : TagPolicy} {tags parent : TagSet}
    (h : policy.runs (tags.merged parent) = true) :
    policy.runs parent = true ↔ policy.LetsThrough parent := by
  rw [runs_iff]
  refine and_iff_left ?_
  rw [← Bool.not_eq_true]
  intro hkept
  have hkeptToo := TagFilter.someAccepts_merged hkept tags
  rw [(runs_iff.1 h).2] at hkeptToo
  exact Bool.false_ne_true hkeptToo

end TagPolicy

end Gherkin
