/-
  Gherkin.Proofs.Tag.Merging

  Merging as an ordered union. What is merged are the tags of the parent and,
  behind them, those that it lacks, in order. For sets that are made of tags
  without blanks no tag comes twice, a set merged with itself or with the empty set
  stays as it is, and of three sets it does not matter which two are merged first.
-/
import Gherkin.Document.Selection
import Gherkin.Proofs.Tag.Insertion
import Gherkin.Proofs.Tag.Set

namespace Gherkin

/-- A tag without blanks in it. -/
def IsBlankFree (tag : String) : Prop := ∀ c ∈ tag.toList, Text.isBlank c = false

instance (tag : String) : Decidable (IsBlankFree tag) :=
  List.decidableBAll (fun c => Text.isBlank c = false) tag.toList

/-- Where nothing is repeated nothing is erased. -/
theorem eraseDups_of_nodup {xs : List String} (h : xs.Nodup) : xs.eraseDups = xs := by
  induction xs with
  | nil => rfl
  | cons x xs ih =>
    obtain ⟨hnew, hxs⟩ := List.nodup_cons.1 h
    have hkept : xs.filter (fun y => !y == x) = xs := by
      rw [List.filter_eq_self]
      intro y hy
      have hne : y ≠ x := fun heq => hnew (heq ▸ hy)
      simp [hne]
    rw [List.eraseDups_cons, hkept, ih hxs]

namespace TagSet

variable {a b c tags parent : TagSet}

/-! ## Merging clean sets -/

theorem MadeOf.clean (h : MadeOf IsBlankFree tags) : tags.Clean := by
  refine h.induct (P := Clean) (q := IsBlankFree) clean_empty ?_ ?_
  · rintro tags tag htags (hfree | hfree)
    · exact htags.insert hfree
    · exact htags.insert hfree
  · intro tags htags name hname
    exact (htags.named name hname).2.noBlank

theorem Clean.merged (htags : tags.Clean) (hparent : parent.Clean) : (tags.merged parent).Clean :=
  hparent.extend fun name hname => (htags.named name hname).2.noBlank

/-- The names that the parent lacks come behind its own, in order. -/
theorem Clean.names_merged (h : tags.Clean) (parent : TagSet) :
    (tags.merged parent).names = parent.names ++ tags.names.filter (· ∉ parent.names) := by
  have hbare : ∀ name ∈ tags.names, IsBareTag name := fun name hname => (h.named name hname).2
  have hlacking : (tags.names.filter fun name => name ≠ "" ∧ name ∉ parent.names) =
      tags.names.filter (· ∉ parent.names) := by
    refine List.filter_congr fun name hname => ?_
    simp [(h.named name hname).1]
  rw [TagSet.merged, names_extend_of_isBareTag parent hbare, hlacking,
    eraseDups_of_nodup (h.nodup.filter _)]

theorem Clean.contains_merged_iff (h : tags.Clean) (parent : TagSet) (tag : String) :
    (tags.merged parent).contains tag = true ↔
      tags.contains tag = true ∨ parent.contains tag = true := by
  simp only [contains, List.contains_iff_mem, h.names_merged, List.mem_append, List.mem_filter,
    decide_eq_true_eq]
  by_cases hold : tagName tag ∈ parent.names
  · simp [hold]
  · simp [hold]

/-- A set lacks nothing that it holds. -/
theorem Clean.merged_self (h : tags.Clean) : tags.merged tags = tags := by
  have hnone : tags.names.filter (· ∉ tags.names) = [] := by
    rw [List.filter_eq_nil_iff]
    intro name hname
    simp [hname]
  have hnames : (tags.merged tags).names = tags.names := by
    rw [h.names_merged, hnone, List.append_nil]
  exact congrArg TagSet.mk hnames

/-- It does not matter which two of three clean sets are merged first. -/
theorem Clean.merged_assoc (ha : a.Clean) (hb : b.Clean) (c : TagSet) :
    a.merged (b.merged c) = (a.merged b).merged c := by
  -- the first set adds what neither of the others has, whichever of them is looked at first
  have hboth : a.names.filter (· ∉ (b.merged c).names) =
      (a.names.filter (· ∉ b.names)).filter (· ∉ c.names) := by
    rw [List.filter_filter]
    refine List.filter_congr fun name _ => ?_
    rw [hb.names_merged]
    by_cases hold : name ∈ c.names
    · simp [hold]
    · simp [hold]
  have hnames : (a.merged (b.merged c)).names = ((a.merged b).merged c).names := by
    rw [ha.names_merged, hboth, hb.names_merged, (ha.merged hb).names_merged, ha.names_merged,
      List.filter_append, List.append_assoc]
  exact congrArg TagSet.mk hnames

/-! ## The union -/

/-- Merging is a union that keeps the order, the tags of the parent first. It is idempotent, the
    empty set is neutral, and it is associative: what a scenario inherits from its feature and its
    rule does not depend on which of them its tags are merged with first. -/
theorem MadeOf.merged_union (ha : MadeOf IsBlankFree a) (hb : MadeOf IsBlankFree b)
    (hc : MadeOf IsBlankFree c) :
    (∀ tag, (a.merged b).contains tag = true ↔
        a.contains tag = true ∨ b.contains tag = true) ∧
      (a.merged b).names = b.names ++ a.names.filter (· ∉ b.names) ∧
      (a.merged b).names.Nodup ∧
      a.merged a = a ∧ a.merged .empty = a ∧ TagSet.empty.merged a = a ∧
      a.merged (b.merged c) = (a.merged b).merged c ∧
      ∀ (feature : Feature) (rule : Rule) (scenario : Scenario),
        feature.tags = c → rule.tags = b → scenario.tags = a →
        scenario.tags.merged (feature.inheritedTags (some rule)) =
          (scenario.tags.merged rule.tags).merged (feature.inheritedTags none) := by
  have hassoc : a.merged (b.merged c) = (a.merged b).merged c := ha.clean.merged_assoc hb.clean c
  refine ⟨ha.clean.contains_merged_iff b, ha.clean.names_merged b,
    (ha.clean.merged hb.clean).nodup, ha.clean.merged_self,
    merged_empty_of_nodup ha.clean.nodup ?_, empty_merged a, hassoc, ?_⟩
  · intro name hname
    obtain ⟨hnonempty, hbare⟩ := ha.clean.named name hname
    exact ⟨hnonempty, tagName_of_isBareTag hbare⟩
  · rintro feature rule scenario rfl rfl rfl
    exact hassoc

/-- Tags of a feature, a rule and a scenario, some of them repeated. -/
theorem MadeOf.merged_union_repeated :
    ∃ feature rule scenario : TagSet, MadeOf IsBlankFree feature ∧ MadeOf IsBlankFree rule ∧
      MadeOf IsBlankFree scenario ∧
      (scenario.merged (rule.merged feature)).names = ["web", "slow", "wip", "a@b"] ∧
      scenario.merged (rule.merged feature) = (scenario.merged rule).merged feature ∧
      (scenario.merged rule).names.Nodup ∧ scenario.merged scenario = scenario := by
  have hfeature : MadeOf IsBlankFree (TagSet.ofList ["@web", "slow"]) := .ofList (by decide +kernel)
  have hrule : MadeOf IsBlankFree ((TagSet.ofList ["@@slow", "web"]).insert "wip") :=
    .insert (.ofList (by decide +kernel)) (by decide +kernel)
  have hscenario : MadeOf IsBlankFree (TagSet.ofList ["@a@b", "@wip", "a@b", "@"]) :=
    .ofList (by decide +kernel)
  obtain ⟨-, -, hnodup, hself, -, -, hassoc, -⟩ := hscenario.merged_union hrule hfeature
  exact ⟨_, _, _, hfeature, hrule, hscenario, by decide +kernel, hassoc, hnodup, hself⟩

end TagSet

end Gherkin
