/-
  Gherkin.Proofs.Expression.Group

  The names of the groups in the regular expression of a pattern: the name of a
  placeholder and the number of placeholders of that name before it. Names are
  registered only if they end in no digit, so that the number cannot run into
  the name and no two placeholders share a group, whatever has been registered.
-/
import Gherkin.Proofs.Expression.Reassembly

namespace Gherkin

open Expression (Token isName)

/-! ## Numbered names -/

/-- The last character of a name, which is no digit. -/
def EndsInNoDigit (name : String) : Prop := ∀ c ∈ name.toList.getLast?, c.isDigit = false

/-- Behind a name that ends in no digit the digits of a number can be taken off again. -/
theorem dropWhile_isDigit_numbered {name : String} (h : EndsInNoDigit name) (n : Nat) :
    (s!"{name}{n}").toList.reverse.dropWhile Char.isDigit = name.toList.reverse := by
  have hdigits : ∀ c ∈ (Nat.toDigits 10 n).reverse, c.isDigit = true := by
    intro c hc
    exact Nat.isDigit_of_mem_toDigits (by decide) (by decide) (List.mem_reverse.1 hc)
  rw [toList_numbered, List.reverse_append, List.dropWhile_append_of_pos hdigits]
  cases hlast : name.toList.reverse with
  | nil => rfl
  | cons c rest =>
    have hc : c.isDigit = false := by
      apply h c
      rw [← List.head?_reverse, hlast]
      rfl
    rw [List.dropWhile_cons_of_neg (by simp [hc])]

/-- A numbered name tells both the name and the number. -/
theorem numbered_injective {first second : String} (hfirst : EndsInNoDigit first)
    (hsecond : EndsInNoDigit second) {m n : Nat} (h : s!"{first}{m}" = s!"{second}{n}") :
    first = second ∧ m = n := by
  have hreverse : first.toList.reverse = second.toList.reverse := by
    rw [← dropWhile_isDigit_numbered hfirst m, h, dropWhile_isDigit_numbered hsecond n]
  have hname : first = second := String.toList_inj.1 (List.reverse_injective hreverse)
  subst hname
  have hdigits : Nat.toDigits 10 m = Nat.toDigits 10 n := by
    have hlists := congrArg String.toList h
    rw [toList_numbered, toList_numbered] at hlists
    exact List.append_cancel_left hlists
  refine ⟨rfl, ?_⟩
  have hnumbers := congrArg (Nat.ofDigitChars 10 · 0) hdigits
  simpa using hnumbers

/-! ## The groups of parts -/

/-- The name of a placeholder. -/
def Expression.Token.name? : Token → Option String
  | .literal _ => none
  | .placeholder _ name => some name

/-- The kinds of the known placeholders among tokens with the names of their groups, if some known
    names have been seen before. -/
def groupsOf (kindOf : String → Option Kind) (seen : List String) (tokens : List Token) :
    List (Kind × String) :=
  (parts kindOf seen tokens).filterMap Part.capture?

section Groups

variable {kindOf : String → Option Kind} {seen : List String} {tokens : List Token} {start : Nat}
  {name : String}

theorem groupsOf_literal (text : List Char) :
    groupsOf kindOf seen (.literal text :: tokens) = groupsOf kindOf seen tokens := rfl

theorem groupsOf_unknown (h : kindOf name = none) :
    groupsOf kindOf seen (.placeholder start name :: tokens) = groupsOf kindOf seen tokens := by
  rw [groupsOf, parts_unknown h]
  rfl

theorem groupsOf_known {kind : Kind} (h : kindOf name = some kind) :
    groupsOf kindOf seen (.placeholder start name :: tokens) =
      (kind, s!"{name}{seen.count name}") :: groupsOf kindOf (name :: seen) tokens := by
  rw [groupsOf, parts_known h]
  rfl

/-- A group has the name of a known placeholder, and a number that no placeholder before has. -/
theorem exists_of_mem_groupsOf {kind : Kind} {group : String}
    (h : (kind, group) ∈ groupsOf kindOf seen tokens) :
    ∃ start name n, .placeholder start name ∈ tokens ∧ (kindOf name).isSome = true ∧
      group = s!"{name}{n}" ∧ seen.count name ≤ n := by
  induction tokens generalizing seen with
  | nil => cases h
  | cons token tokens ih =>
    cases token with
    | literal text =>
      obtain ⟨start, name, n, hmem, hrest⟩ := ih h
      exact ⟨start, name, n, List.mem_cons_of_mem _ hmem, hrest⟩
    | placeholder place found =>
      cases hfound : kindOf found with
      | none =>
        rw [groupsOf_unknown hfound] at h
        obtain ⟨start, name, n, hmem, hrest⟩ := ih h
        exact ⟨start, name, n, List.mem_cons_of_mem _ hmem, hrest⟩
      | some kind =>
        rw [groupsOf_known hfound] at h
        rcases List.mem_cons.1 h with heq | hlater
        · obtain ⟨-, rfl⟩ := Prod.mk.inj heq
          exact ⟨place, found, _, List.mem_cons_self, by simp [hfound], rfl, Nat.le_refl _⟩
        · obtain ⟨start, name, n, hmem, hknown, hgroup, hle⟩ := ih hlater
          exact ⟨start, name, n, List.mem_cons_of_mem _ hmem, hknown, hgroup,
            Nat.le_trans List.count_le_count_cons hle⟩

/-- No two groups have the same name, if the known names end in no digit. -/
theorem nodup_groupsOf (hnames : ∀ name, (kindOf name).isSome = true → EndsInNoDigit name) :
    ((groupsOf kindOf seen tokens).map (·.2)).Nodup := by
  induction tokens generalizing seen with
  | nil => exact List.nodup_nil
  | cons token tokens ih =>
    cases token with
    | literal text => exact ih
    | placeholder start name =>
      cases hname : kindOf name with
      | none =>
        rw [groupsOf_unknown hname]
        exact ih
      | some kind =>
        rw [groupsOf_known hname, List.map_cons, List.nodup_cons]
        refine ⟨?_, ih⟩
        intro hmem
        -- a later placeholder of this name has a greater number
        obtain ⟨⟨other, group⟩, hlater, hsame⟩ := List.mem_map.1 hmem
        obtain ⟨-, later, n, -, hknown, hgroup, hle⟩ := exists_of_mem_groupsOf hlater
        have heq : s!"{later}{n}" = s!"{name}{seen.count name}" := hgroup.symm.trans hsame
        obtain ⟨rfl, rfl⟩ := numbered_injective (hnames later hknown)
          (hnames name (by simp [hname])) heq
        rw [List.count_cons_self] at hle
        omega

/-- The group of a known placeholder stands behind those of the known placeholders before it, and
    is numbered by those of its name. -/
theorem getElem?_groupsOf {kind : Kind} (hname : kindOf name = some kind)
    (before after : List Token) :
    (groupsOf kindOf seen (before ++ .placeholder start name :: after))[
        before.countP (Token.isKnown kindOf)]? =
      some (kind, s!"{name}{seen.count name + (before.filterMap Token.name?).count name}") := by
  induction before generalizing seen with
  | nil =>
    rw [List.nil_append, groupsOf_known hname]
    rfl
  | cons token before ih =>
    rw [List.cons_append]
    cases token with
    | literal text =>
      rw [groupsOf_literal, List.countP_cons_of_neg (by simp [Token.isKnown])]
      exact ih
    | placeholder place other =>
      have hnames : (Token.placeholder place other :: before).filterMap Token.name? =
          other :: before.filterMap Token.name? := rfl
      rw [hnames]
      cases hother : kindOf other with
      | none =>
        -- an unknown placeholder has another name, so it is not counted
        have hne : other ≠ name := by
          rintro rfl
          rw [hname] at hother
          cases hother
        rw [groupsOf_unknown hother, List.countP_cons_of_neg (by simp [Token.isKnown, hother]),
          List.count_cons_of_ne hne]
        exact ih
      | some found =>
        rw [groupsOf_known hother, List.countP_cons_of_pos (by simp [Token.isKnown, hother]),
          List.getElem?_cons_succ, ih, List.count_cons, List.count_cons, Nat.add_right_comm,
          Nat.add_assoc]

end Groups

/-- The names of the built-in kinds end in no digit. -/
theorem BuiltinKind.endsInNoDigit_name (kind : BuiltinKind) : EndsInNoDigit kind.name := by
  have hall : ∀ kind ∈ BuiltinKind.all, kind.name.toList.getLast?.any Char.isDigit = false := by
    decide
  intro c hc
  have hlast := hall kind kind.mem_all
  rw [Option.mem_def.1 hc] at hlast
  exact hlast

/-! ## Names of a registry -/

namespace Registry

/-- The placeholders of a registry are told apart by their names, which are names of nothing built
    in and end in no digit. -/
structure WellNamed (registry : Registry) : Prop where
  nodup : registry.names.Nodup
  notBuiltin : ∀ name ∈ registry.names, ∀ kind : BuiltinKind, name ≠ kind.name
  isName : ∀ name ∈ registry.names, isName name.toList = true
  endsInNoDigit : ∀ name ∈ registry.names, EndsInNoDigit name

/-- The registry after a placeholder was offered to it. If it is refused nothing happens. -/
def offer (registry : Registry) (placeholder : Placeholder) : Registry :=
  match (registry.register placeholder).value with
  | .ok after => after
  | .error _ => registry

/-- The registry after placeholders were offered to it, one after the other. -/
def offerAll (registry : Registry) (placeholders : List Placeholder) : Registry :=
  placeholders.foldl offer registry

theorem endsInNoDigit_of_isPlaceholderName {name : String} (h : isPlaceholderName name = true) :
    isName name.toList = true ∧ EndsInNoDigit name := by
  rw [isPlaceholderName, Bool.and_eq_true, Bool.not_eq_true'] at h
  refine ⟨h.1, ?_⟩
  intro c hc
  have hlast := h.2
  rw [Option.mem_def.1 hc] at hlast
  exact hlast

theorem wellNamed_empty : empty.WellNamed where
  nodup := List.nodup_nil
  notBuiltin := by simp [names, empty]
  isName := by simp [names, empty]
  endsInNoDigit := by simp [names, empty]

/-- A name that is registered is new. -/
theorem WellNamed.offer {registry : Registry} (h : registry.WellNamed)
    (placeholder : Placeholder) : (registry.offer placeholder).WellNamed := by
  unfold Registry.offer
  rcases register_cases registry placeholder with
    ⟨fault, -, hvalue⟩ | ⟨hrefusal, after, hvalue, hcustom⟩
  · rw [hvalue]
    exact h
  · rw [hvalue]
    -- what is not refused has a fresh name, which is no built-in one, is lexed as one name and ends
    -- in no digit
    obtain ⟨hbuiltin, hfind, hname, -⟩ := refusal?_eq_none_iff.1 hrefusal
    obtain ⟨hlexed, hdigit⟩ := endsInNoDigit_of_isPlaceholderName hname
    have hnames : after.names = registry.names ++ [placeholder.name] := by
      rw [names, hcustom, List.map_append]
      rfl
    have hfresh : placeholder.name ∉ registry.names := by
      intro hmem
      obtain ⟨other, hother, hsame⟩ := List.mem_map.1 hmem
      have hnone := List.find?_eq_none.1 hfind other hother
      simp [hsame] at hnone
    constructor
    · rw [hnames]
      refine List.nodup_append.2 ⟨h.nodup, List.nodup_singleton _, ?_⟩
      intro name hname other hother heq
      obtain rfl := List.mem_singleton.1 hother
      exact hfresh (heq ▸ hname)
    · rw [hnames, List.forall_mem_append, List.forall_mem_singleton]
      refine ⟨h.notBuiltin, ?_⟩
      rintro kind heq
      rw [Kind.builtin?, heq, BuiltinKind.ofName?_name] at hbuiltin
      cases hbuiltin
    · rw [hnames, List.forall_mem_append, List.forall_mem_singleton]
      exact ⟨h.isName, hlexed⟩
    · rw [hnames, List.forall_mem_append, List.forall_mem_singleton]
      exact ⟨h.endsInNoDigit, hdigit⟩

theorem WellNamed.offerAll {registry : Registry} (h : registry.WellNamed)
    (placeholders : List Placeholder) : (registry.offerAll placeholders).WellNamed := by
  induction placeholders generalizing registry with
  | nil => exact h
  | cons placeholder placeholders ih => exact ih (h.offer placeholder)

theorem WellNamed.of_custom {registry other : Registry} (h : registry.WellNamed)
    (hsame : other.custom = registry.custom) : other.WellNamed := by
  have hnames : other.names = registry.names := by rw [names, names, hsame]
  exact ⟨hnames ▸ h.nodup, hnames ▸ h.notBuiltin, hnames ▸ h.isName, hnames ▸ h.endsInNoDigit⟩

/-- No request makes names that are not told apart, whether it is granted or not. -/
theorem WellNamed.serve {registry : Registry} (h : registry.WellNamed) (request : Request) :
    (registry.serve request).2.WellNamed := by
  cases request with
  | register placeholder =>
    have hoffer : (registry.serve (.register placeholder)).2 = registry.offer placeholder := by
      rw [Registry.serve, Registry.offer]
      cases (registry.register placeholder).value <;> rfl
    rw [hoffer]
    exact h.offer placeholder
  | _ => exact h.of_custom (serve_custom registry _)

theorem wellNamed_call {registries : List Registry} (h : ∀ r ∈ registries, r.WellNamed)
    (place : Nat) (request : Request) :
    ∀ r ∈ (call registries place request).2, r.WellNamed := by
  unfold call
  split
  next => exact h
  next registry hplace =>
    have hafter := (h registry (List.mem_of_getElem? hplace)).serve request
    intro r hr
    rcases List.mem_append.1 hr with hset | hadded
    · rcases List.mem_or_eq_of_mem_set hset with hmem | rfl
      · exact h r hmem
      · exact hafter
    · cases request with
      | copy =>
        obtain rfl := List.mem_singleton.1 hadded
        exact hafter.of_custom rfl
      | _ => cases hadded

/-- Whatever registries have been asked, their names are told apart. -/
theorem wellNamed_calls {registries : List Registry} (h : ∀ r ∈ registries, r.WellNamed)
    (requests : List (Nat × Request)) : ∀ r ∈ (calls registries requests).2, r.WellNamed := by
  induction requests generalizing registries with
  | nil => exact h
  | cons first rest ih => exact ih (wellNamed_call h first.1 first.2)

/-- Whatever name a registry knows ends in no digit. -/
theorem WellNamed.known {registry : Registry} (h : registry.WellNamed) {name : String}
    (hname : (registry.kind? name).isSome = true) : EndsInNoDigit name := by
  obtain ⟨kind, hkind⟩ := Option.isSome_iff_exists.1 hname
  rcases Option.or_eq_some_iff.1 hkind with hbuiltin | ⟨-, hcustom⟩
  · obtain ⟨builtin, hfound, -⟩ := Option.map_eq_some_iff.1 hbuiltin
    rw [← BuiltinKind.name_of_ofName? hfound]
    exact BuiltinKind.endsInNoDigit_name builtin
  · obtain ⟨placeholder, hfind, -⟩ := Option.map_eq_some_iff.1 hcustom
    have hsame : placeholder.name = name := by simpa using List.find?_some hfind
    rw [← hsame]
    exact h.endsInNoDigit _ (List.mem_map_of_mem (List.mem_of_find?_eq_some hfind))

/-! ## Groups of a registry -/

/-- The kinds of the placeholders in a pattern with the names of their groups, from left to
    right. -/
def groupsIn (registry : Registry) (pattern : String) : List (Kind × String) :=
  groupsOf registry.kind? [] (Expression.tokens pattern)

/-- The groups of a pattern belong to its known placeholders, one to each, and no two have the same
    name. -/
structure GroupsApart (registry : Registry) (pattern : String) : Prop where
  nodup : ((registry.groupsIn pattern).map (·.2)).Nodup
  isName : ∀ group ∈ (registry.groupsIn pattern).map (·.2), isName group.toList = true
  kinds : (registry.groupsIn pattern).map (·.1) = registry.kindsIn pattern
  length : (registry.groupsIn pattern).length = registry.placeholderCount pattern
  /-- The group of a placeholder is its name and the number of those of its name before it. -/
  numbered : ∀ before start name kind after,
    Expression.tokens pattern = before ++ .placeholder start name :: after →
    registry.kind? name = some kind →
    (registry.groupsIn pattern)[before.countP (Token.isKnown registry.kind?)]? =
      some (kind, s!"{name}{(before.filterMap Token.name?).count name}")
  /-- They are the groups of the expression that is made for the pattern. -/
  compiled : ∀ e, registry.expression? pattern = some e →
    e.placeholders = registry.groupsIn pattern

theorem isName_of_mem_groupsIn {registry : Registry} {pattern group : String}
    (h : group ∈ (registry.groupsIn pattern).map (·.2)) : isName group.toList = true := by
  obtain ⟨⟨kind, _⟩, hmem, rfl⟩ := List.mem_map.1 h
  obtain ⟨start, name, n, htoken, -, rfl, -⟩ := exists_of_mem_groupsOf hmem
  exact isName_numbered (Expression.isName_of_mem_tokens htoken) n

theorem WellNamed.groupsApart {registry : Registry} (h : registry.WellNamed) (pattern : String) :
    registry.GroupsApart pattern where
  nodup := nodup_groupsOf fun _ hname => h.known hname
  isName _ := isName_of_mem_groupsIn
  kinds := map_fst_capture? _ _ _
  length := length_filterMap_capture? _ _ _
  numbered := by
    intro before start name kind after htokens hname
    rw [groupsIn, htokens, getElem?_groupsOf hname]
    simp
  compiled e he := by
    rw [Expression.placeholders, (Expression.pattern_of_ofPattern? he).2]
    rfl

/-- Whatever placeholders are offered to a registry, and whichever of them it refuses, no two
    groups of a pattern have the same name. -/
theorem groups_offerAll (placeholders : List Placeholder) (pattern : String) :
    (empty.offerAll placeholders).WellNamed ∧
      (empty.offerAll placeholders).GroupsApart pattern := by
  have hnamed := wellNamed_empty.offerAll placeholders
  exact ⟨hnamed, hnamed.groupsApart pattern⟩

end Registry

end Gherkin
