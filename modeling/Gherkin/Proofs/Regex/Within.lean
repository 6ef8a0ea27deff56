/-
  Gherkin.Proofs.Regex.Within

  What signs do inside other groups. A sign does there what it does by itself,
  with the groups counted from those before, unless it opens a group by a name
  that is used there. Names are never used twice, and those of all groups that
  have been read are among them.
-/
import Mathlib.Logic.Relation
import Gherkin.Proofs.Regex.Build
import Gherkin.Proofs.Regex.Steady.Sign

namespace Gherkin.Regex

/-! ## Renumbering -/

/-- A piece with its groups renumbered. -/
def Piece.renumber (k : Nat) (piece : Piece) : Piece :=
  { piece with regex := piece.regex.map (Regex.renumber k) }

/-- An alternative with its groups renumbered. -/
def Branch.renumber (k : Nat) (branch : Branch) : Branch :=
  { branch with regex := branch.regex.renumber k }

/-- The content of a group with the groups in it renumbered. -/
def Content.renumber (k : Nat) (content : Content) : Content :=
  { content with
    alternatives := content.alternatives.map (Branch.renumber k)
    pieces := content.pieces.map (Piece.renumber k) }

/-- An open group, renumbered with the groups around it. -/
def OpenGroup.renumber (k : Nat) (group : OpenGroup) : OpenGroup :=
  { label := group.label.map fun label => (label.1 + k, label.2)
    content := group.content.renumber k }

variable {k : Nat}

theorem Content.sequence_renumber (content : Content) :
    (content.renumber k).sequence = content.sequence.renumber k := by
  have hregexes : ((content.pieces.map (Piece.renumber k)).reverse.filterMap (·.regex)) =
      (content.pieces.reverse.filterMap (·.regex)).map (Regex.renumber k) := by
    rw [← List.map_reverse, List.filterMap_map, List.map_filterMap]
    rfl
  have hdepths : (content.pieces.map (Piece.renumber k)).map (·.depth) =
      content.pieces.map (·.depth) := by
    rw [List.map_map]
    rfl
  simp only [Content.sequence, Content.renumber, Branch.renumber, hregexes, hdepths, seqs_renumber]

theorem Content.whole_renumber (content : Content) :
    (content.renumber k).whole = content.whole.renumber k := by
  have hall : (content.renumber k).sequence :: (content.renumber k).alternatives =
      (content.sequence :: content.alternatives).map (Branch.renumber k) := by
    rw [sequence_renumber]
    rfl
  have hregexes (all : List Branch) : (all.map (Branch.renumber k)).reverse.map (·.regex) =
      (all.reverse.map (·.regex)).map (Regex.renumber k) := by
    rw [← List.map_reverse, List.map_map, List.map_map]
    rfl
  have hdepths (all : List Branch) : (all.map (Branch.renumber k)).map (·.depth) =
      all.map (·.depth) := by
    rw [List.map_map]
    rfl
  simp only [Content.whole, hall, hregexes, hdepths, Branch.renumber, alts_renumber]

/-! ## A state inside another -/

/-- The state of reading a text by itself, seen inside the groups that are open in `base`. -/
def State.within (base inner : State) : State where
  content := inner.content.renumber base.count
  outer := inner.outer.map (OpenGroup.renumber base.count) ++ base.outer
  names := inner.names ++ base.names
  count := inner.count + base.count

theorem State.flags_within (base inner : State) : (base.within inner).flags = inner.flags := rfl

/-- The state at the start of a group. -/
theorem State.within_start {base : State} (h : base.content = {}) : base.within {} = base := by
  obtain ⟨content, outer, names, count⟩ := base
  obtain rfl : content = {} := h
  simp [State.within, Content.renumber]

theorem State.openCapture_within (base inner : State) (name : Option String) :
    (base.within inner).openCapture name = base.within (inner.openCapture name) := by
  simp only [State.within, State.openCapture, OpenGroup.renumber, List.map_cons, List.cons_append,
    List.append_assoc, Option.map_some, Nat.add_right_comm]
  rfl

theorem State.alternate_within (base inner : State) :
    (base.within inner).alternate = base.within inner.alternate := by
  have hsequence := inner.content.sequence_renumber (k := base.count)
  simp only [State.within, State.alternate, hsequence]
  rfl

theorem State.push_within (base inner : State) {r : Regex} (hr : r.renumber base.count = r)
    (depth : Nat) : (base.within inner).push r depth = base.within (inner.push r depth) := by
  simp only [State.within, State.push, Content.push, Content.renumber, List.map_cons,
    Piece.renumber, Option.map_some, hr]

theorem State.closeGroup?_within {base inner next : State} (h : inner.closeGroup? = some next) :
    (base.within inner).closeGroup? = some (base.within next) := by
  obtain ⟨content, outer, names, count⟩ := inner
  cases outer with
  | nil => cases h
  | cons group outer =>
    obtain ⟨label, around⟩ := group
    obtain rfl := Option.some.inj h
    have hwhole := content.whole_renumber (k := base.count)
    simp only [State.within, State.closeGroup?, List.map_cons, List.cons_append, OpenGroup.renumber,
      hwhole]
    rcases label with _ | ⟨index, name⟩ <;> rfl

theorem State.repeatLast?_within {base inner next : State} {least : Nat} {most : Option Nat}
    {greedy : Bool} (h : inner.repeatLast? (times least most greedy) = some next) :
    (base.within inner).repeatLast? (times least most greedy) = some (base.within next) := by
  obtain ⟨⟨alternatives, pieces, flags⟩, outer, names, count⟩ := inner
  cases pieces with
  | nil => cases h
  | cons piece pieces =>
    obtain ⟨regex, depth⟩ := piece
    cases regex with
    | none => cases h
    | some r =>
      obtain rfl := Option.some.inj h
      simp only [State.within, State.repeatLast?, Content.renumber, List.map_cons, Piece.renumber,
        Option.map_some, times_renumber]

/-- What a sign does by itself it does inside other groups, unless the name of a group is used
    there. -/
theorem Sign.effect?_within {sign : Sign} {base inner next : State}
    (h : sign.effect? inner = some next) :
    sign.effect? (base.within inner) = some (base.within next) ∨
      sign.effect? (base.within inner) = none ∧ ∃ name ∈ next.names, name ∈ base.names := by
  cases sign with
  | openCapture name =>
    simp only [Sign.effect?] at h ⊢
    split at h
    · cases h
    next hinner =>
      obtain rfl := Option.some.inj h
      split
      next hused =>
        refine .inr ⟨rfl, ?_⟩
        cases name with
        | none => cases hused
        | some name =>
          -- the name is not used in the text itself, so it is used around it
          have hmem : name ∈ inner.names ++ base.names := List.contains_iff_mem.1 hused
          refine ⟨name, List.mem_cons_self, (List.mem_append.1 hmem).resolve_left ?_⟩
          exact fun hmem => hinner (List.contains_iff_mem.2 hmem)
      · exact .inl (congrArg some (State.openCapture_within base inner name))
  | openPlain flags =>
    obtain rfl := Option.some.inj h
    exact .inl rfl
  | setFlags flags =>
    obtain rfl := Option.some.inj h
    exact .inl rfl
  | close => exact .inl (State.closeGroup?_within h)
  | alternate =>
    obtain rfl := Option.some.inj h
    exact .inl (congrArg some (State.alternate_within base inner))
  | one s depth =>
    obtain rfl := Option.some.inj h
    exact .inl (congrArg some (State.push_within base inner (renumber_ofClass s) depth))
  | look l =>
    obtain rfl := Option.some.inj h
    exact .inl (congrArg some (State.push_within base inner rfl 0))
  | repeated least most greedy => exact .inl (State.repeatLast?_within h)

theorem Sign.eq_within_of_effect? {sign : Sign} {base inner next state : State}
    (h : sign.effect? inner = some next) (hstate : sign.effect? (base.within inner) = some state) :
    state = base.within next := by
  rcases sign.effect?_within h with hwithin | ⟨hnone, -⟩
  · exact Option.some.inj (hstate.symm.trans hwithin)
  · cases hnone.symm.trans hstate

/-! ## Names -/

/-- The names of the groups in a piece. -/
def Piece.groupNames (piece : Piece) : List String := piece.regex.elim [] Regex.groupNames

/-- The names of the groups in what has been read of a group. -/
def Content.groupNames (content : Content) : List String :=
  content.pieces.flatMap Piece.groupNames ++ content.alternatives.flatMap (·.regex.groupNames)

/-- The names of a group that is open and of the groups before it. -/
def OpenGroup.groupNames (group : OpenGroup) : List String :=
  (group.label.bind (·.2)).toList ++ group.content.groupNames

/-- Whether the names of all groups are among those that have been used. -/
def State.Named (state : State) : Prop :=
  state.content.groupNames ⊆ state.names ∧ ∀ group ∈ state.outer, group.groupNames ⊆ state.names

theorem Content.groupNames_push (content : Content) (piece : Piece) :
    (content.push piece).groupNames = piece.groupNames ++ content.groupNames := by
  rw [groupNames, groupNames, Content.push, List.flatMap_cons, List.append_assoc]

theorem Content.groupNames_sequence (content : Content) :
    content.sequence.regex.groupNames ⊆ content.pieces.flatMap Piece.groupNames := by
  simp only [Content.sequence, groupNames_seqs]
  intro name hname
  obtain ⟨r, hr, hname⟩ := List.mem_flatMap.1 hname
  obtain ⟨piece, hpiece, hregex⟩ := List.mem_filterMap.1 hr
  refine List.mem_flatMap.2 ⟨piece, List.mem_reverse.1 hpiece, ?_⟩
  rwa [Piece.groupNames, hregex]

theorem Content.groupNames_whole (content : Content) :
    content.whole.regex.groupNames ⊆ content.groupNames := by
  intro name hname
  obtain ⟨r, hr, hname⟩ := List.mem_flatMap.1 (groupNames_alts_subset _ hname)
  obtain ⟨branch, hbranch, rfl⟩ := List.mem_map.1 hr
  rcases List.mem_cons.1 (List.mem_reverse.1 hbranch) with rfl | hbranch
  · exact List.mem_append_left _ (content.groupNames_sequence hname)
  · exact List.mem_append_right _ (List.mem_flatMap.2 ⟨branch, hbranch, hname⟩)

namespace State.Named

variable {state : State}

theorem push (h : state.Named) {r : Regex} (hr : r.groupNames ⊆ state.names) (depth : Nat) :
    (state.push r depth).Named := by
  refine ⟨?_, h.2⟩
  simp only [State.push, Content.groupNames_push]
  exact List.append_subset.2 ⟨hr, h.1⟩

theorem closeGroup? (h : state.Named) {next : State} (hnext : state.closeGroup? = some next) :
    next.Named := by
  obtain ⟨content, outer, names, count⟩ := state
  obtain ⟨hcontent, houter⟩ := h
  cases outer with
  | nil => cases hnext
  | cons group outer =>
    obtain rfl := Option.some.inj hnext
    obtain ⟨hgroup, houter⟩ := List.forall_mem_cons.1 houter
    obtain ⟨hlabel, haround⟩ := List.append_subset.1 hgroup
    refine ⟨?_, houter⟩
    have hwhole := List.Subset.trans content.groupNames_whole hcontent
    simp only [Content.groupNames_push]
    refine List.append_subset.2 ⟨?_, haround⟩
    obtain ⟨label, around⟩ := group
    rcases label with _ | ⟨index, name⟩
    · exact hwhole
    · exact List.append_subset.2 ⟨hlabel, hwhole⟩

theorem alternate (h : state.Named) : state.alternate.Named := by
  refine ⟨?_, h.2⟩
  obtain ⟨hpieces, halternatives⟩ := List.append_subset.1 h.1
  have hsequence := List.Subset.trans state.content.groupNames_sequence hpieces
  simpa [State.alternate, Content.groupNames] using And.intro hsequence halternatives

theorem repeatLast? (h : state.Named) {least : Nat} {most : Option Nat} {greedy : Bool}
    {next : State} (hnext : state.repeatLast? (times least most greedy) = some next) :
    next.Named := by
  obtain ⟨⟨alternatives, pieces, flags⟩, outer, names, count⟩ := state
  cases pieces with
  | nil => cases hnext
  | cons piece pieces =>
    obtain ⟨regex, depth⟩ := piece
    cases regex with
    | none => cases hnext
    | some r =>
      obtain rfl := Option.some.inj hnext
      refine ⟨List.Subset.trans ?_ h.1, h.2⟩
      simp only [Content.groupNames, List.flatMap_cons, List.append_assoc]
      exact List.append_subset.2 ⟨List.Subset.trans (groupNames_times_subset least most greedy r)
        (List.subset_append_left _ _), List.subset_append_right _ _⟩

end State.Named

/-- A sign records the name of the group that it opens. -/
theorem Sign.effect?_named {sign : Sign} {state next : State} (hnamed : state.Named)
    (h : sign.effect? state = some next) : next.Named := by
  cases sign with
  | openCapture name =>
    simp only [Sign.effect?] at h
    split at h
    · cases h
    obtain rfl := Option.some.inj h
    -- names are only added, and that of a group before the group is opened
    have hnames := List.subset_append_right name.toList state.names
    refine ⟨List.nil_subset _, List.forall_mem_cons.2 ⟨?_, fun group hgroup =>
      List.Subset.trans (hnamed.2 group hgroup) hnames⟩⟩
    exact List.append_subset.2 ⟨List.subset_append_left _ _, List.Subset.trans hnamed.1 hnames⟩
  | openPlain flags =>
    obtain rfl := Option.some.inj h
    exact ⟨List.nil_subset _, List.forall_mem_cons.2 ⟨hnamed.1, hnamed.2⟩⟩
  | setFlags flags =>
    obtain rfl := Option.some.inj h
    exact hnamed
  | close => exact hnamed.closeGroup? h
  | alternate =>
    obtain rfl := Option.some.inj h
    exact hnamed.alternate
  | one s depth =>
    obtain rfl := Option.some.inj h
    exact hnamed.push (by rw [groupNames_ofClass]; exact List.nil_subset _) depth
  | look l =>
    obtain rfl := Option.some.inj h
    exact hnamed.push (List.nil_subset _) 0
  | repeated least most greedy => exact hnamed.repeatLast? h

/-- The name of the group that a sign opens. -/
def Sign.name? : Sign → Option String
  | openCapture name => name
  | _ => none

/-- A sign adds the name of the group that it opens, if that name has not been used. -/
theorem Sign.effect?_names {sign : Sign} {state next : State} (h : sign.effect? state = some next) :
    next.names = sign.name?.toList ++ state.names ∧ ∀ name ∈ sign.name?, name ∉ state.names := by
  cases sign with
  | openCapture name =>
    simp only [Sign.effect?] at h
    split at h
    · cases h
    next hunused =>
      obtain rfl := Option.some.inj h
      refine ⟨rfl, fun used hused => ?_⟩
      obtain rfl : name = some used := hused
      simpa using hunused
  | close =>
    obtain ⟨content, outer, names, count⟩ := state
    cases outer with
    | nil => cases h
    | cons group outer =>
      obtain rfl := Option.some.inj h
      exact ⟨rfl, fun used hused => by cases hused⟩
  | repeated least most greedy =>
    obtain ⟨⟨alternatives, pieces, flags⟩, outer, names, count⟩ := state
    rcases pieces with _ | ⟨⟨_ | r, depth⟩, pieces⟩
    · cases h
    · cases h
    · obtain rfl := Option.some.inj h
      exact ⟨rfl, fun used hused => by cases hused⟩
  | _ =>
    obtain rfl := Option.some.inj h
    exact ⟨rfl, fun used hused => by cases hused⟩

/-- No name is used twice. -/
theorem Sign.effect?_nodup {sign : Sign} {state next : State} (hnodup : state.names.Nodup)
    (h : sign.effect? state = some next) : next.names.Nodup := by
  obtain ⟨hnames, hunused⟩ := sign.effect?_names h
  rw [hnames]
  cases hname : sign.name? with
  | none => exact hnodup
  | some name => exact List.nodup_cons.2 ⟨hunused name hname, hnodup⟩

/-! ## Several signs -/

/-- Whether signs lead from a state to another. -/
def State.Leads : State → State → Prop :=
  Relation.ReflTransGen fun state next => ∃ sign : Sign, sign.effect? state = some next

namespace State.Leads

variable {state next : State}

/-- What every sign keeps is kept by several. -/
theorem keeps {P : State → Prop}
    (hsign : ∀ {sign : Sign} {state next : State}, P state → sign.effect? state = some next →
      P next) (h : state.Leads next) (hstate : P state) : P next := by
  induction h with
  | refl => exact hstate
  | tail _ hlast ih =>
    obtain ⟨sign, hlast⟩ := hlast
    exact hsign ih hlast

theorem named (h : state.Leads next) (hnamed : state.Named) : next.Named :=
  h.keeps Sign.effect?_named hnamed

theorem nodup (h : state.Leads next) (hnodup : state.names.Nodup) : next.names.Nodup :=
  h.keeps Sign.effect?_nodup hnodup

theorem names_subset (h : state.Leads next) : state.names ⊆ next.names := by
  have hsign {sign : Sign} {between next : State} (hsubset : state.names ⊆ between.names)
      (h : sign.effect? between = some next) : state.names ⊆ next.names := by
    rw [(sign.effect?_names h).1]
    exact List.Subset.trans hsubset (List.subset_append_right _ _)
  exact keeps (P := fun next => state.names ⊆ next.names) hsign h (List.Subset.refl _)

end State.Leads

end Gherkin.Regex
