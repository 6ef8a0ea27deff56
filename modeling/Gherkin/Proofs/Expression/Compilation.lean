/-
  Gherkin.Proofs.Expression.Compilation

  Which patterns can be compiled. Literals never stand in the way, and neither do
  the names that placeholders give their groups: what was registered can be used
  in every pattern, as often as one likes, unless a name of a group in a fragment
  comes again, or a fragment is nested so deep that the groups around it pass the
  limit.
-/
import Gherkin.Proofs.Expression.Group
import Gherkin.Proofs.Regex.Crossing

namespace Gherkin

open Expression (Token isName)
open Regex (State Crosses)

/-! ## Names of groups -/

/-- The characters of a placeholder's name may stand in the name of a group. -/
theorem isNamePart_of_isNameChar {c : Char} (h : Expression.isNameChar c = true) :
    Regex.isNamePart c = true := by
  rcases Bool.or_eq_true_iff.1 h with halphanum | hunderscore
  · rcases Bool.or_eq_true_iff.1 halphanum with halpha | hdigit
    · have hletter := Text.isLetter_of_isAlpha halpha
      simp [Regex.isNamePart, Regex.isNameStart, hletter]
    · have hnumeral := Text.isNumeral_of_isDigit hdigit
      simp [Regex.isNamePart, hnumeral]
  · obtain rfl := eq_of_beq hunderscore
    rfl

theorem isGroupName_of_isName {name : List Char} (h : isName name = true) :
    Regex.isGroupName name = true := by
  cases name with
  | nil => cases h
  | cons c s =>
    obtain ⟨hc, hs⟩ := Bool.and_eq_true_iff.1 h
    refine Bool.and_eq_true_iff.2 ⟨?_, List.all_eq_true.2 fun d hd => ?_⟩
    · rcases Bool.or_eq_true_iff.1 hc with halpha | hunderscore
      · have hletter := Text.isLetter_of_isAlpha halpha
        simp [Regex.isNameStart, hletter]
      · obtain rfl := eq_of_beq hunderscore
        rfl
    · exact isNamePart_of_isNameChar (List.all_eq_true.1 hs d hd)

/-! ## Parts -/

/-- A part can be read, if no name is used twice. -/
theorem Part.Readable.crosses {p : Part} (h : p.Readable) {state : State} (hflags : state.flags = {})
    (hnodup : (p.after state).names.Nodup) :
    Crosses p.source.toList.length state p.source.toList (p.after state) := by
  cases p with
  | literal text =>
    rw [toList_source_literal]
    exact .escaped hflags text
  | capture kind group =>
    obtain ⟨hgroup, halone, hanchored⟩ := h
    obtain ⟨r, hr⟩ := Option.isSome_iff_exists.1 halone
    obtain ⟨inner, hinner, -⟩ := Regex.exists_lastState_of_read? hr
    rw [Part.after_capture hinner] at hnodup ⊢
    exact .fragment hflags (isGroupName_of_isName hgroup) hinner hanchored hnodup

theorem crosses_parts {ps : List Part} (hreadable : ∀ p ∈ ps, p.Readable) {state : State}
    (hflags : state.flags = {}) (hnodup : (ps.foldl Part.after state).names.Nodup) :
    Crosses (ps.flatMap (·.source.toList)).length state (ps.flatMap (·.source.toList))
      (ps.foldl Part.after state) := by
  induction ps generalizing state with
  | nil => exact .refl state
  | cons p ps ih =>
    obtain ⟨hp, hps⟩ := List.forall_mem_cons.1 hreadable
    obtain ⟨rs, hgains, -⟩ := hp.gains state
    obtain ⟨rs', hrest, -⟩ := gains_parts hps (p.after state)
    -- the names after the first part are among those at the end
    have hfirst : (p.after state).names.Nodup := by
      have hall : (ps.foldl Part.after (p.after state)).names.Nodup := hnodup
      rw [hrest.names] at hall
      exact (List.nodup_append.1 hall).2.1
    rw [List.flatMap_cons, List.length_append]
    exact (hp.crosses hflags hfirst).trans (ih hps (hgains.flags.trans hflags) hnodup)

/-- A text between anchors is read to its end. -/
theorem lastState?_anchored {u : List Char} {next : State} (h : Crosses u.length startState u next)
    (hflags : next.flags = {}) (houter : next.outer = []) :
    Regex.lastState? (u.length + 3) {} ('^' :: (u ++ ['$'])) =
      some (next.push (.look .textEnd)) := by
  have hstart : (Regex.Sign.look .textStart).effect? {} = some startState := rfl
  have hend : (Regex.Sign.look .textEnd).effect? next = some (next.push (.look .textEnd)) := rfl
  have hcaret : Crosses 1 {} ['^'] startState := .sign rfl (fun _ => rfl) hstart
  have hdollar : Crosses 1 next ['$'] (next.push (.look .textEnd)) :=
    .sign hflags (fun _ => rfl) hend
  have hnone : (next.push (.look .textEnd)).outer = [] := houter
  have hall := (hcaret.trans (h.trans hdollar)) 1 [] _
    (Regex.lastState?_done Regex.skip_nil hnone 0)
  rwa [List.append_nil, Nat.add_comm 1, Nat.add_assoc, Nat.add_assoc] at hall

/-- The notation of parts is read to its end, if no name is used twice. -/
theorem lastState?_partsSource {ps : List Part} (hreadable : ∀ p ∈ ps, p.Readable)
    (hnodup : (ps.flatMap Part.groupNames).Nodup) :
    Regex.lastState? ((partsSource ps).length + 1) {} (partsSource ps).toList =
      some (partsState ps) := by
  obtain ⟨rs, hgains, -⟩ := gains_parts hreadable startState
  have hnames : (ps.foldl Part.after startState).names.Nodup := by
    have hstart : startState.names = [] := rfl
    rw [hgains.names, hstart, List.append_nil]
    exact List.nodup_reverse.2 hnodup
  have hlength : (partsSource ps).length + 1 = (ps.flatMap (·.source.toList)).length + 3 := by
    rw [← String.length_toList, toList_partsSource, List.length_cons, List.length_append,
      List.length_singleton]
  rw [hlength, toList_partsSource]
  exact lastState?_anchored (crosses_parts hreadable rfl hnames) hgains.flags hgains.outer

/-! ## Depth -/

theorem Part.depths_le_iff {p : Part} {limit : Nat} (hlimit : 1 ≤ limit) :
    (∀ n ∈ p.depths, n + 1 ≤ limit) ↔
      ∀ place ∈ p.capture?, Regex.depthOf place.1.fragment + 3 ≤ limit := by
  cases p with
  | literal text =>
    constructor
    · rintro - place hplace
      cases hplace
    · rintro - n hn
      obtain ⟨_, -, rfl⟩ := List.mem_map.1 hn
      exact hlimit
  | capture kind group =>
    simp only [Part.depths, Part.capture?, List.mem_singleton, forall_eq, Option.mem_some_iff,
      forall_eq']
    omega

/-- The notation of parts is nested by three levels more than the fragment that is nested
    deepest. -/
theorem depth_partsState_le_iff {ps : List Part} (hreadable : ∀ p ∈ ps, p.Readable) {limit : Nat}
    (hlimit : 1 ≤ limit) :
    (partsState ps).content.whole.depth ≤ limit ↔
      ∀ place ∈ ps.filterMap Part.capture?, Regex.depthOf place.1.fragment + 3 ≤ limit := by
  obtain ⟨rs, hgains, -⟩ := gains_parts hreadable startState
  -- the anchors stand in the row too, so it is one of several
  have hdepths : (partsState ps).content.pieces.map (·.depth) =
      0 :: (ps.reverse.flatMap Part.depths ++ [0]) := congrArg (0 :: ·) hgains.depths
  have halternatives : (partsState ps).content.alternatives = [] := hgains.alternatives
  have hwhole : (partsState ps).content.whole.depth =
      Regex.rowDepth (0 :: (ps.reverse.flatMap Part.depths ++ [0])) := by
    rw [← hdepths, Regex.Content.whole, halternatives]
    rfl
  rw [hwhole, Regex.rowDepth_le_iff (by simp) hlimit]
  constructor
  · intro h place hplace
    obtain ⟨p, hp, hcapture⟩ := List.mem_filterMap.1 hplace
    refine (Part.depths_le_iff hlimit).1 (fun n hn => h n ?_) place hcapture
    refine List.mem_cons_of_mem _ (List.mem_append_left _ ?_)
    exact List.mem_flatMap.2 ⟨p, List.mem_reverse.2 hp, hn⟩
  · intro h n hn
    rcases List.mem_cons.1 hn with rfl | hn
    · exact hlimit
    rcases List.mem_append.1 hn with hn | hn
    · obtain ⟨p, hp, hn⟩ := List.mem_flatMap.1 hn
      refine (Part.depths_le_iff hlimit).2 (fun place hcapture => h place ?_) n hn
      exact List.mem_filterMap.2 ⟨p, List.mem_reverse.1 hp, hcapture⟩
    · obtain rfl := List.mem_singleton.1 hn
      exact hlimit

/-- The notation of parts can be read if no name of a group is used twice and no fragment is nested
    too deep, and not otherwise. -/
theorem read?_partsSource_isSome_iff {ps : List Part} (hreadable : ∀ p ∈ ps, p.Readable) :
    (Regex.read? (partsSource ps)).isSome = true ↔
      (ps.flatMap Part.groupNames).Nodup ∧ ∀ place ∈ ps.filterMap Part.capture?,
        Regex.depthOf place.1.fragment + 3 ≤ Regex.depthLimit := by
  have hlimit : 1 ≤ Regex.depthLimit := by decide
  have hdepth := depth_partsState_le_iff hreadable hlimit
  rw [Option.isSome_iff_exists]
  constructor
  · rintro ⟨r, hr⟩
    obtain ⟨rs, -, hnodup, -⟩ := formed_of_read? hr hreadable
    obtain ⟨last, hlast, hle, -⟩ := Regex.read?_eq_some_iff.1 hr
    obtain rfl := eq_partsState hlast hreadable
    exact ⟨hnodup, hdepth.1 hle⟩
  · rintro ⟨hnodup, hshallow⟩
    exact ⟨_, Regex.read?_eq_some_iff.2
      ⟨_, lastState?_partsSource hreadable hnodup, hdepth.2 hshallow, rfl⟩⟩

/-! ## Registries -/

namespace Registry

variable {registry : Registry} {pattern : String}

theorem Built.wellNamed (h : registry.Built) : registry.WellNamed := by
  induction h with
  | empty => exact wellNamed_empty
  | @register registry after placeholder _ hafter ih =>
    have hoffer := ih.offer placeholder
    rwa [offer, hafter] at hoffer

/-- The names of all groups in the regular expression of a pattern, from left to right: those of the
    placeholders, and behind each those in its fragment. -/
def groupNames (registry : Registry) (pattern : String) : List String :=
  (registry.groupsIn pattern).flatMap fun place => place.2 :: Regex.namesOf place.1.fragment

theorem groupNames_eq (registry : Registry) (pattern : String) :
    registry.groupNames pattern =
      (partsOf registry.kind? pattern).flatMap Part.groupNames := by
  rw [groupNames, groupsIn, groupsOf, ← partsOf]
  induction partsOf registry.kind? pattern with
  | nil => rfl
  | cons p ps ih =>
    cases p with
    | literal text => exact ih
    | capture kind group =>
      exact congrArg ((group :: Regex.namesOf kind.fragment) ++ ·) ih

/-- A pattern can be compiled if no name of a group comes twice in its regular expression and no
    fragment is nested too deep, and not otherwise. The names that placeholders give their groups
    never collide with each other, so a collision takes a name in a fragment. It takes fragments
    that can be read by themselves. -/
theorem compile_isSome_iff (hbuilt : registry.Built)
    (hread : ∀ placeholder, .custom placeholder ∈ registry.kindsIn pattern →
      (Regex.read? placeholder.fragment).isSome = true) :
    ((compile pattern registry).value.1.isSome = true ↔
      (registry.groupNames pattern).Nodup ∧ ∀ kind ∈ registry.kindsIn pattern,
        Regex.depthOf kind.fragment + 3 ≤ Regex.depthLimit) ∧
      ((∀ placeholder, .custom placeholder ∈ registry.kindsIn pattern →
          Regex.namesOf placeholder.fragment = [] ∧
            Regex.depthOf placeholder.fragment + 3 ≤ Regex.depthLimit) →
        (compile pattern registry).value.1.isSome = true) := by
  have hgroups := hbuilt.wellNamed.groupsApart pattern
  have hiff : (compile pattern registry).value.1.isSome = true ↔
      (registry.groupNames pattern).Nodup ∧ ∀ kind ∈ registry.kindsIn pattern,
        Regex.depthOf kind.fragment + 3 ≤ Regex.depthLimit := by
    rw [compile_value_fst, expression?, Expression.ofPattern?, Option.isSome_map,
      read?_partsSource_isSome_iff (hbuilt.readable hread), ← groupNames_eq, ← hgroups.kinds,
      List.forall_mem_map]
    rfl
  refine ⟨hiff, fun hharmless => hiff.2 ?_⟩
  have hkinds : ∀ kind ∈ registry.kindsIn pattern, Regex.namesOf kind.fragment = [] ∧
      Regex.depthOf kind.fragment + 3 ≤ Regex.depthLimit := by
    intro kind hkind
    cases kind with
    | builtin builtin => exact builtin.fragment_harmless
    | custom placeholder => exact hharmless placeholder hkind
  refine ⟨?_, fun kind hkind => (hkinds kind hkind).2⟩
  -- only the groups of the placeholders are left
  have hnames : registry.groupNames pattern = (registry.groupsIn pattern).map (·.2) := by
    rw [groupNames, ← List.flatMap_pure_eq_map]
    refine List.flatMap_congr fun place hplace => ?_
    have hkind : place.1 ∈ registry.kindsIn pattern :=
      hgroups.kinds ▸ List.mem_map_of_mem hplace
    rw [(hkinds place.1 hkind).1]
    rfl
  rw [hnames]
  exact hgroups.nodup

/-- A placeholder with a named group in its fragment. -/
def namedPlaceholder : Placeholder :=
  { name := "x", fragment := "(?P<n>a)|b", convert := .text }

/-- Used once, a fragment with a named group can be compiled beside other placeholders and literals
    that would have a meaning in a regular expression. -/
theorem compile_isSome_named :
    ∃ registry : Registry, registry.Built ∧
      (∀ placeholder, .custom placeholder ∈
          registry.kindsIn "\x7bx\x7d (\x7bint\x7d*\x7bint\x7d" →
        placeholder = namedPlaceholder ∧ (Regex.read? placeholder.fragment).isSome = true) ∧
      (compile "\x7bx\x7d (\x7bint\x7d*\x7bint\x7d" registry).value.1.isSome = true := by
  obtain ⟨registry, hbuilt, hcustom⟩ := Built.empty.exists_register namedPlaceholder
    (by decide +kernel)
  have hkind : registry.kind? = kindAmong? [namedPlaceholder] := by rw [kind?, hcustom]; rfl
  have htokens : Expression.tokens "\x7bx\x7d (\x7bint\x7d*\x7bint\x7d" =
      [.placeholder 0 "x", .literal [' ', '('], .placeholder 5 "int", .literal ['*'],
        .placeholder 11 "int"] := by
    decide +kernel
  have hkinds : registry.kindsIn "\x7bx\x7d (\x7bint\x7d*\x7bint\x7d" =
      [.custom namedPlaceholder, .builtin .int, .builtin .int] := by
    rw [kindsIn, hkind, htokens]
    rfl
  have hread : ∀ placeholder, .custom placeholder ∈
      registry.kindsIn "\x7bx\x7d (\x7bint\x7d*\x7bint\x7d" →
      placeholder = namedPlaceholder ∧ (Regex.read? placeholder.fragment).isSome = true := by
    intro placeholder hmem
    rw [hkinds] at hmem
    obtain rfl : placeholder = namedPlaceholder := by simpa using hmem
    exact ⟨rfl, by decide +kernel⟩
  refine ⟨registry, hbuilt, hread, ?_⟩
  refine (compile_isSome_iff hbuilt fun placeholder hmem => (hread placeholder hmem).2).1.2 ⟨?_, ?_⟩
  · rw [groupNames, groupsIn, hkind, htokens]
    decide +kernel
  · rw [hkinds]
    decide +kernel

/-! ### Nested groups -/

/-- A letter in groups that are nested to a depth. -/
def nested : Nat → List Char
  | 0 => ['a']
  | depth + 1 => "(?:".toList ++ (nested depth ++ [')'])

theorem crosses_nested {state : State} (hflags : state.flags = {}) (depth : Nat) :
    Crosses (nested depth).length state (nested depth) (state.push (.text ['a']) depth) := by
  induction depth generalizing state with
  | zero => exact .sign hflags (Regex.readSign?_escapeChar 'a') (Regex.effect?_char state 'a')
  | succ depth ih =>
    have hgroup : (Regex.Sign.openPlain {}).effect? state = some (state.openPlain {}) := rfl
    have hopen : Crosses 1 state "(?:".toList (state.openPlain {}) :=
      .sign hflags (fun _ => rfl) hgroup
    have hclose : ((state.openPlain {}).push (.text ['a']) depth).closeGroup? =
        some (state.push (.text ['a']) (1 + depth)) := rfl
    have hall := hopen.trans ((ih rfl).trans (.close hclose))
    rw [Nat.add_comm 1 depth] at hall
    refine hall.mono ?_
    simp only [nested, List.length_append]
    exact Nat.add_le_add_right (by decide) _

theorem lastState?_nested (depth : Nat) :
    Regex.lastState? ((nested depth).length + 1) {} (nested depth) =
      some (State.push {} (.text ['a']) depth) := by
  have hcrosses : Crosses (nested depth).length {} (nested depth)
      (State.push {} (.text ['a']) depth) := crosses_nested rfl depth
  have hend := hcrosses 1 [] _ (Regex.lastState?_done rfl rfl 0)
  rwa [List.append_nil] at hend

/-- A placeholder whose fragment is nested to a depth. -/
def nestedPlaceholder (depth : Nat) : Placeholder :=
  { name := "x", fragment := .ofList (nested depth), convert := .text }

/-- The fragment can be read, and it is nested to the depth. -/
theorem read?_nested {depth : Nat} (h : depth ≤ Regex.depthLimit) :
    (Regex.read? (nestedPlaceholder depth).fragment).isSome = true ∧
      Regex.depthOf (nestedPlaceholder depth).fragment = depth := by
  have hlast : Regex.lastState? ((nestedPlaceholder depth).fragment.length + 1) {}
      (nestedPlaceholder depth).fragment.toList =
      some (State.push {} (.text ['a']) depth) := by
    rw [nestedPlaceholder, String.length_ofList, String.toList_ofList]
    exact lastState?_nested depth
  constructor
  · exact Option.isSome_iff_exists.2 ⟨_, Regex.read?_eq_some_iff.2 ⟨_, hlast, h, rfl⟩⟩
  · rw [Regex.depthOf, hlast]
    rfl

/-- Between anchors it is nested two levels deeper. -/
theorem read?_anchored_nested {depth : Nat} (h : depth + 2 ≤ Regex.depthLimit) :
    (Regex.read? s!"^(?:{(nestedPlaceholder depth).fragment})$").isSome = true := by
  have hsource : (s!"^(?:{(nestedPlaceholder depth).fragment})$").toList =
      '^' :: (nested (depth + 1) ++ ['$']) := by
    simp [toString, String.toList_append, nestedPlaceholder, nested]
  have hlength : (s!"^(?:{(nestedPlaceholder depth).fragment})$").length + 1 =
      (nested (depth + 1)).length + 3 := by
    rw [← String.length_toList, hsource, List.length_cons, List.length_append,
      List.length_singleton]
  have hlast := lastState?_anchored (crosses_nested rfl (depth + 1)) rfl rfl
  rw [← hlength, ← hsource] at hlast
  have hdepth : Regex.rowDepth [0, depth + 1, 0] ≤ Regex.depthLimit := by
    have hlimit : 1 ≤ Regex.depthLimit := by decide
    rw [Regex.rowDepth_le_iff (by simp) hlimit]
    simp only [List.forall_mem_cons, List.not_mem_nil]
    exact ⟨hlimit, h, hlimit, by simp⟩
  exact Option.isSome_iff_exists.2 ⟨_, Regex.read?_eq_some_iff.2 ⟨_, hlast, hdepth, rfl⟩⟩

/-- A fragment may be nested so deep that it can be registered and no pattern with it be
    compiled. -/
theorem compile_nested_eq_none {depth : Nat} (hdepth : depth + 2 = Regex.depthLimit) :
    ∃ registry : Registry, registry.Built ∧ registry.custom = [nestedPlaceholder depth] ∧
      (compile "\x7bx\x7d" registry).value.1 = none := by
  have hle : depth + 2 ≤ Regex.depthLimit := Nat.le_of_eq hdepth
  have hread := read?_nested (Nat.le_of_add_right_le hle)
  have hanchored := read?_anchored_nested hle
  have hbuiltin : Kind.builtin? "x" = none :=
    Option.map_eq_none_iff.2 (by decide : BuiltinKind.ofName? "x" = none)
  have hname : isPlaceholderName "x" = true := by decide
  have hnone : refusal? [] (nestedPlaceholder depth) = none :=
    refusal?_eq_none_iff.2 ⟨hbuiltin, rfl, hname, hanchored⟩
  obtain ⟨registry, hbuilt, hcustom⟩ := Built.empty.exists_register _ hnone
  have hsingle : registry.custom = [nestedPlaceholder depth] := hcustom.trans (List.nil_append _)
  refine ⟨registry, hbuilt, hsingle, ?_⟩
  have hparts : partsOf registry.kind? "\x7bx\x7d" =
      [.capture (.custom (nestedPlaceholder depth)) "x0"] := by
    rw [kind?, hcustom]
    exact partsOf_braced hnone
  have hreadable : ∀ p ∈ partsOf registry.kind? "\x7bx\x7d", p.Readable := by
    have hgroup : isName "x0".toList = true := by decide
    rw [hparts, List.forall_mem_singleton]
    exact ⟨hgroup, hread.1, hanchored⟩
  rw [compile_value_fst, expression?, Expression.ofPattern?, Option.map_eq_none_iff,
    ← Option.not_isSome_iff_eq_none, read?_partsSource_isSome_iff hreadable, hparts]
  -- the names are not to blame, the depth is
  rintro ⟨-, hshallow⟩
  have hdeep := hshallow (.custom (nestedPlaceholder depth), "x0") (List.mem_singleton_self _)
  rw [Kind.fragment, hread.2] at hdeep
  omega

/-- Not every pattern with a registered placeholder can be compiled: not one that uses a named group
    twice, nor one whose fragment is nested too deep for the groups around it, nor one whose
    fragment cannot be read by itself and takes in the end of its group. -/
theorem compile_registered_eq_none :
    (∃ registry : Registry, registry.Built ∧ registry.custom = [namedPlaceholder] ∧
      (compile "\x7bx\x7d \x7bx\x7d" registry).value.1 = none) ∧
    (∃ registry : Registry, registry.Built ∧ registry.custom = [nestedPlaceholder 248] ∧
      (compile "\x7bx\x7d" registry).value.1 = none) ∧
    ∃ registry : Registry, registry.Built ∧ registry.custom = [commentPlaceholder] ∧
      (compile "\x7bx\x7d" registry).value.1 = none := by
  refine ⟨?named, compile_nested_eq_none rfl, ?comment⟩
  case named =>
    obtain ⟨registry, hbuilt, hcustom⟩ := Built.empty.exists_register namedPlaceholder
      (by decide +kernel)
    refine ⟨registry, hbuilt, hcustom, ?_⟩
    rw [compile_value_fst, expression?, kind?, hcustom, ← Option.isNone_iff_eq_none]
    decide +kernel
  case comment =>
    obtain ⟨registry, hbuilt, hcustom⟩ := Built.empty.exists_register commentPlaceholder
      (by decide +kernel)
    refine ⟨registry, hbuilt, hcustom, ?_⟩
    rw [compile_value_fst, expression?, kind?, hcustom, ← Option.isNone_iff_eq_none]
    decide +kernel

end Registry

end Gherkin
