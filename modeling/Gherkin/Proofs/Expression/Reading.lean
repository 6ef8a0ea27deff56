/-
  Gherkin.Proofs.Expression.Reading

  What the regular expression of a pattern is made of. Each literal stands in it
  with its characters and each placeholder with a group, in which is the
  expression that the fragment of its kind is by itself. No name of a group is
  used twice, also not in fragments. It takes fragments that can be read by
  themselves: what was registered was read between anchors only.
-/
import Mathlib.Data.List.Nodup
import Gherkin.Proofs.Expression.Builtin
import Gherkin.Proofs.Expression.Cache

namespace Gherkin

open Expression (Token isName)

/-! ## Names of groups -/

theorem toList_numbered (name : String) (n : Nat) :
    (s!"{name}{n}").toList = name.toList ++ Nat.toDigits 10 n := by
  simp [toString, String.toList_append]

/-- A numbered name is a name. -/
theorem isName_numbered {name : String} (h : isName name.toList = true) (n : Nat) :
    isName (s!"{name}{n}").toList = true := by
  have hdigits : ∀ c ∈ Nat.toDigits 10 n, Expression.isNameChar c = true := by
    intro c hc
    have hdigit : c.isDigit = true := Nat.isDigit_of_mem_toDigits (by decide) (by decide) hc
    simp [Expression.isNameChar, Char.isAlphanum, hdigit]
  rw [toList_numbered]
  cases hchars : name.toList with
  | nil => simp [hchars, isName] at h
  | cons first rest =>
    rw [hchars, isName, Bool.and_eq_true, List.all_eq_true] at h
    rw [List.cons_append, isName, Bool.and_eq_true, List.all_eq_true]
    refine ⟨h.1, ?_⟩
    intro c hc
    rcases List.mem_append.1 hc with hrest | hnumber
    · exact h.2 c hrest
    · exact hdigits c hnumber

/-! ## Registries -/

namespace Registry

/-- Whether a registry comes from the empty one by registrations. -/
inductive Built : Registry → Prop
  | empty : Built empty
  | register {registry after : Registry} {placeholder : Placeholder} (h : Built registry)
      (hafter : (registry.register placeholder).value = .ok after) : Built after

/-- A placeholder that is not refused can be registered. -/
theorem Built.exists_register {registry : Registry} (h : registry.Built) (placeholder : Placeholder)
    (hnone : refusal? registry.custom placeholder = none) :
    ∃ after : Registry, after.Built ∧ after.custom = registry.custom ++ [placeholder] := by
  rcases register_cases registry placeholder with ⟨fault, hfault, -⟩ | ⟨-, after, hafter, hcustom⟩
  · cases hnone.symm.trans hfault
  · exact ⟨after, h.register hafter, hcustom⟩

theorem Built.custom {registry : Registry} (h : registry.Built) :
    ∀ placeholder ∈ registry.custom,
      (Regex.read? s!"^(?:{placeholder.fragment})$").isSome = true := by
  induction h with
  | empty => exact fun placeholder hmem => by cases hmem
  | @register registry after placeholder _ hafter ih =>
    rcases register_cases registry placeholder with ⟨fault, -, hfault⟩ | ⟨hnone, next, hok, hcustom⟩
    · cases hfault.symm.trans hafter
    · obtain rfl := Except.ok.inj (hok.symm.trans hafter)
      rw [hcustom]
      intro other hother
      rcases List.mem_append.1 hother with hother | hother
      · exact ih other hother
      · obtain rfl := List.mem_singleton.1 hother
        exact (refusal?_eq_none_iff.1 hnone).2.2.2

end Registry

/-- The fragment of every kind that a registry knows can be read between anchors. -/
theorem Registry.Built.fragment {registry : Registry} (h : registry.Built) {name : String}
    {kind : Kind} (hkind : registry.kind? name = some kind) :
    (Regex.read? s!"^(?:{kind.fragment})$").isSome = true := by
  rcases Option.or_eq_some_iff.1 hkind with hbuiltin | ⟨-, hcustom⟩
  · obtain ⟨builtin, -, rfl⟩ := Option.map_eq_some_iff.1 hbuiltin
    exact builtin.fragment_readable.2
  · obtain ⟨placeholder, hfind, rfl⟩ := Option.map_eq_some_iff.1 hcustom
    exact h.custom placeholder (List.mem_of_find?_eq_some hfind)

/-! ## Parts -/

section

variable {kindOf : String → Option Kind} {seen : List String} {start : Nat} {name : String}

theorem parts_known {kind : Kind} (h : kindOf name = some kind) (tokens : List Token) :
    parts kindOf seen (.placeholder start name :: tokens) =
      .capture kind s!"{name}{seen.count name}" :: parts kindOf (name :: seen) tokens := by
  rw [parts, h]

theorem parts_unknown (h : kindOf name = none) (tokens : List Token) :
    parts kindOf seen (.placeholder start name :: tokens) =
      .literal ('\x7b' :: name.toList ++ ['\x7d']) :: parts kindOf seen tokens := by
  rw [parts, h]

end

/-- Whether a part can be read: the group of a placeholder has a name, and the fragment of its kind
    can be read by itself and between anchors. -/
def Part.Readable : Part → Prop
  | literal _ => True
  | capture kind group => isName group.toList = true ∧ (Regex.read? kind.fragment).isSome = true ∧
      (Regex.read? s!"^(?:{kind.fragment})$").isSome = true

/-- Whether expressions are those of parts: the characters of a literal, and for a placeholder its
    group with the expression that the fragment of its kind is. With them are the names of groups,
    the last one first. -/
inductive Formed : List Part → List Regex → List String → Prop
  | nil : Formed [] [] []
  | literal {text : List Char} {ps : List Part} {rs : List Regex} {names : List String}
      (hrest : Formed ps rs names) :
      Formed (.literal text :: ps) (text.map (fun c => .text [c]) ++ rs) names
  | capture {kind : Kind} {group : String} {r : Regex} {index : Nat} {inner : List String}
      {ps : List Part} {rs : List Regex} {names : List String}
      (hr : Regex.read? kind.fragment = some r) (hinner : r.groupNames ⊆ inner)
      (hrest : Formed ps rs names) :
      Formed (.capture kind group :: ps) (.group index (some group) (r.renumber index) :: rs)
        (names ++ (inner ++ [group]))

open Regex (Reads State)

/-! ## Reading parts -/

/-- The names of the groups of a part: its own and those in its fragment. -/
def Part.groupNames : Part → List String
  | literal _ => []
  | capture kind group => group :: Regex.namesOf kind.fragment

/-- How deep signs are nested in what a part adds. -/
def Part.depths : Part → List Nat
  | literal text => text.map fun _ => 0
  | capture kind _ => [2 + Regex.depthOf kind.fragment]

/-- The state of the reader after a part. -/
def Part.after (state : State) : Part → State
  | literal text => state.spell text
  | capture kind group =>
    state.enclose group
      ((Regex.lastState? (kind.fragment.length + 1) {} kind.fragment.toList).getD {})

/-- The state of the reader behind the anchor at the start. -/
def startState : State := State.push {} (.look .textStart)

/-- The state of the reader at the end of the notation of parts. -/
def partsState (ps : List Part) : State := (ps.foldl Part.after startState).push (.look .textEnd)

theorem toList_partsSource (ps : List Part) :
    (partsSource ps).toList = '^' :: (ps.flatMap (·.source.toList) ++ ['$']) := by
  simp [partsSource, String.toList_append, String.toList_join, List.flatMap_map]

theorem toList_source_literal (text : List Char) :
    (Part.literal text).source.toList = text.flatMap Regex.escapeChar := by
  rw [Part.source, Regex.escape, String.toList_ofList, String.toList_ofList]

theorem Part.after_capture {kind : Kind} {inner : State}
    (h : Regex.lastState? (kind.fragment.length + 1) {} kind.fragment.toList = some inner)
    (state : State) (group : String) :
    Part.after state (.capture kind group) = state.enclose group inner := by
  rw [Part.after, h, Option.getD_some]

/-- A part adds its expressions, with their depths, and its names. -/
theorem Part.Readable.gains {p : Part} (h : p.Readable) (state : State) :
    ∃ rs, state.Gains (p.after state) rs p.depths p.groupNames.reverse ∧
      ∀ ps rs' names, Formed ps rs' names →
        Formed (p :: ps) (rs ++ rs') (names ++ p.groupNames.reverse) := by
  cases p with
  | literal text =>
    refine ⟨_, state.gains_spell text, fun ps rs' names hformed => ?_⟩
    rw [Part.groupNames, List.reverse_nil, List.append_nil]
    exact .literal hformed
  | capture kind group =>
    obtain ⟨r, hr⟩ := Option.isSome_iff_exists.1 h.2.1
    obtain ⟨inner, hinner, hregex, hnames, hdepth⟩ := Regex.exists_lastState_of_read? hr
    have hgains := state.gains_enclose group inner
    rw [hregex, hnames, hdepth] at hgains
    rw [Part.after_capture hinner, Part.groupNames, List.reverse_cons]
    refine ⟨_, hgains, fun ps rs' names hformed => .capture hr ?_ hformed⟩
    -- the groups of the fragment are among those that are opened in it
    have hnamed := (Regex.lastState?_leads hinner).1.named
      (by simp [State.Named, Regex.Content.groupNames])
    rw [← hregex, ← hnames]
    exact List.Subset.trans inner.content.groupNames_whole hnamed.1

theorem gains_parts {ps : List Part} (hreadable : ∀ p ∈ ps, p.Readable) (state : State) :
    ∃ rs, state.Gains (ps.foldl Part.after state) rs (ps.reverse.flatMap Part.depths)
        (ps.flatMap Part.groupNames).reverse ∧
      Formed ps rs (ps.flatMap Part.groupNames).reverse := by
  induction ps generalizing state with
  | nil => exact ⟨[], .refl state, .nil⟩
  | cons p ps ih =>
    obtain ⟨hp, hps⟩ := List.forall_mem_cons.1 hreadable
    obtain ⟨rs, hfirst, hformed⟩ := hp.gains state
    obtain ⟨rs', hrest, hformed'⟩ := ih hps (p.after state)
    rw [List.reverse_cons, List.flatMap_append, List.flatMap_singleton, List.flatMap_cons,
      List.reverse_append]
    exact ⟨_, hfirst.trans hrest, hformed _ _ _ hformed'⟩

/-- The notation of parts is read part by part. -/
theorem reads_parts {ps : List Part} {state last : State} {rest : List Char}
    (h : Reads state (ps.flatMap (·.source.toList) ++ rest) last) (hflags : state.flags = {})
    (hreadable : ∀ p ∈ ps, p.Readable) :
    state.Leads (ps.foldl Part.after state) ∧ Reads (ps.foldl Part.after state) rest last := by
  induction ps generalizing state with
  | nil => exact ⟨.refl, h⟩
  | cons p ps ih =>
    obtain ⟨hp, hps⟩ := List.forall_mem_cons.1 hreadable
    rw [List.flatMap_cons, List.append_assoc] at h
    have hpart : state.Leads (p.after state) ∧
        Reads (p.after state) (ps.flatMap (·.source.toList) ++ rest) last := by
      cases p with
      | literal text =>
        rw [toList_source_literal] at h
        exact h.escaped hflags
      | capture kind group =>
        obtain ⟨hgroup, halone, hanchored⟩ := hp
        obtain ⟨r, hr⟩ := Option.isSome_iff_exists.1 halone
        obtain ⟨inner, hinner, -⟩ := Regex.exists_lastState_of_read? hr
        have hclosing : '>' ∉ group.toList := fun hmem =>
          absurd (Expression.isNameChar_of_isName hgroup _ hmem) (by decide)
        rw [Part.after_capture hinner]
        exact h.fragment hclosing hflags hinner hanchored
    obtain ⟨rs, hgains, -⟩ := hp.gains state
    obtain ⟨hrest, hend⟩ := ih hpart.2 (hgains.flags.trans hflags) hps
    exact ⟨hpart.1.trans hrest, hend⟩

/-- Where the notation of parts can be read, it is read to the state that the parts make. -/
theorem eq_partsState {ps : List Part} {n : Nat} {last : State}
    (h : Regex.lastState? n {} (partsSource ps).toList = some last)
    (hreadable : ∀ p ∈ ps, p.Readable) : last = partsState ps := by
  rw [toList_partsSource] at h
  have hreads : Reads {} ('^' :: (ps.flatMap (·.source.toList) ++ ['$'])) last := ⟨n, h⟩
  obtain ⟨rs, hgains, -⟩ := gains_parts hreadable startState
  obtain ⟨-, hend⟩ := reads_parts (hreads.caret rfl) rfl hreadable
  exact (hend.dollar hgains.flags).2.symm

/-- The regular expression of parts: the start of the text, the expressions of the parts, the end of
    the text. -/
theorem formed_of_read? {ps : List Part} {r : Regex} (h : Regex.read? (partsSource ps) = some r)
    (hreadable : ∀ p ∈ ps, p.Readable) :
    ∃ rs, Formed ps rs (ps.flatMap Part.groupNames).reverse ∧
      (ps.flatMap Part.groupNames).Nodup ∧
      r = Regex.seqs (.look .textStart :: (rs ++ [.look .textEnd])) := by
  obtain ⟨last, hlast, -, hregex⟩ := Regex.read?_eq_some_iff.1 h
  obtain rfl := eq_partsState hlast hreadable
  obtain ⟨rs, hgains, hformed⟩ := gains_parts hreadable startState
  refine ⟨rs, hformed, ?_, ?_⟩
  · have hnodup := (Regex.lastState?_leads hlast).1.nodup List.nodup_nil
    have hnames : (partsState ps).names = (ps.flatMap Part.groupNames).reverse ++ [] := hgains.names
    rwa [hnames, List.append_nil, List.nodup_reverse] at hnodup
  · have hregexes : (partsState ps).content.regexes =
        .look .textStart :: (rs ++ [.look .textEnd]) := by
      rw [partsState, State.push, Regex.Content.regexes_push, hgains.regexes]
      rfl
    have halternatives : (partsState ps).content.alternatives = [] := hgains.alternatives
    rw [← hregex, Regex.Content.whole_of_anchors halternatives hregexes]

end Gherkin
