/-
  Gherkin.Proofs.Regex.Crossing

  Notations that can be read. What was read by itself is read inside a named
  group too, if no name is used twice: an escaped text always, a fragment with the
  names in it. How many signs it takes is counted, because the reader is given no
  more signs than the text has characters.
-/
import Mathlib.Data.List.Nodup
import Gherkin.Proofs.Regex.Fragment

namespace Gherkin.Regex

variable {m n : Nat} {state next last : State} {u v : List Char}

/-! ## Crossings -/

/-- Whether at most `n` signs take the reader over a text from a state to another, whatever
    follows. -/
def Crosses (n : Nat) (state : State) (u : List Char) (next : State) : Prop :=
  ∀ (k : Nat) (rest : List Char) (last : State),
    lastState? k next rest = some last → lastState? (n + k) state (u ++ rest) = some last

namespace Crosses

theorem refl (state : State) : Crosses 0 state [] state := by
  intro k rest last hlast
  rwa [Nat.zero_add]

theorem trans (h : Crosses m state u next) (h' : Crosses n next v last) :
    Crosses (m + n) state (u ++ v) last := by
  intro k rest final hfinal
  rw [Nat.add_assoc, List.append_assoc]
  exact h (n + k) (v ++ rest) final (h' k rest final hfinal)

theorem mono (h : Crosses m state u next) (hle : m ≤ n) : Crosses n state u next := by
  intro k rest last hlast
  exact lastState?_mono (Nat.add_le_add_right hle k) (h k rest last hlast)

/-- A sign that is read with the flags of a fresh start. -/
theorem sign {sign : Sign} (hflags : state.flags = {})
    (hsign : ∀ rest, readSign? 0 {} (u ++ rest) = some (sign, rest))
    (happly : sign.effect? state = some next) : Crosses 1 state u next := by
  intro k rest last hlast
  have hread : readSign? k state.flags (state.flags.skip (u ++ rest)) = some (sign, rest) := by
    rw [hflags]
    exact readSign?_mono (Nat.zero_le k) (hsign rest)
  rwa [Nat.add_comm, lastState?_sign hread happly]

/-- The end of the innermost group. -/
theorem close (h : state.closeGroup? = some next) : Crosses 1 state [')'] next := by
  intro k rest last hlast
  have hread : readSign? k state.flags (state.flags.skip (')' :: rest)) = some (.close, rest) := by
    rw [skip_paren]
    rfl
  rwa [Nat.add_comm, List.singleton_append, lastState?_sign hread h]

/-- An escaped text can be read. -/
theorem escaped (hflags : state.flags = {}) (text : List Char) :
    Crosses (text.flatMap escapeChar).length state (text.flatMap escapeChar)
      (state.spell text) := by
  induction text generalizing state with
  | nil => exact .refl state
  | cons c text ih =>
    have hfirst : Crosses 1 state (escapeChar c) (state.push (.text [c])) :=
      .sign hflags (readSign?_escapeChar c) (effect?_char state c)
    have hlength : 1 ≤ (escapeChar c).length := by
      rw [escapeChar]
      split <;> simp
    rw [List.flatMap_cons, List.length_append]
    exact (hfirst.mono hlength).trans (ih hflags)

end Crosses

/-! ## Names of groups -/

/-- Whether the characters can be the name of a group. -/
def isGroupName : List Char → Bool
  | [] => false
  | c :: s => isNameStart c && s.all isNamePart

theorem nameSign?_of_isGroupName {name : String} (h : isGroupName name.toList = true)
    (rest : List Char) :
    nameSign? (name.toList ++ '>' :: rest) = some (.openCapture (some name), rest) := by
  have hstart : isNameStart '>' = false := by decide +kernel
  have hpart : isNamePart '>' = false := by decide +kernel
  cases hname : name.toList with
  | nil => simp [hname, isGroupName] at h
  | cons c s =>
    rw [hname, isGroupName] at h
    obtain ⟨hc, hs⟩ := Bool.and_eq_true_iff.1 h
    -- the name ends before the sign that closes it
    have hall : ∀ d ∈ c :: s, decide (d ≠ '>') = true := by
      intro d hd
      refine decide_eq_true fun heq => ?_
      subst heq
      rcases List.mem_cons.1 hd with rfl | hd
      · exact absurd (hstart.symm.trans hc) (by decide)
      · exact absurd (hpart.symm.trans (List.all_eq_true.1 hs _ hd)) (by decide)
    have hspan : (c :: s ++ '>' :: rest).span (· ≠ '>') = (c :: s, '>' :: rest) := by
      rw [List.span_eq_takeWhile_dropWhile, List.takeWhile_append_of_pos hall,
        List.dropWhile_append_of_pos hall]
      simp
    have hback : String.ofList (c :: s) = name := by rw [← hname, String.ofList_toList]
    rw [nameSign?, readName?, hspan]
    dsimp only
    rw [if_pos h, hback, Option.map_some]

/-! ## Fragments in groups -/

theorem length_source (name fragment : String) :
    (s!"(?P<{name}>(?:{fragment}))").toList.length = name.length + fragment.length + 10 := by
  have hsource := congrArg List.length (toList_source name fragment [])
  simp only [List.append_nil] at hsource
  rw [hsource]
  simp only [List.length_append, List.length_cons, List.length_nil, String.length_toList]
  change 4 + (name.length + (3 + (fragment.length + 2) + 1)) = _
  omega

/-- A fragment that can be read by itself and between anchors can be read in a group with a name, if
    no name is used twice. -/
theorem Crosses.fragment {name fragment : String} {inner : State} (hflags : state.flags = {})
    (hname : isGroupName name.toList = true)
    (hinner : lastState? (fragment.length + 1) {} fragment.toList = some inner)
    (hclosed : (read? s!"^(?:{fragment})$").isSome = true)
    (hnodup : (state.enclose name inner).names.Nodup) :
    Crosses (s!"(?P<{name}>(?:{fragment}))").toList.length state
      (s!"(?P<{name}>(?:{fragment}))").toList (state.enclose name inner) := by
  obtain ⟨-, houtside, hapart⟩ := List.nodup_append.1 hnodup
  obtain ⟨hunused, -⟩ := List.nodup_cons.1 houtside
  have hopen : (Sign.openCapture (some name)).effect? state =
      some (state.openCapture (some name)) := by
    rw [Sign.effect?, Option.any_some, if_neg]
    simpa using hunused
  have hnamed : Crosses 1 state ("(?P<".toList ++ (name.toList ++ ['>']))
      (state.openCapture (some name)) := by
    refine .sign hflags (fun rest => ?_) hopen
    rw [List.append_assoc, List.append_assoc, List.singleton_append]
    exact nameSign?_of_isGroupName hname rest
  have hgroup : (Sign.openPlain {}).effect? (state.openCapture (some name)) =
      some ((state.openCapture (some name)).openPlain {}) := rfl
  have hplain : Crosses 1 (state.openCapture (some name)) "(?:".toList
      ((state.openCapture (some name)).openPlain {}) :=
    .sign hflags (fun _ => rfl) hgroup
  -- in the two groups the fragment is read as it is read alone
  have hinside : Crosses (fragment.length + 3) ((state.openCapture (some name)).openPlain {})
      (fragment.toList ++ [')', ')']) (state.enclose name inner) := by
    intro k rest last hlast
    obtain ⟨halone, houter⟩ := lastState?_leads hinner
    have hsettled := (halone.settled State.settled_start).1
    obtain ⟨between, hfirst, hsecond⟩ := State.closeGroup?_enclose houter hsettled state name
    have hend := ((Crosses.close hfirst).trans (.close hsecond)) k rest last hlast
    have hread := (readAlike_fragment hinner hclosed).lastState?_within
      (fun used hused hmem => hapart used hused used hmem rfl) hend
    rw [State.within_start rfl, ← Nat.add_assoc] at hread
    rw [List.append_assoc]
    exact hread
  have hall := (hnamed.trans hplain).trans hinside
  have hsource := toList_source name fragment []
  rw [List.append_nil] at hsource
  have htext : "(?P<".toList ++ (name.toList ++ ['>']) ++ "(?:".toList ++
      (fragment.toList ++ [')', ')']) = (s!"(?P<{name}>(?:{fragment}))").toList := by
    rw [hsource]
    simp only [List.append_assoc, List.cons_append, List.nil_append]
  rw [htext] at hall
  refine hall.mono ?_
  rw [length_source]
  omega

end Gherkin.Regex
