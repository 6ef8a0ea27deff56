/-
  Gherkin.Proofs.Regex.Fragment

  Reading a notation that is put together from escaped texts and from fragments
  in named groups. An escaped text adds its characters to what has been read, and
  a fragment adds its group, with the expression that the fragment is when it is
  read alone. That the fragment closes its group is seen by reading it between
  anchors.
-/
import Gherkin.Proofs.Regex.Reads

namespace Gherkin.Regex

variable {state last : State} {rest : List Char}

/-! ## Single signs -/

/-- Where the flags are those of a fresh start, nothing is passed over. -/
theorem Reads.plainSign {s : List Char} (h : Reads state s last) (hflags : state.flags = {})
    (sign : Sign) (hsign : readSign? 0 {} s = some (sign, rest)) :
    ∃ next, sign.effect? state = some next ∧ Reads next rest last :=
  h.sign (m := 0) sign (by rw [hflags]; exact hsign)

/-- At the end of the text no group is open. -/
theorem Reads.done (h : Reads state [] last) : state.outer = [] ∧ state = last := by
  rcases h.cases with ⟨-, hend⟩ | ⟨m, sign, rest, next, hsign, -⟩
  · exact hend
  · rw [skip_nil] at hsign
    cases hsign

/-- An anchor at the start. -/
theorem Reads.caret (h : Reads state ('^' :: rest) last) (hflags : state.flags = {}) :
    Reads (state.push (.look .textStart)) rest last := by
  obtain ⟨next, happly, hreads⟩ := h.plainSign hflags (.look .textStart) rfl
  obtain rfl := Option.some.inj happly
  exact hreads

/-- An anchor at the end. -/
theorem Reads.dollar (h : Reads state ['$'] last) (hflags : state.flags = {}) :
    state.outer = [] ∧ state.push (.look .textEnd) = last := by
  obtain ⟨next, happly, hreads⟩ := h.plainSign hflags (.look .textEnd) rfl
  obtain rfl := Option.some.inj happly
  exact hreads.done

/-- A text can be read if its end is reached and signs are not nested too deep. -/
theorem read?_eq_some_iff {source : String} {r : Regex} :
    read? source = some r ↔
      ∃ last, lastState? (source.length + 1) {} source.toList = some last ∧
        last.content.whole.depth ≤ depthLimit ∧ last.content.whole.regex = r := by
  rw [read?, readFrom?_eq]
  cases lastState? (source.length + 1) {} source.toList with
  | none => simp
  | some last => simp

/-! ## What a part adds -/

/-- The expressions of the open alternative so far, the first one first. -/
def Content.regexes (content : Content) : List Regex :=
  content.pieces.reverse.filterMap (·.regex)

theorem Content.regexes_push (content : Content) (r : Regex) (depth : Nat) :
    (content.push { regex := some r, depth }).regexes = content.regexes ++ [r] := by
  rw [regexes, push, List.reverse_cons, List.filterMap_append]
  rfl

/-- What the reading of a part adds: expressions to the open alternative, with their depths, and
    names; depths and names the last one first. All else is as before. -/
structure State.Gains (state next : State) (rs : List Regex) (depths : List Nat)
    (names : List String) : Prop where
  outer : next.outer = state.outer
  flags : next.flags = state.flags
  alternatives : next.content.alternatives = state.content.alternatives
  regexes : next.content.regexes = state.content.regexes ++ rs
  depths : next.content.pieces.map (·.depth) = depths ++ state.content.pieces.map (·.depth)
  names : next.names = names ++ state.names

namespace State.Gains

variable {next last : State} {rs rs' : List Regex} {depths depths' : List Nat}
  {names names' : List String}

theorem refl (state : State) : state.Gains state [] [] [] where
  outer := rfl
  flags := rfl
  alternatives := rfl
  regexes := (List.append_nil _).symm
  depths := rfl
  names := rfl

theorem trans (h : state.Gains next rs depths names) (h' : next.Gains last rs' depths' names') :
    state.Gains last (rs ++ rs') (depths' ++ depths) (names' ++ names) where
  outer := h'.outer.trans h.outer
  flags := h'.flags.trans h.flags
  alternatives := h'.alternatives.trans h.alternatives
  regexes := by rw [h'.regexes, h.regexes, List.append_assoc]
  depths := by rw [h'.depths, h.depths, List.append_assoc]
  names := by rw [h'.names, h.names, List.append_assoc]

/-- One more expression. -/
theorem push (state : State) (r : Regex) (depth : Nat) :
    state.Gains (state.push r depth) [r] [depth] [] where
  outer := rfl
  flags := rfl
  alternatives := rfl
  regexes := Content.regexes_push _ r depth
  depths := rfl
  names := rfl

end State.Gains

/-! ## Escaped text -/

/-- A character that is written to mean itself is read so. -/
theorem readSign?_escapeChar (c : Char) (rest : List Char) :
    readSign? 0 {} (escapeChar c ++ rest) = some (.one (.char c) 0, rest) := by
  rw [escapeChar]
  split
  next hmeta =>
    have hmem : c ∈ metaCharacters := List.contains_iff_mem.1 hmeta
    simp only [metaCharacters, List.mem_cons, List.not_mem_nil, or_false] at hmem
    rcases hmem with rfl | rfl | rfl | rfl | rfl | rfl | rfl | rfl | rfl | rfl | rfl | rfl | rfl |
      rfl | rfl | rfl | rfl | rfl <;> rfl
  next hmeta =>
    have hne (d : Char) (hd : d ∈ metaCharacters) : c ≠ d := by
      rintro rfl
      exact hmeta (List.contains_iff_mem.2 hd)
    exact readSign?.eq_14 0 {} c rest (hne _ (by decide)) (hne _ (by decide)) (hne _ (by decide))
      (hne _ (by decide)) (hne _ (by decide)) (hne _ (by decide)) (hne _ (by decide))
      (hne _ (by decide)) (hne _ (by decide)) (hne _ (by decide)) (hne _ (by decide))
      (hne _ (by decide))

theorem ofClass_char (c : Char) : ofClass (.char c) = .text [c] := by
  simp [ofClass, CharClass.char, CharClass.point]

/-- The state after a text that stands for itself. -/
def State.spell (state : State) (text : List Char) : State :=
  text.foldl (fun state c => state.push (.text [c])) state

/-- A text adds its characters. -/
theorem State.gains_spell (state : State) (text : List Char) :
    state.Gains (state.spell text) (text.map fun c => .text [c]) (text.map fun _ => 0) [] := by
  induction text generalizing state with
  | nil => exact .refl state
  | cons c text ih =>
    have hboth := (Gains.push state (.text [c]) 0).trans (ih (state.push (.text [c])))
    have hzeros : (text.map fun _ => 0) ++ [0] = (c :: text).map fun _ => 0 := by
      rw [List.map_const', List.map_const', List.length_cons, List.replicate_succ']
    rwa [hzeros] at hboth

/-- The sign of an escaped character. -/
theorem effect?_char (state : State) (c : Char) :
    (Sign.one (.char c) 0).effect? state = some (state.push (.text [c])) := by
  rw [Sign.effect?, ofClass_char]

/-- An escaped text is read to its characters. -/
theorem Reads.escaped {text : List Char} (h : Reads state (text.flatMap escapeChar ++ rest) last)
    (hflags : state.flags = {}) :
    state.Leads (state.spell text) ∧ Reads (state.spell text) rest last := by
  induction text generalizing state with
  | nil => exact ⟨.refl, h⟩
  | cons c text ih =>
    rw [List.flatMap_cons, List.append_assoc] at h
    obtain ⟨next, happly, hreads⟩ := h.plainSign hflags _ (readSign?_escapeChar c _)
    obtain rfl := Option.some.inj ((effect?_char state c).symm.trans happly)
    obtain ⟨hleads, hafter⟩ := ih hreads hflags
    exact ⟨.head ⟨_, happly⟩ hleads, hafter⟩

/-! ## Fragments in groups -/

/-! ### Opening and closing -/

/-- The sign of a group with a name, where one is read. -/
theorem nameSign?_of_some {name : List Char} (hname : '>' ∉ name) {p : Sign × List Char}
    (h : nameSign? (name ++ '>' :: rest) = some p) :
    p = (.openCapture (some (.ofList name)), rest) := by
  have hspan : (name ++ '>' :: rest).span (· ≠ '>') = (name, '>' :: rest) := by
    have hall : ∀ c ∈ name, decide (c ≠ '>') = true := fun c hc =>
      decide_eq_true fun heq => hname (heq ▸ hc)
    rw [List.span_eq_takeWhile_dropWhile, List.takeWhile_append_of_pos hall,
      List.dropWhile_append_of_pos hall]
    simp
  rw [nameSign?, readName?, hspan] at h
  cases name with
  | nil => cases h
  | cons c name =>
    dsimp only at h
    split at h
    · exact (Option.some.inj h).symm
    · cases h

/-- A group with a name. -/
theorem Reads.openNamed {name : String}
    (h : Reads state ("(?P<".toList ++ (name.toList ++ '>' :: rest)) last)
    (hname : '>' ∉ name.toList) (hflags : state.flags = {}) :
    (Sign.openCapture (some name)).effect? state = some (state.openCapture (some name)) ∧
      Reads (state.openCapture (some name)) rest last := by
  rcases h.cases with ⟨hnil, -⟩ | ⟨m, sign, rest', next, hsign, happly, hreads⟩
  · rw [hflags] at hnil
    cases hnil
  · rw [hflags] at hsign
    obtain ⟨rfl, rfl⟩ := Prod.mk.inj (nameSign?_of_some hname hsign)
    rw [String.ofList_toList] at happly
    have hnext : next = state.openCapture (some name) := by
      rw [Sign.effect?] at happly
      split at happly
      · cases happly
      · exact (Option.some.inj happly).symm
    subst hnext
    exact ⟨happly, hreads⟩

/-- A group without a name, with the flags of a fresh start. -/
theorem Reads.openPlain (h : Reads state ("(?:".toList ++ rest) last) (hflags : state.flags = {}) :
    Reads (state.openPlain {}) rest last := by
  obtain ⟨next, happly, hreads⟩ := h.plainSign hflags (.openPlain {}) rfl
  obtain rfl := Option.some.inj happly
  exact hreads

/-- The end of the innermost group. -/
theorem Reads.close (h : Reads state (')' :: rest) last) :
    ∃ next, state.closeGroup? = some next ∧ Reads next rest last :=
  h.sign (m := 0) .close (by rw [skip_paren]; rfl)

theorem toList_anchored (fragment : String) : (s!"^(?:{fragment})$").toList =
    '^' :: ("(?:".toList ++ (fragment.toList ++ [')', '$'])) := by
  simp [toString, String.toList_append]

/-- A fragment that can be read between anchors closes the group it is in. -/
theorem not_notClosed {fragment : String}
    (h : (read? s!"^(?:{fragment})$").isSome = true) : ¬ NotClosed {} fragment.toList := by
  intro hnot
  obtain ⟨r, hr⟩ := Option.isSome_iff_exists.1 h
  obtain ⟨last, hlast, -⟩ := read?_eq_some_iff.1 hr
  rw [toList_anchored] at hlast
  have hreads : Reads {} ('^' :: ("(?:".toList ++ (fragment.toList ++ [')', '$']))) last :=
    ⟨_, hlast⟩
  have hopen := (hreads.caret rfl).openPlain rfl
  refine hnot ((State.push {} (.look .textStart)).openPlain {}) last (List.cons_ne_nil _ _) ?_
  rwa [State.within_start rfl]

/-! ### Finished alternatives -/

/-- Whether the finished alternatives of a group are sequences that would not be changed by being
    built again. -/
def Content.Settled (content : Content) : Prop :=
  ∀ branch ∈ content.alternatives, seqs [branch.regex] = branch.regex

/-- Whether the finished alternatives of all open groups are settled. -/
def State.Settled (state : State) : Prop :=
  state.content.Settled ∧ ∀ group ∈ state.outer, group.content.Settled

theorem State.settled_start : ({} : State).Settled := by
  simp [State.Settled, Content.Settled]

theorem Sign.effect?_settled {sign : Sign} {state next : State} (hsettled : state.Settled)
    (h : sign.effect? state = some next) : next.Settled := by
  -- a group begins with no alternatives, and its end adds one piece to what is around it
  have hfresh (flags : Flags) : Content.Settled { flags } := fun branch hbranch => by cases hbranch
  obtain ⟨hcontent, houter⟩ := hsettled
  cases sign with
  | openCapture name =>
    simp only [Sign.effect?] at h
    split at h
    · cases h
    obtain rfl := Option.some.inj h
    exact ⟨hfresh _, List.forall_mem_cons.2 ⟨hcontent, houter⟩⟩
  | openPlain flags =>
    obtain rfl := Option.some.inj h
    exact ⟨hfresh _, List.forall_mem_cons.2 ⟨hcontent, houter⟩⟩
  | close =>
    obtain ⟨content, outer, names, count⟩ := state
    cases outer with
    | nil => cases h
    | cons group outer =>
      obtain rfl := Option.some.inj h
      exact ⟨(List.forall_mem_cons.1 houter).1, (List.forall_mem_cons.1 houter).2⟩
  | alternate =>
    obtain rfl := Option.some.inj h
    exact ⟨List.forall_mem_cons.2 ⟨seqs_seqs _, hcontent⟩, houter⟩
  | repeated least most greedy =>
    obtain ⟨⟨alternatives, pieces, flags⟩, outer, names, count⟩ := state
    rcases pieces with _ | ⟨⟨_ | r, depth⟩, pieces⟩
    · cases h
    · cases h
    · obtain rfl := Option.some.inj h
      exact ⟨hcontent, houter⟩
  | _ =>
    obtain rfl := Option.some.inj h
    exact ⟨hcontent, houter⟩

theorem State.Leads.settled {state next : State} (h : state.Leads next)
    (hsettled : state.Settled) : next.Settled :=
  h.keeps Sign.effect?_settled hsettled

/-- An expression that has been read is not changed by a group around it. -/
theorem Content.alts_seqs_whole {content : Content} (h : content.Settled) :
    alts [seqs [content.whole.regex]] = content.whole.regex := by
  have hbranches : ∀ r ∈ (content.sequence :: content.alternatives).reverse.map (·.regex),
      seqs [r] = r := by
    intro r hr
    obtain ⟨branch, hbranch, rfl⟩ := List.mem_map.1 hr
    rcases List.mem_cons.1 (List.mem_reverse.1 hbranch) with rfl | hbranch
    · exact seqs_seqs _
    · exact h branch hbranch
  rw [Content.whole, seqs_alts hbranches, alts_alts]

theorem alts_seqs_renumber {k : Nat} {r : Regex} (h : alts [seqs [r]] = r) :
    alts [seqs [r.renumber k]] = r.renumber k := by
  have hseqs := seqs_renumber (k := k) [r]
  have halts := alts_renumber (k := k) [seqs [r]]
  rw [List.map_singleton] at hseqs halts
  rw [hseqs, halts, h]

/-! ### A fragment in its group -/

/-- The names of the groups that are opened in a text, in order. -/
def namesOf (source : String) : List String :=
  (lastState? (source.length + 1) {} source.toList).elim [] (·.names.reverse)

/-- How deep signs are nested in a text. -/
def depthOf (source : String) : Nat :=
  (lastState? (source.length + 1) {} source.toList).elim 0 (·.content.whole.depth)

/-- The state after a text that can be read. -/
theorem exists_lastState_of_read? {source : String} {r : Regex} (h : read? source = some r) :
    ∃ inner, lastState? (source.length + 1) {} source.toList = some inner ∧
      inner.content.whole.regex = r ∧ inner.names = (namesOf source).reverse ∧
      inner.content.whole.depth = depthOf source := by
  obtain ⟨inner, hinner, -, hregex⟩ := read?_eq_some_iff.1 h
  refine ⟨inner, hinner, hregex, ?_, ?_⟩
  · rw [namesOf, hinner, Option.elim_some, List.reverse_reverse]
  · rw [depthOf, hinner, Option.elim_some]

/-- The state after the group of a fragment, if `inner` is the state after the fragment alone. -/
def State.enclose (state : State) (name : String) (inner : State) : State :=
  { state with
    content := state.content.push
      { regex := some (.group (state.count + 1) (some name)
          (inner.content.whole.regex.renumber (state.count + 1)))
        depth := 2 + inner.content.whole.depth }
    names := inner.names ++ name :: state.names
    count := inner.count + (state.count + 1) }

/-- The two groups around a fragment, closed one after the other. -/
theorem State.closeGroup?_enclose {inner : State} (houter : inner.outer = [])
    (hsettled : inner.content.Settled) (state : State) (name : String) :
    ∃ between, (((state.openCapture (some name)).openPlain {}).within inner).closeGroup? =
        some between ∧ between.closeGroup? = some (state.enclose name inner) := by
  obtain ⟨content, outer, names, count⟩ := inner
  obtain rfl : outer = [] := houter
  refine ⟨_, rfl, ?_⟩
  have hregex : alts [seqs [(content.renumber (state.count + 1)).whole.regex]] =
      content.whole.regex.renumber (state.count + 1) := by
    rw [Content.whole_renumber]
    exact alts_seqs_renumber (Content.alts_seqs_whole hsettled)
  have hdepth : 1 + (1 + (content.renumber (state.count + 1)).whole.depth) =
      2 + content.whole.depth := by
    rw [Content.whole_renumber, ← Nat.add_assoc]
    rfl
  rw [State.enclose, ← hregex, ← hdepth]
  rfl

theorem State.gains_enclose (state : State) (name : String) (inner : State) :
    state.Gains (state.enclose name inner)
      [.group (state.count + 1) (some name)
        (inner.content.whole.regex.renumber (state.count + 1))]
      [2 + inner.content.whole.depth] (inner.names ++ [name]) where
  outer := rfl
  flags := rfl
  alternatives := rfl
  regexes := Content.regexes_push _ _ _
  depths := rfl
  names := List.append_cons _ _ _

theorem toList_source (name fragment : String) (rest : List Char) :
    (s!"(?P<{name}>(?:{fragment}))").toList ++ rest = "(?P<".toList ++ (name.toList ++
      '>' :: ("(?:".toList ++ (fragment.toList ++ ')' :: ')' :: rest))) := by
  simp [toString, String.toList_append]

/-- A fragment that can be read by itself and between anchors is read in its group as it is read
    alone. -/
theorem readAlike_fragment {fragment : String} {inner : State}
    (hinner : lastState? (fragment.length + 1) {} fragment.toList = some inner)
    (hclosed : (read? s!"^(?:{fragment})$").isSome = true) :
    ReadAlike (fragment.length + 1) {} fragment.toList inner :=
  (readAlike_or_notClosed hinner).resolve_right (not_notClosed hclosed)

/-- Expressions between anchors make up a sequence. -/
theorem Content.whole_of_anchors {content : Content} {rs : List Regex}
    (halternatives : content.alternatives = [])
    (hregexes : content.regexes = .look .textStart :: (rs ++ [.look .textEnd])) :
    content.whole.regex = seqs (.look .textStart :: (rs ++ [.look .textEnd])) := by
  have hlength : 2 ≤ ((look .textStart :: (rs ++ [.look .textEnd])).flatMap parts).length := by
    simp only [List.flatMap_cons, List.flatMap_append, List.length_append, List.flatMap_nil]
    exact Nat.add_le_add (Nat.le_refl 1) (Nat.le_add_left 1 _)
  rw [Content.whole, halternatives]
  change alts [seqs content.regexes] = _
  rw [hregexes, alts, List.flatMap_singleton, branches_seqs hlength]

/-- A fragment that can be read by itself and between anchors is read there as it is read alone. -/
theorem eq_of_read?_anchored {fragment : String} {r anchored : Regex}
    (hr : read? fragment = some r) (h : read? s!"^(?:{fragment})$" = some anchored) :
    anchored = seqs (.look .textStart :: ([r] ++ [.look .textEnd])) := by
  obtain ⟨inner, hinner, hregex, -⟩ := exists_lastState_of_read? hr
  obtain ⟨last, hlast, -, hwhole⟩ := read?_eq_some_iff.1 h
  rw [toList_anchored] at hlast
  have hreads : Reads {} ('^' :: ("(?:".toList ++ (fragment.toList ++ [')', '$']))) last :=
    ⟨_, hlast⟩
  have hopen := (hreads.caret rfl).openPlain rfl
  have hstart := @State.within_start ((State.push {} (.look .textStart)).openPlain {}) rfl
  rw [← hstart] at hopen
  have hclosed : (read? s!"^(?:{fragment})$").isSome = true := by rw [h, Option.isSome_some]
  obtain ⟨-, hafter⟩ := (readAlike_fragment hinner hclosed).reads hopen
  -- the group around the fragment is closed, and nothing is left but the anchor
  obtain ⟨next, hnext, hafter⟩ := hafter.close
  obtain ⟨-, houter⟩ := lastState?_leads hinner
  obtain ⟨content, outer, names, count⟩ := inner
  obtain rfl : outer = [] := houter
  obtain rfl := Option.some.inj hnext
  obtain ⟨-, rfl⟩ := hafter.dollar rfl
  have hinside : (content.renumber 0).whole.regex = r := by
    rw [Content.whole_renumber, ← hregex]
    exact renumber_zero _
  rw [← hwhole, ← hinside]
  exact Content.whole_of_anchors rfl rfl

/-- A fragment in a group with a name is read to the group. -/
theorem Reads.fragment {name fragment : String} {inner : State}
    (h : Reads state ((s!"(?P<{name}>(?:{fragment}))").toList ++ rest) last)
    (hname : '>' ∉ name.toList) (hflags : state.flags = {})
    (hinner : lastState? (fragment.length + 1) {} fragment.toList = some inner)
    (hclosed : (read? s!"^(?:{fragment})$").isSome = true) :
    state.Leads (state.enclose name inner) ∧ Reads (state.enclose name inner) rest last := by
  rw [toList_source] at h
  obtain ⟨hopen, hnamed⟩ := h.openNamed hname hflags
  have hplain := hnamed.openPlain hflags
  -- in the two groups the fragment is read as it is read alone
  have hstart := @State.within_start ((state.openCapture (some name)).openPlain {}) rfl
  rw [← hstart] at hplain
  obtain ⟨hinside, hafter⟩ := (readAlike_fragment hinner hclosed).reads hplain
  rw [hstart] at hinside
  -- both groups are closed
  obtain ⟨halone, houter⟩ := lastState?_leads hinner
  have hsettled := (halone.settled State.settled_start).1
  obtain ⟨between, hfirst, hsecond⟩ := State.closeGroup?_enclose houter hsettled state name
  obtain ⟨inGroup, hinGroup, hafter⟩ := hafter.close
  obtain rfl := Option.some.inj (hfirst.symm.trans hinGroup)
  obtain ⟨next, hnext, hafter⟩ := hafter.close
  obtain rfl := Option.some.inj (hsecond.symm.trans hnext)
  exact ⟨.head ⟨_, hopen⟩ <| .head ⟨.openPlain {}, rfl⟩ <| hinside.trans <|
    .head ⟨.close, hfirst⟩ <| .single ⟨.close, hsecond⟩, hafter⟩

end Gherkin.Regex
