/-
  Gherkin.Proofs.Outline.Slot

  Slots and how they are filled, told from the text alone. A text is cut from the
  left: where a slot opens it is cut out whole, and every other character stands
  for itself (`Cut`). Filling goes over the text once and puts in the value of a
  slot where it opens (`Filled`). Both are relations that hold of one result only,
  the one that the library computes.

  What is filled in brings no slot of its own if it holds no opening bracket. An
  opening bracket that is left over is followed by what followed it before: by
  nothing, a blank, a closing bracket, or a text without closing brackets.
-/
import Gherkin.Outline.Template

namespace Gherkin.Template

/-! ## Where a slot opens -/

/-- A name of a slot: the first character is no blank, and none is a closing bracket. -/
def IsName (name : List Char) : Prop :=
  (∃ c, name.head? = some c ∧ Text.isBlank c = false) ∧ '>' ∉ name

/-- The characters start with a slot of this name; `rest` follows it. -/
def Opens (name rest s : List Char) : Prop :=
  IsName name ∧ s = '<' :: (name ++ '>' :: rest)

theorem isSlotName_iff {name : List Char} : isSlotName name = true ↔ IsName name := by
  cases name with
  | nil => simp [isSlotName, IsName]
  | cons c name => simp [isSlotName, IsName]

theorem readSlot?_eq_some_iff {s name rest : List Char} :
    readSlot? s = some (name, rest) ↔ IsName name ∧ s = name ++ '>' :: rest := by
  constructor
  · intro h
    obtain ⟨hname, hs⟩ := readSlot?_eq_some h
    exact ⟨isSlotName_iff.1 hname, hs⟩
  · rintro ⟨hname, rfl⟩
    have hinside : ∀ c ∈ name, decide (c ≠ '>') = true := by
      intro c hc
      rw [decide_eq_true_eq]
      rintro rfl
      exact hname.2 hc
    have htake : (name ++ '>' :: rest).takeWhile (· ≠ '>') = name := by
      rw [List.takeWhile_append_of_pos hinside, List.takeWhile_cons_of_neg (by simp),
        List.append_nil]
    have hdrop : (name ++ '>' :: rest).dropWhile (· ≠ '>') = '>' :: rest := by
      rw [List.dropWhile_append_of_pos hinside, List.dropWhile_cons_of_neg (by simp)]
    unfold readSlot?
    rw [hdrop, htake]
    exact if_pos (isSlotName_iff.2 hname)

theorem readSlot?_eq_none_iff {s : List Char} :
    readSlot? s = none ↔ ∀ name rest, ¬ Opens name rest ('<' :: s) := by
  rw [Option.eq_none_iff_forall_ne_some]
  constructor
  · rintro h name rest ⟨hname, hs⟩
    exact h (name, rest) (readSlot?_eq_some_iff.2 ⟨hname, List.tail_eq_of_cons_eq hs⟩)
  · rintro h ⟨name, rest⟩ hread
    obtain ⟨hname, rfl⟩ := readSlot?_eq_some_iff.1 hread
    exact h name rest ⟨hname, rfl⟩

/-- A bracket before a character that may start a name opens a slot, if a closing one follows. -/
theorem exists_opens {c : Char} {s : List Char} (hblank : Text.isBlank c = false)
    (hc : c ≠ '>') (hs : '>' ∈ s) : ∃ name rest, Opens name rest ('<' :: c :: s) := by
  obtain ⟨name, rest, rfl, hname⟩ := List.eq_append_cons_of_mem hs
  refine ⟨c :: name, rest, ⟨⟨c, rfl, hblank⟩, ?_⟩, rfl⟩
  rw [List.mem_cons, not_or]
  exact ⟨hc.symm, hname⟩

/-! ## Cutting -/

theorem segments_of_opens {name rest s : List Char} (h : Opens name rest s) :
    segments s = .slot (.ofList name) :: segments rest := by
  obtain ⟨hname, rfl⟩ := h
  have hread : readSlot? (name ++ '>' :: rest) = some (name, rest) :=
    readSlot?_eq_some_iff.2 ⟨hname, rfl⟩
  rw [segments]
  split
  next hfound =>
    rw [hread] at hfound
    cases hfound
    rfl
  next hnone =>
    rw [hread] at hnone
    cases hnone

theorem segments_of_not_opens {c : Char} {s : List Char}
    (h : ∀ name rest, ¬ Opens name rest (c :: s)) :
    segments (c :: s) = .char c :: segments s := by
  by_cases hc : c = '<'
  · subst hc
    have hread := readSlot?_eq_none_iff.2 h
    rw [segments]
    split
    next hfound =>
      rw [hread] at hfound
      cases hfound
    next => rfl
  · rw [segments]
    exact hc

/-- The segments of a text: from the left, each slot that opens is one, and each other character
    is one. -/
inductive Cut : List Char → List Segment → Prop
  | nil : Cut [] []
  | slot {name rest s : List Char} {pieces : List Segment} (hopens : Opens name rest s)
      (hrest : Cut rest pieces) : Cut s (.slot (.ofList name) :: pieces)
  | char {c : Char} {s : List Char} {pieces : List Segment}
      (hnone : ∀ name rest, ¬ Opens name rest (c :: s)) (hrest : Cut s pieces) :
      Cut (c :: s) (.char c :: pieces)

theorem cut_segments (s : List Char) : Cut s (segments s) := by
  fun_induction segments s with
  | case1 => exact .nil
  | case2 s name rest h _ ih =>
    obtain ⟨hname, rfl⟩ := readSlot?_eq_some_iff.1 h
    exact .slot ⟨hname, rfl⟩ ih
  | case3 s h ih => exact .char (readSlot?_eq_none_iff.1 h) ih
  | case4 c s hc ih =>
    refine .char ?_ ih
    rintro name rest ⟨-, hs⟩
    exact hc (List.cons.inj hs).1

/-- A text is cut in one way only. -/
theorem cut_iff {s : List Char} {pieces : List Segment} : Cut s pieces ↔ pieces = segments s := by
  constructor
  · intro h
    induction h with
    | nil => rw [segments]
    | slot hopens _ ih => rw [segments_of_opens hopens, ih]
    | char hnone _ ih => rw [segments_of_not_opens hnone, ih]
  · rintro rfl
    exact cut_segments s

/-! ## Slots of a text -/

/-- A name that a text has a slot for. -/
def HasSlot (text name : String) : Prop :=
  ∃ pieces, Cut text.toList pieces ∧ .slot name ∈ pieces

theorem mem_slots {name : String} {text : String} :
    name ∈ slots text ↔ .slot name ∈ segments text.toList := by
  rw [slots, List.mem_filterMap]
  constructor
  · rintro ⟨segment, hsegment, hname⟩
    cases segment with
    | char c => cases hname
    | slot other =>
      obtain rfl : other = name := Option.some.inj hname
      exact hsegment
  · intro h
    exact ⟨.slot name, h, rfl⟩

theorem mem_slots_iff {name text : String} : name ∈ slots text ↔ HasSlot text name := by
  rw [mem_slots]
  constructor
  · intro h
    exact ⟨_, cut_segments _, h⟩
  · rintro ⟨pieces, hcut, hname⟩
    rwa [← cut_iff.1 hcut]

/-- The first slot of a text with some property is the first of its segments that is one. -/
theorem find?_slots_eq_some_iff {p : String → Bool} {text name : String} :
    (slots text).find? p = some name ↔ ∃ before after,
      Cut text.toList (before ++ .slot name :: after) ∧
        (∀ other, .slot other ∈ before → p other = false) ∧ p name = true := by
  rw [slots, List.find?_filterMap, Option.bind_eq_some_iff]
  constructor
  · rintro ⟨segment, hfind, hname⟩
    cases segment with
    | char c => cases hname
    | slot other =>
      obtain rfl : other = name := Option.some.inj hname
      obtain ⟨hp, before, after, hsegments, hbefore⟩ := List.find?_eq_some_iff_append.1 hfind
      refine ⟨before, after, cut_iff.2 hsegments.symm, ?_, hp⟩
      intro other hother
      simpa [Segment.slot?] using hbefore _ hother
  · rintro ⟨before, after, hcut, hbefore, hp⟩
    refine ⟨.slot name, List.find?_eq_some_iff_append.2
      ⟨hp, before, after, (cut_iff.1 hcut).symm, ?_⟩, rfl⟩
    intro segment hsegment
    cases segment with
    | char c => rfl
    | slot other => simp [Segment.slot?, hbefore other hsegment]

/-! ## Filling -/

variable {value? : String → Option String}

/-- The text after one pass over it, from the left: where a slot opens its value is put in its
    place and the pass goes on behind the slot, and each other character is kept. -/
inductive Filled (value? : String → Option String) : List Char → List Char → Prop
  | nil : Filled value? [] []
  | slot {name rest s out : List Char} {value : String} (hopens : Opens name rest s)
      (hvalue : value? (.ofList name) = some value) (hrest : Filled value? rest out) :
      Filled value? s (value.toList ++ out)
  | char {c : Char} {s out : List Char} (hnone : ∀ name rest, ¬ Opens name rest (c :: s))
      (hrest : Filled value? s out) : Filled value? (c :: s) (c :: out)

theorem filled_of_cut {s : List Char} {pieces : List Segment} (h : Cut s pieces)
    (hvalues : ∀ name, .slot name ∈ pieces → (value? name).isSome = true) :
    Filled value? s (pieces.flatMap (Segment.fill value?)) := by
  induction h with
  | nil => exact .nil
  | slot hopens _ ih =>
    obtain ⟨value, hvalue⟩ := Option.isSome_iff_exists.1 (hvalues _ List.mem_cons_self)
    rw [List.flatMap_cons, Segment.fill, hvalue]
    exact .slot hopens hvalue (ih fun name hname => hvalues name (List.mem_cons_of_mem _ hname))
  | char hnone _ ih =>
    exact .char hnone (ih fun name hname => hvalues name (List.mem_cons_of_mem _ hname))

theorem Filled.eq_fill {s out : List Char} (h : Filled value? s out) :
    out = (segments s).flatMap (Segment.fill value?) := by
  induction h with
  | nil => rw [segments, List.flatMap_nil]
  | slot hopens hvalue _ ih =>
    rw [segments_of_opens hopens, List.flatMap_cons, Segment.fill, hvalue, ih]
  | char hnone _ ih =>
    rw [segments_of_not_opens hnone, List.flatMap_cons, Segment.fill, ih, List.singleton_append]

/-- If each slot of a text has a value, filling the text is that one pass over it. -/
theorem filled_iff {text : String} (hvalues : ∀ name ∈ slots text, (value? name).isSome = true)
    {out : List Char} : Filled value? text.toList out ↔ out = (fill value? text).toList := by
  rw [fill, String.toList_ofList]
  constructor
  · exact Filled.eq_fill
  · rintro rfl
    exact filled_of_cut (cut_segments _) fun name hname => hvalues name (mem_slots.2 hname)

/-! ## Texts without slots -/

/-- No slot opens anywhere. -/
def Slotless (s : List Char) : Prop :=
  ∀ tail, tail <:+ s → ∀ name rest, ¬ Opens name rest tail

theorem slotless_nil : Slotless [] := by
  rintro tail htail name rest ⟨-, rfl⟩
  cases List.suffix_nil.1 htail

theorem slotless_cons {c : Char} {s : List Char} :
    Slotless (c :: s) ↔ (∀ name rest, ¬ Opens name rest (c :: s)) ∧ Slotless s := by
  constructor
  · intro h
    exact ⟨h _ (List.suffix_refl _), fun tail htail =>
      h tail (htail.trans (List.suffix_cons c s))⟩
  · rintro ⟨hfirst, hrest⟩ tail htail
    rcases List.suffix_cons_iff.1 htail with rfl | htail
    · exact hfirst
    · exact hrest tail htail

theorem slotless_append {text s : List Char} (htext : '<' ∉ text) (h : Slotless s) :
    Slotless (text ++ s) := by
  induction text with
  | nil => exact h
  | cons c text ih =>
    rw [List.mem_cons, not_or] at htext
    rw [List.cons_append, slotless_cons]
    refine ⟨?_, ih htext.2⟩
    rintro name rest ⟨-, hs⟩
    exact htext.1 (List.cons.inj hs).1.symm

theorem slotless_iff_of_cut {s : List Char} {pieces : List Segment} (h : Cut s pieces) :
    Slotless s ↔ pieces.filterMap Segment.slot? = [] := by
  induction h with
  | nil => exact iff_of_true slotless_nil rfl
  | slot hopens _ _ =>
    apply iff_of_false
    · intro hnone
      exact hnone _ (List.suffix_refl _) _ _ hopens
    · simp [Segment.slot?]
  | char hnone _ ih =>
    rw [slotless_cons, ih]
    simp [Segment.slot?, hnone]

/-- A text has no slots just in case no slot opens anywhere in it. -/
theorem slots_eq_nil_iff {text : String} : slots text = [] ↔ Slotless text.toList :=
  (slotless_iff_of_cut (cut_segments _)).symm

/-! ## Slots of what is filled -/

/-- Where there is no closing bracket, there is no slot to be filled. -/
theorem Filled.eq_of_not_mem {s out : List Char} (h : Filled value? s out) (hs : '>' ∉ s) :
    out = s := by
  induction h with
  | nil => rfl
  | slot hopens _ _ _ =>
    obtain ⟨-, rfl⟩ := hopens
    simp at hs
  | char _ _ ih =>
    rw [List.mem_cons, not_or] at hs
    rw [ih hs.2]

/-- A bracket that opens no slot opens none when what follows it is filled. -/
theorem Filled.not_opens {s out : List Char} (h : Filled value? s out)
    (hnone : ∀ name rest, ¬ Opens name rest ('<' :: s)) :
    ∀ name rest, ¬ Opens name rest ('<' :: out) := by
  rintro name rest ⟨hname, hout⟩
  replace hout : out = name ++ '>' :: rest := List.tail_eq_of_cons_eq hout
  obtain ⟨⟨c, hfirst, hblank⟩, hclose⟩ := hname
  cases h with
  | nil => simp at hout
  -- a slot right after the bracket would have been part of a longer name
  | slot hopens _ _ =>
    obtain ⟨hinner, rfl⟩ := hopens
    obtain ⟨longer, after, hlonger⟩ :=
      exists_opens (c := '<') (by decide) (by decide) (s := _ ++ '>' :: _) (by simp)
    exact hnone longer after hlonger
  | @char d s out _ hrest =>
    -- the character after the bracket is still the same, and it may start a name
    obtain rfl : c = d := by
      cases name with
      | nil => cases hfirst
      | cons first name =>
        obtain rfl : first = c := Option.some.inj hfirst
        exact (List.cons.inj hout).1.symm
    have hc : c ≠ '>' := by
      rintro rfl
      exact hclose (List.mem_of_mem_head? hfirst)
    -- so no bracket closes later, and nothing after it has been filled
    have hs : '>' ∉ s := by
      intro hmem
      obtain ⟨longer, after, hlonger⟩ := exists_opens hblank hc hmem
      exact hnone longer after hlonger
    have hmem : '>' ∈ c :: out := by
      rw [hout]
      simp
    rw [hrest.eq_of_not_mem hs, List.mem_cons] at hmem
    rcases hmem with hmem | hmem
    · exact hc hmem.symm
    · exact hs hmem

/-- Values without opening brackets bring in no slots. -/
theorem Filled.slotless {s out : List Char} (h : Filled value? s out)
    (hvalues : ∀ name value, value? name = some value → '<' ∉ value.toList) : Slotless out := by
  induction h with
  | nil => exact slotless_nil
  | slot _ hvalue _ ih => exact slotless_append (hvalues _ _ hvalue) ih
  | @char c s out hnone hrest ih =>
    rw [slotless_cons]
    refine ⟨?_, ih⟩
    by_cases hc : c = '<'
    · subst hc
      exact hrest.not_opens hnone
    · rintro name rest ⟨-, hs⟩
      exact hc (List.cons.inj hs).1

end Gherkin.Template
