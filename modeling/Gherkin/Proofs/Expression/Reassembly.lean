/-
  Gherkin.Proofs.Expression.Reassembly

  What the placeholders of a pattern take from a text, put back between the
  literals of the pattern, is the text. Each of them takes what the fragment of
  its kind matches where it stands. The other way round, a text that is made of
  the literals and of texts that the fragments match is matched, if the kinds
  need no registration and look at nothing around them.
-/
import Gherkin.Proofs.Expression.Capture
import Gherkin.Proofs.Expression.Reading
import Gherkin.Proofs.Regex.Language
import Gherkin.Proofs.Regex.Search

namespace Gherkin

open Expression (Token)
open Regex (Marks Spelled chain extract_append)

/-! ## What a pattern says -/

/-- The kind of a known placeholder. -/
def Expression.Token.kind? (kindOf : String → Option Kind) : Token → Option Kind
  | .literal _ => none
  | .placeholder _ name => kindOf name

/-- The kinds of the known placeholders in a pattern, from left to right. -/
def Registry.kindsIn (registry : Registry) (pattern : String) : List Kind :=
  (Expression.tokens pattern).filterMap (Token.kind? registry.kind?)

/-- The text of tokens, with the next of some texts in place of each known placeholder. Other
    placeholders stand for what is written. -/
def Expression.interleave (kindOf : String → Option Kind) : List Token → List String → List Char
  | [], _ => []
  | .literal text :: tokens, raws => text ++ interleave kindOf tokens raws
  | .placeholder _ name :: tokens, raws =>
    if (kindOf name).isSome then (raws.headD "").toList ++ interleave kindOf tokens raws.tail
    else braced name ++ interleave kindOf tokens raws

/-- Whether the fragment of a kind matches a text between two places, with what stands around. -/
def Kind.Takes (kind : Kind) (text : Array Char) (i j : Nat) : Prop :=
  ∃ r marks, Regex.read? kind.fragment = some r ∧ Regex.Path text r i j marks

/-- Whether the fragment of a kind matches a text that stands alone. -/
def Kind.Matches (kind : Kind) (raw : String) : Prop := kind.Takes raw.toList.toArray 0 raw.length

/-- Whether tokens tile a text between two places: they lie there one after the other, literals and
    unknown placeholders as they are spelled, and known ones where the fragments of their kinds
    match. The texts are those of the known placeholders. -/
inductive Tiles (kindOf : String → Option Kind) (text : Array Char) :
    List Token → Nat → Nat → List String → Prop
  | nil {i : Nat} : Tiles kindOf text [] i i []
  | literal {s : List Char} {tokens : List Token} {i k j : Nat} {raws : List String}
      (hs : Spelled text s i k) (hrest : Tiles kindOf text tokens k j raws) :
      Tiles kindOf text (.literal s :: tokens) i j raws
  | unknown {start : Nat} {name : String} {tokens : List Token} {i k j : Nat} {raws : List String}
      (hname : kindOf name = none) (hs : Spelled text (Expression.braced name) i k)
      (hrest : Tiles kindOf text tokens k j raws) :
      Tiles kindOf text (.placeholder start name :: tokens) i j raws
  | known {start : Nat} {name : String} {kind : Kind} {tokens : List Token} {i k j : Nat}
      {raws : List String} (hname : kindOf name = some kind) (htakes : kind.Takes text i k)
      (hrest : Tiles kindOf text tokens k j raws) :
      Tiles kindOf text (.placeholder start name :: tokens) i j
        (.ofList (text.extract i k).toList :: raws)

variable {kindOf : String → Option Kind} {text : Array Char} {tokens : List Token} {i j : Nat}
  {raws : List String}

/-! ## Tiling and interleaving -/

theorem Tiles.bounds (h : Tiles kindOf text tokens i j raws) :
    i ≤ j ∧ (i ≤ text.size → j ≤ text.size) := by
  induction h with
  | nil => exact ⟨Nat.le_refl _, id⟩
  | literal hs _ ih => exact ⟨Nat.le_trans hs.le ih.1, fun hi => ih.2 (hs.le_size hi)⟩
  | unknown _ hs _ ih => exact ⟨Nat.le_trans hs.le ih.1, fun hi => ih.2 (hs.le_size hi)⟩
  | known _ htakes _ ih =>
    obtain ⟨r, marks, -, hpath⟩ := htakes
    exact ⟨Nat.le_trans hpath.bounds.1 ih.1, fun hi => ih.2 (hpath.bounds.2 hi)⟩

/-- What the placeholders take makes up the text again. -/
theorem Tiles.interleave_eq (h : Tiles kindOf text tokens i j raws) :
    Expression.interleave kindOf tokens raws = (text.extract i j).toList := by
  induction h with
  | nil => simp [Expression.interleave]
  | literal hs hrest ih =>
    rw [Expression.interleave, ih, ← extract_append hs.le hrest.bounds.1, hs.extract]
  | unknown hname hs hrest ih =>
    rw [Expression.interleave, hname, if_neg (by simp), ih,
      ← extract_append hs.le hrest.bounds.1, hs.extract]
  | known hname htakes hrest ih =>
    obtain ⟨r, marks, -, hpath⟩ := htakes
    rw [Expression.interleave, hname, Option.isSome_some, if_pos rfl, List.headD_cons,
      List.tail_cons, ih, String.toList_ofList, extract_append hpath.bounds.1 hrest.bounds.1]

/-- Every known placeholder takes one text. -/
theorem Tiles.length_eq (h : Tiles kindOf text tokens i j raws) :
    raws.length = tokens.countP (Token.isKnown kindOf) := by
  induction h with
  | nil => rfl
  | literal _ _ ih => rw [List.countP_cons_of_neg (by simp [Token.isKnown]), ih]
  | unknown hname _ _ ih => rw [List.countP_cons_of_neg (by simp [Token.isKnown, hname]), ih]
  | known hname _ _ ih =>
    rw [List.countP_cons_of_pos (by simp [Token.isKnown, hname]), List.length_cons, ih]

/-! ## Routes through the parts -/

section Routes

open Regex (Captures Route)

variable {seen : List String} {rs : List Regex} {names : List String} {marks : Marks}

theorem Formed.groupNames_subset {ps : List Part} (h : Formed ps rs names) :
    rs.flatMap Regex.groupNames ⊆ names := by
  induction h with
  | nil => exact List.nil_subset _
  | literal hrest ih =>
    rw [List.flatMap_append, List.flatMap_map]
    exact List.append_subset.2 ⟨fun name hname => by simp [Regex.groupNames] at hname, ih⟩
  | @capture kind group r index inner ps rs names hr hinner hrest ih =>
    rw [List.flatMap_cons, Regex.groupNames, Regex.groupNames_renumber]
    refine List.append_subset.2 ⟨List.append_subset.2 ⟨?_, ?_⟩, ?_⟩
    · simp
    · exact fun name hname => by simp [hinner hname]
    · exact fun name hname => by simp [ih hname]

/-- The marks on the way through the parts are those of their groups. -/
theorem Formed.group_mem {ps : List Part} (h : Formed ps rs names)
    (hroute : chain text rs i j marks) : ∀ m ∈ marks, m.1.group ∈ names := by
  rw [← Regex.path_seqs] at hroute
  intro m hm
  have hgroup := hroute.group_mem m hm
  rw [Regex.groupNames_seqs] at hgroup
  exact h.groupNames_subset hgroup

/-- The text of a group, which the last marks of its name tell. -/
theorem textOf_of_marks {before inner after : Marks} {group : String} {k : Nat}
    (hinner : ∀ m ∈ inner, m.1.group ≠ group) (hafter : ∀ m ∈ after, m.1.group ≠ group) :
    Captures.textOf
      ⟨text, (before ++ (.opens group, i) :: (inner ++ (.closes group, k) :: after)).reverse⟩
      group =
      .ofList (text.extract i k).toList := by
  let marks : Marks := before ++ (.opens group, i) :: (inner ++ (.closes group, k) :: after)
  -- marks are looked up from the last one on, so none inside or behind may have the name
  have hopens : marks.reverse.lookup (.opens group) = some i := by
    refine List.lookup_eq_some_iff.2
      ⟨(inner ++ (.closes group, k) :: after).reverse, before.reverse, by simp [marks], ?_⟩
    intro m hm
    rw [bne_iff_ne]
    intro heq
    simp only [List.mem_reverse, List.mem_append, List.mem_cons] at hm
    rcases hm with hm | rfl | hm
    · exact hinner m hm (heq ▸ rfl)
    · cases heq
    · exact hafter m hm (heq ▸ rfl)
  have hcloses : marks.reverse.lookup (.closes group) = some k := by
    refine List.lookup_eq_some_iff.2
      ⟨after.reverse, (before ++ (.opens group, i) :: inner).reverse, by simp [marks], ?_⟩
    intro m hm
    rw [bne_iff_ne]
    intro heq
    exact hafter m (List.mem_reverse.1 hm) (heq ▸ rfl)
  simp only [Captures.textOf]
  rw [hopens, hcloses]

/-- Where tokens tile a text, the parts are matched. -/
theorem Tiles.route (h : Tiles kindOf text tokens i j raws)
    (hformed : Formed (parts kindOf seen tokens) rs names) : ∃ marks, chain text rs i j marks := by
  -- each piece of the tiling is matched by the part of its token
  induction h generalizing seen rs names with
  | nil =>
    rw [parts] at hformed
    cases hformed
    exact ⟨[], Route.stay_self⟩
  | literal hs _ ih =>
    rw [parts] at hformed
    cases hformed with
    | literal hrest =>
      obtain ⟨marks, hmarks⟩ := ih hrest
      rw [Regex.chain_append, Regex.chain_chars]
      exact ⟨_, Route.andThen_intro ⟨hs, rfl⟩ hmarks⟩
  | unknown hname hs _ ih =>
    rw [parts_unknown hname] at hformed
    cases hformed with
    | literal hrest =>
      obtain ⟨marks, hmarks⟩ := ih hrest
      rw [Regex.chain_append, Regex.chain_chars]
      exact ⟨_, Route.andThen_intro ⟨hs, rfl⟩ hmarks⟩
  | known hname htakes _ ih =>
    rw [parts_known hname] at hformed
    cases hformed with
    | capture hr _ hrest =>
      obtain ⟨r, inner, hread, hpath⟩ := htakes
      obtain rfl := Option.some.inj (hr.symm.trans hread)
      obtain ⟨marks, hmarks⟩ := ih hrest
      rw [Regex.chain_cons]
      refine ⟨_, Route.andThen_intro ⟨inner, ?_, rfl⟩ hmarks⟩
      rwa [Regex.path_renumber]

/-- A placeholder in front is matched by the fragment of its kind, and its group tells what it
    takes, whatever marks are left before and afterwards. -/
theorem Formed.capture_cons {kind : Kind} {group : String} {ps : List Part}
    (hformed : Formed (.capture kind group :: ps) rs names) (hnodup : names.Nodup)
    (h : chain text rs i j marks) :
    ∃ rs' names' k first second, Formed ps rs' names' ∧ names'.Nodup ∧ names' ⊆ names ∧
      kind.Takes text i k ∧ chain text rs' k j second ∧ marks = first ++ second ∧
      ∀ before after : Marks, (∀ m ∈ after, m.1.group ∉ names) →
        Captures.textOf ⟨text, (before ++ (first ++ (second ++ after))).reverse⟩ group =
          .ofList (text.extract i k).toList := by
  cases hformed with
  | @capture _ _ r index inside _ rs names hr hinside hrest =>
    rw [Regex.chain_cons] at h
    obtain ⟨k, -, second, ⟨inner, hpath, rfl⟩, hsecond, rfl⟩ := h
    rw [Regex.path_renumber] at hpath
    obtain ⟨hnames, hgroup, hdisjoint⟩ := List.nodup_append.1 hnodup
    refine ⟨rs, names, k, _, second, hrest, hnames, List.subset_append_left _ _,
      ⟨r, inner, hr, hpath⟩, hsecond, rfl, fun before after hafter => ?_⟩
    -- no other group has the name of this one
    have hinner : ∀ m ∈ inner, m.1.group ≠ group := by
      intro m hm heq
      have hmem := hinside (hpath.group_mem m hm)
      exact (List.nodup_append.1 hgroup).2.2 _ hmem group (List.mem_singleton_self _) heq
    have hbehind : ∀ m ∈ second ++ after, m.1.group ≠ group := by
      intro m hm heq
      rcases List.mem_append.1 hm with hm | hm
      · exact hdisjoint _ (hrest.group_mem hsecond m hm) group (by simp) heq
      · exact hafter m hm (by simp [heq])
    have hmarks : Captures.textOf ⟨text, (before ++ (.opens group, i) ::
        (inner ++ (.closes group, k) :: (second ++ after))).reverse⟩ group =
        .ofList (text.extract i k).toList :=
      textOf_of_marks hinner hbehind
    simpa only [List.append_assoc, List.cons_append, List.nil_append] using hmarks

/-- A literal in front is spelled and leaves no marks. -/
theorem Formed.literal_cons {s : List Char} {ps : List Part}
    (hformed : Formed (.literal s :: ps) rs names) (h : chain text rs i j marks) :
    ∃ rs' k, Formed ps rs' names ∧ Spelled text s i k ∧ chain text rs' k j marks := by
  cases hformed with
  | literal hrest =>
    rw [Regex.chain_append, Regex.chain_chars] at h
    obtain ⟨k, -, second, ⟨hs, rfl⟩, hsecond, rfl⟩ := h
    exact ⟨_, k, hrest, hs, hsecond⟩

/-- Where the parts are matched, the tokens tile the text, and the groups tell what the known
    placeholders take. -/
theorem Formed.tiles (hformed : Formed (parts kindOf seen tokens) rs names) (hnodup : names.Nodup)
    (h : chain text rs i j marks) :
    ∃ raws, Tiles kindOf text tokens i j raws ∧
      ∀ before after : Marks, (∀ m ∈ after, m.1.group ∉ names) →
        ((parts kindOf seen tokens).filterMap Part.capture?).map
          (fun place => Captures.textOf ⟨text, (before ++ (marks ++ after)).reverse⟩ place.2) =
        raws := by
  -- induction on the tokens; names of groups are used once, so that what comes before and after a
  -- group does not hide its text
  induction tokens generalizing seen rs names i marks with
  | nil =>
    rw [parts] at hformed
    cases hformed
    obtain ⟨rfl, rfl⟩ := h
    exact ⟨[], .nil, fun before after _ => rfl⟩
  | cons token tokens ih =>
    cases token with
    | literal s =>
      rw [parts] at hformed
      obtain ⟨rs', k, hrest, hs, hsecond⟩ := hformed.literal_cons h
      obtain ⟨raws, htiles, htexts⟩ := ih hrest hnodup hsecond
      exact ⟨raws, .literal hs htiles, htexts⟩
    | placeholder start name =>
      cases hname : kindOf name with
      | none =>
        rw [parts_unknown hname] at hformed ⊢
        obtain ⟨rs', k, hrest, hs, hsecond⟩ := hformed.literal_cons h
        obtain ⟨raws, htiles, htexts⟩ := ih hrest hnodup hsecond
        exact ⟨raws, .unknown hname hs htiles, htexts⟩
      | some kind =>
        rw [parts_known hname] at hformed ⊢
        obtain ⟨rs', names', k, first, second, hrest, hnames, hsubset, htakes, hsecond, rfl,
          htext⟩ := hformed.capture_cons hnodup h
        obtain ⟨raws, htiles, htexts⟩ := ih hrest hnames hsecond
        refine ⟨_, .known hname htakes htiles, fun before after hafter => ?_⟩
        have hhead := htext before after hafter
        have htail := htexts (before ++ first) after fun m hm hmem => hafter m hm (hsubset hmem)
        simp only [List.append_assoc] at htail
        simp only [List.filterMap_cons, Part.capture?, List.map_cons, List.append_assoc]
        rw [hhead, htail]

end Routes

/-! ## Kinds that look at nothing around them -/

/-- A fragment without conditions on places matches alone what it stands for. -/
theorem Kind.matches_iff_denotes {kind : Kind} {r : Regex}
    (hr : Regex.read? kind.fragment = some r) (hplaceless : r.placeless = true) {raw : String} :
    kind.Matches raw ↔ Regex.Denotes r raw.toList := by
  rw [← Regex.path_whole_iff hplaceless, String.length_toList]
  constructor
  · rintro ⟨r', marks, hr', hpath⟩
    obtain rfl := Option.some.inj (hr.symm.trans hr')
    exact ⟨marks, hpath⟩
  · rintro ⟨marks, hpath⟩
    exact ⟨r, marks, hr, hpath⟩

/-- What a kind matches alone it takes wherever it stands, if its fragment has no conditions on
    places. -/
theorem Kind.Matches.takes {kind : Kind} {raw : String} (h : kind.Matches raw)
    (hplaceless : (Regex.read? kind.fragment).any Regex.placeless = true) {before after : List Char}
    (htext : text.toList = before ++ (raw.toList ++ after)) :
    kind.Takes text before.length (before.length + raw.toList.length) := by
  obtain ⟨r, marks, hr, hpath⟩ := h
  rw [hr, Option.any_some] at hplaceless
  have hsame : ∀ p < raw.toList.toArray.size,
      text[p + before.length]? = raw.toList.toArray[p]? := by
    intro p hp
    rw [List.size_toArray] at hp
    rw [← Array.getElem?_toList, htext, List.getElem?_append_right (Nat.le_add_left _ _),
      Nat.add_sub_cancel, List.getElem?_append_left hp, List.getElem?_toArray]
  obtain ⟨marks', hpath'⟩ := hpath.elsewhere hplaceless hsame
  rw [Nat.zero_add, ← String.length_toList, Nat.add_comm] at hpath'
  exact ⟨r, marks', hr, hpath'⟩

/-- Tokens tile a text that is put together from them and from texts that their kinds match. -/
theorem tiles_of_interleave_eq (before : List Char)
    (hplaceless : ∀ kind ∈ tokens.filterMap (Token.kind? kindOf),
      (Regex.read? kind.fragment).any Regex.placeless = true)
    (hraws : List.Forall₂ Kind.Matches (tokens.filterMap (Token.kind? kindOf)) raws)
    (h : text.toList = before ++ Expression.interleave kindOf tokens raws) :
    Tiles kindOf text tokens before.length text.size raws := by
  -- induction on the tokens, for all that may stand before them in the text
  induction tokens generalizing before raws with
  | nil =>
    cases hraws
    rw [Expression.interleave, List.append_nil] at h
    rw [← h, Array.length_toList]
    exact .nil
  | cons token tokens ih =>
    cases token with
    | literal s =>
      rw [Expression.interleave] at h
      have hrest := ih (before ++ s) hplaceless hraws (by rw [h, List.append_assoc])
      rw [List.length_append] at hrest
      exact .literal (Regex.spelled_of_toList h) hrest
    | placeholder start name =>
      cases hname : kindOf name with
      | none =>
        rw [Expression.interleave, hname, if_neg (by simp)] at h
        rw [List.filterMap_cons_none (by exact hname)] at hplaceless hraws
        have hrest := ih (before ++ Expression.braced name) hplaceless hraws
          (by rw [h, List.append_assoc])
        rw [List.length_append] at hrest
        exact .unknown hname (Regex.spelled_of_toList h) hrest
      | some kind =>
        rw [Expression.interleave, hname, Option.isSome_some, if_pos rfl] at h
        rw [List.filterMap_cons_some (by exact hname)] at hplaceless hraws
        obtain ⟨hkind, hkinds⟩ := List.forall_mem_cons.1 hplaceless
        cases hraws with
        | @cons _ raw _ raws hmatches hraws =>
          rw [List.headD_cons, List.tail_cons] at h
          have hrest := ih (before ++ raw.toList) hkinds hraws
            (by rw [h, List.append_assoc])
          rw [List.length_append] at hrest
          have hknown : Tiles kindOf text (.placeholder start name :: tokens) before.length _ _ :=
            .known hname (hmatches.takes hkind h) hrest
          rwa [Regex.extract_of_toList h, String.ofList_toList] at hknown

/-! ## Expressions of a registry -/

/-- A regular expression between anchors matches a whole text only. -/
theorem path_anchored_iff {rs : List Regex} {marks : Marks} :
    Regex.Path text (Regex.seqs (.look .textStart :: (rs ++ [.look .textEnd]))) i j marks ↔
      i = 0 ∧ j = text.size ∧ chain text rs i j marks := by
  rw [Regex.path_seqs, Regex.chain_cons, Regex.chain_append, Regex.chain_cons, Regex.chain_nil,
    Regex.Route.andThen_stay]
  constructor
  · rintro ⟨_, _, _, ⟨hstart, rfl, rfl⟩, ⟨_, middle, _, hmiddle, ⟨hend, rfl, rfl⟩, rfl⟩, rfl⟩
    rw [List.nil_append, List.append_nil]
    exact ⟨of_decide_eq_true hstart, of_decide_eq_true hend, hmiddle⟩
  · rintro ⟨rfl, rfl, hmiddle⟩
    have hstart : Regex.Path text (.look .textStart) 0 0 [] := ⟨rfl, rfl, rfl⟩
    have hend : Regex.Path text (.look .textEnd) text.size text.size [] :=
      ⟨decide_eq_true rfl, rfl, rfl⟩
    have hall := Regex.Route.andThen_intro hstart (Regex.Route.andThen_intro hmiddle hend)
    rwa [List.nil_append, List.append_nil] at hall

namespace Registry

variable {registry : Registry} {pattern : String} {e : Expression}

/-- The placeholders among the parts are those of the pattern, each with a group of its name. -/
theorem exists_of_capture_mem {seen : List String} {kind : Kind} {group : String}
    (h : .capture kind group ∈ parts kindOf seen tokens) :
    kind ∈ tokens.filterMap (Token.kind? kindOf) ∧
      ∃ (start : Nat) (name : String) (n : Nat), .placeholder start name ∈ tokens ∧
        kindOf name = some kind ∧ group = s!"{name}{n}" := by
  induction tokens generalizing seen with
  | nil => cases h
  | cons token tokens ih =>
    -- what is said of the later parts holds with one more token in front
    have hlater {seen : List String} (h : .capture kind group ∈ parts kindOf seen tokens) :
        kind ∈ (token :: tokens).filterMap (Token.kind? kindOf) ∧
          ∃ (start : Nat) (name : String) (n : Nat), .placeholder start name ∈ token :: tokens ∧
            kindOf name = some kind ∧ group = s!"{name}{n}" := by
      obtain ⟨hkind, start, name, n, hmem, hrest⟩ := ih h
      refine ⟨?_, start, name, n, List.mem_cons_of_mem _ hmem, hrest⟩
      obtain ⟨token', hmem', htoken'⟩ := List.mem_filterMap.1 hkind
      exact List.mem_filterMap.2 ⟨token', List.mem_cons_of_mem _ hmem', htoken'⟩
    cases token with
    | literal s =>
      rw [parts] at h
      exact hlater ((List.mem_cons.1 h).resolve_left (by simp))
    | placeholder start name =>
      cases hname : kindOf name with
      | none =>
        rw [parts_unknown hname] at h
        exact hlater ((List.mem_cons.1 h).resolve_left (by simp))
      | some found =>
        rw [parts_known hname] at h
        rcases List.mem_cons.1 h with heq | h
        · obtain ⟨rfl, rfl⟩ := Part.capture.inj heq
          exact ⟨List.mem_filterMap.2 ⟨_, List.mem_cons_self, hname⟩, start, name, _,
            List.mem_cons_self, hname, rfl⟩
        · exact hlater h

theorem map_fst_capture? (kindOf : String → Option Kind) (seen : List String)
    (tokens : List Token) :
    ((parts kindOf seen tokens).filterMap Part.capture?).map (·.1) =
      tokens.filterMap (Token.kind? kindOf) := by
  induction tokens generalizing seen with
  | nil => rfl
  | cons token tokens ih =>
    cases token with
    | literal s =>
      rw [parts, List.filterMap_cons_none (by rfl), List.filterMap_cons_none (by rfl)]
      exact ih seen
    | placeholder start name =>
      cases hname : kindOf name with
      | none =>
        rw [parts_unknown hname, List.filterMap_cons_none (by rfl),
          List.filterMap_cons_none (by exact hname)]
        exact ih seen
      | some kind =>
        simpa [parts_known hname, Part.capture?, Token.kind?, hname] using ih (name :: seen)

/-- The kinds of an expression are those of the known placeholders in its pattern. -/
theorem kinds_of_expression? (he : registry.expression? pattern = some e) :
    e.kinds = registry.kindsIn pattern := by
  rw [Expression.kinds, Expression.placeholders, (Expression.pattern_of_ofPattern? he).2]
  exact map_fst_capture? _ _ _

/-- The parts of a pattern can be read, if the fragments in it can be read by themselves. -/
theorem Built.readable (hbuilt : registry.Built)
    (hread : ∀ placeholder, .custom placeholder ∈ registry.kindsIn pattern →
      (Regex.read? placeholder.fragment).isSome = true) :
    ∀ p ∈ partsOf registry.kind? pattern, p.Readable := by
  intro p hp
  cases p with
  | literal text => trivial
  | capture kind group =>
    obtain ⟨hkind, start, name, n, hmem, hname, rfl⟩ := exists_of_capture_mem hp
    refine ⟨isName_numbered (Expression.isName_of_mem_tokens hmem) n, ?_, hbuilt.fragment hname⟩
    cases kind with
    | builtin builtin => exact builtin.fragment_readable.1
    | custom placeholder => exact hread placeholder hkind

/-- What the regular expression of a pattern is made of. -/
theorem Built.formed (hbuilt : registry.Built) (he : registry.expression? pattern = some e)
    (hread : ∀ placeholder, .custom placeholder ∈ registry.kindsIn pattern →
      (Regex.read? placeholder.fragment).isSome = true) :
    ∃ rs names, Formed (partsOf registry.kind? pattern) rs names ∧ names.Nodup ∧
      e.regex = Regex.seqs (.look .textStart :: (rs ++ [.look .textEnd])) := by
  obtain ⟨regex, hregex, rfl⟩ := Option.map_eq_some_iff.1 he
  obtain ⟨rs, hformed, hnodup, hseqs⟩ := formed_of_read? hregex (hbuilt.readable hread)
  exact ⟨rs, _, hformed, List.nodup_reverse.2 hnodup, hseqs⟩

/-- A text that is matched is tiled by the tokens, and the groups take what the placeholders
    take. -/
theorem Built.tiles (hbuilt : registry.Built) (he : registry.expression? pattern = some e)
    (hread : ∀ placeholder, .custom placeholder ∈ registry.kindsIn pattern →
      (Regex.read? placeholder.fragment).isSome = true) {text : String} {raws : List String}
    (h : e.regex.groups? e.groups text = some raws) :
    Tiles registry.kind? text.toList.toArray (Expression.tokens pattern) 0 text.length raws := by
  obtain ⟨rs, names, hformed, hnodup, hregex⟩ := hbuilt.formed he hread
  obtain ⟨caps, hcaps, rfl⟩ := Option.map_eq_some_iff.1 h
  obtain ⟨htext, i, -, j, hpath⟩ := Regex.path_of_captures? hcaps
  rw [hregex] at hpath
  obtain ⟨rfl, rfl, hroute⟩ := path_anchored_iff.1 hpath
  obtain ⟨raws, htiles, htexts⟩ := hformed.tiles hnodup hroute
  have hsame : (caps.marks.reverse ++ []).reverse = caps.marks := by simp
  have hraws := htexts [] [] (by simp)
  rw [List.nil_append, hsame] at hraws
  have hgroups : e.groups.map caps.textOf = raws := by
    rw [Expression.groups, Expression.placeholders, (Expression.pattern_of_ofPattern? he).2,
      List.map_map]
    exact hraws
  rw [htext, List.size_toArray, String.length_toList] at htiles
  rwa [hgroups]

/-- A text that is matched is put together from the tokens and what the groups take. -/
theorem Built.interleave_eq (hbuilt : registry.Built) (he : registry.expression? pattern = some e)
    (hread : ∀ placeholder, .custom placeholder ∈ registry.kindsIn pattern →
      (Regex.read? placeholder.fragment).isSome = true) {text : String} {raws : List String}
    (h : e.regex.groups? e.groups text = some raws) :
    Expression.interleave registry.kind? (Expression.tokens pattern) raws = text.toList := by
  have hwhole := (hbuilt.tiles he hread h).interleave_eq
  rwa [List.extract_toArray, List.extract_eq_take_drop, List.drop_zero, Nat.sub_zero,
    ← String.length_toList, List.take_length] at hwhole

/-- A text that the tokens of the pattern tile is matched. -/
theorem Built.groups?_isSome (hbuilt : registry.Built)
    (he : registry.expression? pattern = some e)
    (hread : ∀ placeholder, .custom placeholder ∈ registry.kindsIn pattern →
      (Regex.read? placeholder.fragment).isSome = true) {text : String} {raws : List String}
    (h : Tiles registry.kind? text.toList.toArray (Expression.tokens pattern) 0 text.length raws) :
    (e.regex.groups? e.groups text).isSome = true := by
  obtain ⟨rs, names, hformed, -, hregex⟩ := hbuilt.formed he hread
  obtain ⟨marks, hroute⟩ := h.route hformed
  have hpath : Regex.Path text.toList.toArray e.regex 0 text.length marks := by
    rw [hregex, path_anchored_iff]
    exact ⟨rfl, by rw [List.size_toArray, String.length_toList], hroute⟩
  rw [Regex.groups?, Option.isSome_map]
  exact Regex.captures?_isSome (Nat.zero_le _) hpath

end Registry

/-! ## Values -/

namespace Expression

/-- All conversions succeed, each with its value. -/
theorem convertAll_eq_ok_iff {taken : List (Kind × String)} {values : List Value} :
    convertAll taken = .ok values ↔
      List.Forall₂ (fun place value => place.1.convert place.2 = .ok value) taken values := by
  induction taken generalizing values with
  | nil =>
    rw [List.forall₂_nil_left_iff]
    exact ⟨fun h => (Except.ok.inj h).symm, fun h => h ▸ rfl⟩
  | cons place taken ih =>
    obtain ⟨kind, raw⟩ := place
    rw [convertAll, List.forall₂_cons_left_iff]
    cases hvalue : kind.convert raw with
    | error fault => simp
    | ok value =>
      cases hrest : convertAll taken with
      | error fault =>
        have hnone : ∀ values, ¬ List.Forall₂
            (fun (place : Kind × String) value => place.1.convert place.2 = .ok value)
            taken values := fun values h => by
          cases (ih.2 h).symm.trans hrest
        simp [hnone]
      | ok rest =>
        simp only [← ih, hrest, Except.ok.injEq]
        constructor
        · rintro rfl
          exact ⟨value, rest, rfl, rfl, rfl⟩
        · rintro ⟨value, rest, rfl, rfl, rfl⟩
          rfl

/-- The values of a text that is matched are those of the texts of the placeholders. -/
theorem captures_eq_ok_iff {e : Expression} (he : e.hasPlaceholders = true) {text : String}
    {raws : List String} (hraws : e.regex.groups? e.groups text = some raws) {values : List Value} :
    e.captures text = .ok values ↔
      List.Forall₂ (fun place value => place.1.convert place.2 = .ok value) (e.kinds.zip raws)
        values := by
  rw [← convertAll_eq_ok_iff, captures, if_pos he, hraws]
  dsimp only
  cases convertAll (e.kinds.zip raws) <;> simp

end Expression

/-! ## Reassembly -/

namespace Registry

variable {registry : Registry} {pattern : String} {e : Expression}

theorem hasPlaceholders_of_expression? (he : registry.expression? pattern = some e)
    (hplaceholder : registry.containsPlaceholder pattern = true) : e.hasPlaceholders = true := by
  have hcount := (registry.containsPlaceholder_iff pattern).1 hplaceholder
  rw [← length_placeholders_of_expression? he] at hcount
  rw [Expression.hasPlaceholders, Bool.not_eq_true', List.isEmpty_eq_false_iff]
  exact List.ne_nil_of_length_pos hcount

/-- The values of a text that is matched, by the kinds in the pattern. -/
theorem captures_eq_ok_iff (he : registry.expression? pattern = some e)
    (hplaceholder : registry.containsPlaceholder pattern = true) {text : String}
    {raws : List String} (hraws : e.regex.groups? e.groups text = some raws) {values : List Value} :
    e.captures text = .ok values ↔
      List.Forall₂ (fun place value => place.1.convert place.2 = .ok value)
        ((registry.kindsIn pattern).zip raws) values := by
  rw [← kinds_of_expression? he]
  exact Expression.captures_eq_ok_iff (hasPlaceholders_of_expression? he hplaceholder) hraws

theorem length_kindsIn : (registry.kindsIn pattern).length = registry.placeholderCount pattern := by
  rw [kindsIn, placeholderCount, List.length_filterMap_eq_countP]
  refine List.countP_congr fun token _ => ?_
  cases token <;> rfl

/-- The one placeholder of a pattern takes what is left of a text between the literals, if its kind
    matches that and looks at nothing around it. -/
theorem Built.groups?_single (hbuilt : registry.Built) (he : registry.expression? pattern = some e)
    {kind : Kind} (hkinds : registry.kindsIn pattern = [kind])
    (hplaceless : (Regex.read? kind.fragment).any Regex.placeless = true)
    {before after : List Char}
    (hwhole : ∀ raw, Expression.interleave registry.kind? (Expression.tokens pattern) [raw] =
      before ++ (raw.toList ++ after))
    {text raw : String} (htext : text.toList = before ++ (raw.toList ++ after))
    (hraw : kind.Matches raw) : e.regex.groups? e.groups text = some [raw] := by
  have hread : ∀ placeholder, .custom placeholder ∈ registry.kindsIn pattern →
      (Regex.read? placeholder.fragment).isSome = true := by
    intro placeholder hmem
    obtain rfl := List.mem_singleton.1 (hkinds ▸ hmem)
    obtain ⟨r, -, hr, -⟩ := hraw
    exact Option.isSome_of_eq_some hr
  have htiles : Tiles registry.kind? text.toList.toArray (Expression.tokens pattern) 0
      text.toList.toArray.size [raw] := by
    refine tiles_of_interleave_eq [] (fun found hmem => ?_) ?_ ?_
    · obtain rfl : found = kind := List.mem_singleton.1 (hkinds ▸ hmem)
      exact hplaceless
    · have hone : List.Forall₂ Kind.Matches [kind] [raw] := .cons hraw .nil
      rwa [← hkinds] at hone
    · rw [hwhole, List.nil_append, htext]
  rw [List.size_toArray, String.length_toList] at htiles
  obtain ⟨raws, hraws⟩ := Option.isSome_iff_exists.1 (hbuilt.groups?_isSome he hread htiles)
  -- the text is taken up by the literals and one more text, which can only be this one
  have hlength : raws.length = 1 := by
    have hcount := (hbuilt.tiles he hread hraws).length_eq
    rw [← placeholderCount, ← length_kindsIn, hkinds] at hcount
    exact hcount
  obtain ⟨taken, rfl⟩ := List.length_eq_one_iff.1 hlength
  have hinterleave := hbuilt.interleave_eq he hread hraws
  rw [hwhole, htext] at hinterleave
  obtain rfl : taken = raw :=
    String.toList_injective (List.append_cancel_right (List.append_cancel_left hinterleave))
  exact hraws

theorem Built.captures_single (hbuilt : registry.Built) (he : registry.expression? pattern = some e)
    {kind : Kind} (hkinds : registry.kindsIn pattern = [kind]) {r : Regex}
    (hr : Regex.read? kind.fragment = some r) (hplaceless : r.placeless = true)
    {before after : List Char}
    (hwhole : ∀ raw, Expression.interleave registry.kind? (Expression.tokens pattern) [raw] =
      before ++ (raw.toList ++ after))
    {text raw : String} (htext : text.toList = before ++ (raw.toList ++ after))
    (hraw : Regex.Denotes r raw.toList) {value : Value} (hvalue : kind.convert raw = .ok value) :
    e.captures text = .ok [value] := by
  have hgroups : e.regex.groups? e.groups text = some [raw] := by
    refine hbuilt.groups?_single he hkinds ?_ hwhole htext
      ((Kind.matches_iff_denotes hr hplaceless).2 hraw)
    rw [hr, Option.any_some]
    exact hplaceless
  have hplaceholder : registry.containsPlaceholder pattern = true := by
    rw [containsPlaceholder_iff, ← length_kindsIn, hkinds]
    exact Nat.one_pos
  rw [captures_eq_ok_iff he hplaceholder hgroups, hkinds]
  exact .cons hvalue .nil

/-- The texts that the placeholders of a pattern take, one for each, put between the literals, are
    the text that is matched. Each is what the fragment of its kind matches where it stands, and the
    values are their conversions. A text that is put together from what kinds match that need no
    registration is matched, if no word is among them. It takes fragments that can be read by
    themselves. -/
theorem captures_reassemble (hbuilt : registry.Built) (he : registry.expression? pattern = some e)
    (hplaceholder : registry.containsPlaceholder pattern = true)
    (hread : ∀ placeholder, .custom placeholder ∈ registry.kindsIn pattern →
      (Regex.read? placeholder.fragment).isSome = true) (text : String) :
    (∀ raws, e.regex.groups? e.groups text = some raws →
      raws.length = registry.placeholderCount pattern ∧
        Expression.interleave registry.kind? (Expression.tokens pattern) raws = text.toList ∧
        Tiles registry.kind? text.toList.toArray (Expression.tokens pattern) 0 text.length raws ∧
        ∀ values, e.captures text = .ok values ↔
          List.Forall₂ (fun place value => place.1.convert place.2 = .ok value)
            ((registry.kindsIn pattern).zip raws) values) ∧
      ((∀ kind ∈ registry.kindsIn pattern, ∃ builtin, builtin ≠ .word ∧ kind = .builtin builtin) →
        ∀ raws, List.Forall₂ Kind.Matches (registry.kindsIn pattern) raws →
          Expression.interleave registry.kind? (Expression.tokens pattern) raws = text.toList →
          (e.regex.groups? e.groups text).isSome = true) := by
  constructor
  · intro raws hraws
    have htiles := hbuilt.tiles he hread hraws
    exact ⟨htiles.length_eq, hbuilt.interleave_eq he hread hraws, htiles,
      fun values => captures_eq_ok_iff he hplaceholder hraws⟩
  · intro hbuiltin raws hmatches htext
    have htiles : Tiles registry.kind? text.toList.toArray (Expression.tokens pattern) 0
        text.toList.toArray.size raws := by
      refine tiles_of_interleave_eq [] (fun kind hkind => ?_) hmatches htext.symm
      obtain ⟨builtin, hword, rfl⟩ := hbuiltin kind hkind
      exact builtin.placeless_fragment hword
    rw [List.size_toArray, String.length_toList] at htiles
    exact hbuilt.groups?_isSome he hread htiles

/-- A placeholder for two colours. -/
def colorPlaceholder : Placeholder := { name := "color", fragment := "red|blue", convert := .text }

/-- A hat of one of two colours. -/
theorem captures_reassemble_color :
    ∃ (registry : Registry) (e : Expression), registry.Built ∧
      registry.expression? "a \x7bcolor\x7d hat" = some e ∧
      registry.containsPlaceholder "a \x7bcolor\x7d hat" = true ∧
      (∀ placeholder, .custom placeholder ∈ registry.kindsIn "a \x7bcolor\x7d hat" →
        (Regex.read? placeholder.fragment).isSome = true) ∧
      e.captures "a red hat" = .ok [.text "red"] := by
  obtain ⟨registry, hbuilt, hcustom⟩ := Built.empty.exists_register colorPlaceholder
    (by decide +kernel)
  have hkind : registry.kind? = kindAmong? [colorPlaceholder] := by rw [kind?, hcustom]; rfl
  have htokens : Expression.tokens "a \x7bcolor\x7d hat" =
      [.literal "a ".toList, .placeholder 2 "color", .literal " hat".toList] := by
    decide +kernel
  have hkinds : registry.kindsIn "a \x7bcolor\x7d hat" = [.custom colorPlaceholder] := by
    rw [kindsIn, hkind, htokens]
    rfl
  obtain ⟨e, he⟩ : ∃ e, registry.expression? "a \x7bcolor\x7d hat" = some e := by
    rw [expression?, hkind, ← Option.isSome_iff_exists]
    decide +kernel
  have hplaceholder : registry.containsPlaceholder "a \x7bcolor\x7d hat" = true := by
    rw [containsPlaceholder, hkind, htokens]
    rfl
  have hread : ∀ placeholder, .custom placeholder ∈ registry.kindsIn "a \x7bcolor\x7d hat" →
      (Regex.read? placeholder.fragment).isSome = true := by
    intro placeholder hmem
    rw [hkinds, List.mem_singleton] at hmem
    obtain rfl := Kind.custom.inj hmem
    decide +kernel
  refine ⟨registry, e, hbuilt, he, hplaceholder, hread, ?_⟩
  -- the text is matched, because it is put together from the pattern and a colour
  have hred : (Kind.custom colorPlaceholder).Matches "red" := by
    refine ⟨.alt (.text "red".toList) (.text "blue".toList), [], by decide +kernel, .inl ⟨?_, rfl⟩⟩
    exact @Regex.spelled_of_toList _ [] _ [] (by simp)
  have hplaceless : (Regex.read? colorPlaceholder.fragment).any Regex.placeless = true := by
    decide +kernel
  have hwhole (raw : String) : Expression.interleave registry.kind?
      (Expression.tokens "a \x7bcolor\x7d hat") [raw] =
        "a ".toList ++ (raw.toList ++ " hat".toList) := by
    rw [hkind, htokens]
    exact congrArg ("a ".toList ++ raw.toList ++ ·) (List.append_nil _)
  have hgroups : e.regex.groups? e.groups "a red hat" = some ["red"] :=
    hbuilt.groups?_single he hkinds hplaceless hwhole (by decide) hred
  obtain ⟨-, -, -, hvalues⟩ :=
    (captures_reassemble hbuilt he hplaceholder hread "a red hat").1 _ hgroups
  rw [hvalues, hkinds]
  exact .cons rfl .nil

/-- A placeholder whose fragment cannot be read by itself, but between anchors: it starts a comment,
    in which the parenthesis that would close its group is lost. -/
def commentPlaceholder : Placeholder := { name := "x", fragment := "a)(?x)#", convert := .text }

/-- A placeholder that closes one group more after such a comment. -/
def closingPlaceholder : Placeholder := { name := "y", fragment := "#(?:\n)", convert := .text }

/-- Both placeholders can be registered, and with them a pattern of two lines matches a text of one
    line, which is not put together from its literals and anything else. -/
theorem captures_lost_in_comment :
    ∃ (registry : Registry) (e : Expression), registry.Built ∧
      registry.expression? "\x7bx\x7d\n\x7by\x7d" = some e ∧
      registry.containsPlaceholder "\x7bx\x7d\n\x7by\x7d" = true ∧
      (e.regex.groups? e.groups "a").isSome = true ∧
      ∀ raws, Expression.interleave registry.kind?
        (Expression.tokens "\x7bx\x7d\n\x7by\x7d") raws ≠ "a".toList := by
  obtain ⟨before, hbefore, hfirst⟩ := Built.empty.exists_register commentPlaceholder
    (by decide +kernel)
  have hnone : refusal? before.custom closingPlaceholder = none := by
    rw [hfirst]
    decide +kernel
  obtain ⟨registry, hbuilt, hcustom⟩ := hbefore.exists_register closingPlaceholder hnone
  have hkind : registry.kind? = kindAmong? [commentPlaceholder, closingPlaceholder] := by
    rw [kind?, hcustom, hfirst]
    rfl
  have htokens : Expression.tokens "\x7bx\x7d\n\x7by\x7d" =
      [.placeholder 0 "x", .literal ['\n'], .placeholder 4 "y"] := by
    decide +kernel
  -- the line break and the end of the group are in the comment, so neither is in the expression
  have hregex : (registry.expression? "\x7bx\x7d\n\x7by\x7d").map (·.regex) =
      some (.seq (.look .textStart) (.seq (.group 1 (some "x0") (.seq (.text ['a'])
        (.group 2 (some "y0") .empty))) (.look .textEnd))) := by
    rw [expression?, hkind]
    decide +kernel
  obtain ⟨e, he, heregex⟩ := Option.map_eq_some_iff.1 hregex
  refine ⟨registry, e, hbuilt, he, ?_, ?_, fun raws h => ?_⟩
  · rw [containsPlaceholder, hkind, htokens]
    rfl
  · have hinner : Regex.Path "a".toList.toArray
        (.seq (.text ['a']) (.group 2 (some "y0") .empty)) 0 1
        [(.opens "y0", 1), (.closes "y0", 1)] :=
      ⟨1, [], _, ⟨⟨rfl, rfl⟩, rfl⟩, ⟨[], ⟨rfl, rfl⟩, rfl⟩, rfl⟩
    obtain ⟨marks, hpath⟩ : ∃ marks, Regex.Path "a".toList.toArray e.regex 0 1 marks := by
      rw [heregex]
      exact ⟨_, 0, [], _, ⟨rfl, rfl, rfl⟩, ⟨1, _, [], ⟨_, hinner, rfl⟩, ⟨rfl, rfl, rfl⟩, rfl⟩, rfl⟩
    rw [Regex.groups?, Option.isSome_map]
    exact Regex.captures?_isSome (Nat.zero_le _) hpath
  · -- the line break of the pattern is in every text that is put together from it
    rw [hkind, htokens] at h
    have hbreak : '\n' ∈ "a".toList := by
      rw [← h, Expression.interleave, if_pos (by rfl), Expression.interleave]
      simp
    exact absurd hbreak (by decide)

end Registry

end Gherkin
