/-
  Gherkin.Proofs.Language.Step

  Which keyword makes a line a step. Of all places at which a keyword of the
  language stands at the start of the line or behind a blank the leftmost one
  counts, of several keywords there the longest, and of those the first one in
  the table.

  Each keyword is looked for from left to right, and an occurrence that reaches
  into the one before is passed over. In no language does this lose an occurrence
  that counts: where a keyword overlaps with itself, it has no blank before the
  overlap.
-/
import Gherkin.Language.Line
import Gherkin.Proofs.Choice
import Gherkin.Proofs.Text.Size
import Mathlib.Data.List.Basic

namespace Gherkin.Language

variable {keyword before rest line : List Char} {taken : Nat}

/-! ## Places of a keyword -/

theorem isBoundary_reverse_append {s : List Char} :
    isBoundary s.reverse = true ↔ ∀ c ∈ s.getLast?, Text.isBlank c = true := by
  rw [isBoundary, List.head?_reverse]
  cases s.getLast? <;> simp

theorem isPrefixOf?_eq_some_iff {s : List Char} :
    keyword.isPrefixOf? s = some rest ↔ s = keyword ++ rest := by
  rw [List.isPrefixOf?_eq_some_iff_append_eq, Eq.comm]

/-- What is listed as a place is one. -/
theorem eq_of_mem_placesFrom {place : List Char × List Char} {s : List Char}
    (h : place ∈ placesFrom keyword before taken s) :
    ∃ mid, place.1 = mid.reverse ++ before ∧ s = mid ++ (keyword ++ place.2) := by
  induction s generalizing before taken with
  | nil => cases h
  | cons c s ih =>
    -- a place further on has `c` before it
    have hstep {taken : Nat} (h : place ∈ placesFrom keyword (c :: before) taken s) :
        ∃ mid, place.1 = mid.reverse ++ before ∧ c :: s = mid ++ (keyword ++ place.2) := by
      obtain ⟨mid, hbefore, rfl⟩ := ih h
      exact ⟨c :: mid, by simp [hbefore], rfl⟩
    cases taken with
    | succ n => exact hstep h
    | zero =>
      rw [placesFrom] at h
      cases hfound : keyword.isPrefixOf? (c :: s) with
      | none =>
        rw [hfound] at h
        exact hstep h
      | some after =>
        rw [hfound] at h
        rcases List.mem_cons.1 h with rfl | h
        · have hsplit := isPrefixOf?_eq_some_iff.1 hfound
          exact ⟨[], rfl, hsplit⟩
        · exact hstep h

/-- Places are listed from left to right. -/
theorem pairwise_placesFrom (keyword before : List Char) (taken : Nat) (s : List Char) :
    (placesFrom keyword before taken s).Pairwise fun place next =>
      place.1.length ≤ next.1.length := by
  induction s generalizing before taken with
  | nil => exact .nil
  | cons c s ih =>
    cases taken with
    | succ n => exact ih _ _
    | zero =>
      rw [placesFrom]
      cases hfound : keyword.isPrefixOf? (c :: s) with
      | none => exact ih _ _
      | some after =>
        refine List.pairwise_cons.2 ⟨fun place hplace => ?_, ih _ _⟩
        obtain ⟨mid, hbefore, -⟩ := eq_of_mem_placesFrom hplace
        show before.length ≤ place.1.length
        rw [hbefore, List.length_append, List.length_cons]
        omega

/-! ## Overlaps -/

/-- Whether a keyword that overlaps with itself has no blank right before the overlap. Then an
    occurrence behind a blank does not reach into another. -/
def ClearOfItself (keyword : List Char) : Prop :=
  ∀ n < keyword.length, 0 < n → keyword.drop n <+: keyword →
    isBoundary (keyword.take n).reverse = false

instance (keyword : List Char) : Decidable (ClearOfItself keyword) :=
  inferInstanceAs (Decidable (∀ n < keyword.length, 0 < n → keyword.drop n <+: keyword →
    isBoundary (keyword.take n).reverse = false))

/-- The characters that are taken are the rest of a keyword that has begun. -/
def Begun (keyword before : List Char) (taken : Nat) (s : List Char) : Prop :=
  ∃ n, 0 < n ∧ n + taken = keyword.length ∧ keyword.drop n <+: s ∧
    (keyword.take n).reverse <+: before

theorem Begun.next {c : Char} {s : List Char} (h : Begun keyword before (taken + 1) (c :: s)) :
    Begun keyword (c :: before) taken s := by
  obtain ⟨n, hpos, hlength, hafter, hbefore⟩ := h
  have hlt : n < keyword.length := by omega
  rw [List.drop_eq_getElem_cons hlt, List.cons_prefix_cons] at hafter
  obtain ⟨hc, hafter⟩ := hafter
  refine ⟨n + 1, by omega, by omega, hafter, ?_⟩
  rw [List.take_succ_eq_append_getElem hlt, List.reverse_append, hc]
  exact List.cons_prefix_cons.2 ⟨rfl, hbefore⟩

/-- Where a keyword has begun it does not stand behind a blank. -/
theorem Begun.not_isBoundary {s : List Char} (hclear : ClearOfItself keyword)
    (h : Begun keyword before (taken + 1) s) (hkeyword : keyword <+: s) :
    isBoundary before = false := by
  obtain ⟨n, hpos, hlength, hafter, front, rfl⟩ := h
  have hoverlap : keyword.drop n <+: keyword :=
    List.prefix_of_prefix_length_le hafter hkeyword (by simp)
  have hnone := hclear n (by omega) hpos hoverlap
  have hne : (keyword.take n).reverse ≠ [] := by
    intro hnil
    have hlength := congrArg List.length hnil
    rw [List.length_reverse, List.length_take, List.length_nil] at hlength
    omega
  rwa [isBoundary, List.head?_append_of_ne_nil _ hne]

/-- No place behind a blank is passed over. -/
theorem mem_placesFrom (hne : keyword ≠ []) (hclear : ClearOfItself keyword) {mid : List Char}
    (hbegun : 0 < taken → Begun keyword before taken (mid ++ (keyword ++ rest)))
    (hboundary : isBoundary (mid.reverse ++ before) = true) :
    (mid.reverse ++ before, rest) ∈ placesFrom keyword before taken (mid ++ (keyword ++ rest)) := by
  induction mid generalizing before taken with
  | nil =>
    obtain ⟨c, s, hs⟩ := List.exists_cons_of_ne_nil (List.append_ne_nil_of_left_ne_nil hne rest)
    cases taken with
    | succ n =>
      have hnone := (hbegun (by omega)).not_isBoundary hclear ⟨rest, rfl⟩
      rw [show isBoundary before = true from hboundary] at hnone
      cases hnone
    | zero =>
      have hfound := isPrefixOf?_eq_some_iff.2 hs.symm
      rw [List.nil_append, hs, placesFrom, hfound]
      exact List.mem_cons_self
  | cons c mid ih =>
    have hsame : (c :: mid).reverse ++ before = mid.reverse ++ c :: before := by simp
    rw [hsame] at hboundary ⊢
    cases taken with
    | succ n => exact ih (fun _ => (hbegun (by omega)).next) hboundary
    | zero =>
      rw [List.cons_append, placesFrom]
      cases hfound : keyword.isPrefixOf? (c :: (mid ++ (keyword ++ rest))) with
      | none => exact ih (fun hlt => absurd hlt (by omega)) hboundary
      | some after =>
        refine List.mem_cons_of_mem _ (ih (fun hlt => ?_) hboundary)
        -- the keyword that has been found has begun with `c`
        refine ⟨1, by omega, by omega, ?_⟩
        cases keyword with
        | nil => exact absurd rfl hne
        | cons first keyword =>
          have hsplit := isPrefixOf?_eq_some_iff.1 hfound
          obtain ⟨rfl, hsplit⟩ := List.cons.inj hsplit
          exact ⟨⟨after, hsplit.symm⟩, before, rfl⟩

/-! ## Occurrences -/

/-- Whether a keyword stands in a line between `before` and `rest`, where it makes the line a step:
    at the start of the line or behind a blank, and if it is a bullet at the start only. -/
structure StandsAt (line keyword before rest : List Char) : Prop where
  split : line = before ++ (keyword ++ rest)
  boundary : ∀ c ∈ before.getLast?, Text.isBlank c = true
  bullet : keyword.head? = some '*' → before = []

theorem StandsAt.startsLine (h : StandsAt line keyword before rest) : before <+: line :=
  ⟨_, h.split.symm⟩

/-- Of the places that are listed the first one behind a blank is the leftmost one. -/
theorem leftmost_of_find? (hne : keyword ≠ []) (hclear : ClearOfItself keyword)
    {place : List Char × List Char}
    (h : (placesFrom keyword [] 0 line).find? (fun place => isBoundary place.1) = some place)
    {before' rest' : List Char} (hsplit : line = before' ++ (keyword ++ rest'))
    (hboundary : ∀ c ∈ before'.getLast?, Text.isBlank c = true) :
    place.1.length ≤ before'.length := by
  have hbegun : 0 < 0 → Begun keyword [] 0 (before' ++ (keyword ++ rest')) :=
    fun hlt => absurd hlt (Nat.lt_irrefl 0)
  have hboundary' : isBoundary (before'.reverse ++ []) = true := by
    rwa [List.append_nil, isBoundary_reverse_append]
  have hmem := mem_placesFrom hne hclear hbegun hboundary'
  rw [← hsplit] at hmem
  have hsorted := pairwise_placesFrom keyword [] 0 line
  obtain ⟨-, left, right, hplaces, hleft⟩ := List.find?_eq_some_iff_append.1 h
  rw [hplaces] at hmem hsorted
  rcases List.mem_append.1 hmem with hmem | hmem
  · have hnone := hleft _ hmem
    rw [hboundary'] at hnone
    cases hnone
  · rcases List.mem_cons.1 hmem with rfl | hmem
    · simp
    · have hle := (List.pairwise_cons.1 (List.pairwise_append.1 hsorted).2.1).1 _ hmem
      simpa using hle

/-- A keyword is found at the leftmost of the places where it stands, if there is one. -/
theorem occurrence?_cases (hne : keyword ≠ []) (hclear : ClearOfItself keyword)
    (line : List Char) :
    (occurrence? line keyword = none ∧ ∀ before rest, ¬ StandsAt line keyword before rest) ∨
      ∃ before rest, occurrence? line keyword = some (before.length, rest) ∧
        StandsAt line keyword before rest ∧
        ∀ before' rest', StandsAt line keyword before' rest' →
          before.length ≤ before'.length := by
  unfold occurrence?
  -- a bullet counts at the start of the line only, any other keyword behind every boundary
  split
  next tail =>
    cases hfound : List.isPrefixOf? ('*' :: tail) line with
    | none =>
      refine .inl ⟨rfl, fun before rest h => ?_⟩
      have hsplit := h.split
      rw [h.bullet rfl, List.nil_append, ← isPrefixOf?_eq_some_iff, hfound] at hsplit
      cases hsplit
    | some after =>
      have hsplit := isPrefixOf?_eq_some_iff.1 hfound
      have hstands : StandsAt line ('*' :: tail) [] after := ⟨hsplit, by simp, fun _ => rfl⟩
      exact .inr ⟨[], after, rfl, hstands, fun before' _ _ => Nat.zero_le before'.length⟩
  next hbullet =>
    have hstar : keyword.head? ≠ some '*' := by
      intro hhead
      obtain ⟨tail, htail⟩ := List.head?_eq_some_iff.1 hhead
      exact hbullet tail htail
    cases hfind : (placesFrom keyword [] 0 line).find? fun place => isBoundary place.1 with
    | none =>
      refine .inl ⟨rfl, fun before rest h => ?_⟩
      have hboundary : isBoundary (before.reverse ++ []) = true := by
        rw [List.append_nil, isBoundary_reverse_append]
        exact h.boundary
      have hbegun : 0 < 0 → Begun keyword [] 0 (before ++ (keyword ++ rest)) :=
        fun hlt => absurd hlt (Nat.lt_irrefl 0)
      have hmem := mem_placesFrom hne hclear hbegun hboundary
      rw [← h.split] at hmem
      exact List.find?_eq_none.1 hfind _ hmem hboundary
    | some place =>
      obtain ⟨before, hbefore, hline⟩ := eq_of_mem_placesFrom (List.mem_of_find?_eq_some hfind)
      have hboundary := List.find?_some hfind
      rw [hbefore, List.append_nil] at hboundary
      have hlength : place.1.length = before.length := by simp [hbefore]
      refine .inr ⟨before, place.2, by rw [← hlength]; rfl,
        ⟨hline, isBoundary_reverse_append.1 hboundary, fun hhead => absurd hhead hstar⟩,
        fun before' rest' h => ?_⟩
      rw [← hlength]
      exact leftmost_of_find? hne hclear hfind h.split h.boundary

/-! ## Spellings -/

/-- The spellings of the step keywords of a language with their roles, in table order. -/
def stepSpellings (language : Language) : List (StepKeyword × String) :=
  StepKeyword.all.flatMap fun kind =>
    (language.steps kind).map fun keyword => (kind, keyword)

theorem mem_stepSpellings {language : Language} {kind : StepKeyword} {keyword : String} :
    (kind, keyword) ∈ language.stepSpellings ↔ keyword ∈ language.steps kind := by
  simp [stepSpellings, StepKeyword.mem_all]

/-- The first occurrence of a spelling. -/
def occurrenceOf? (line : List Char) (spelling : StepKeyword × String) : Option Occurrence :=
  (occurrence? line spelling.2.toList).map fun found =>
    { kind := spelling.1, keyword := spelling.2, position := found.1, rest := found.2 }

theorem occurrences_eq (language : Language) (line : List Char) :
    language.occurrences line = language.stepSpellings.filterMap (occurrenceOf? line) := by
  rw [occurrences, stepSpellings, List.filterMap_flatMap]
  congr 1
  funext kind
  rw [List.filterMap_map]
  rfl

/-- No keyword of a language is empty, and none hides an occurrence of itself that counts. -/
theorem clear_stepSpellings (language : Language) :
    ∀ spelling ∈ language.stepSpellings,
      spelling.2.toList ≠ [] ∧ ClearOfItself spelling.2.toList := by
  have hall : ∀ language ∈ all, ∀ spelling ∈ language.stepSpellings,
      spelling.2.toList ≠ [] ∧ ClearOfItself spelling.2.toList := by
    decide +kernel
  exact hall language language.mem_all

/-! ## The choice -/

theorem Occurrence.better_eq_true_iff {a b : Occurrence} :
    a.better b = true ↔ a.position < b.position ∨
      a.position = b.position ∧ b.keyword.utf8ByteSize < a.keyword.utf8ByteSize := by
  simp [Occurrence.better]

theorem Occurrence.ordersUpToTies : OrdersUpToTies Occurrence.better where
  asymm a b h := by
    rw [better_eq_true_iff] at h
    rw [← Bool.not_eq_true, better_eq_true_iff]
    omega
  split a b c h := by
    rw [better_eq_true_iff] at h
    rw [better_eq_true_iff, better_eq_true_iff]
    omega

/-- Whether the spelling at a place of the table is the one that makes a line a step, where it
    stands between `before` and `rest`: no keyword stands further left, none in the same place is
    longer, and none as long in the same place comes before it in the table. -/
structure IsLeading (language : Language) (line : List Char) (place : Nat)
    (spelling : StepKeyword × String) (before rest : List Char) : Prop where
  listed : language.stepSpellings[place]? = some spelling
  stands : StandsAt line spelling.2.toList before rest
  leads : ∀ (other : Nat) spelling' before' rest',
    language.stepSpellings[other]? = some spelling' →
    StandsAt line spelling'.2.toList before' rest' →
    Text.byteLength before < Text.byteLength before' ∨
      Text.byteLength before = Text.byteLength before' ∧
        (spelling'.2.utf8ByteSize < spelling.2.utf8ByteSize ∨
          spelling'.2.utf8ByteSize = spelling.2.utf8ByteSize ∧ place ≤ other)

variable {language : Language}

/-- There is one leading spelling at most. -/
theorem IsLeading.unique {place place' : Nat} {spelling spelling' : StepKeyword × String}
    {before' rest' : List Char} (h : IsLeading language line place spelling before rest)
    (h' : IsLeading language line place' spelling' before' rest') :
    spelling = spelling' ∧ rest = rest' := by
  have hleads := h.leads place' spelling' before' rest' h'.listed h'.stands
  have hleads' := h'.leads place spelling before rest h.listed h.stands
  obtain rfl : place = place' := by omega
  have hspelling : spelling = spelling' := Option.some.inj (h.listed.symm.trans h'.listed)
  subst hspelling
  have hlength : before.length = before'.length := by
    have hlt := Text.byteLength_lt_iff h.stands.startsLine h'.stands.startsLine
    have hgt := Text.byteLength_lt_iff h'.stands.startsLine h.stands.startsLine
    omega
  have hsplit := h.stands.split.symm.trans h'.stands.split
  exact ⟨rfl, List.append_cancel_left (List.append_inj_right hsplit hlength)⟩

/-- The best occurrence is that of the leading spelling. -/
theorem exists_isLeading {found : Occurrence}
    (h : firstBest Occurrence.better (language.occurrences line) = some found) :
    ∃ place before, IsLeading language line place (found.kind, found.keyword) before found.rest := by
  rw [occurrences_eq] at h
  obtain ⟨place, spelling, hplace, hspelling, hbest⟩ :=
    firstBest_filterMap Occurrence.ordersUpToTies h
  have hclear (other : Nat) (spelling : StepKeyword × String)
      (hother : language.stepSpellings[other]? = some spelling) :=
    language.clear_stepSpellings spelling (List.mem_of_getElem? hother)
  rcases occurrence?_cases (hclear place spelling hplace).1 (hclear place spelling hplace).2 line
    with ⟨hnone, -⟩ | ⟨before, rest, hsome, hstands, -⟩
  · rw [occurrenceOf?, hnone] at hspelling
    cases hspelling
  rw [occurrenceOf?, hsome] at hspelling
  obtain rfl := Option.some.inj hspelling
  show ∃ place before', IsLeading language line place spelling before' rest
  refine ⟨place, before, hplace, hstands, fun other spelling' before' rest' hother hstands' => ?_⟩
  rcases occurrence?_cases (hclear other spelling' hother).1 (hclear other spelling' hother).2 line
    with ⟨-, hnone'⟩ | ⟨before'', rest'', hsome', -, hleft⟩
  · exact absurd hstands' (hnone' _ _)
  -- the spelling is found no further right, and what is found is not better
  have hle := hleft before' rest' hstands'
  obtain ⟨hnot, hafter⟩ := hbest other spelling' _ hother (by rw [occurrenceOf?, hsome']; rfl)
  rw [← Bool.not_eq_true, Occurrence.better_eq_true_iff] at hnot
  rw [Occurrence.better_eq_true_iff] at hafter
  have hlt := Text.byteLength_lt_iff hstands.startsLine hstands'.startsLine
  have hgt := Text.byteLength_lt_iff hstands'.startsLine hstands.startsLine
  dsimp only at hnot hafter
  omega

/-- A line is a step unless no keyword of the language stands at its start or behind a blank. It is
    one by the leftmost keyword, of several there by the longest, and of those by the first in the
    table; the text behind it is what the step says. -/
theorem step?_leading (language : Language) (line : String) :
    (language.step? line = none ↔
      ∀ kind, ∀ keyword ∈ language.steps kind, ∀ before rest,
        ¬ StandsAt (Text.strip line.toList) keyword.toList before rest) ∧
      ∀ step, language.step? line = some step ↔
        ∃ place spelling before rest,
          IsLeading language (Text.strip line.toList) place spelling before rest ∧
          step = { kind := spelling.1
                   keyword := Text.trimEnd spelling.2
                   details := .ofList (Text.strip rest) } := by
  generalize hs : Text.strip line.toList = s
  have hstep : language.step? line =
      (firstBest Occurrence.better (language.occurrences s)).map fun found =>
        { kind := found.kind
          keyword := Text.trimEnd found.keyword
          details := .ofList (Text.strip found.rest) } := by
    rw [← hs]
    rfl
  -- where a keyword stands, an occurrence is found
  have hfound {kind keyword before rest} (hkeyword : keyword ∈ language.steps kind)
      (hstands : StandsAt s keyword.toList before rest) :
      ∃ found, firstBest Occurrence.better (language.occurrences s) = some found := by
    rw [← Option.ne_none_iff_exists', Ne, firstBest_eq_none_iff, occurrences_eq,
      List.filterMap_eq_nil_iff]
    intro hnil
    have hspelling := mem_stepSpellings.2 hkeyword
    obtain ⟨hne, hclear⟩ := language.clear_stepSpellings _ hspelling
    rcases occurrence?_cases hne hclear s with ⟨-, hnone⟩ | ⟨before', rest', hsome, -⟩
    · exact hnone _ _ hstands
    · have hnone := hnil _ hspelling
      rw [occurrenceOf?, hsome] at hnone
      cases hnone
  constructor
  · rw [hstep, Option.map_eq_none_iff]
    constructor
    · intro hnone kind keyword hkeyword before rest hstands
      obtain ⟨found, hsome⟩ := hfound hkeyword hstands
      rw [hnone] at hsome
      cases hsome
    · intro hnone
      cases hbest : firstBest Occurrence.better (language.occurrences s) with
      | none => rfl
      | some found =>
        obtain ⟨place, before, hleading⟩ := exists_isLeading hbest
        exact absurd hleading.stands
          (hnone _ _ (mem_stepSpellings.1 (List.mem_of_getElem? hleading.listed)) _ _)
  · intro step
    rw [hstep, Option.map_eq_some_iff]
    constructor
    · rintro ⟨found, hbest, rfl⟩
      obtain ⟨place, before, hleading⟩ := exists_isLeading hbest
      exact ⟨place, _, before, _, hleading, rfl⟩
    · rintro ⟨place, spelling, before, rest, hleading, rfl⟩
      obtain ⟨found, hbest⟩ :=
        hfound (mem_stepSpellings.1 (List.mem_of_getElem? hleading.listed)) hleading.stands
      obtain ⟨place', before', hleading'⟩ := exists_isLeading hbest
      obtain ⟨hspelling, hrest⟩ := hleading.unique hleading'
      exact ⟨found, hbest, by rw [hspelling, hrest]⟩

/-- A keyword that overlaps with itself inside a word is found behind the word. -/
example : japanese.step? "xしかしかし しかし a" = some ⟨.But, "しかし", "a"⟩ := by decide +kernel

end Gherkin.Language
