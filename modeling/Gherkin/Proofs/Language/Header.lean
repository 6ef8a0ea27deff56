/-
  Gherkin.Proofs.Language.Header

  Headers are unambiguous. Where a spelling of a header keyword starts with
  another one, what it has more does not start with a colon, blanks aside. So
  a line is a header by one spelling of one role at most, and it does not matter
  in which order the spellings are tried or which of several is preferred.
-/
import Gherkin.Language.Line
import Mathlib.Data.List.Basic
import Mathlib.Data.List.TakeWhile

namespace Gherkin

/-- The first best of elements that are all the same does not depend on what is better. -/
theorem firstBest_of_perm {α : Type u} {better better' : α → α → Bool} {xs ys : List α}
    (hperm : ys.Perm xs) (hsame : ∀ x ∈ xs, ∀ y ∈ xs, x = y) :
    firstBest better ys = firstBest better' xs := by
  cases hys : firstBest better ys with
  | none =>
    obtain rfl := firstBest_eq_none_iff.1 hys
    rw [hperm.symm.eq_nil]
    rfl
  | some y =>
    have hy : y ∈ xs := hperm.mem_iff.1 (firstBest_mem hys)
    cases hxs : firstBest better' xs with
    | none =>
      rw [firstBest_eq_none_iff.1 hxs] at hy
      cases hy
    | some x => rw [hsame x (firstBest_mem hxs) y hy]

namespace Language

/-! ## Colons -/

/-- The colons that may end a header keyword. -/
def colons : List Char := [':', '：']

theorem isBlank_of_mem_colons {c : Char} (h : c ∈ colons) : Text.isBlank c = false := by
  rcases List.mem_pair.1 h with rfl | rfl
  · decide
  · decide

/-- A text goes on after a colon if blanks only come before the colon. -/
theorem afterColon?_eq_some_iff {s name : List Char} :
    afterColon? s = some name ↔
      ∃ blanks colon, s = blanks ++ colon :: name ∧ (∀ c ∈ blanks, Text.isBlank c = true) ∧
        colon ∈ colons := by
  constructor
  · intro h
    have hsplit := List.takeWhile_append_dropWhile (p := Text.isBlank) (l := s)
    have hblanks : ∀ c ∈ s.takeWhile Text.isBlank, Text.isBlank c = true := fun c hc =>
      List.mem_takeWhile_imp hc
    rw [afterColon?] at h
    split at h
    next rest hdrop =>
      obtain rfl := Option.some.inj h
      exact ⟨_, ':', by rw [← hdrop]; exact hsplit.symm, hblanks, by decide⟩
    next rest hdrop =>
      obtain rfl := Option.some.inj h
      exact ⟨_, '：', by rw [← hdrop]; exact hsplit.symm, hblanks, by decide⟩
    next => cases h
  · rintro ⟨blanks, colon, rfl, hblanks, hcolon⟩
    have hdrop : Text.dropBlanks (blanks ++ colon :: name) = colon :: name := by
      rw [Text.dropBlanks, List.dropWhile_append_of_pos hblanks,
        List.dropWhile_cons_of_neg (by simp [isBlank_of_mem_colons hcolon])]
    rw [afterColon?, hdrop]
    simp only [colons, List.mem_cons, List.not_mem_nil, or_false] at hcolon
    rcases hcolon with rfl | rfl <;> rfl

/-- There is no colon to come if the first character that is no blank is another one. -/
theorem afterColon?_append {d : List Char} {c : Char} {t : List Char}
    (h : Text.dropBlanks d = c :: t) (hc : c ∉ colons) (rest : List Char) :
    afterColon? (d ++ rest) = none := by
  have hdrop : Text.dropBlanks (d ++ rest) = c :: (t ++ rest) := by
    have hne : Text.dropBlanks d ≠ [] := by simp [h]
    rw [Text.dropBlanks] at h hne ⊢
    rw [List.dropWhile_append, if_neg (by rwa [List.isEmpty_iff]), h, List.cons_append]
  simp only [colons, List.mem_cons, List.not_mem_nil, or_false, not_or] at hc
  rw [afterColon?, hdrop]
  split
  next hcons => exact absurd (List.cons.inj hcons).1 hc.1
  next hcons => exact absurd (List.cons.inj hcons).1 hc.2
  next => rfl

/-! ## Spellings -/

/-- The spellings of the header keywords of a language with their roles, in table order. -/
def headerSpellings (language : Language) : List (HeaderKeyword × String) :=
  HeaderKeyword.all.flatMap fun kind =>
    (language.headers kind).map fun keyword => (kind, keyword)

theorem mem_headerSpellings {language : Language} {kind : HeaderKeyword} {keyword : String} :
    (kind, keyword) ∈ language.headerSpellings ↔ keyword ∈ language.headers kind := by
  simp [headerSpellings, HeaderKeyword.mem_all]

theorem headerCandidates_eq (language : Language) (line : List Char) :
    language.headerCandidates line =
      language.headerSpellings.filterMap fun spelling =>
        headerWith? line spelling.1 spelling.2 := by
  rw [headerCandidates, headerSpellings, List.filterMap_flatMap]
  congr 1
  funext kind
  rw [List.filterMap_map]
  rfl

/-- Whether a longer spelling that starts with a shorter one goes on, blanks aside, with another
    character than a colon. -/
def GoesOnOtherwise (short long : List Char) : Prop :=
  short <+: long → ∃ c ∈ (Text.dropBlanks (long.drop short.length)).head?, c ∉ colons

instance (short long : List Char) : Decidable (GoesOnOtherwise short long) :=
  match h : (Text.dropBlanks (long.drop short.length)).head? with
  | none => decidable_of_iff (¬ short <+: long) (by simp [GoesOnOtherwise, h])
  | some c => decidable_of_iff (short <+: long → c ∉ colons) (by simp [GoesOnOtherwise, h])

/-- No spelling of a language is another with a colon, blanks aside, behind it. -/
theorem goesOnOtherwise_headerSpellings (language : Language) :
    ∀ first ∈ language.headerSpellings, ∀ second ∈ language.headerSpellings, first ≠ second →
      GoesOnOtherwise first.2.toList second.2.toList := by
  have hall : ∀ language ∈ all, ∀ first ∈ language.headerSpellings,
      ∀ second ∈ language.headerSpellings, first ≠ second →
        GoesOnOtherwise first.2.toList second.2.toList := by
    decide +kernel
  exact hall language language.mem_all

/-! ## Headers of a line -/

/-- Whether a line is a header by a keyword: the keyword stands at its start, then come blanks, if
    any, then a colon, and behind it the text that is the name when it is stripped. -/
def HeaderBy (line : List Char) (keyword : List Char) (name : String) : Prop :=
  ∃ blanks colon rest, line = keyword ++ (blanks ++ colon :: rest) ∧
    (∀ c ∈ blanks, Text.isBlank c = true) ∧ colon ∈ colons ∧ name = .ofList (Text.strip rest)

theorem headerWith?_eq_some_iff {line : List Char} {kind : HeaderKeyword} {keyword : String}
    {header : Header} :
    headerWith? line kind keyword = some header ↔
      header.kind = kind ∧ header.keyword = keyword ∧
        HeaderBy line keyword.toList header.name := by
  constructor
  · intro h
    obtain ⟨after, hafter, h⟩ := Option.bind_eq_some_iff.1 h
    obtain ⟨rest, hrest, h⟩ := Option.bind_eq_some_iff.1 h
    obtain rfl := Option.some.inj h
    obtain ⟨blanks, colon, rfl, hblanks, hcolon⟩ := afterColon?_eq_some_iff.1 hrest
    exact ⟨rfl, rfl, blanks, colon, rest,
      (List.isPrefixOf?_eq_some_iff_append_eq.1 hafter).symm, hblanks, hcolon, rfl⟩
  · rintro ⟨rfl, rfl, blanks, colon, rest, rfl, hblanks, hcolon, hname⟩
    have hafter : header.keyword.toList.isPrefixOf?
        (header.keyword.toList ++ (blanks ++ colon :: rest)) = some (blanks ++ colon :: rest) :=
      List.isPrefixOf?_eq_some_iff_append_eq.2 rfl
    have hrest : afterColon? (blanks ++ colon :: rest) = some rest :=
      afterColon?_eq_some_iff.2 ⟨blanks, colon, rfl, hblanks, hcolon⟩
    simp [headerWith?, hafter, hrest, ← hname]

/-- Two spellings of which one starts with the other do not both make a line a header. -/
theorem not_headerBy_of_prefix {line short long : List Char} {name name' : String}
    (hstart : short <+: long) (hother : GoesOnOtherwise short long)
    (hshort : HeaderBy line short name) : ¬ HeaderBy line long name' := by
  rintro ⟨blanks', colon', rest', hlong, -⟩
  obtain ⟨blanks, colon, rest, hline, hblanks, hcolon, -⟩ := hshort
  obtain ⟨c, hc, hcolons⟩ := hother hstart
  obtain ⟨d, rfl⟩ := hstart
  rw [List.drop_left] at hc
  obtain ⟨t, ht⟩ : ∃ t, Text.dropBlanks d = c :: t := List.head?_eq_some_iff.1 hc
  -- behind the shorter one both a colon comes and another character
  have hsome : afterColon? (blanks ++ colon :: rest) = some rest :=
    afterColon?_eq_some_iff.2 ⟨blanks, colon, rfl, hblanks, hcolon⟩
  have hnone := afterColon?_append ht hcolons (blanks' ++ colon' :: rest')
  have hsame : d ++ (blanks' ++ colon' :: rest') = blanks ++ colon :: rest := by
    have hwhole : short ++ (d ++ (blanks' ++ colon' :: rest')) =
        short ++ (blanks ++ colon :: rest) := by
      rw [← hline, hlong, List.append_assoc]
    exact List.append_cancel_left hwhole
  rw [hsame, hsome] at hnone
  cases hnone

/-- A line is a header by one spelling at most. -/
theorem headerSpelling_unique {language : Language} {line : List Char}
    {first second : HeaderKeyword × String} {name name' : String}
    (hfirst : first ∈ language.headerSpellings) (hsecond : second ∈ language.headerSpellings)
    (h : HeaderBy line first.2.toList name) (h' : HeaderBy line second.2.toList name') :
    first = second := by
  by_contra hne
  have hothers := language.goesOnOtherwise_headerSpellings
  obtain ⟨blanks, colon, rest, hline, -⟩ := id h
  obtain ⟨blanks', colon', rest', hline', -⟩ := id h'
  have hstart : first.2.toList <+: line := ⟨_, hline.symm⟩
  have hstart' : second.2.toList <+: line := ⟨_, hline'.symm⟩
  rcases List.prefix_or_prefix_of_prefix hstart hstart' with hshort | hshort
  · exact not_headerBy_of_prefix hshort (hothers first hfirst second hsecond hne) h h'
  · exact not_headerBy_of_prefix hshort (hothers second hsecond first hfirst (Ne.symm hne)) h' h

/-- All headers that a language makes of a line are the same. -/
theorem headerWith?_unique {language : Language} {line : List Char} {x y : Header}
    (hx : x ∈ language.headerSpellings.filterMap fun p => headerWith? line p.1 p.2)
    (hy : y ∈ language.headerSpellings.filterMap fun p => headerWith? line p.1 p.2) : x = y := by
  obtain ⟨first, hfirst, hx⟩ := List.mem_filterMap.1 hx
  obtain ⟨second, hsecond, hy⟩ := List.mem_filterMap.1 hy
  have hsame := headerSpelling_unique hfirst hsecond (headerWith?_eq_some_iff.1 hx).2.2
    (headerWith?_eq_some_iff.1 hy).2.2
  rw [hsame, hy] at hx
  exact (Option.some.inj hx).symm

/-- A line is a header by one spelling of one role at most. So the header is the same in whatever
    order the spellings are tried and whichever of several headers is preferred, and a line is one
    just in case a spelling of the language stands at its start and blanks, if any, and a colon
    behind it. -/
theorem header?_unambiguous (language : Language) (line : String) :
    (∀ first ∈ language.headerSpellings, ∀ second ∈ language.headerSpellings, ∀ name name',
      HeaderBy (Text.strip line.toList) first.2.toList name →
        HeaderBy (Text.strip line.toList) second.2.toList name' → first = second) ∧
      (∀ spellings : List (HeaderKeyword × String), spellings.Perm language.headerSpellings →
        ∀ better : Header → Header → Bool,
          firstBest better
              (spellings.filterMap fun p => headerWith? (Text.strip line.toList) p.1 p.2) =
            language.header? line) ∧
      ∀ header, language.header? line = some header ↔
        header.keyword ∈ language.headers header.kind ∧
          HeaderBy (Text.strip line.toList) header.keyword.toList header.name := by
  refine ⟨fun first hfirst second hsecond name name' => headerSpelling_unique hfirst hsecond,
    fun spellings hperm better => ?_, fun header => ?_⟩
  · rw [header?, headerCandidates_eq]
    exact firstBest_of_perm (hperm.filterMap _) fun x hx y hy => headerWith?_unique hx hy
  · rw [header?, headerCandidates_eq]
    constructor
    · intro h
      obtain ⟨⟨kind, keyword⟩, hspelling, hwith⟩ := List.mem_filterMap.1 (firstBest_mem h)
      obtain ⟨rfl, rfl, hby⟩ := headerWith?_eq_some_iff.1 hwith
      exact ⟨mem_headerSpellings.1 hspelling, hby⟩
    · rintro ⟨hkeyword, hby⟩
      have hmem : header ∈ language.headerSpellings.filterMap fun p =>
          headerWith? (Text.strip line.toList) p.1 p.2 :=
        List.mem_filterMap.2 ⟨(header.kind, header.keyword), mem_headerSpellings.2 hkeyword,
          headerWith?_eq_some_iff.2 ⟨rfl, rfl, hby⟩⟩
      -- there is a candidate, and it is the only one
      cases hbest : firstBest Header.longer (language.headerSpellings.filterMap fun p =>
          headerWith? (Text.strip line.toList) p.1 p.2) with
      | none =>
        rw [firstBest_eq_none_iff.1 hbest] at hmem
        cases hmem
      | some found => rw [headerWith?_unique (firstBest_mem hbest) hmem]

end Language

end Gherkin
