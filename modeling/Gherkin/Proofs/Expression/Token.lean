/-
  Gherkin.Proofs.Expression.Token

  Patterns and their tokens. The tokens of a pattern have a normal form: literals
  are not empty and do not meet, and placeholders have names. Each placeholder
  starts where the pattern has its name in braces. The other way round, tokens in
  normal form can be written as a pattern, with a backslash before each character
  that would not mean itself, and are read back from it.
-/
import Gherkin.Expression.Token
import Gherkin.Proofs.Text.Size
import Mathlib.Data.List.Chain

namespace Gherkin.Expression

/-- A placeholder as it is written. -/
def braced (name : String) : List Char := '\x7b' :: name.toList ++ ['\x7d']

/-! ## A name in braces -/

/-- What may start a name may stand in it. -/
theorem isNameChar_of_isName {name : List Char} (h : isName name = true) :
    ∀ c ∈ name, isNameChar c = true := by
  cases name with
  | nil => simp
  | cons first rest =>
    simp only [isName, Bool.and_eq_true, List.all_eq_true] at h
    obtain ⟨hfirst, hrest⟩ := h
    refine List.forall_mem_cons.2 ⟨?_, hrest⟩
    simp only [isNameStart, Bool.or_eq_true, beq_iff_eq] at hfirst
    rcases hfirst with halpha | rfl
    · simp [isNameChar, Char.isAlphanum, halpha]
    · rfl

theorem readName?_of_isName {name : List Char} (h : isName name = true) (rest : List Char) :
    readName? (name ++ '\x7d' :: rest) = some (name, rest) := by
  have hall := isNameChar_of_isName h
  have hbrace : ¬ isNameChar '\x7d' = true := by decide
  have htake : (name ++ '\x7d' :: rest).takeWhile isNameChar = name := by
    rw [List.takeWhile_append_of_pos hall, List.takeWhile_cons_of_neg hbrace, List.append_nil]
  have hdrop : (name ++ '\x7d' :: rest).dropWhile isNameChar = '\x7d' :: rest := by
    rw [List.dropWhile_append_of_pos hall, List.dropWhile_cons_of_neg hbrace]
  unfold readName?
  rw [hdrop, htake]
  simp [h]

theorem marks_placeholder {start : Nat} {s name rest : List Char} (hs : ∀ t, s ≠ '\x7b' :: t)
    (h : readName? s = some (name, rest)) :
    marks start ('\x7b' :: s) =
      .placeholder start (.ofList name) :: marks (start + name.length + 2) rest := by
  rw [marks.eq_5 _ _ hs]
  split
  next found _ hfound =>
    rw [hfound] at h
    cases h
    rfl
  next hnone =>
    rw [hnone] at h
    cases h

/-- A name in braces is a placeholder. -/
theorem marks_braced {name : String} (h : isName name.toList = true) (start : Nat)
    (rest : List Char) :
    marks start (braced name ++ rest) =
      .placeholder start name :: marks (start + name.length + 2) rest := by
  have hlist : braced name ++ rest = '\x7b' :: (name.toList ++ '\x7d' :: rest) := by
    simp [braced]
  -- no name starts with a brace, so the first brace is not a doubled one
  have hbrace : ∀ t, name.toList ++ '\x7d' :: rest ≠ '\x7b' :: t := by
    intro t ht
    cases hname : name.toList with
    | nil => simp [hname, isName] at h
    | cons c s =>
      rw [hname, List.cons_append] at ht
      obtain ⟨rfl, -⟩ := List.cons.inj ht
      have hchar := isNameChar_of_isName h '\x7b' (by simp [hname])
      exact absurd hchar (by decide)
  rw [hlist, marks_placeholder hbrace (readName?_of_isName h rest), String.ofList_toList,
    String.length_toList]

/-- A name in braces is one placeholder. -/
theorem tokens_braced {name : String} (h : isName name.toList = true) :
    tokens s!"\x7b{name}\x7d" = [.placeholder 0 name] := by
  have hlist : (s!"\x7b{name}\x7d").toList = braced name ++ [] := by
    simp [braced, toString, String.toList_append]
  rw [tokens, hlist, marks_braced h]
  simp [marks, Token.cons]

/-- The characters of names have one byte. -/
theorem utf8Size_of_isNameChar {c : Char} (h : isNameChar c = true) : c.utf8Size = 1 := by
  rw [Char.utf8Size_eq_one_iff, UInt32.le_iff_toNat_le]
  show c.toNat ≤ 127
  rcases Bool.or_eq_true_iff.1 h with halphanum | hunderscore
  · rcases Bool.or_eq_true_iff.1 halphanum with halpha | hdigit
    · rcases Bool.or_eq_true_iff.1 halpha with hupper | hlower
      · have hlast : c.toNat ≤ 'Z'.toNat := (of_decide_eq_true hupper).2
        exact Nat.le_trans hlast (by decide)
      · have hlast : c.toNat ≤ 'z'.toNat := of_decide_eq_true (Bool.and_eq_true_iff.1 hlower).2
        exact Nat.le_trans hlast (by decide)
    · have hlast : c.toNat ≤ '9'.toNat := of_decide_eq_true (Bool.and_eq_true_iff.1 hdigit).2
      exact Nat.le_trans hlast (by decide)
  · rw [eq_of_beq hunderscore]
    decide

theorem byteLength_of_isName {name : List Char} (h : isName name = true) :
    Text.byteLength name = name.length := by
  have hall := isNameChar_of_isName h
  clear h
  induction name with
  | nil => rfl
  | cons c name ih =>
    obtain ⟨hc, hname⟩ := List.forall_mem_cons.1 hall
    rw [Text.byteLength_cons, utf8Size_of_isNameChar hc, ih hname, List.length_cons, Nat.add_comm]

theorem byteLength_braced {name : String} (h : isName name.toList = true) :
    Text.byteLength (braced name) = name.length + 2 := by
  have hbrace : ('\x7b').utf8Size = 1 ∧ ('\x7d').utf8Size = 1 := by decide
  rw [braced, Text.byteLength_append, Text.byteLength_cons, Text.byteLength_cons,
    byteLength_of_isName h, hbrace.1, hbrace.2, Text.byteLength_nil, String.length_toList]
  omega

/-! ## Places -/

/-- Where a placeholder starts, and its name. -/
def Mark.place? : Mark → Option (Nat × String)
  | .char _ => none
  | .placeholder start name => some (start, name)

/-- Where a placeholder starts, and its name. -/
def Token.place? : Token → Option (Nat × String)
  | .literal _ => none
  | .placeholder start name => some (start, name)

theorem Token.place?_eq_some_iff {token : Token} {start : Nat} {name : String} :
    token.place? = some (start, name) ↔ token = .placeholder start name := by
  cases token <;> simp [Token.place?]

theorem Mark.place?_eq_some_iff {m : Mark} {start : Nat} {name : String} :
    m.place? = some (start, name) ↔ m = .placeholder start name := by
  cases m <;> simp [Mark.place?]

theorem Token.filterMap_place?_cons (m : Mark) (tokens : List Token) :
    (Token.cons m tokens).filterMap Token.place? =
      m.place?.toList ++ tokens.filterMap Token.place? := by
  fun_cases Token.cons m tokens
  case case1 c text tokens => rfl
  case case2 c hopen => rw [List.filterMap_cons_none rfl]; rfl
  case case3 start name => rfl

/-- Where placeholders stand is not changed when characters are joined. -/
theorem filterMap_place?_foldr (ms : List Mark) :
    (ms.foldr Token.cons []).filterMap Token.place? = ms.filterMap Mark.place? := by
  induction ms with
  | nil => rfl
  | cons m ms ih =>
    rw [List.foldr_cons, Token.filterMap_place?_cons, ih]
    cases m <;> rfl

theorem mem_foldr_cons_iff {ms : List Mark} {start : Nat} {name : String} :
    .placeholder start name ∈ ms.foldr Token.cons [] ↔ .placeholder start name ∈ ms := by
  have hplaces := filterMap_place?_foldr ms
  have hmem : (start, name) ∈ (ms.foldr Token.cons []).filterMap Token.place? ↔
      (start, name) ∈ ms.filterMap Mark.place? := by rw [hplaces]
  simpa [List.mem_filterMap, Token.place?_eq_some_iff, Mark.place?_eq_some_iff] using hmem

/-- Whether a text has a name in braces behind so many bytes. -/
def HasBraced (s : List Char) (start : Nat) (name : String) : Prop :=
  isName name.toList = true ∧
    ∃ before after, s = before ++ (braced name ++ after) ∧ Text.byteLength before = start

/-- What a text has behind so many bytes, it has behind more if characters are put in front. -/
theorem HasBraced.behind {s front : List Char} {start middle place : Nat} {name : String}
    (hmiddle : middle = start + Text.byteLength front)
    (h : ∃ n, place = middle + n ∧ HasBraced s n name) :
    ∃ n, place = start + n ∧ HasBraced (front ++ s) n name := by
  obtain ⟨n, rfl, hname, before, after, rfl, rfl⟩ := h
  refine ⟨Text.byteLength front + Text.byteLength before, by omega, hname, front ++ before, after,
    ?_, Text.byteLength_append _ _⟩
  rw [List.append_assoc]

/-- A placeholder stands where the text has its name in braces. -/
theorem hasBraced_of_mem_marks {start place : Nat} {s : List Char} {name : String}
    (h : .placeholder place name ∈ marks start s) :
    ∃ n, place = start + n ∧ HasBraced s n name := by
  -- each case passes over what stands in front, and places count its bytes
  fun_induction marks start s with
  | case1 => cases h
  | case2 => simp at h
  | case3 start c s ih =>
    have hsize : start + 1 + c.utf8Size = start + Text.byteLength ['\\', c] := Nat.add_assoc _ _ _
    exact HasBraced.behind hsize (ih (by simpa using h))
  | case4 start s ih =>
    have hsize : start + 2 = start + Text.byteLength ['\x7b', '\x7b'] := rfl
    exact HasBraced.behind hsize (ih (by simpa using h))
  | case5 start s _ found rest hread _ ih =>
    obtain ⟨hfound, rfl⟩ := readName?_eq_some hread
    have hname : isName (String.ofList found).toList = true := by rwa [String.toList_ofList]
    have hlist : '\x7b' :: (found ++ '\x7d' :: rest) = braced (.ofList found) ++ rest := by
      simp [braced]
    rw [hlist]
    rcases List.mem_cons.1 h with heq | h
    · obtain ⟨rfl, rfl⟩ := Mark.placeholder.inj heq
      exact ⟨0, rfl, hname, [], rest, rfl, rfl⟩
    · have hsize : start + found.length + 2 =
          start + Text.byteLength (braced (.ofList found)) := by
        rw [byteLength_braced hname, String.length_ofList, Nat.add_assoc]
      exact HasBraced.behind hsize (ih h)
  | case6 start s _ _ ih =>
    have hsize : start + 1 = start + Text.byteLength ['\x7b'] := rfl
    exact HasBraced.behind hsize (ih (by simpa using h))
  | case7 start s ih =>
    have hsize : start + 2 = start + Text.byteLength ['\x7d', '\x7d'] := rfl
    exact HasBraced.behind hsize (ih (by simpa using h))
  | case8 start c s _ _ _ _ _ ih =>
    have hsize : start + c.utf8Size = start + Text.byteLength [c] := rfl
    exact HasBraced.behind hsize (ih (by simpa using h))

/-- Placeholders stand one behind the other. -/
theorem pairwise_place_marks (start : Nat) (s : List Char) :
    ((marks start s).filterMap Mark.place?).Pairwise fun place next => place.1 < next.1 := by
  fun_induction marks start s with
  | case1 => exact .nil
  | case2 => exact .nil
  | case3 start c s ih => exact ih
  | case4 start s ih => exact ih
  | case5 start s _ found rest hread _ ih =>
    refine List.pairwise_cons.2 ⟨fun place hplace => ?_, ih⟩
    obtain ⟨m, hm, hplace⟩ := List.mem_filterMap.1 hplace
    obtain ⟨place, name⟩ := place
    obtain rfl := Mark.place?_eq_some_iff.1 hplace
    obtain ⟨n, rfl, -⟩ := hasBraced_of_mem_marks hm
    show start < start + found.length + 2 + n
    omega
  | case6 start s _ _ ih => exact ih
  | case7 start s ih => exact ih
  | case8 start c s _ _ _ _ _ ih => exact ih

/-- What stands between braces in a pattern as a placeholder is a name. -/
theorem isName_of_mem_tokens {pattern : String} {place : Nat} {name : String}
    (h : .placeholder place name ∈ tokens pattern) : isName name.toList = true := by
  obtain ⟨n, -, hname, -⟩ := hasBraced_of_mem_marks (mem_foldr_cons_iff.1 h)
  exact hname

/-! ## Normal form -/

/-- Whether a token is literal text. -/
def Token.isLiteral : Token → Bool
  | .literal _ => true
  | .placeholder .. => false

/-- Whether no literal is empty, no two literals meet, and placeholders have names. -/
structure IsNormal (tokens : List Token) : Prop where
  nonempty : ∀ text, .literal text ∈ tokens → text ≠ []
  apart : tokens.IsChain fun token next => ¬ (token.isLiteral = true ∧ next.isLiteral = true)
  named : ∀ start name, .placeholder start name ∈ tokens → isName name.toList = true

theorem isNormal_nil : IsNormal [] where
  nonempty := by simp
  apart := .nil
  named := by simp

theorem isNormal_cons_iff {token : Token} {tokens : List Token} :
    IsNormal (token :: tokens) ↔
      (∀ text, token = .literal text → text ≠ [] ∧ ∀ next ∈ tokens.head?, next.isLiteral = false) ∧
        (∀ start name, token = .placeholder start name → isName name.toList = true) ∧
        IsNormal tokens := by
  constructor
  · rintro ⟨hnonempty, hapart, hnamed⟩
    obtain ⟨hnext, hapart⟩ := List.isChain_cons.1 hapart
    refine ⟨?_, fun start name heq => hnamed start name (heq ▸ List.mem_cons_self),
      fun text hmem => hnonempty text (List.mem_cons_of_mem _ hmem), hapart,
      fun start name hmem => hnamed start name (List.mem_cons_of_mem _ hmem)⟩
    rintro text rfl
    exact ⟨hnonempty text List.mem_cons_self, fun next hmem =>
      Bool.eq_false_iff.2 fun hliteral => hnext next hmem ⟨rfl, hliteral⟩⟩
  · rintro ⟨hliteral, hname, hnonempty, hapart, hnamed⟩
    refine ⟨fun text hmem => ?_, List.isChain_cons.2 ⟨fun next hnext => ?_, hapart⟩,
      fun start name hmem => ?_⟩
    · rcases List.mem_cons.1 hmem with rfl | hmem
      · exact (hliteral text rfl).1
      · exact hnonempty text hmem
    · rintro ⟨hfirst, hsecond⟩
      cases token with
      | literal text => exact Bool.eq_false_iff.1 ((hliteral text rfl).2 next hnext) hsecond
      | placeholder start name => cases hfirst
    · rcases List.mem_cons.1 hmem with rfl | hmem
      · exact hname start name rfl
      · exact hnamed start name hmem

/-- A character or a placeholder in front leaves tokens in normal form. -/
theorem IsNormal.cons {tokens : List Token} (h : IsNormal tokens) {m : Mark}
    (hm : ∀ start name, m = .placeholder start name → isName name.toList = true) :
    IsNormal (Token.cons m tokens) := by
  fun_cases Token.cons m tokens
  case case1 c text tokens =>
    rw [isNormal_cons_iff] at h ⊢
    obtain ⟨htext, -, htokens⟩ := h
    refine ⟨fun text' heq => ?_, fun start name heq => (by cases heq), htokens⟩
    obtain rfl := Token.literal.inj heq
    exact ⟨List.cons_ne_nil _ _, (htext text rfl).2⟩
  case case2 c hopen =>
    refine isNormal_cons_iff.2 ⟨fun text heq => ?_, fun start name heq => (by cases heq), h⟩
    obtain rfl := Token.literal.inj heq
    refine ⟨List.cons_ne_nil _ _, fun next hnext => ?_⟩
    obtain ⟨rest, rfl⟩ := List.head?_eq_some_iff.1 hnext
    cases next with
    | literal text => exact absurd rfl (hopen text rest)
    | placeholder start name => rfl
  case case3 start name =>
    refine isNormal_cons_iff.2 ⟨fun text heq => (by cases heq), fun start' name' heq => ?_, h⟩
    obtain ⟨rfl, rfl⟩ := Token.placeholder.inj heq
    exact hm _ _ rfl

/-- The tokens of a pattern are in normal form. -/
theorem isNormal_tokens (pattern : String) : IsNormal (tokens pattern) := by
  have hfold : ∀ ms : List Mark,
      (∀ start name, .placeholder start name ∈ ms → isName name.toList = true) →
        IsNormal (ms.foldr Token.cons []) := by
    intro ms
    induction ms with
    | nil => exact fun _ => isNormal_nil
    | cons m ms ih =>
      intro hnamed
      exact (ih fun start name hmem => hnamed start name (List.mem_cons_of_mem _ hmem)).cons
        fun start name heq => hnamed start name (heq ▸ List.mem_cons_self)
  refine hfold _ fun start name hmem => ?_
  obtain ⟨n, -, hname, -⟩ := hasBraced_of_mem_marks hmem
  exact hname

/-! ## Writing -/

/-- A character as it is written to mean itself. -/
def escapeChar (c : Char) : List Char :=
  if c = '\\' ∨ c = '\x7b' ∨ c = '\x7d' then ['\\', c] else [c]

/-- A token as it is written. -/
def Token.written : Token → List Char
  | .literal text => text.flatMap escapeChar
  | .placeholder _ name => braced name

/-- The pattern that tokens are written as. -/
def render (tokens : List Token) : List Char := tokens.flatMap Token.written

/-- A token that starts so many bytes into a pattern. -/
def Token.startingAt (start : Nat) : Token → Token
  | .literal text => .literal text
  | .placeholder _ name => .placeholder start name

/-- The tokens, each starting where it is written, if the first starts so many bytes into a
    pattern. -/
def located (start : Nat) : List Token → List Token
  | [] => []
  | token :: tokens =>
    token.startingAt start :: located (start + Text.byteLength token.written) tokens

/-- A character that is written to mean itself is read so. -/
theorem marks_escapeChar (start : Nat) (c : Char) (rest : List Char) :
    marks start (escapeChar c ++ rest) =
      .char c :: marks (start + Text.byteLength (escapeChar c)) rest := by
  by_cases hspecial : c = '\\' ∨ c = '\x7b' ∨ c = '\x7d'
  · have hsize : start + Text.byteLength ['\\', c] = start + 1 + c.utf8Size :=
      (Nat.add_assoc _ _ _).symm
    rw [escapeChar, if_pos hspecial, hsize]
    exact marks.eq_3 start c rest
  · rw [escapeChar, if_neg hspecial]
    obtain ⟨hbackslash, hopening, hclosing⟩ : c ≠ '\\' ∧ c ≠ '\x7b' ∧ c ≠ '\x7d' := by
      simpa only [not_or] using hspecial
    exact marks.eq_7 start c rest (fun h _ => hbackslash h) (fun _ _ h _ => hbackslash h)
      (fun _ h _ => hopening h) hopening (fun _ h _ => hclosing h)

/-- Characters that are written to mean themselves are read so. -/
theorem marks_flatMap_escapeChar (start : Nat) (text rest : List Char) :
    marks start (text.flatMap escapeChar ++ rest) =
      text.map Mark.char ++ marks (start + Text.byteLength (text.flatMap escapeChar)) rest := by
  induction text generalizing start with
  | nil => rfl
  | cons c text ih =>
    rw [List.flatMap_cons, List.append_assoc, marks_escapeChar, ih, Text.byteLength_append,
      Nat.add_assoc]
    rfl

/-- Characters in front of tokens that do not start with a literal are a literal. -/
theorem foldr_cons_literal {text : List Char} (hne : text ≠ []) {tokens : List Token}
    (h : ∀ next ∈ tokens.head?, next.isLiteral = false) :
    (text.map Mark.char).foldr Token.cons tokens = .literal text :: tokens := by
  have hopen : ∀ text rest, tokens = .literal text :: rest → False := by
    rintro text rest rfl
    cases h (.literal text) rfl
  induction text with
  | nil => exact absurd rfl hne
  | cons c text ih =>
    rw [List.map_cons, List.foldr_cons]
    cases text with
    | nil => exact Token.cons.eq_2 tokens c hopen
    | cons d text => rw [ih (List.cons_ne_nil d text), Token.cons]

theorem isLiteral_head?_located {ts : List Token}
    (h : ∀ next ∈ ts.head?, next.isLiteral = false) (start : Nat) :
    ∀ next ∈ (located start ts).head?, next.isLiteral = false := by
  cases ts with
  | nil => exact fun next hnext => by cases hnext
  | cons token ts =>
    have htoken := h token rfl
    rintro next hnext
    obtain rfl := Option.some.inj hnext
    cases token with
    | literal text => cases htoken
    | placeholder start' name => rfl

/-- Tokens in normal form are read back from the pattern that they are written as. -/
theorem foldr_cons_marks_render {ts : List Token} (h : IsNormal ts) (start : Nat) :
    (marks start (render ts)).foldr Token.cons [] = located start ts := by
  induction ts generalizing start with
  | nil =>
    rw [render, List.flatMap_nil, marks]
    rfl
  | cons token ts ih =>
    obtain ⟨hliteral, hname, hts⟩ := isNormal_cons_iff.1 h
    have hrest := ih hts (start + Text.byteLength token.written)
    have hrender : render (token :: ts) = token.written ++ render ts := rfl
    rw [hrender, located]
    cases token with
    | literal text =>
      obtain ⟨hne, hhead⟩ := hliteral text rfl
      rw [Token.written] at hrest ⊢
      rw [marks_flatMap_escapeChar, List.foldr_append, hrest]
      exact foldr_cons_literal hne (isLiteral_head?_located hhead _)
    | placeholder start' name =>
      have hbraced := hname start' name rfl
      rw [Token.written, byteLength_braced hbraced] at hrest
      rw [Token.written, marks_braced hbraced, List.foldr_cons, Nat.add_assoc, hrest,
        byteLength_braced hbraced]
      rfl

/-- The tokens of a pattern are in normal form, and each placeholder starts, behind those before it,
    where the pattern has its name in braces. Tokens in normal form that are written as a pattern
    are the tokens of this pattern, and each starts where it is written. -/
theorem tokens_render :
    (∀ pattern : String, IsNormal (tokens pattern) ∧
      ((tokens pattern).filterMap Token.place?).Pairwise (fun place next => place.1 < next.1) ∧
      ∀ start name, .placeholder start name ∈ tokens pattern →
        HasBraced pattern.toList start name) ∧
      ∀ ts, IsNormal ts → tokens (.ofList (render ts)) = located 0 ts := by
  refine ⟨fun pattern => ⟨isNormal_tokens pattern, ?_, fun start name hmem => ?_⟩, fun ts h => ?_⟩
  · rw [tokens, filterMap_place?_foldr]
    exact pairwise_place_marks 0 pattern.toList
  · obtain ⟨n, rfl, hbraced⟩ := hasBraced_of_mem_marks (mem_foldr_cons_iff.1 hmem)
    rwa [Nat.zero_add]
  · rw [tokens, String.toList_ofList]
    exact foldr_cons_marks_render h 0

end Gherkin.Expression
