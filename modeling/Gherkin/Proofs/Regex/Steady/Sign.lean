/-
  Gherkin.Proofs.Regex.Steady.Sign

  Signs are read by the flags alone, and what a sign does to the state of the
  reader is told apart from how it is read. Every sign is read steadily, but for
  a boundary that a brace follows which leads to nothing.
-/
import Gherkin.Regex.Syntax
import Gherkin.Proofs.Regex.Steady.Bracket

namespace Gherkin.Regex

variable {flags : Flags}

/-! ## Signs -/

/-- What a sign says. -/
inductive Sign where
  | openCapture (name : Option String)
  | openPlain (flags : Flags)
  | setFlags (flags : Flags)
  | close
  | alternate
  /-- One character of a class that is nested to some depth. -/
  | one (s : CharClass) (depth : Nat)
  | look (l : Look)
  | repeated (least : Nat) (most : Option Nat) (greedy : Bool)

/-- What a sign does to the state; it may not open a group by a name that has been used, close one
    that is not open, or repeat what is not there. -/
def Sign.effect? : Sign → State → Option State
  | openCapture name, state =>
    if name.any state.names.contains then none else some (state.openCapture name)
  | openPlain flags, state => some (state.openPlain flags)
  | setFlags flags, state => some (state.setFlags flags)
  | close, state => state.closeGroup?
  | alternate, state => some state.alternate
  | one s depth, state => some (state.push (ofClass s) depth)
  | look l, state => some (state.push (.look l))
  | repeated least most greedy, state => state.repeatLast? (times least most greedy)

/-! ## Reading signs -/

/-- A group by its name. -/
def nameSign? (s : List Char) : Option (Sign × List Char) :=
  (readName? s).map fun p => (.openCapture (some p.1), p.2)

/-- What ends a change of flags: the sign of a group, or of none. -/
def flagEnd? (flags : Flags) (letters : List Char) : List Char → Option (Sign × List Char)
  | ':' :: rest => some (.openPlain (flags.change letters), rest)
  | ')' :: rest => if letters.isEmpty then none else some (.setFlags (flags.change letters), rest)
  | _ => none

/-- A change of flags. -/
def flagSign? (flags : Flags) (s : List Char) : Option (Sign × List Char) :=
  let found := s.span fun c => c ≠ ':' && c ≠ ')'
  if Flags.isFlagText found.1 then flagEnd? flags found.1 found.2 else none

/-- What follows a parenthesis and a question mark. -/
def questionSign? (flags : Flags) : List Char → Option (Sign × List Char)
  | '=' :: _ => none
  | '!' :: _ => none
  | '<' :: '=' :: _ => none
  | '<' :: '!' :: _ => none
  | 'P' :: '<' :: s => nameSign? s
  | '<' :: s => nameSign? s
  | s => flagSign? flags s

/-- What follows a parenthesis. -/
def groupSign? (flags : Flags) : List Char → Option (Sign × List Char)
  | '?' :: s => questionSign? flags s
  | s => some (.openCapture none, s)

/-- A repetition with its sign of greed, if there is one. -/
def repeatSign (flags : Flags) (least : Nat) (most : Option Nat) (s : List Char) :
    Sign × List Char :=
  (.repeated least most (readGreed flags s).1, (readGreed flags s).2)

/-- One character of a set. -/
def setSign (flags : Flags) (s : Text.Ranges) (depth : Nat := 0) : Sign :=
  .one { ranges := s, everyScript := flags.everyScript } depth

/-- What an escape says. -/
def escapedSign (flags : Flags) : Escaped → Sign
  | .char c => setSign flags (flags.fold (CharClass.point c))
  | .set s => setSign flags s
  | .look l => .look l

/-- One sign and what belongs to it; a class is read with `fuel`. -/
def readSign? (fuel : Nat) (flags : Flags) : List Char → Option (Sign × List Char)
  | [] => none
  | '(' :: s => groupSign? flags (flags.skip s)
  | ')' :: s => some (.close, s)
  | '|' :: s => some (.alternate, s)
  | '[' :: s =>
    (readClass? flags fuel s).map fun p => (setSign flags p.1.set p.1.depth, p.2)
  | '?' :: s => some (repeatSign flags 0 (some 1) s)
  | '*' :: s => some (repeatSign flags 0 none s)
  | '+' :: s => some (repeatSign flags 1 none s)
  | '\x7b' :: s =>
    (readCounts? flags s).map fun p => repeatSign flags p.1.1 p.1.2 (flags.skip p.2)
  | '\\' :: s => (readEscape? flags s).map fun p => (escapedSign flags p.1, p.2)
  | '.' :: s => if flags.everyScript then some (setSign flags (dot flags), s) else none
  | '^' :: s => some (.look (startLook flags), s)
  | '$' :: s => some (.look (endLook flags), s)
  | c :: s => some (setSign flags (flags.fold (CharClass.point c)), s)

/-- A sign that is read, done to a state. -/
def signResult (state : State) (read : Option (Sign × List Char)) : Option (State × List Char) :=
  read.bind fun p => (p.1.effect? state).map fun state => (state, p.2)

theorem openNamed?_eq (state : State) (s : List Char) :
    openNamed? state s = signResult state (nameSign? s) := by
  unfold openNamed? nameSign?
  cases readName? s with
  | none => rfl
  | some p =>
    simp only [signResult, Option.map_some, Option.bind_some, Sign.effect?, Option.any_some,
      Option.bind_eq_bind]
    split <;> rfl

theorem readFlags?_eq (state : State) (s : List Char) :
    readFlags? state s = signResult state (flagSign? state.flags s) := by
  unfold readFlags? flagSign?
  generalize (s.span fun c => c ≠ ':' && c ≠ ')') = found
  obtain ⟨letters, rest⟩ := found
  dsimp only
  split
  · fun_cases flagEnd? state.flags letters rest with
    | case1 rest => rfl
    | case2 rest hempty => simp [hempty, signResult]
    | case3 rest hempty => simp [hempty, signResult, Sign.effect?]
    | case4 rest hcolon hparen =>
      split
      next => exact (hcolon _ rfl).elim
      next => exact (hparen _ rfl).elim
      · rfl
  · rfl

theorem readGroup?_eq (state : State) (s : List Char) :
    readGroup? state s = signResult state (groupSign? state.flags (state.flags.skip s)) := by
  unfold readGroup?
  generalize state.flags.skip s = t
  split
  · rfl
  · rfl
  · rfl
  · rfl
  · exact openNamed?_eq state _
  next s _ _ =>
    rw [groupSign?, questionSign?.eq_6 _ _ (by assumption) (by assumption)]
    exact openNamed?_eq state s
  next s _ _ _ _ _ _ =>
    rw [groupSign?, questionSign?, readFlags?_eq]
    all_goals assumption
  next hquestion =>
    rw [groupSign?]
    · rfl
    · exact fun s hs => hquestion s hs

theorem readRepeat?_eq (state : State) (least : Nat) (most : Option Nat) (s : List Char) :
    readRepeat? state least most s =
      signResult state (some (repeatSign state.flags least most s)) := rfl

theorem readCounted?_eq (state : State) (s : List Char) :
    readCounted? state s = signResult state ((readCounts? state.flags s).map fun p =>
      repeatSign state.flags p.1.1 p.1.2 (state.flags.skip p.2)) := by
  unfold readCounted?
  cases readCounts? state.flags s <;> rfl

theorem pushEscaped_eq (state : State) (e : Escaped) :
    (escapedSign state.flags e).effect? state = some (pushEscaped state e) := by
  cases e <;> rfl

/-- A sign is read by the flags, and then done to the state. -/
theorem sign?_eq (fuel : Nat) (state : State) (s : List Char) :
    sign? fuel state s = signResult state (readSign? fuel state.flags s) := by
  fun_cases sign? fuel state s with
  | case1 => rfl
  | case2 s => exact readGroup?_eq state s
  | case3 s => rfl
  | case4 s => rfl
  | case5 s =>
    rw [readSign?]
    cases readClass? state.flags fuel s <;> rfl
  | case6 s => exact readRepeat?_eq state 0 (some 1) s
  | case7 s => exact readRepeat?_eq state 0 none s
  | case8 s => exact readRepeat?_eq state 1 none s
  | case9 s => exact readCounted?_eq state s
  | case10 s =>
    rw [readSign?]
    cases readEscape? state.flags s with
    | none => rfl
    | some p => simp [signResult, pushEscaped_eq]
  | case11 s =>
    rw [readSign?, pushDot?]
    split <;> rfl
  | case12 s => rfl
  | case13 s => rfl
  | case14 c s =>
    rw [readSign?]
    · rfl
    all_goals assumption

/-! ## Groups -/

theorem firm_nameSign? : Firm nameSign? := by
  have hname : Firm readName? := by
    intro u name rest h v
    unfold readName? at h ⊢
    -- a name that is read has its end in the text
    have hne : (u.span (· ≠ '>')).2 ≠ [] := by
      intro hnil
      generalize u.span (· ≠ '>') = found at h hnil
      obtain ⟨letters, s⟩ := found
      obtain rfl : s = [] := hnil
      cases letters <;> cases h
    rw [listSpan_append_of_ne_nil hne]
    generalize u.span (· ≠ '>') = found at h hne
    obtain ⟨letters, s⟩ := found
    obtain ⟨d, s, rfl⟩ := List.exists_cons_of_ne_nil hne
    cases letters with
    | nil => cases h
    | cons c letters =>
      simp only [List.cons_append] at h ⊢
      split at h
      next hok =>
        obtain ⟨rfl, rfl⟩ := Prod.mk.inj (Option.some.inj h)
        rw [if_pos hok]
      · cases h
  intro u sign rest h v
  obtain ⟨p, hp, heq⟩ := Option.map_eq_some_iff.1 h
  obtain ⟨rfl, rfl⟩ := Prod.mk.inj heq
  exact Option.map_eq_some_iff.2 ⟨_, hname u p.1 p.2 hp v, rfl⟩

theorem firm_flagEnd? (letters : List Char) : Firm (flagEnd? flags letters) := by
  intro u sign rest h v
  fun_cases flagEnd? flags letters u with
  | case1 s =>
    obtain ⟨rfl, rfl⟩ := Prod.mk.inj (Option.some.inj h)
    rfl
  | case2 s hempty => simp [flagEnd?, hempty] at h
  | case3 s hempty =>
    rw [flagEnd?, if_neg hempty] at h
    obtain ⟨rfl, rfl⟩ := Prod.mk.inj (Option.some.inj h)
    rw [List.cons_append, flagEnd?, if_neg hempty]
  | case4 s hcolon hparen =>
    rw [flagEnd?] at h
    · cases h
    all_goals assumption

theorem firm_flagSign? : Firm (flagSign? flags) := by
  intro u sign rest h v
  unfold flagSign? at h ⊢
  dsimp only at h ⊢
  split at h
  next hletters =>
    have hne : (u.span fun c => c ≠ ':' && c ≠ ')').2 ≠ [] := by
      intro hnil
      rw [hnil] at h
      cases h
    rw [listSpan_append_of_ne_nil hne, if_pos hletters]
    exact firm_flagEnd? _ _ sign rest h v
  · cases h

theorem firm_questionSign? : Firm (questionSign? flags) := by
  intro u sign rest h v
  fun_cases questionSign? flags u
  case case5 s => exact firm_nameSign? s sign rest h v
  case case6 s hequals hnot =>
    rw [questionSign?.eq_6 _ _ hequals hnot] at h
    rw [List.cons_append, questionSign?.eq_6 _ _ (append_paren_ne_cons (by decide) hequals v)
      (append_paren_ne_cons (by decide) hnot v)]
    exact firm_nameSign? s sign rest h v
  case case7 hequals hnot hlessEquals hlessNot hname hless =>
    rw [questionSign?.eq_7 _ _ hequals hnot hlessEquals hlessNot hname hless] at h
    rw [questionSign?.eq_7 _ _ (append_paren_ne_cons (by decide) hequals v)
      (append_paren_ne_cons (by decide) hnot v)
      (append_paren_ne_cons_cons (by decide) (by decide) hlessEquals v)
      (append_paren_ne_cons_cons (by decide) (by decide) hlessNot v)
      (append_paren_ne_cons_cons (by decide) (by decide) hname v)
      (append_paren_ne_cons (by decide) hless v)]
    exact firm_flagSign? u sign rest h v
  all_goals cases h

theorem firm_groupSign? : Firm (groupSign? flags) := by
  intro u sign rest h v
  fun_cases groupSign? flags u
  case case1 s => exact firm_questionSign? s sign rest h v
  case case2 hquestion =>
    rw [groupSign?.eq_2 _ _ hquestion] at h
    obtain ⟨rfl, rfl⟩ := Prod.mk.inj (Option.some.inj h)
    exact groupSign?.eq_2 _ _ (append_paren_ne_cons (by decide) hquestion v)

/-! ## Repetitions -/

theorem readGreed_append_paren (s v : List Char) :
    readGreed flags (s ++ ')' :: v) =
      ((readGreed flags s).1, (readGreed flags s).2 ++ ')' :: v) := by
  fun_cases readGreed flags s
  case case1 s => rfl
  case case2 hquestion => exact readGreed.eq_2 _ _ (append_paren_ne_cons (by decide) hquestion v)

theorem readCount?_append {u rest : List Char} {n : Nat} (h : readCount? flags u = some (n, rest))
    (hne : rest ≠ []) (w : List Char) : readCount? flags (u ++ w) = some (n, rest ++ w) := by
  unfold readCount? at h ⊢
  dsimp only at h ⊢
  split at h
  · cases h
  next hok =>
    obtain ⟨rfl, rfl⟩ := Prod.mk.inj (Option.some.inj h)
    have hafter : Text.dropBlanks (flags.span Char.isDigit (Text.dropBlanks u)).2 ≠ [] := by
      intro hnil
      rw [hnil, skip_nil] at hne
      exact hne rfl
    have hspan : (flags.span Char.isDigit (Text.dropBlanks u)).2 ≠ [] := by
      intro hnil
      rw [hnil] at hafter
      exact hafter rfl
    have hbefore : Text.dropBlanks u ≠ [] := by
      intro hnil
      rw [hnil, span_nil] at hspan
      exact hspan rfl
    rw [dropBlanks_append hbefore, span_append_of_ne_nil hspan, if_neg hok,
      dropBlanks_append hafter, skip_append_of_ne_nil hne]

theorem readCount?_nil : readCount? flags [] = none := by
  simp [readCount?]

/-- The brace that closes the counts, after the greatest. -/
def closedCounts? (least most : Nat) : List Char → Option ((Nat × Option Nat) × List Char)
  | '\x7d' :: rest => if least ≤ most then some ((least, some most), rest) else none
  | _ => none

/-- What may follow the least count and a comma. -/
def mostCount? (flags : Flags) (least : Nat) :
    List Char → Option ((Nat × Option Nat) × List Char)
  | '\x7d' :: rest => some ((least, none), rest)
  | s => (readCount? flags s).bind fun p => closedCounts? least p.1 p.2

/-- What may follow the least count. -/
def leastCount? (flags : Flags) (least : Nat) :
    List Char → Option ((Nat × Option Nat) × List Char)
  | '\x7d' :: rest => some ((least, some least), rest)
  | ',' :: s => mostCount? flags least (flags.skip s)
  | _ => none

theorem readCounts?_eq (s : List Char) :
    readCounts? flags s =
      (readCount? flags (flags.skip s)).bind fun p => leastCount? flags p.1 p.2 := by
  unfold readCounts?
  cases readCount? flags (flags.skip s) with
  | none => rfl
  | some p =>
    obtain ⟨least, t⟩ := p
    simp only [Option.bind_eq_bind, Option.bind_some]
    split
    · rfl
    next s =>
      change _ = mostCount? flags least (flags.skip s)
      generalize flags.skip s = t
      split
      · rfl
      next hopen =>
        exact (mostCount?.eq_2 _ _ _ hopen).symm
    next hbrace hcomma => exact (leastCount?.eq_3 _ _ _ hbrace hcomma).symm

theorem firm_closedCounts? (least most : Nat) : Firm (closedCounts? least most) := by
  intro u p rest h v
  fun_cases closedCounts? least most u
  case case1 s hle =>
    rw [closedCounts?, if_pos hle] at h
    obtain ⟨rfl, rfl⟩ := Prod.mk.inj (Option.some.inj h)
    rw [List.cons_append, closedCounts?, if_pos hle]
  case case2 s hle =>
    rw [closedCounts?, if_neg hle] at h
    cases h
  case case3 hopen =>
    rw [closedCounts?.eq_2 _ _ _ hopen] at h
    cases h

theorem firm_mostCount? (least : Nat) : Firm (mostCount? flags least) := by
  intro u p rest h v
  fun_cases mostCount? flags least u
  case case1 s =>
    obtain ⟨rfl, rfl⟩ := Prod.mk.inj (Option.some.inj h)
    rfl
  case case2 hopen =>
    rw [mostCount?.eq_2 _ _ _ hopen] at h
    rw [mostCount?.eq_2 _ _ _ (append_paren_ne_cons (by decide) hopen v)]
    obtain ⟨⟨most, s⟩, hmost, h⟩ := Option.bind_eq_some_iff.1 h
    have hs : s ≠ [] := by
      rintro rfl
      cases h
    rw [readCount?_append hmost hs]
    exact firm_closedCounts? least most s p rest h v

theorem firm_leastCount? (least : Nat) : Firm (leastCount? flags least) := by
  intro u p rest h v
  fun_cases leastCount? flags least u
  case case1 s =>
    obtain ⟨rfl, rfl⟩ := Prod.mk.inj (Option.some.inj h)
    rfl
  case case2 s =>
    rw [leastCount?] at h
    have hskip : flags.skip s ≠ [] := by
      intro hnil
      rw [hnil, mostCount?.eq_2 _ _ _ (by simp), readCount?_nil] at h
      cases h
    rw [List.cons_append, leastCount?, skip_append_of_ne_nil hskip]
    exact firm_mostCount? least _ p rest h v
  case case3 hbrace hcomma =>
    rw [leastCount?.eq_3 _ _ _ hbrace hcomma] at h
    cases h

theorem firm_readCounts? : Firm (readCounts? flags) := by
  intro u p rest h v
  rw [readCounts?_eq] at h ⊢
  obtain ⟨⟨least, s⟩, hleast, h⟩ := Option.bind_eq_some_iff.1 h
  have hskip : flags.skip u ≠ [] := by
    intro hnil
    rw [hnil, readCount?_nil] at hleast
    cases hleast
  have hs : s ≠ [] := by
    rintro rfl
    cases h
  rw [skip_append_of_ne_nil hskip, readCount?_append hleast hs]
  exact firm_leastCount? least s p rest h v

/-! ## All signs -/

theorem steady_repeatSign (least : Nat) (most : Option Nat) :
    Steady fun s => some (repeatSign flags least most s) := by
  rintro u sign rest h
  obtain ⟨rfl, rfl⟩ := Prod.mk.inj (Option.some.inj h)
  refine .inl fun v => ?_
  simp only [repeatSign, readGreed_append_paren]

/-- A sign other than an escape. -/
theorem steady_readSign?_cons {fuel : Nat} {c : Char} (hc : c ≠ '\\') :
    Steady fun s => readSign? fuel flags (c :: s) := by
  -- all signs but one begin with a character of their own; what is none of these stands for itself
  by_cases hgroup : c = '('
  · subst hgroup
    refine firm_groupSign?.steady.skip fun sign rest h => ?_
    obtain ⟨rfl, rfl⟩ := Prod.mk.inj (Option.some.inj h)
    rfl
  by_cases hclose : c = ')'
  · subst hclose
    exact (firm_pure Sign.close).steady
  by_cases hbar : c = '|'
  · subst hbar
    exact (firm_pure Sign.alternate).steady
  by_cases hclass : c = '['
  · subst hclass
    exact (firm_readClass? fuel).steady.map fun found => setSign flags found.set found.depth
  by_cases hquestion : c = '?'
  · subst hquestion
    exact steady_repeatSign 0 (some 1)
  by_cases hstar : c = '*'
  · subst hstar
    exact steady_repeatSign 0 none
  by_cases hplus : c = '+'
  · subst hplus
    exact steady_repeatSign 1 none
  by_cases hbrace : c = '\x7b'
  · subst hbrace
    -- the counts in the braces are followed by what follows every repetition
    have hsign : Steady fun s => (readCounts? flags s).bind fun p =>
        some (repeatSign flags p.1.1 p.1.2 (flags.skip p.2)) := by
      have hnil {least : Nat} {most : Option Nat} {sign : Sign} {rest : List Char}
          (h : some (repeatSign flags least most []) = some (sign, rest)) : rest = [] :=
        (Prod.mk.inj (Option.some.inj h)).2.symm
      refine firm_readCounts?.steady.bind
        (Q := fun counts s => some (repeatSign flags counts.1 counts.2 (flags.skip s))) ?_ ?_
      · exact fun counts => (steady_repeatSign counts.1 counts.2).skip fun _ _ h => hnil h
      · intro counts sign rest h
        rw [skip_nil] at h
        exact hnil h
    simpa only [readSign?, Option.map_eq_bind, Function.comp_def] using hsign
  by_cases hdot : c = '.'
  · subst hdot
    simp only [readSign?]
    split
    · exact (firm_pure _).steady
    · exact fun u sign rest h => by cases h
  by_cases hcaret : c = '^'
  · subst hcaret
    exact (firm_pure (Sign.look (startLook flags))).steady
  by_cases hdollar : c = '$'
  · subst hdollar
    exact (firm_pure (Sign.look (endLook flags))).steady
  · have hchar (s : List Char) := readSign?.eq_14 fuel flags c s hgroup hclose hbar hclass hquestion
      hstar hplus hbrace hc hdot hcaret hdollar
    simp only [hchar]
    exact (firm_pure _).steady

/-- A sign is read likewise, unless it is a boundary before a brace that leads to nothing. -/
theorem readSign?_steady {fuel : Nat} {u rest : List Char} {sign : Sign}
    (h : readSign? fuel flags u = some (sign, rest)) :
    ((∀ v, readSign? fuel flags (u ++ ')' :: v) = some (sign, rest ++ ')' :: v)) ∨
        rest = [] ∧ readSign? fuel flags (u ++ [')', '$']) = some (sign, [])) ∨
      (∃ l, sign = .look l) ∧ Stuck flags rest := by
  cases u with
  | nil => cases h
  | cons c s =>
    by_cases hc : c = '\\'
    · subst hc
      obtain ⟨⟨e, rest'⟩, he, heq⟩ := Option.map_eq_some_iff.1 h
      obtain ⟨rfl, rfl⟩ := Prod.mk.inj heq
      rcases readEscape?_steady he with (hall | ⟨hnil, hend⟩) | ⟨⟨l, rfl⟩, hstuck⟩
      · exact .inl (.inl fun v => Option.map_eq_some_iff.2 ⟨_, hall v, rfl⟩)
      · exact .inl (.inr ⟨hnil, Option.map_eq_some_iff.2 ⟨_, hend, rfl⟩⟩)
      · exact .inr ⟨⟨l, rfl⟩, hstuck⟩
    · exact .inl (steady_readSign?_cons hc s sign rest h)

/-- A brace that leads to nothing is no sign. -/
theorem readSign?_of_stuck {fuel : Nat} {t : List Char} (h : flags.skip t = []) :
    readSign? fuel flags ('\x7b' :: t) = none := by
  rw [readSign?, readCounts?_eq, h, readCount?_nil]
  rfl

/-- More steps do not change what is read. -/
theorem readSign?_mono {m n : Nat} (hle : m ≤ n) {s : List Char} {p : Sign × List Char}
    (h : readSign? m flags s = some p) : readSign? n flags s = some p := by
  by_cases hclass : ∃ t, s = '[' :: t
  · obtain ⟨t, rfl⟩ := hclass
    obtain ⟨found, hfound, rfl⟩ := Option.map_eq_some_iff.1 h
    exact Option.map_eq_some_iff.2 ⟨found, readClass?_mono hle hfound, rfl⟩
  · have hsame : readSign? n flags s = readSign? m flags s := by
      fun_cases readSign? m flags s
      case case5 t => exact absurd ⟨t, rfl⟩ hclass
      case case11 t hevery => exact if_pos hevery
      case case12 t hevery => exact if_neg hevery
      case case15 => rw [readSign?] <;> assumption
      all_goals rfl
    rw [hsame, h]

theorem readSign?_det {m n : Nat} {s : List Char} {p q : Sign × List Char}
    (h : readSign? m flags s = some p) (h' : readSign? n flags s = some q) : q = p := by
  have hboth := readSign?_mono (Nat.le_max_left m n) h
  exact Option.some.inj ((readSign?_mono (Nat.le_max_right m n) h').symm.trans hboth)

end Gherkin.Regex
