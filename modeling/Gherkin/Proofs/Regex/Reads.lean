/-
  Gherkin.Proofs.Regex.Reads

  Reading a text inside another. A text that can be read alone is read inside a
  group of another text to the same expression, with its groups counted from
  those before it: the flags of the group are those of a fresh start, signs are
  read steadily, and what a sign does does not depend on the groups around. It is
  not so for a text that ends in a comment; the comment then takes in the
  parenthesis that closes the group.
-/
import Gherkin.Proofs.Regex.Within

namespace Gherkin.Regex

/-! ## The reader -/

/-- The state at the end of a text, where no group may be open. -/
def lastState? : Nat → State → List Char → Option State
  | 0, _, _ => none
  | fuel + 1, state, s =>
    match state.flags.skip s with
    | [] => if state.outer.isEmpty then some state else none
    | rest =>
      match sign? fuel state rest with
      | none => none
      | some (state, rest) => lastState? fuel state rest

/-- What is read is the content at the end. -/
theorem readFrom?_eq (n : Nat) (state : State) (s : List Char) :
    readFrom? n state s = (lastState? n state s).map (·.content.whole) := by
  induction n generalizing state s with
  | zero => rfl
  | succ n ih =>
    rw [readFrom?, lastState?]
    cases state.flags.skip s with
    | nil =>
      dsimp only
      split <;> rfl
    | cons c t =>
      dsimp only
      cases sign? n state (c :: t) with
      | none => rfl
      | some p => exact ih p.1 p.2

/-- The reader is at the end, where no group is open, or reads a sign and goes on. -/
theorem lastState?_cases {n : Nat} {state last : State} {s : List Char}
    (h : lastState? n state s = some last) :
    ∃ m, n = m + 1 ∧ ((state.flags.skip s = [] ∧ state.outer = [] ∧ state = last) ∨
      ∃ sign rest next, readSign? m state.flags (state.flags.skip s) = some (sign, rest) ∧
        sign.effect? state = some next ∧ lastState? m next rest = some last) := by
  cases n with
  | zero => cases h
  | succ m =>
    refine ⟨m, rfl, ?_⟩
    cases hskip : state.flags.skip s with
    | nil =>
      rw [lastState?, hskip] at h
      dsimp only at h
      split at h
      next hempty => exact .inl ⟨rfl, List.isEmpty_iff.1 hempty, Option.some.inj h⟩
      · cases h
    | cons c t =>
      rw [lastState?, hskip] at h
      dsimp only at h
      rw [sign?_eq] at h
      cases hsign : readSign? m state.flags (c :: t) with
      | none => rw [hsign] at h; cases h
      | some p =>
        cases happly : p.1.effect? state with
        | none => simp [hsign, signResult, happly] at h
        | some next =>
          refine .inr ⟨p.1, p.2, next, rfl, happly, ?_⟩
          simpa [hsign, signResult, happly] using h

/-- The end of a text. -/
theorem lastState?_done {state : State} {s : List Char} (hskip : state.flags.skip s = [])
    (houter : state.outer = []) (n : Nat) : lastState? (n + 1) state s = some state := by
  rw [lastState?, hskip, houter]
  rfl

/-- A sign in front of a text. -/
theorem lastState?_sign {n : Nat} {state next : State} {s rest : List Char} {sign : Sign}
    (hsign : readSign? n state.flags (state.flags.skip s) = some (sign, rest))
    (happly : sign.effect? state = some next) :
    lastState? (n + 1) state s = lastState? n next rest := by
  cases hskip : state.flags.skip s with
  | nil =>
    rw [hskip] at hsign
    cases hsign
  | cons c t =>
    rw [hskip] at hsign
    rw [lastState?, hskip]
    dsimp only
    rw [sign?_eq, hsign, signResult, Option.bind_some, happly]
    rfl

/-- More steps do not change what is read. -/
theorem lastState?_mono {m n : Nat} (hle : m ≤ n) {state last : State} {s : List Char}
    (h : lastState? m state s = some last) : lastState? n state s = some last := by
  induction m generalizing n state s with
  | zero => cases h
  | succ m ih =>
    obtain ⟨n, rfl⟩ := Nat.exists_eq_add_of_le' hle
    obtain ⟨_, hm, hcases⟩ := lastState?_cases h
    obtain rfl := Nat.succ.inj hm
    rcases hcases with ⟨hskip, houter, rfl⟩ | ⟨sign, rest, next, hsign, happly, hrest⟩
    · exact lastState?_done hskip houter (n + m)
    · rw [← Nat.add_assoc, lastState?_sign (readSign?_mono (Nat.le_add_left m n) hsign) happly]
      exact ih (Nat.le_add_left m n) hrest

theorem lastState?_leads {n : Nat} {state last : State} {s : List Char}
    (h : lastState? n state s = some last) : state.Leads last ∧ last.outer = [] := by
  induction n generalizing state s with
  | zero => cases h
  | succ n ih =>
    obtain ⟨m, hm, hcases⟩ := lastState?_cases h
    obtain rfl := Nat.succ.inj hm
    rcases hcases with ⟨-, houter, rfl⟩ | ⟨sign, rest, next, -, happly, hrest⟩
    · exact ⟨.refl, houter⟩
    · exact ⟨.head ⟨sign, happly⟩ (ih hrest).1, (ih hrest).2⟩

/-- Whether the reader comes from a state over a text to a state at the end. -/
def Reads (state : State) (s : List Char) (last : State) : Prop :=
  ∃ n, lastState? n state s = some last

theorem Reads.cases {state last : State} {s : List Char} (h : Reads state s last) :
    (state.flags.skip s = [] ∧ state.outer = [] ∧ state = last) ∨
      ∃ m sign rest next, readSign? m state.flags (state.flags.skip s) = some (sign, rest) ∧
        sign.effect? state = some next ∧ Reads next rest last := by
  obtain ⟨n, hn⟩ := h
  obtain ⟨m, -, hend | ⟨sign, rest, next, hsign, happly, hrest⟩⟩ := lastState?_cases hn
  · exact .inl hend
  · exact .inr ⟨m, sign, rest, next, hsign, happly, m, hrest⟩

/-- The reader does the sign that stands first and goes on. -/
theorem Reads.sign {state last : State} {s rest : List Char} (h : Reads state s last) {m : Nat}
    (sign : Sign) (hsign : readSign? m state.flags (state.flags.skip s) = some (sign, rest)) :
    ∃ next, sign.effect? state = some next ∧ Reads next rest last := by
  rcases h.cases with ⟨hnil, -⟩ | ⟨n, sign', rest', next, hsign', happly, hreads⟩
  · rw [hnil] at hsign
    cases hsign
  · obtain ⟨rfl, rfl⟩ := Prod.mk.inj (readSign?_det hsign hsign')
    exact ⟨next, happly, hreads⟩

theorem lastState?_congr_skip {state : State} {s t : List Char}
    (hskip : state.flags.skip s = state.flags.skip t) (n : Nat) :
    lastState? n state s = lastState? n state t := by
  cases n with
  | zero => rfl
  | succ n => rw [lastState?, lastState?, hskip]

/-! ## A text inside groups -/

/-- Whether a text is read from a state to another in at most `n` signs, and just so if a
    parenthesis follows it. -/
inductive ReadAlike : Nat → State → List Char → State → Prop
  | done {n : Nat} {state : State} {u : List Char}
      (hskip : ∀ v, state.flags.skip (u ++ ')' :: v) = ')' :: v) : ReadAlike n state u state
  | sign {n : Nat} {state next last : State} {u rest : List Char} {sign : Sign}
      (hsign : ∀ v, readSign? n state.flags (state.flags.skip (u ++ ')' :: v)) =
        some (sign, rest ++ ')' :: v))
      (happly : sign.effect? state = some next) (hrest : ReadAlike n next rest last) :
      ReadAlike (n + 1) state u last

/-- Inside other groups a text takes in the parenthesis after it, and the group is not closed. -/
def NotClosed (inner : State) (u : List Char) : Prop :=
  ∀ (base last : State), base.outer ≠ [] →
    ¬ Reads (base.within inner) (u ++ [')', '$']) last

/-- A text that can be read by itself is read just so before a parenthesis, if it does not take it
    in. -/
theorem readAlike_or_notClosed {n : Nat} {inner final : State} {u : List Char}
    (h : lastState? n inner u = some final) : ReadAlike n inner u final ∨ NotClosed inner u := by
  have hclosed {base state : State} (hbase : base.outer ≠ []) : (base.within state).outer ≠ [] :=
    List.append_ne_nil_of_right_ne_nil _ hbase
  induction n generalizing inner u with
  | zero => cases h
  | succ n ih =>
    obtain ⟨m, hm, hcases⟩ := lastState?_cases h
    obtain rfl := Nat.succ.inj hm
    rcases hcases with ⟨hskip, houter, rfl⟩ | ⟨sign, rest, next, hsign, happly, hrest⟩
    · rcases @skip_append_paren inner.flags u with hall | ⟨-, hend⟩
      · refine .inl (.done fun v => ?_)
        rw [hall v, hskip, List.nil_append]
      · refine .inr fun base last hbase hreads => ?_
        rcases hreads.cases with ⟨-, hnil, -⟩ | ⟨m, sign, rest, next, hsign, -⟩
        · exact hclosed hbase hnil
        · rw [State.flags_within, hend] at hsign
          cases hsign
    · have hne : inner.flags.skip u ≠ [] := by
        intro hnil
        rw [hnil] at hsign
        cases hsign
      -- a sign that is read likewise is done likewise
      have hnext {base last : State} {w rest' : List Char}
          (hread : readSign? n inner.flags (inner.flags.skip u ++ w) = some (sign, rest'))
          (hreads : Reads (base.within inner) (u ++ w) last) :
          Reads (base.within next) rest' last := by
        rw [← skip_append_of_ne_nil hne w] at hread
        obtain ⟨state, happly', hreads'⟩ := hreads.sign sign hread
        rwa [sign.eq_within_of_effect? happly happly'] at hreads'
      rcases readSign?_steady hsign with (hall | ⟨rfl, hend⟩) | ⟨⟨l, rfl⟩, hstuck⟩
      · refine (ih hrest).imp (.sign (fun v => ?_) happly) fun hnot base last hbase hreads => ?_
        · rw [skip_append_of_ne_nil hne]
          exact hall v
        · exact hnot base last hbase (hnext (hall ['$']) hreads)
      · -- the rest is nothing, and a group is open
        refine .inr fun base last hbase hreads => ?_
        rcases (hnext hend hreads).cases with ⟨-, hnil, -⟩ | ⟨m, sign', rest', state, hsign', -⟩
        · exact hclosed hbase hnil
        · rw [skip_nil] at hsign'
          cases hsign'
      · -- the text cannot be read on, so it is not one that can be read
        exfalso
        obtain rfl := Option.some.inj happly
        obtain ⟨t, rfl, ht⟩ := hstuck
        have hskip := @skip_cons inner.flags '\x7b' (by decide) (by decide) t
        obtain ⟨m, -, ⟨hnil, -⟩ | ⟨sign', rest', state, hsign', -⟩⟩ := lastState?_cases hrest
        · cases hskip.symm.trans hnil
        · have hnone := @readSign?_of_stuck inner.flags m t ht
          rw [← hskip] at hnone
          cases hnone.symm.trans hsign'

namespace ReadAlike

variable {n : Nat} {inner final : State} {u : List Char}

theorem leads (h : ReadAlike n inner u final) : inner.Leads final := by
  induction h with
  | done => exact .refl
  | @sign n state next last u rest sign hsign happly hrest ih => exact .head ⟨sign, happly⟩ ih

/-- What is read inside other groups goes on, after such a text, with the parenthesis. -/
theorem reads (h : ReadAlike n inner u final) {base last : State} {v : List Char}
    (hreads : Reads (base.within inner) (u ++ ')' :: v) last) :
    (base.within inner).Leads (base.within final) ∧
      Reads (base.within final) (')' :: v) last := by
  induction h with
  | @done n state u hskip =>
    obtain ⟨k, hk⟩ := hreads
    refine ⟨.refl, k, ?_⟩
    rwa [lastState?_congr_skip (t := ')' :: v)] at hk
    rw [State.flags_within, hskip v, skip_paren]
  | @sign n state next last' u rest sign hsign happly hrest ih =>
    obtain ⟨state', happly', hreads'⟩ := hreads.sign sign (hsign v)
    obtain rfl := sign.eq_within_of_effect? happly happly'
    obtain ⟨hleads, hafter⟩ := ih hreads'
    exact ⟨.head ⟨sign, happly'⟩ hleads, hafter⟩

/-- Such a text can be read inside other groups, if its names are not used there. -/
theorem lastState?_within (h : ReadAlike n inner u final) {base last : State} {v : List Char}
    (hunused : ∀ name ∈ final.names, name ∉ base.names) {k : Nat}
    (hlast : lastState? k (base.within final) (')' :: v) = some last) :
    lastState? (n + k) (base.within inner) (u ++ ')' :: v) = some last := by
  induction h with
  | @done n state u hskip =>
    have hmore := lastState?_mono (Nat.le_add_left k n) hlast
    rwa [lastState?_congr_skip (t := ')' :: v)]
    rw [State.flags_within, hskip v, skip_paren]
  | @sign n state next final u rest sign hsign happly hrest ih =>
    have happly' : sign.effect? (base.within state) = some (base.within next) := by
      refine (sign.effect?_within happly).resolve_right ?_
      rintro ⟨-, name, hname, hused⟩
      exact hunused name (hrest.leads.names_subset hname) hused
    have hread : readSign? (n + k) (base.within state).flags
        ((base.within state).flags.skip (u ++ ')' :: v)) = some (sign, rest ++ ')' :: v) :=
      readSign?_mono (Nat.le_add_right n k) (hsign v)
    rw [Nat.add_right_comm, lastState?_sign hread happly']
    exact ih hunused hlast

end ReadAlike

end Gherkin.Regex
