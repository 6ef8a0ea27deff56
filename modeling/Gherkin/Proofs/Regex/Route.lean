/-
  Gherkin.Proofs.Regex.Route

  What a regular expression matches, told without the machine that matches. A
  route leads through a text from one place to another and leaves marks on its
  way; an expression allows a set of routes, by its structure and regardless of
  which of them a match prefers. Conditions on a place look at the whole text.
-/
import Gherkin.Regex.Match

namespace Gherkin.Regex

/-- The name of the group that a mark belongs to. -/
def Mark.group : Mark → String
  | opens name => name
  | closes name => name

/-! ## Routes -/

/-- A set of routes: from a place to a place, with the marks on the way, the first one first. -/
abbrev Route := Nat → Nat → Marks → Prop

namespace Route

/-- The routes that stay where they are. -/
def stay : Route := fun i j marks => j = i ∧ marks = []

/-- A route and then another. -/
def andThen (R S : Route) : Route := fun i j marks =>
  ∃ k first second, R i k first ∧ S k j second ∧ marks = first ++ second

/-- `n` routes one after the other. -/
def times (R : Route) : Nat → Route
  | 0 => stay
  | n + 1 => R.andThen (R.times n)

/-- The routes of one or of the other set. -/
def either (R S : Route) : Route := fun i j marks => R i j marks ∨ S i j marks

/-- Some number of routes one after the other. -/
def repeated (R : Route) (count : Nat → Prop) : Route := fun i j marks =>
  ∃ n, count n ∧ R.times n i j marks

variable {R S T : Route} {i j : Nat} {marks : Marks}

theorem stay_self : stay i i [] := ⟨rfl, rfl⟩

theorem andThen_intro {k : Nat} {first second : Marks} (hR : R i k first) (hS : S k j second) :
    R.andThen S i j (first ++ second) := ⟨k, first, second, hR, hS, rfl⟩

@[simp] theorem stay_andThen : stay.andThen R = R := by
  funext i j marks
  refine propext ⟨?_, fun h => ⟨i, [], marks, stay_self, h, rfl⟩⟩
  rintro ⟨k, first, second, ⟨rfl, rfl⟩, h, rfl⟩
  exact h

@[simp] theorem andThen_stay : R.andThen stay = R := by
  funext i j marks
  refine propext ⟨?_, fun h => ⟨j, marks, [], h, stay_self, (List.append_nil marks).symm⟩⟩
  rintro ⟨k, first, second, h, ⟨rfl, rfl⟩, rfl⟩
  rwa [List.append_nil]

theorem andThen_assoc : (R.andThen S).andThen T = R.andThen (S.andThen T) := by
  funext i j marks
  refine propext ⟨?_, ?_⟩
  · rintro ⟨l, -, last, ⟨k, first, second, hR, hS, rfl⟩, hT, rfl⟩
    rw [List.append_assoc]
    exact andThen_intro hR (andThen_intro hS hT)
  · rintro ⟨k, first, -, hR, ⟨l, second, last, hS, hT, rfl⟩, rfl⟩
    rw [← List.append_assoc]
    exact andThen_intro (andThen_intro hR hS) hT

theorem times_add (R : Route) (m n : Nat) : R.times (m + n) = (R.times m).andThen (R.times n) := by
  induction m with
  | zero => rw [Nat.zero_add, times, stay_andThen]
  | succ m ih => rw [Nat.succ_add, times, times, ih, andThen_assoc]

theorem repeated_congr {P Q : Nat → Prop} (h : ∀ n, P n ↔ Q n) : R.repeated P = R.repeated Q :=
  congrArg R.repeated (funext fun n => propext (h n))

theorem repeated_zero (R : Route) : R.repeated (· = 0) = stay := by
  funext i j marks
  refine propext ⟨?_, fun h => ⟨0, rfl, h⟩⟩
  rintro ⟨n, rfl, h⟩
  exact h

theorem times_andThen_repeated (R : Route) (m : Nat) (P : Nat → Prop) :
    (R.times m).andThen (R.repeated P) = R.repeated fun n => m ≤ n ∧ P (n - m) := by
  funext i j marks
  refine propext ⟨?_, ?_⟩
  · rintro ⟨k, first, second, hfirst, ⟨n, hn, hsecond⟩, rfl⟩
    refine ⟨m + n, ⟨Nat.le_add_right m n, by rwa [Nat.add_sub_cancel_left]⟩, ?_⟩
    rw [times_add]
    exact andThen_intro hfirst hsecond
  · rintro ⟨n, ⟨hle, hn⟩, h⟩
    obtain ⟨n, rfl⟩ := Nat.exists_eq_add_of_le hle
    rw [times_add] at h
    obtain ⟨k, first, second, hfirst, hsecond, rfl⟩ := h
    exact andThen_intro hfirst ⟨n, by rwa [Nat.add_sub_cancel_left] at hn, hsecond⟩

theorem andThen_repeated (R : Route) (P : Nat → Prop) :
    R.andThen (R.repeated P) = R.repeated fun n => 1 ≤ n ∧ P (n - 1) := by
  have h := times_andThen_repeated R 1 P
  rwa [times, times, andThen_stay] at h

theorem repeated_either_stay (R : Route) (P : Nat → Prop) :
    (R.repeated P).either stay = R.repeated fun n => n = 0 ∨ P n := by
  funext i j marks
  refine propext ⟨?_, ?_⟩
  · rintro (⟨n, hn, h⟩ | h)
    · exact ⟨n, .inr hn, h⟩
    · exact ⟨0, .inl rfl, h⟩
  · rintro ⟨n, rfl | hn, h⟩
    · exact .inr h
    · exact .inl ⟨n, hn, h⟩

end Route

/-! ## The routes of an expression -/

/-- Whether the characters stand in a text between two places. -/
def Spelled (text : Array Char) : List Char → Nat → Nat → Prop
  | [], i, j => j = i
  | c :: s, i, j => text[i]? = some c ∧ Spelled text s (i + 1) j

/-- The routes of an expression through a text. A repetition is made at least `least` times even if
    its upper bound is lower. -/
def Path (text : Array Char) : Regex → Route
  | empty => .stay
  | Regex.text s => fun i j marks => Spelled text s i j ∧ marks = []
  | one s => fun i j marks => (∃ c, text[i]? = some c ∧ s.contains c) ∧ j = i + 1 ∧ marks = []
  | look l => fun i j marks => holdsAt text i l = true ∧ j = i ∧ marks = []
  | group _ none r => Path text r
  | group _ (some name) r => fun i j marks =>
    ∃ inner, Path text r i j inner ∧ marks = (.opens name, i) :: (inner ++ [(.closes name, j)])
  | seq r₁ r₂ => (Path text r₁).andThen (Path text r₂)
  | alt r₁ r₂ => (Path text r₁).either (Path text r₂)
  | rep least most _ r =>
    (Path text r).repeated fun n => least ≤ n ∧ ∀ bound ∈ most, n ≤ max least bound

/-! ## Places -/

variable {text : Array Char} {i j : Nat} {marks : Marks}

theorem Spelled.place_eq {s : List Char} (h : Spelled text s i j) : j = i + s.length := by
  induction s generalizing i with
  | nil => exact h
  | cons c s ih =>
    rw [ih h.2, List.length_cons]
    omega

theorem Spelled.le {s : List Char} (h : Spelled text s i j) : i ≤ j :=
  h.place_eq ▸ Nat.le_add_right i s.length

theorem Spelled.le_size {s : List Char} (h : Spelled text s i j) (hi : i ≤ text.size) :
    j ≤ text.size := by
  induction s generalizing i with
  | nil => exact h ▸ hi
  | cons c s ih => exact ih h.2 (Array.getElem?_eq_some_iff.1 h.1).1

theorem path_char (c : Char) : Path text (.one (.char c)) = Path text (.text [c]) := by
  funext i j marks
  simp only [Path, Spelled, CharClass.contains_char, exists_eq_right, and_assoc]

theorem Spelled.append {s t : List Char} {k : Nat} (hs : Spelled text s i k)
    (ht : Spelled text t k j) : Spelled text (s ++ t) i j := by
  induction s generalizing i with
  | nil =>
    obtain rfl : k = i := hs
    exact ht
  | cons c s ih => exact ⟨hs.1, ih hs.2⟩

/-- What holds of the routes of a set and is kept when routes are joined holds of repetitions. -/
theorem Route.times_induct {R : Route} {P : Nat → Nat → Prop} (refl : ∀ i, P i i)
    (trans : ∀ {i k j}, P i k → P k j → P i j) (step : ∀ {i j marks}, R i j marks → P i j) {n : Nat}
    (h : R.times n i j marks) : P i j := by
  induction n generalizing i marks with
  | zero => exact h.1 ▸ refl i
  | succ n ih =>
    obtain ⟨k, first, second, hfirst, hsecond, -⟩ := h
    exact trans (step hfirst) (ih hsecond)

/-- A route of an expression goes forward and ends in the text. -/
theorem Path.bounds {r : Regex} (h : Path text r i j marks) :
    i ≤ j ∧ (i ≤ text.size → j ≤ text.size) := by
  induction r generalizing i j marks with
  | empty => exact ⟨Nat.le_of_eq h.1.symm, fun hi => h.1 ▸ hi⟩
  | text s => exact ⟨h.1.le, h.1.le_size⟩
  | one s =>
    obtain ⟨⟨c, hc, -⟩, rfl, -⟩ := h
    exact ⟨Nat.le_succ i, fun _ => (Array.getElem?_eq_some_iff.1 hc).1⟩
  | look l => exact ⟨Nat.le_of_eq h.2.1.symm, fun hi => h.2.1 ▸ hi⟩
  | group index name r ih =>
    cases name with
    | none => exact ih h
    | some name =>
      obtain ⟨inner, hinner, -⟩ := h
      exact ih hinner
  | seq r₁ r₂ ih₁ ih₂ =>
    obtain ⟨k, first, second, hfirst, hsecond, -⟩ := h
    obtain ⟨hik, hk⟩ := ih₁ hfirst
    obtain ⟨hkj, hj⟩ := ih₂ hsecond
    exact ⟨Nat.le_trans hik hkj, fun hi => hj (hk hi)⟩
  | alt r₁ r₂ ih₁ ih₂ => exact h.elim ih₁ ih₂
  | rep least most greedy r ih =>
    obtain ⟨n, -, hn⟩ := h
    refine Route.times_induct (P := fun i j => i ≤ j ∧ (i ≤ text.size → j ≤ text.size))
      (fun i => ⟨Nat.le_refl i, id⟩) ?_ ih hn
    exact fun hik hkj => ⟨Nat.le_trans hik.1 hkj.1, fun hi => hkj.2 (hik.2 hi)⟩

/-! ## Group names -/

/-- The names of the groups in an expression. -/
def groupNames : Regex → List String
  | empty => []
  | Regex.text _ => []
  | one _ => []
  | look _ => []
  | group _ name r => name.toList ++ r.groupNames
  | seq r₁ r₂ => r₁.groupNames ++ r₂.groupNames
  | alt r₁ r₂ => r₁.groupNames ++ r₂.groupNames
  | rep _ _ _ r => r.groupNames

/-- A route leaves marks of the groups in the expression only. -/
theorem Path.group_mem {r : Regex} (h : Path text r i j marks) :
    ∀ m ∈ marks, m.1.group ∈ r.groupNames := by
  -- only a group with a name leaves marks, one at either end
  induction r generalizing i j marks with
  | empty => simp [h.2]
  | text s => simp [h.2]
  | one s => simp [h.2.2]
  | look l => simp [h.2.2]
  | group index name r ih =>
    cases name with
    | none => exact ih h
    | some name =>
      obtain ⟨inner, hinner, rfl⟩ := h
      intro m hm
      simp only [List.mem_cons, List.mem_append, List.not_mem_nil, or_false] at hm
      rcases hm with rfl | hm | rfl
      · exact List.mem_cons_self
      · exact List.mem_cons_of_mem _ (ih hinner m hm)
      · exact List.mem_cons_self
  | seq r₁ r₂ ih₁ ih₂ =>
    obtain ⟨k, first, second, hfirst, hsecond, rfl⟩ := h
    intro m hm
    rcases List.mem_append.1 hm with hm | hm
    · exact List.mem_append_left _ (ih₁ hfirst m hm)
    · exact List.mem_append_right _ (ih₂ hsecond m hm)
  | alt r₁ r₂ ih₁ ih₂ =>
    intro m hm
    rcases h with h | h
    · exact List.mem_append_left _ (ih₁ h m hm)
    · exact List.mem_append_right _ (ih₂ h m hm)
  | rep least most greedy r ih =>
    obtain ⟨n, -, hn⟩ := h
    induction n generalizing i marks with
    | zero => simp [hn.2]
    | succ n ihn =>
      obtain ⟨k, first, second, hfirst, hsecond, rfl⟩ := hn
      intro m hm
      rcases List.mem_append.1 hm with hm | hm
      · exact ih hfirst m hm
      · exact ihn hsecond m hm

/-! ## Sequences -/

/-- Routes of several expressions, one after the other. -/
def chain (text : Array Char) (rs : List Regex) : Route :=
  rs.foldr (fun r R => (Path text r).andThen R) .stay

theorem chain_nil : chain text [] = .stay := rfl

theorem chain_cons (r : Regex) (rs : List Regex) :
    chain text (r :: rs) = (Path text r).andThen (chain text rs) := rfl

theorem chain_append (rs₁ rs₂ : List Regex) :
    chain text (rs₁ ++ rs₂) = (chain text rs₁).andThen (chain text rs₂) := by
  induction rs₁ with
  | nil => exact Route.stay_andThen.symm
  | cons r rs₁ ih => rw [List.cons_append, chain_cons, chain_cons, ih, Route.andThen_assoc]

theorem chain_parts (r : Regex) : chain text r.parts = Path text r := by
  induction r with
  | empty => rfl
  | seq r₁ r₂ ih₁ ih₂ => rw [parts, chain_append, ih₁, ih₂, Path]
  | _ => exact Route.andThen_stay

theorem path_ofParts (rs : List Regex) : Path text (ofParts rs) = chain text rs := by
  induction rs with
  | nil => rfl
  | cons r rs ih =>
    cases rs with
    | nil => exact Route.andThen_stay.symm
    | cons r' rs =>
      rw [ofParts.eq_3 r _ (List.cons_ne_nil r' rs), Path, ih]
      rfl

theorem path_text_append (s t : List Char) :
    Path text (.text (s ++ t)) = (Path text (.text s)).andThen (Path text (.text t)) := by
  funext i j marks
  refine propext ⟨?_, ?_⟩
  · rintro ⟨h, rfl⟩
    induction s generalizing i with
    | nil => exact ⟨i, [], [], ⟨rfl, rfl⟩, ⟨h, rfl⟩, rfl⟩
    | cons c s ih =>
      obtain ⟨k, first, second, hs, ht, hmarks⟩ := ih (i + 1) h.2
      exact ⟨k, first, second, ⟨⟨h.1, hs.1⟩, hs.2⟩, ht, hmarks⟩
  · rintro ⟨k, -, -, ⟨hs, rfl⟩, ⟨ht, rfl⟩, rfl⟩
    exact ⟨hs.append ht, rfl⟩

theorem chain_pushPart (r : Regex) (rs : List Regex) :
    chain text (pushPart r rs) = (Path text r).andThen (chain text rs) := by
  fun_cases pushPart r rs with
  | case1 s t rest => rw [chain_cons, chain_cons, path_text_append, Route.andThen_assoc]
  | case2 => rfl

/-- The routes of a sequence are those of its expressions, one after the other. -/
theorem path_seqs (rs : List Regex) : Path text (seqs rs) = chain text rs := by
  have hjoined (ps : List Regex) : chain text (ps.foldr pushPart []) = chain text ps := by
    induction ps with
    | nil => rfl
    | cons p ps ih => rw [List.foldr_cons, chain_pushPart, ih, chain_cons]
  rw [seqs, path_ofParts, hjoined]
  induction rs with
  | nil => rfl
  | cons r rs ih => rw [List.flatMap_cons, chain_append, chain_parts, ih, chain_cons]

/-- The routes of characters one after the other are those of their text. -/
theorem chain_chars (s : List Char) :
    chain text (s.map fun c => .text [c]) = Path text (.text s) := by
  induction s with
  | nil =>
    funext i j marks
    exact propext Iff.rfl
  | cons c s ih =>
    rw [List.map_cons, chain_cons, ih]
    exact (path_text_append [c] s).symm

/-! ## Other texts -/

theorem spelled_of_toList {before s after : List Char} (h : text.toList = before ++ (s ++ after)) :
    Spelled text s before.length (before.length + s.length) := by
  induction s generalizing before with
  | nil => exact rfl
  | cons c s ih =>
    have hrest := @ih (before ++ [c]) (by simpa using h)
    refine ⟨?_, ?_⟩
    · rw [← Array.getElem?_toList, h]
      simp
    · simpa [Nat.add_assoc, Nat.add_comm 1] using hrest

/-- What stands between two places is in two parts if a place between them is. -/
theorem extract_append {k : Nat} (hik : i ≤ k) (hkj : k ≤ j) :
    (text.extract i k).toList ++ (text.extract k j).toList = (text.extract i j).toList := by
  rw [← Array.toList_append, Array.extract_append_extract, Nat.min_eq_left hik,
    Nat.max_eq_right hkj]

theorem extract_of_toList {before s after : List Char} (h : text.toList = before ++ (s ++ after)) :
    (text.extract before.length (before.length + s.length)).toList = s := by
  simp [h]

theorem Spelled.extract {s : List Char} (h : Spelled text s i j) :
    (text.extract i j).toList = s := by
  have hplace := h.place_eq
  rw [Array.toList_extract, List.extract_eq_take_drop]
  induction s generalizing i with
  | nil =>
    rw [hplace, List.length_nil, Nat.add_zero, Nat.sub_self, List.take_zero]
  | cons c s ih =>
    obtain ⟨hlt, rfl⟩ := Array.getElem?_eq_some_iff.1 h.1
    rw [List.length_cons] at hplace
    have hrest := ih h.2 (by omega)
    have hcount : j - i = j - (i + 1) + 1 := by omega
    rw [List.drop_eq_getElem_cons (by simpa using hlt), hcount, List.take_succ_cons, hrest,
      Array.getElem_toList]

/-- Whether there are no conditions on places in an expression. -/
def placeless : Regex → Bool
  | empty => true
  | Regex.text _ => true
  | one _ => true
  | look _ => false
  | group _ _ r => r.placeless
  | seq r₁ r₂ => r₁.placeless && r₂.placeless
  | alt r₁ r₂ => r₁.placeless && r₂.placeless
  | rep _ _ _ r => r.placeless

/-- What an expression without conditions on places matches in a text it matches wherever the text
    stands in another. -/
theorem Path.elsewhere {r : Regex} (hr : r.placeless = true) {text' : Array Char} {d : Nat}
    (hsame : ∀ p < text.size, text'[p + d]? = text[p]?) (h : Path text r i j marks) :
    ∃ marks', Path text' r (i + d) (j + d) marks' := by
  have hchar {p : Nat} {c : Char} (hc : text[p]? = some c) : text'[p + d]? = some c := by
    rw [hsame p (Array.getElem?_eq_some_iff.1 hc).1, hc]
  -- marks hold places in the text, so only that there are some can be kept
  induction r generalizing i j marks with
  | empty => exact ⟨[], by rw [h.1], rfl⟩
  | text s =>
    refine ⟨[], ?_, rfl⟩
    obtain ⟨hs, -⟩ := h
    clear hr
    induction s generalizing i with
    | nil => exact congrArg (· + d) hs
    | cons c s ih => exact ⟨hchar hs.1, Nat.add_right_comm i 1 d ▸ ih hs.2⟩
  | one s =>
    obtain ⟨⟨c, hc, hmem⟩, rfl, -⟩ := h
    exact ⟨[], ⟨c, hchar hc, hmem⟩, Nat.succ_add i d, rfl⟩
  | look l => cases hr
  | group index name r ih =>
    cases name with
    | none => exact ih hr h
    | some name =>
      obtain ⟨inner, hinner, -⟩ := h
      obtain ⟨inner', hinner'⟩ := ih hr hinner
      exact ⟨_, inner', hinner', rfl⟩
  | seq r₁ r₂ ih₁ ih₂ =>
    obtain ⟨hr₁, hr₂⟩ := Bool.and_eq_true_iff.1 hr
    obtain ⟨k, first, second, hfirst, hsecond, -⟩ := h
    obtain ⟨first', hfirst'⟩ := ih₁ hr₁ hfirst
    obtain ⟨second', hsecond'⟩ := ih₂ hr₂ hsecond
    exact ⟨_, Route.andThen_intro hfirst' hsecond'⟩
  | alt r₁ r₂ ih₁ ih₂ =>
    obtain ⟨hr₁, hr₂⟩ := Bool.and_eq_true_iff.1 hr
    rcases h with h | h
    · exact (ih₁ hr₁ h).imp fun _ => Or.inl
    · exact (ih₂ hr₂ h).imp fun _ => Or.inr
  | rep least most greedy r ih =>
    obtain ⟨n, hcount, hn⟩ := h
    -- each round can be moved, so how many there have to be is of no matter
    suffices htimes : ∃ marks', (Path text' r).times n (i + d) (j + d) marks' from
      htimes.imp fun _ hn' => ⟨n, hcount, hn'⟩
    clear hcount
    induction n generalizing i marks with
    | zero => exact ⟨[], by rw [hn.1], rfl⟩
    | succ n ihn =>
      obtain ⟨k, first, second, hfirst, hsecond, -⟩ := hn
      obtain ⟨first', hfirst'⟩ := ih hr hfirst
      obtain ⟨second', hsecond'⟩ := ihn hsecond
      exact ⟨_, Route.andThen_intro hfirst' hsecond'⟩

end Gherkin.Regex
