/-
  Gherkin.Proofs.Regex.Build

  What the constructors of flat sequences and choices keep. They do not look at
  the indices of groups, so they commute with a renumbering of all groups; the
  groups of what they build are groups of what it is built from; and what they
  have built is not changed by being built again.
-/
import Mathlib.Data.List.Chain
import Mathlib.Tactic.SplitIfs
import Gherkin.Proofs.Regex.Route

namespace Gherkin.Regex

/-! ## Renumbering -/

/-- An expression with `k` added to the index of every group. -/
def renumber (k : Nat) : Regex → Regex
  | empty => empty
  | Regex.text s => .text s
  | one s => one s
  | look l => look l
  | group index name r => group (index + k) name (r.renumber k)
  | seq r₁ r₂ => seq (r₁.renumber k) (r₂.renumber k)
  | alt r₁ r₂ => alt (r₁.renumber k) (r₂.renumber k)
  | rep least most greedy r => rep least most greedy (r.renumber k)

variable {k : Nat}

theorem renumber_zero (r : Regex) : r.renumber 0 = r := by
  induction r with
  | group index name r ih => rw [renumber, ih, Nat.add_zero]
  | seq r₁ r₂ ih₁ ih₂ => rw [renumber, ih₁, ih₂]
  | alt r₁ r₂ ih₁ ih₂ => rw [renumber, ih₁, ih₂]
  | rep least most greedy r ih => rw [renumber, ih]
  | _ => rfl

theorem renumber_injective : Function.Injective (renumber k) := by
  intro r
  induction r with
  | group index name r ih =>
    intro s h
    cases s <;> simp only [renumber, group.injEq, reduceCtorEq] at h
    obtain ⟨hindex, rfl, h⟩ := h
    rw [ih h, Nat.add_right_cancel hindex]
  | seq r₁ r₂ ih₁ ih₂ =>
    intro s h
    cases s <;> simp only [renumber, seq.injEq, reduceCtorEq] at h
    rw [ih₁ h.1, ih₂ h.2]
  | alt r₁ r₂ ih₁ ih₂ =>
    intro s h
    cases s <;> simp only [renumber, alt.injEq, reduceCtorEq] at h
    rw [ih₁ h.1, ih₂ h.2]
  | rep least most greedy r ih =>
    intro s h
    cases s <;> simp only [renumber, rep.injEq, reduceCtorEq] at h
    obtain ⟨rfl, rfl, rfl, h⟩ := h
    rw [ih h]
  | _ =>
    intro s h
    cases s <;> simp_all [renumber]

@[simp] theorem renumber_ofClass (s : CharClass) : (ofClass s).renumber k = ofClass s := by
  unfold ofClass
  split
  · rfl
  · split <;> rfl
  · rfl

/-! ### Sequences -/

theorem parts_renumber (r : Regex) : (r.renumber k).parts = r.parts.map (renumber k) := by
  induction r with
  | seq r₁ r₂ ih₁ ih₂ => rw [renumber, parts, parts, ih₁, ih₂, List.map_append]
  | _ => rfl

theorem pushPart_renumber (r : Regex) (rest : List Regex) :
    pushPart (r.renumber k) (rest.map (renumber k)) = (pushPart r rest).map (renumber k) := by
  cases r with
  | text s =>
    cases rest with
    | nil => rfl
    | cons r' rest => cases r' <;> rfl
  | _ => rfl

theorem ofParts_renumber (rs : List Regex) :
    ofParts (rs.map (renumber k)) = (ofParts rs).renumber k := by
  fun_induction ofParts rs with
  | case1 => rfl
  | case2 r => rfl
  | case3 r rs hne ih =>
    rw [List.map_cons, ofParts.eq_3 _ _ (by simpa using hne), ih, renumber]

theorem seqs_renumber (rs : List Regex) : seqs (rs.map (renumber k)) = (seqs rs).renumber k := by
  have hjoined (ps : List Regex) :
      (ps.map (renumber k)).foldr pushPart [] = (ps.foldr pushPart []).map (renumber k) := by
    induction ps with
    | nil => rfl
    | cons p ps ih => rw [List.map_cons, List.foldr_cons, ih, pushPart_renumber, List.foldr_cons]
  have hparts : (rs.map (renumber k)).flatMap parts = (rs.flatMap parts).map (renumber k) := by
    rw [List.flatMap_map, List.map_flatMap]
    simp only [parts_renumber]
  rw [seqs, seqs, hparts, hjoined, ofParts_renumber]

/-! ### Choices -/

theorem branches_renumber (r : Regex) : (r.renumber k).branches = r.branches.map (renumber k) := by
  induction r with
  | alt r₁ r₂ ih₁ ih₂ => rw [renumber, branches, branches, ih₁, ih₂, List.map_append]
  | _ => rfl

theorem ofBranches_renumber (rs : List Regex) :
    ofBranches (rs.map (renumber k)) = (ofBranches rs).renumber k := by
  fun_induction ofBranches rs with
  | case1 => rfl
  | case2 r => rfl
  | case3 r rs hne ih =>
    rw [List.map_cons, ofBranches.eq_3 _ _ (by simpa using hne), ih, renumber]

theorem choiceClass?_renumber (rs : List Regex) :
    choiceClass? (rs.map (renumber k)) = choiceClass? rs := by
  have hletter (r : Regex) : letter? (r.renumber k) = letter? r := by cases r <;> rfl
  have hset (r : Regex) : set? (r.renumber k) = set? r := by cases r <;> rfl
  simp only [choiceClass?, List.mapM_map, Function.comp_def, hletter, hset]

theorem commonStart_map [DecidableEq α] [DecidableEq β] {f : α → β} (hf : Function.Injective f)
    (as bs : List α) : commonStart (as.map f) (bs.map f) = (commonStart as bs).map f := by
  fun_induction commonStart as bs with
  | case1 as b bs ih =>
    rw [List.map_cons, List.map_cons, commonStart, if_pos rfl, ih, List.map_cons]
  | case2 a as b bs hne =>
    rw [List.map_cons, List.map_cons, commonStart, if_neg fun h => hne (hf h), List.map_nil]
  | case3 as bs hne =>
    cases as with
    | nil => rfl
    | cons a as =>
      cases bs with
      | nil => rfl
      | cons b bs => exact (hne a as b bs rfl rfl).elim

theorem foldl_commonStart_map [DecidableEq α] [DecidableEq β] {f : α → β}
    (hf : Function.Injective f) (as : List α) (bss : List (List α)) :
    (bss.map (List.map f)).foldl commonStart (as.map f) = (bss.foldl commonStart as).map f := by
  induction bss generalizing as with
  | nil => rfl
  | cons bs bss ih => rw [List.map_cons, List.foldl_cons, commonStart_map hf, ih, List.foldl_cons]

theorem sharedParts_renumber (rs : List Regex) :
    sharedParts (rs.map (renumber k)) = (sharedParts rs).map (renumber k) := by
  cases rs with
  | nil => rfl
  | cons r rs =>
    have hparts : (rs.map (renumber k)).map parts = (rs.map parts).map (List.map (renumber k)) := by
      simp [parts_renumber]
    have hlengths : ((r.parts.map (renumber k)) ::
          (rs.map parts).map (List.map (renumber k))).all (2 ≤ ·.length) =
        (r.parts :: rs.map parts).all (2 ≤ ·.length) := by
      simp [Function.comp_def]
    simp only [sharedParts, List.map_cons, parts_renumber, hparts, hlengths]
    split
    · exact foldl_commonStart_map renumber_injective _ _
    · rfl

theorem ofRests_renumber (n : Nat) (rs : List Regex) :
    ofRests n (rs.map (renumber k)) = (ofRests n rs).renumber k := by
  have hrests : ((rs.map (renumber k)).map fun r => ofParts (r.parts.drop n)).flatMap branches =
      ((rs.map fun r => ofParts (r.parts.drop n)).flatMap branches).map (renumber k) := by
    simp only [List.flatMap_map, List.map_flatMap, parts_renumber, ← List.map_drop,
      ofParts_renumber, branches_renumber]
  simp only [ofRests, hrests, choiceClass?_renumber]
  split
  · exact (renumber_ofClass _).symm
  · exact ofBranches_renumber _

theorem choice_renumber (rs : List Regex) :
    choice (rs.map (renumber k)) = (choice rs).renumber k := by
  simp only [choice, choiceClass?_renumber, sharedParts_renumber, List.isEmpty_map,
    List.length_map, ofRests_renumber]
  split
  · exact (renumber_ofClass _).symm
  · split
    · exact ofBranches_renumber rs
    · rw [← seqs_renumber, List.map_append, List.map_singleton]

theorem alts_cases (rs : List Regex) :
    (∃ b, rs.flatMap branches = [b] ∧ alts rs = b) ∨
      (rs.flatMap branches).length ≠ 1 ∧ alts rs = choice (rs.flatMap branches) := by
  unfold alts
  split
  next b hb => exact .inl ⟨b, hb, rfl⟩
  next hne =>
    refine .inr ⟨fun hlength => ?_, rfl⟩
    obtain ⟨b, hb⟩ := List.length_eq_one_iff.1 hlength
    exact hne b hb

/-- Choices do not look at the indices of groups. -/
theorem alts_renumber (rs : List Regex) : alts (rs.map (renumber k)) = (alts rs).renumber k := by
  have hbranches : (rs.map (renumber k)).flatMap branches =
      (rs.flatMap branches).map (renumber k) := by
    simp only [List.flatMap_map, List.map_flatMap, branches_renumber]
  rw [alts, hbranches]
  rcases alts_cases rs with ⟨b, hb, halts⟩ | ⟨hlength, halts⟩
  · rw [hb, halts]
    rfl
  · rw [halts, ← choice_renumber]
    split
    next b hb =>
      rw [← List.length_map (renumber k), hb] at hlength
      exact absurd rfl hlength
    · rfl

/-! ### Repetitions and routes -/

theorem takesNone_renumber (r : Regex) : (r.renumber k).takesNone = r.takesNone := by
  induction r <;> simp only [renumber, takesNone, *]

theorem times_renumber (least : Nat) (most : Option Nat) (greedy : Bool) (r : Regex) :
    times least most greedy (r.renumber k) = (times least most greedy r).renumber k := by
  simp only [times, takesNone_renumber, apply_ite (renumber k), renumber]

theorem groupNames_renumber (r : Regex) : (r.renumber k).groupNames = r.groupNames := by
  induction r <;> simp only [renumber, groupNames, *]

/-- Renumbering the groups leaves the routes as they are. -/
theorem path_renumber (text : Array Char) (r : Regex) : Path text (r.renumber k) = Path text r := by
  induction r with
  | group index name r ih => cases name <;> simp only [renumber, Path, ih]
  | _ => simp only [renumber, Path, *]

/-! ## Group names -/

theorem groupNames_ofClass (s : CharClass) : (ofClass s).groupNames = [] := by
  unfold ofClass
  split
  · rfl
  · split <;> rfl
  · rfl

theorem groupNames_parts (r : Regex) : r.parts.flatMap groupNames = r.groupNames := by
  induction r with
  | seq r₁ r₂ ih₁ ih₂ => rw [parts, List.flatMap_append, ih₁, ih₂, groupNames]
  | empty => rfl
  | _ => exact List.flatMap_singleton _ _

theorem groupNames_pushPart (r : Regex) (rest : List Regex) :
    (pushPart r rest).flatMap groupNames = r.groupNames ++ rest.flatMap groupNames := by
  fun_cases pushPart r rest <;> rfl

theorem groupNames_ofParts (rs : List Regex) :
    (ofParts rs).groupNames = rs.flatMap groupNames := by
  fun_induction ofParts rs with
  | case1 => rfl
  | case2 r => exact (List.flatMap_singleton _ _).symm
  | case3 r rs hne ih => rw [groupNames, ih, List.flatMap_cons]

theorem groupNames_seqs (rs : List Regex) : (seqs rs).groupNames = rs.flatMap groupNames := by
  have hjoined (ps : List Regex) :
      (ps.foldr pushPart []).flatMap groupNames = ps.flatMap groupNames := by
    induction ps with
    | nil => rfl
    | cons p ps ih => rw [List.foldr_cons, groupNames_pushPart, ih, List.flatMap_cons]
  rw [seqs, groupNames_ofParts, hjoined, List.flatMap_assoc]
  simp only [groupNames_parts]

theorem groupNames_branches (r : Regex) : r.branches.flatMap groupNames = r.groupNames := by
  induction r with
  | alt r₁ r₂ ih₁ ih₂ => rw [branches, List.flatMap_append, ih₁, ih₂, groupNames]
  | _ => exact List.flatMap_singleton _ _

theorem groupNames_ofBranches (rs : List Regex) :
    (ofBranches rs).groupNames = rs.flatMap groupNames := by
  fun_induction ofBranches rs with
  | case1 => rfl
  | case2 r => exact (List.flatMap_singleton _ _).symm
  | case3 r rs hne ih => rw [groupNames, ih, List.flatMap_cons]

theorem commonStart_isPrefix [DecidableEq α] (as bs : List α) : commonStart as bs <+: as := by
  fun_induction commonStart as bs with
  | case1 as b bs ih => exact (List.prefix_cons_inj b).2 ih
  | _ => exact List.nil_prefix

theorem foldl_commonStart_isPrefix [DecidableEq α] (as : List α) (bss : List (List α)) :
    bss.foldl commonStart as <+: as := by
  induction bss generalizing as with
  | nil => exact List.prefix_rfl
  | cons bs bss ih => exact (ih _).trans (commonStart_isPrefix as bs)

/-- What all branches start with is the start of one of them. -/
theorem sharedParts_isPrefix {rs : List Regex} (h : sharedParts rs ≠ []) :
    ∃ r ∈ rs, sharedParts rs <+: r.parts := by
  cases rs with
  | nil => exact absurd rfl h
  | cons r rs =>
    refine ⟨r, List.mem_cons_self, ?_⟩
    simp only [sharedParts, List.map_cons]
    split
    · exact foldl_commonStart_isPrefix _ _
    · exact List.nil_prefix

theorem groupNames_ofRests_subset (n : Nat) (rs : List Regex) :
    (ofRests n rs).groupNames ⊆ rs.flatMap groupNames := by
  simp only [ofRests]
  split
  · rw [groupNames_ofClass]
    exact List.nil_subset _
  · rw [groupNames_ofBranches, List.flatMap_assoc]
    simp only [groupNames_branches, List.flatMap_map, groupNames_ofParts]
    intro name hname
    obtain ⟨r, hr, hname⟩ := List.mem_flatMap.1 hname
    obtain ⟨p, hp, hname⟩ := List.mem_flatMap.1 hname
    refine List.mem_flatMap.2 ⟨r, hr, ?_⟩
    rw [← groupNames_parts r]
    exact List.mem_flatMap.2 ⟨p, List.mem_of_mem_drop hp, hname⟩

theorem groupNames_choice_subset (rs : List Regex) :
    (choice rs).groupNames ⊆ rs.flatMap groupNames := by
  simp only [choice]
  split
  · rw [groupNames_ofClass]
    exact List.nil_subset _
  · split
    · rw [groupNames_ofBranches]
      exact List.Subset.refl _
    next hshared =>
      obtain ⟨r, hr, hstart⟩ := sharedParts_isPrefix fun hnil => hshared (by rw [hnil]; rfl)
      rw [groupNames_seqs, List.flatMap_append, List.flatMap_singleton]
      refine List.append_subset.2 ⟨?_, groupNames_ofRests_subset _ rs⟩
      intro name hname
      obtain ⟨p, hp, hname⟩ := List.mem_flatMap.1 hname
      refine List.mem_flatMap.2 ⟨r, hr, ?_⟩
      rw [← groupNames_parts r]
      exact List.mem_flatMap.2 ⟨p, hstart.subset hp, hname⟩

/-- A choice has no other groups than its branches. -/
theorem groupNames_alts_subset (rs : List Regex) :
    (alts rs).groupNames ⊆ rs.flatMap groupNames := by
  have hbranches : (rs.flatMap branches).flatMap groupNames = rs.flatMap groupNames := by
    rw [List.flatMap_assoc]
    simp only [groupNames_branches]
  rw [← hbranches]
  rcases alts_cases rs with ⟨b, hb, halts⟩ | ⟨-, halts⟩
  · rw [halts, hb, List.flatMap_singleton]
    exact List.Subset.refl _
  · rw [halts]
    exact groupNames_choice_subset _

theorem groupNames_times_subset (least : Nat) (most : Option Nat) (greedy : Bool) (r : Regex) :
    (times least most greedy r).groupNames ⊆ r.groupNames := by
  unfold times
  generalize (if r.takesNone then _ else _ : Nat × Option Nat) = bounds
  obtain ⟨least, most⟩ := bounds
  dsimp only
  split_ifs <;> simp [groupNames]

/-! ## Building again -/

/-- A part of a sequence is no sequence. -/
theorem parts_of_mem_parts {r p : Regex} (h : p ∈ r.parts) : p.parts = [p] := by
  induction r with
  | empty => cases h
  | seq r₁ r₂ ih₁ ih₂ => exact (List.mem_append.1 h).elim ih₁ ih₂
  | _ =>
    obtain rfl := List.mem_singleton.1 h
    rfl

/-- A branch of a choice is no choice. -/
theorem branches_of_mem_branches {r b : Regex} (h : b ∈ r.branches) : b.branches = [b] := by
  induction r with
  | alt r₁ r₂ ih₁ ih₂ => exact (List.mem_append.1 h).elim ih₁ ih₂
  | _ =>
    obtain rfl := List.mem_singleton.1 h
    rfl

theorem parts_ofParts {ps : List Regex} (h : ∀ p ∈ ps, p.parts = [p]) :
    (ofParts ps).parts = ps := by
  fun_induction ofParts ps with
  | case1 => rfl
  | case2 p => exact h p List.mem_cons_self
  | case3 p ps hne ih =>
    obtain ⟨hp, hps⟩ := List.forall_mem_cons.1 h
    rw [parts, hp, ih hps, List.singleton_append]

theorem parts_of_mem_pushPart {p : Regex} {ps : List Regex} (hp : p.parts = [p])
    (hps : ∀ q ∈ ps, q.parts = [q]) : ∀ q ∈ pushPart p ps, q.parts = [q] := by
  fun_cases pushPart p ps with
  | case1 s t rest => exact List.forall_mem_cons.2 ⟨rfl, (List.forall_mem_cons.1 hps).2⟩
  | case2 => exact List.forall_mem_cons.2 ⟨hp, hps⟩

/-- Whether two parts are not both texts. -/
def Apart (p q : Regex) : Prop := ∀ s t, p = .text s → q = .text t → False

theorem pushPart_cases (p : Regex) (ps : List Regex) :
    (pushPart p ps = p :: ps ∧ ∀ s t rest, p = .text s → ps = .text t :: rest → False) ∨
      ∃ s t rest, p = .text s ∧ ps = .text t :: rest ∧ pushPart p ps = .text (s ++ t) :: rest := by
  fun_cases pushPart p ps
  case case1 s t rest => exact .inr ⟨s, t, rest, rfl, rfl, rfl⟩
  case case2 hapart => exact .inl ⟨rfl, hapart⟩

theorem isChain_pushPart {p : Regex} {ps : List Regex} (h : ps.IsChain Apart) :
    (pushPart p ps).IsChain Apart := by
  rcases pushPart_cases p ps with hcons | ⟨s, t, rest, rfl, rfl, hjoined⟩
  · rw [hcons.1]
    cases ps with
    | nil => exact .singleton p
    | cons q ps => exact List.isChain_cons_cons.2 ⟨fun s t hp hq => hcons.2 s t ps hp (hq ▸ rfl), h⟩
  · rw [hjoined]
    cases rest with
    | nil => exact .singleton _
    | cons q rest =>
      obtain ⟨hq, hrest⟩ := List.isChain_cons_cons.1 h
      exact List.isChain_cons_cons.2 ⟨fun _ u _ hu => hq t u rfl hu, hrest⟩

/-- Parts no two of which meet as texts are not joined again. -/
theorem foldr_pushPart_of_isChain {ps : List Regex} (h : ps.IsChain Apart) :
    ps.foldr pushPart [] = ps := by
  induction ps with
  | nil => rfl
  | cons p ps ih =>
    rw [List.foldr_cons, ih h.tail]
    rcases pushPart_cases p ps with hcons | ⟨s, t, rest, rfl, rfl, -⟩
    · exact hcons.1
    · exact ((List.isChain_cons_cons.1 h).1 s t rfl rfl).elim

/-- A sequence is that of its parts: none of them is a sequence, and no two meet as texts. -/
theorem seqs_eq_ofParts (rs : List Regex) :
    ∃ ps, seqs rs = ofParts ps ∧ ps.IsChain Apart ∧ ∀ p ∈ ps, p.parts = [p] := by
  refine ⟨_, rfl, ?_⟩
  have hatoms : ∀ p ∈ rs.flatMap parts, p.parts = [p] := by
    intro p hp
    obtain ⟨r, -, hp⟩ := List.mem_flatMap.1 hp
    exact parts_of_mem_parts hp
  generalize rs.flatMap parts = ps at hatoms
  induction ps with
  | nil => exact ⟨.nil, by simp⟩
  | cons p ps ih =>
    obtain ⟨hp, hps⟩ := List.forall_mem_cons.1 hatoms
    obtain ⟨hchain, hjoined⟩ := ih hps
    exact ⟨isChain_pushPart hchain, parts_of_mem_pushPart hp hjoined⟩

theorem seqs_singleton_of_parts {r : Regex} (h : r.parts = [r]) : seqs [r] = r := by
  rw [seqs, List.flatMap_singleton, h]
  cases r <;> rfl

/-- A sequence is not changed by being put into a sequence by itself. -/
theorem seqs_seqs (rs : List Regex) : seqs [seqs rs] = seqs rs := by
  obtain ⟨ps, heq, hchain, hatoms⟩ := seqs_eq_ofParts rs
  rw [heq, seqs, List.flatMap_singleton, parts_ofParts hatoms, foldr_pushPart_of_isChain hchain]

theorem seqs_ofClass (s : CharClass) : seqs [ofClass s] = ofClass s := by
  refine seqs_singleton_of_parts ?_
  unfold ofClass
  split
  · rfl
  · split <;> rfl
  · rfl

theorem seqs_ofBranches {bs : List Regex} (h : bs.length ≠ 1) :
    seqs [ofBranches bs] = ofBranches bs := by
  refine seqs_singleton_of_parts ?_
  fun_cases ofBranches bs with
  | case1 => rfl
  | case2 b => exact absurd rfl h
  | case3 => rfl

theorem seqs_choice {bs : List Regex} (h : bs.length ≠ 1) : seqs [choice bs] = choice bs := by
  simp only [choice]
  split
  · exact seqs_ofClass _
  · split
    · exact seqs_ofBranches h
    · exact seqs_seqs _

theorem branches_ne_nil (r : Regex) : r.branches ≠ [] := by
  induction r with
  | alt r₁ r₂ ih₁ ih₂ => exact List.append_ne_nil_of_left_ne_nil ih₁ _
  | _ => exact List.cons_ne_nil _ _

theorem length_le_flatMap_branches (rs : List Regex) :
    rs.length ≤ (rs.flatMap branches).length := by
  induction rs with
  | nil => exact Nat.le_refl 0
  | cons r rs ih =>
    have hr := List.length_pos_iff.2 (branches_ne_nil r)
    rw [List.flatMap_cons, List.length_append, List.length_cons]
    omega

/-- Expressions with one branch in all are one that is no choice. -/
theorem eq_singleton_of_flatMap_branches {rs : List Regex} {b : Regex}
    (h : rs.flatMap branches = [b]) : rs = [b] := by
  have hlength := length_le_flatMap_branches rs
  rw [h, List.length_singleton] at hlength
  match rs with
  | [] => cases h
  | [r] =>
    rw [List.flatMap_singleton] at h
    cases r with
    | alt r₁ r₂ =>
      have h₁ := List.length_pos_iff.2 (branches_ne_nil r₁)
      have h₂ := List.length_pos_iff.2 (branches_ne_nil r₂)
      have hsum := congrArg List.length h
      rw [branches, List.length_append, List.length_singleton] at hsum
      omega
    | _ => exact h
  | r :: r' :: rs =>
    rw [List.length_cons, List.length_cons] at hlength
    omega

/-- A choice between sequences is not changed by being put into a sequence by itself. -/
theorem seqs_alts {rs : List Regex} (h : ∀ r ∈ rs, seqs [r] = r) : seqs [alts rs] = alts rs := by
  rcases alts_cases rs with ⟨b, hb, halts⟩ | ⟨hlength, halts⟩
  · rw [halts]
    exact h b (eq_singleton_of_flatMap_branches hb ▸ List.mem_singleton_self b)
  · rw [halts]
    exact seqs_choice hlength

theorem branches_ofClass (s : CharClass) : (ofClass s).branches = [ofClass s] := by
  unfold ofClass
  split
  · rfl
  · split <;> rfl
  · rfl

theorem branches_ofBranches {bs : List Regex} (hne : bs ≠ []) (h : ∀ b ∈ bs, b.branches = [b]) :
    (ofBranches bs).branches = bs := by
  fun_induction ofBranches bs with
  | case1 => exact absurd rfl hne
  | case2 b => exact h b List.mem_cons_self
  | case3 b bs hnil ih =>
    obtain ⟨hb, hbs⟩ := List.forall_mem_cons.1 h
    rw [branches, hb, ih hnil hbs, List.singleton_append]

/-- A sequence of several parts is no choice, joined or not. -/
theorem branches_seqs {rs : List Regex} (h : 2 ≤ (rs.flatMap parts).length) :
    (seqs rs).branches = [seqs rs] := by
  unfold seqs
  generalize rs.flatMap parts = ps at h
  match ps with
  | p :: p' :: ps =>
    rw [List.foldr_cons, List.foldr_cons]
    obtain ⟨q, qs, hq⟩ : ∃ q qs, pushPart p' (ps.foldr pushPart []) = q :: qs := by
      rcases pushPart_cases p' (ps.foldr pushPart []) with ⟨hcons, -⟩ | ⟨s, t, rest, -, -, hcons⟩
      · exact ⟨_, _, hcons⟩
      · exact ⟨_, _, hcons⟩
    rw [hq]
    rcases pushPart_cases p (q :: qs) with ⟨hcons, -⟩ | ⟨s, t, rest, -, -, hjoined⟩
    · rw [hcons]
      rfl
    · rw [hjoined]
      cases rest <;> rfl

theorem parts_ofRests_ne_nil (n : Nat) {rs : List Regex} (h : 2 ≤ rs.length) :
    (ofRests n rs).parts ≠ [] := by
  have hlength := length_le_flatMap_branches (rs.map fun r => ofParts (r.parts.drop n))
  rw [List.length_map] at hlength
  simp only [ofRests]
  split
  · unfold ofClass
    split
    · simp [parts]
    · split <;> simp [parts]
    · simp [parts]
  · generalize (rs.map fun r => ofParts (r.parts.drop n)).flatMap branches = bs at hlength
    have hbs := Nat.le_trans h hlength
    rcases bs with _ | ⟨b, _ | ⟨b', bs⟩⟩
    · simp at hbs
    · simp at hbs
    · simp [ofBranches, parts]

theorem branches_choice {bs : List Regex} (hlength : bs.length ≠ 1)
    (h : ∀ b ∈ bs, b.branches = [b]) :
    (choice bs).branches = [choice bs] ∨ (choice bs).branches = bs := by
  simp only [choice]
  split
  · exact .inl (branches_ofClass _)
  split
  · rcases List.eq_nil_or_concat bs with rfl | hconcat
    · exact .inl rfl
    · refine .inr (branches_ofBranches ?_ h)
      rintro rfl
      obtain ⟨_, _, hnil⟩ := hconcat
      simp at hnil
  · next hshared =>
    have hne : sharedParts bs ≠ [] := fun hnil => hshared (by rw [hnil]; rfl)
    obtain ⟨r, hr, hstart⟩ := sharedParts_isPrefix hne
    have hbs : 2 ≤ bs.length := by
      have := List.length_pos_of_mem hr
      omega
    have hrests := List.length_pos_iff.2 (parts_ofRests_ne_nil (sharedParts bs).length hbs)
    have hatoms : (sharedParts bs).flatMap parts = (sharedParts bs).flatMap fun p => [p] :=
      List.flatMap_congr fun p hp => parts_of_mem_parts (hstart.subset hp)
    -- with parts in common this is a sequence of two parts at least
    refine .inl (branches_seqs ?_)
    rw [List.flatMap_append, List.flatMap_singleton, List.length_append, hatoms,
      List.flatMap_singleton']
    have := List.length_pos_iff.2 hne
    omega

/-- A choice is not changed by being made a choice by itself. -/
theorem alts_alts (rs : List Regex) : alts [alts rs] = alts rs := by
  have hleaf : ∀ b ∈ rs.flatMap branches, b.branches = [b] := by
    intro b hb
    obtain ⟨r, -, hb⟩ := List.mem_flatMap.1 hb
    exact branches_of_mem_branches hb
  rcases alts_cases rs with ⟨b, hb, halts⟩ | ⟨hlength, halts⟩
  · rw [halts, alts, List.flatMap_singleton, hleaf b (hb ▸ List.mem_singleton_self b)]
  · rw [halts, alts, List.flatMap_singleton]
    rcases branches_choice hlength hleaf with hself | hbranches
    · rw [hself]
    · rw [hbranches]
      split
      next b hb => exact absurd (congrArg List.length hb) hlength
      · rfl

end Gherkin.Regex
