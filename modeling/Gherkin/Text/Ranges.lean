/-
  Gherkin.Text.Ranges

  Sets of characters given as lists of inclusive ranges of code points. A list
  is in order when its ranges rise and no two of them overlap or touch; the
  operations below keep that order, so sets that are built in different ways are
  compared as lists. The code points from 0xd800 to 0xdfff are no characters:
  stepping from one character to the next passes over them.
-/

namespace Gherkin.Text

/-- A set of characters as inclusive ranges of code points. -/
abbrev Ranges := List (Nat × Nat)

namespace Ranges

/-! ## Membership -/

/-- Membership of a code point in one of the ranges. -/
def has (ranges : Ranges) (n : Nat) : Bool :=
  ranges.any fun range => range.1 ≤ n && n ≤ range.2

/-- Membership of a character in one of the ranges. -/
def contains (ranges : Ranges) (c : Char) : Bool := ranges.has c.toNat

theorem has_iff {ranges : Ranges} {n : Nat} :
    ranges.has n = true ↔ ∃ range ∈ ranges, range.1 ≤ n ∧ n ≤ range.2 := by
  simp [has]

theorem contains_iff {ranges : Ranges} {c : Char} :
    ranges.contains c = true ↔ ∃ range ∈ ranges, range.1 ≤ c.toNat ∧ c.toNat ≤ range.2 :=
  has_iff

/-! ## Union -/

/-- The ranges with one more, which is glued to those that it overlaps or touches. -/
def insertRange (range : Nat × Nat) : Ranges → Ranges
  | [] => [range]
  | first :: rest =>
    if range.2 + 1 < first.1 then range :: first :: rest
    else if first.2 + 1 < range.1 then first :: insertRange range rest
    else insertRange (min range.1 first.1, max range.2 first.2) rest

/-- A range and then `more` of the ranges that do not start before it; those that do come first. -/
def startAt (range : Nat × Nat) (more : Ranges → Ranges) : Ranges → Ranges
  | [] => range :: more []
  | first :: rest =>
    if range.1 ≤ first.1 then range :: more (first :: rest) else first :: startAt range more rest

/-- The ranges of two sets in the order of their starts. -/
def interleave : Ranges → Ranges → Ranges
  | [] => id
  | range :: s => startAt range (interleave s)

/-- The characters of either set. As the ranges are in order, each is inserted at the front. -/
def union (s t : Ranges) : Ranges := (interleave s t).foldr insertRange []

/-- The characters of any of the sets. -/
def unions (sets : List Ranges) : Ranges := sets.foldr union []

/-- The set of some code points. -/
def ofPoints (points : List Nat) : Ranges := points.foldr (fun n s => insertRange (n, n) s) []

theorem has_insertRange {range : Nat × Nat} {s : Ranges} (h : range.1 ≤ range.2)
    (hs : ∀ r ∈ s, r.1 ≤ r.2) (n : Nat) :
    (insertRange range s).has n = true ↔ (range.1 ≤ n ∧ n ≤ range.2) ∨ s.has n = true := by
  fun_induction insertRange range s with
  | case1 range => simp [has]
  | case2 range first rest => simp [has]
  | case3 range first rest _ _ ih =>
    have ih := ih h fun r hr => hs r (List.mem_cons_of_mem _ hr)
    simp only [has, List.any_cons, Bool.or_eq_true] at ih ⊢
    rw [ih]
    exact or_left_comm
  | case4 range first rest _ _ ih =>
    have hf := hs first List.mem_cons_self
    have ih := ih (by simp only; omega) fun r hr => hs r (List.mem_cons_of_mem _ hr)
    rw [ih]
    simp only [has, List.any_cons, Bool.or_eq_true, Bool.and_eq_true, decide_eq_true_eq]
    rw [← or_assoc]
    refine or_congr ?_ Iff.rfl
    constructor
    · intro _
      omega
    · intro _
      omega

theorem le_of_mem_insertRange {range : Nat × Nat} {s : Ranges} (h : range.1 ≤ range.2)
    (hs : ∀ r ∈ s, r.1 ≤ r.2) : ∀ r ∈ insertRange range s, r.1 ≤ r.2 := by
  fun_induction insertRange range s with
  | case1 range => simpa using h
  | case2 range first rest => exact List.forall_mem_cons.2 ⟨h, hs⟩
  | case3 range first rest _ _ ih =>
    have hs := List.forall_mem_cons.1 hs
    exact List.forall_mem_cons.2 ⟨hs.1, ih h hs.2⟩
  | case4 range first rest _ _ ih =>
    have hs := List.forall_mem_cons.1 hs
    exact ih (by simp only; omega) hs.2

theorem mem_startAt {range r : Nat × Nat} {s : Ranges} {more : Ranges → Ranges}
    (h : ∀ t, r ∈ more t ↔ r ∈ s ∨ r ∈ t) (t : Ranges) :
    r ∈ startAt range more t ↔ r ∈ range :: s ∨ r ∈ t := by
  induction t with
  | nil => simp [startAt, h]
  | cons first rest ih =>
    rw [startAt]
    split
    · simp [h, or_assoc]
    · simp only [List.mem_cons, ih]
      exact or_left_comm

theorem mem_interleave {r : Nat × Nat} (s t : Ranges) : r ∈ interleave s t ↔ r ∈ s ∨ r ∈ t := by
  induction s generalizing t with
  | nil => simp [interleave]
  | cons range s ih => exact mem_startAt ih t

theorem has_foldr_insertRange {s : Ranges} (hs : ∀ r ∈ s, r.1 ≤ r.2) :
    (∀ r ∈ s.foldr insertRange [], r.1 ≤ r.2) ∧
      ∀ n, (s.foldr insertRange []).has n = true ↔ s.has n = true := by
  induction s with
  | nil => exact ⟨fun r hr => hs r hr, fun n => Iff.rfl⟩
  | cons range s ih =>
    have hs := List.forall_mem_cons.1 hs
    have ih := ih hs.2
    refine ⟨le_of_mem_insertRange hs.1 ih.1, fun n => ?_⟩
    rw [List.foldr_cons, has_insertRange hs.1 ih.1, ih.2]
    simp [has]

theorem has_union {s t : Ranges} (hs : ∀ r ∈ s, r.1 ≤ r.2) (ht : ∀ r ∈ t, r.1 ≤ r.2) (n : Nat) :
    (union s t).has n = true ↔ s.has n = true ∨ t.has n = true := by
  have h : ∀ r ∈ interleave s t, r.1 ≤ r.2 := fun r hr =>
    ((mem_interleave s t).1 hr).elim (hs r) (ht r)
  rw [union, (has_foldr_insertRange h).2]
  simp only [has_iff, mem_interleave]
  constructor
  · rintro ⟨r, hr | hr, hn⟩
    · exact .inl ⟨r, hr, hn⟩
    · exact .inr ⟨r, hr, hn⟩
  · rintro (⟨r, hr, hn⟩ | ⟨r, hr, hn⟩)
    · exact ⟨r, .inl hr, hn⟩
    · exact ⟨r, .inr hr, hn⟩

/-! ## Complement -/

/-- The last code point of a character. -/
def lastPoint : Nat := 0x10ffff

/-- The code point of the next character. -/
def nextPoint (n : Nat) : Nat := if n = 0xd7ff then 0xe000 else n + 1

/-- The code point of the character before. -/
def prevPoint (n : Nat) : Nat := if n = 0xe000 then 0xd7ff else n - 1

/-- The range between two code points, the lesser one first. -/
def between (m n : Nat) : Nat × Nat := (min m n, max m n)

/-- The gaps after a range: from the character that follows it to the one before the next range,
    and from the last range to the end. -/
def gapsAfter (range : Nat × Nat) : Ranges → Ranges
  | [] => if range.2 < lastPoint then [(nextPoint range.2, lastPoint)] else []
  | first :: rest => between (nextPoint range.2) (prevPoint first.1) :: gapsAfter first rest

/-- The characters that are not in the set. -/
def complement : Ranges → Ranges
  | [] => [(0, lastPoint)]
  | first :: rest =>
    if 0 < first.1 then (0, prevPoint first.1) :: gapsAfter first rest else gapsAfter first rest

example : complement (complement [(0x30, 0x39), (0x5f, 0x5f)]) = [(0x30, 0x39), (0x5f, 0x5f)] := by
  decide

/-! ## Intersection and difference -/

/-- The common part of two ranges, if there is one. -/
def overlap (r s : Nat × Nat) : Ranges :=
  if max r.1 s.1 ≤ min r.2 s.2 then [(max r.1 s.1, min r.2 s.2)] else []

/-- The characters of both sets. -/
def inter : Ranges → Ranges → Ranges
  | [], _ => []
  | _, [] => []
  | r :: s, r' :: t =>
    overlap r r' ++ if r.2 < r'.2 then inter s (r' :: t) else inter (r :: s) t
termination_by s t => s.length + t.length

/-- The characters of the first set that are not in the second. -/
def diff : Ranges → Ranges → Ranges
  | [], _ => []
  | s, [] => s
  | r :: s, r' :: t =>
    if r'.2 < r.1 then diff (r :: s) t
    else if r.2 < r'.1 then r :: diff s (r' :: t)
    else
      (if r.1 < r'.1 then [(r.1, prevPoint r'.1)] else []) ++
        if r'.2 < r.2 then diff ((nextPoint r'.2, r.2) :: s) t else diff s (r' :: t)
termination_by s t => s.length + t.length

/-- The characters in exactly one of the sets. -/
def symmDiff (s t : Ranges) : Ranges := diff (union s t) (inter s t)

end Ranges

end Gherkin.Text
