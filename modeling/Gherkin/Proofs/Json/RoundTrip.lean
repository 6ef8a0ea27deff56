/-
  Gherkin.Proofs.Json.RoundTrip

  Reading undoes writing: from the indented form of a value the reader gets the
  value back, whatever the strings in it are. The value may hold any numbers that
  the reader tells from one another.
-/
import Gherkin.Json.Reader
import Gherkin.Proofs.Number.Integer
import Mathlib.Data.List.DropRight

namespace Gherkin.Json

open Number (spanDigits digitsValue digitValue twoPow)

/-! ## Blanks -/

theorem skipSpace_newline (depth : Nat) (s : List Char) :
    skipSpace (newline depth ++ s) = skipSpace s := by
  have hblank : ∀ c ∈ newline depth, isSpace c = true := by
    intro c hc
    rcases List.mem_cons.1 hc with rfl | hc
    · rfl
    · rw [(List.mem_replicate.1 hc).2]
      rfl
  exact List.dropWhile_append_of_pos hblank

theorem skipSpace_idem (s : List Char) : skipSpace (skipSpace s) = skipSpace s :=
  List.dropWhile_idempotent _ _

theorem skipSpace_cons {c : Char} (hc : isSpace c = false) (s : List Char) :
    skipSpace (c :: s) = c :: s := by
  simp [skipSpace, hc]

/-! ## Strings -/

theorem hexDigit?_digitChar : ∀ d < 16, hexDigit? (Nat.digitChar d) = some d := by decide

theorem hexValue?_digitChar {n : Nat} (h : n < 65536) :
    hexValue? (Nat.digitChar (n / 4096 % 16)) (Nat.digitChar (n / 256 % 16))
      (Nat.digitChar (n / 16 % 16)) (Nat.digitChar (n % 16)) = some n := by
  have hdigit : ∀ m, hexDigit? (Nat.digitChar (m % 16)) = some (m % 16) := fun m =>
    hexDigit?_digitChar _ (Nat.mod_lt _ (by decide))
  simp only [hexValue?, hdigit, Option.bind_eq_bind, Option.bind_some, Option.pure_def,
    Option.some.injEq]
  omega

/-- The piece that a character is written as: controls without a letter of their own are written
    by number. -/
def pieceOf (c : Char) : Piece :=
  if c.toNat < 0x20 ∧ c ∉ ['\x08', '\x0c', '\n', '\r', '\t'] then .unit c.toNat else .char c

theorem readPieces?_writeChar (c : Char) (s : List Char) :
    readPieces? (writeChar c ++ s) =
      (readPieces? s).map fun (pieces, rest) => (pieceOf c :: pieces, rest) := by
  have hbind : ∀ piece : Piece, (do
      let (pieces, rest) ← readPieces? s
      return (piece :: pieces, rest)) =
      (readPieces? s).map fun (pieces, rest) => (piece :: pieces, rest) := by
    intro piece
    cases readPieces? s <;> rfl
  rw [← hbind]
  unfold writeChar
  -- first the characters with a letter of their own, then controls, then all others
  split
  next h => subst h; simp [readPieces?, escape?, pieceOf]
  split
  next h => subst h; simp [readPieces?, escape?, pieceOf]
  split
  next h => subst h; simp [readPieces?, escape?, pieceOf]
  split
  next h => subst h; simp [readPieces?, escape?, pieceOf]
  split
  next h => subst h; simp [readPieces?, escape?, pieceOf]
  split
  next h => subst h; simp [readPieces?, escape?, pieceOf]
  split
  next h => subst h; simp [readPieces?, escape?, pieceOf]
  split
  next hcontrol =>
    have hvalue := hexValue?_digitChar (n := c.toNat) (by omega)
    simp_all [readPieces?, hex4, pieceOf]
  next hquote hslash _ _ _ _ _ hcontrol =>
    have hpiece : pieceOf c = .char c := by simp [pieceOf, hcontrol]
    rw [List.singleton_append, hpiece, readPieces?.eq_def]
    split <;> simp_all [Nat.not_lt.2]

theorem joinPieces?_pieceOf (c : Char) (pieces : List Piece) :
    joinPieces? (pieceOf c :: pieces) = (joinPieces? pieces).map (c :: ·) := by
  unfold pieceOf
  split
  next hcontrol =>
    have hhigh : isHigh c.toNat = false := by simp [isHigh]; omega
    have hlow : isLow c.toNat = false := by simp [isLow]; omega
    have hsame : Char.ofNat c.toNat = c := Char.ofNat_toNat c
    cases pieces with
    | nil => simp [joinPieces?, hhigh, hlow, hsame]
    | cons piece pieces => cases piece <;> simp [joinPieces?, hhigh, hlow, hsame]
  next => rw [joinPieces?]

theorem readPieces?_flatMap_writeChar (s rest : List Char) :
    readPieces? (s.flatMap writeChar ++ '"' :: rest) = some (s.map pieceOf, rest) := by
  induction s with
  | nil => rfl
  | cons c s ih =>
    rw [List.flatMap_cons, List.append_assoc, readPieces?_writeChar, ih]
    rfl

theorem joinPieces?_map_pieceOf (s : List Char) : joinPieces? (s.map pieceOf) = some s := by
  induction s with
  | nil => rfl
  | cons c s ih => rw [List.map_cons, joinPieces?_pieceOf, ih, Option.map_some]

/-- What is written of a string is its opening quotation mark and what gives the string back. -/
theorem exists_writeString (content : Option String) :
    ∃ s, writeString content = '"' :: s ∧
      ∀ rest, readString? (s ++ rest) = some (content, rest) := by
  cases content with
  | some text =>
    refine ⟨text.toList.flatMap writeChar ++ ['"'], rfl, ?_⟩
    intro rest
    rw [readString?, List.append_assoc, List.singleton_append, readPieces?_flatMap_writeChar]
    simp [joinPieces?_map_pieceOf]
  | none =>
    refine ⟨['\\', 'u', 'd', '8', '0', '0', '"'], by decide, ?_⟩
    intro rest
    -- half of a surrogate pair is a piece that joins to nothing
    have hvalue : hexValue? 'd' '8' '0' '0' = some 0xd800 := by decide
    simp [readString?, readPieces?, hvalue, joinPieces?, isHigh]

/-! ## Numbers -/

theorem digitsValue_toDigits (n : Nat) : digitsValue (Nat.toDigits 10 n) = n := by
  have hvalue : Nat.ofDigitChars 10 (Nat.toDigits 10 n) 0 = n := Nat.ofDigitChars_ten_toDigits
  rw [Nat.ofDigitChars_eq_foldl] at hvalue
  simpa only [digitsValue, digitValue, Nat.mul_comm] using hvalue

/-- A number has no leading zero. -/
theorem head?_toDigits (n : Nat) (h : 0 < n) : (Nat.toDigits 10 n).head? ≠ some '0' := by
  induction n using Nat.strongRecOn with
  | ind n ih =>
    rcases Nat.lt_or_ge n 10 with hlt | hge
    · have hdigit : ∀ d < 10, 0 < d → Nat.digitChar d ≠ '0' := by decide
      rw [Nat.toDigits_of_lt_base hlt, List.head?_cons]
      exact fun hzero => hdigit n hlt h (Option.some.inj hzero)
    · have hhead := ih (n / 10) (by omega) (by omega)
      rw [Nat.toDigits_of_base_le (by decide) hge, List.head?_append]
      cases hfirst : (Nat.toDigits 10 (n / 10)).head? with
      | none => exact absurd (List.head?_eq_none_iff.1 hfirst) Nat.toDigits_ne_nil
      | some c => rwa [hfirst] at hhead

/-- What may follow a value in its container, or at the end. -/
def Ends (rest : List Char) : Prop := ∀ c ∈ rest.head?, c = ',' ∨ c = '\n'

theorem ends_nil : Ends [] := by simp [Ends]

theorem ends_comma (s : List Char) : Ends (',' :: s) := by simp [Ends]

theorem ends_newline (depth : Nat) (s : List Char) : Ends (newline depth ++ s) := by
  simp [Ends, newline]

theorem spanDigits_toDigits (n : Nat) {rest : List Char} (hrest : Ends rest) :
    spanDigits (Nat.toDigits 10 n ++ rest) = (Nat.toDigits 10 n, rest) := by
  have hdigits : ∀ c ∈ Nat.toDigits 10 n, c.isDigit = true := fun c hc =>
    Nat.isDigit_of_mem_toDigits (by decide) (by decide) hc
  refine Number.spanDigits_append hdigits fun c hc => ?_
  rcases hrest c hc with rfl | rfl <;> decide

theorem readUnsigned?_toDigits {n : Nat} (h : n < twoPow 64) {rest : List Char}
    (hrest : Ends rest) :
    readUnsigned? (Nat.toDigits 10 n ++ rest) = some (.number n, rest) := by
  have hfraction : readFraction? rest = some (false, rest) := by
    unfold readFraction?
    split
    · have := hrest '.' rfl
      simp at this
    · rfl
  have hexponent : readExponent? rest = some (false, rest) := by
    cases rest with
    | nil => rfl
    | cons c s =>
      rcases hrest c rfl with rfl | rfl <;> rfl
  have hzero : (Nat.toDigits 10 n).head? = some '0' → (Nat.toDigits 10 n).length = 1 := by
    intro hhead
    cases n with
    | zero => rfl
    | succ n => exact absurd hhead (head?_toDigits _ (by omega))
  have hleading : ((Nat.toDigits 10 n).isEmpty ||
      ((Nat.toDigits 10 n).head? == some '0' && (Nat.toDigits 10 n).length != 1)) = false := by
    simpa [Nat.toDigits_ne_nil] using hzero
  unfold readUnsigned?
  simp only [spanDigits_toDigits n hrest, hleading, digitsValue_toDigits]
  simp [hfraction, hexponent, Nat.not_le.2 h]

theorem readNumber?_toDigits {n : Nat} (h : n < twoPow 64) {rest : List Char}
    (hrest : Ends rest) : readNumber? (Nat.toDigits 10 n ++ rest) = some (.number n, rest) := by
  rw [← readUnsigned?_toDigits h hrest]
  unfold readNumber?
  split
  next s hminus =>
    -- no digit is a minus
    cases hdigits : Nat.toDigits 10 n with
    | nil => exact absurd hdigits Nat.toDigits_ne_nil
    | cons c s =>
      have hc : c.isDigit = true :=
        Nat.isDigit_of_mem_toDigits (b := 10) (n := n) (by decide) (by decide) (by simp [hdigits])
      rw [hdigits, List.cons_append] at hminus
      obtain ⟨rfl, -⟩ := List.cons.inj hminus
      exact absurd hc (by decide)
  next => rfl

/-! ## Values -/

mutual

/-- Whether the reader can tell a value from others: its numbers are natural ones on 64 bits. -/
def Legible : Json → Prop
  | .number n => n < twoPow 64
  | .otherNumber _ => False
  | .array items => LegibleItems items
  | .object members => LegibleMembers members
  | .null | .bool _ | .string _ => True

/-- Whether items are legible. -/
def LegibleItems : List Json → Prop
  | [] => True
  | item :: items => item.Legible ∧ LegibleItems items

/-- Whether the values of members are legible. -/
def LegibleMembers : List (Option String × Json) → Prop
  | [] => True
  | (_, value) :: members => value.Legible ∧ LegibleMembers members

end

theorem readValue?_skipSpace (fuel : Nat) (s : List Char) :
    readValue? fuel (skipSpace s) = readValue? fuel s := by
  cases fuel with
  | zero => rfl
  | succ fuel => rw [readValue?, readValue?, skipSpace_idem]

theorem readItems?_skipSpace (fuel : Nat) (s : List Char) :
    readItems? fuel (skipSpace s) = readItems? fuel s := by
  cases fuel with
  | zero => rfl
  | succ fuel => rw [readItems?, readItems?, readValue?_skipSpace]

theorem readMembers?_skipSpace (fuel : Nat) (s : List Char) :
    readMembers? fuel (skipSpace s) = readMembers? fuel s := by
  cases fuel with
  | zero => rfl
  | succ fuel => rw [readMembers?, readMembers?, skipSpace_idem]

theorem digit_notSpace {c : Char} (h : c.isDigit = true) : isSpace c = false := by
  cases hspace : isSpace c with
  | false => rfl
  | true =>
    simp only [isSpace, Bool.or_eq_true, decide_eq_true_eq] at hspace
    rcases hspace with ((rfl | rfl) | rfl) | rfl <;> exact absurd h (by decide)

theorem exists_toDigits (n : Nat) : ∃ c s, Nat.toDigits 10 n = c :: s ∧ c.isDigit = true := by
  cases hdigits : Nat.toDigits 10 n with
  | nil => exact absurd hdigits Nat.toDigits_ne_nil
  | cons c s =>
    exact ⟨c, s, rfl,
      Nat.isDigit_of_mem_toDigits (b := 10) (n := n) (by decide) (by decide) (by simp [hdigits])⟩

/-- Nothing that is written starts with a blank or like the end of an array. -/
theorem exists_write (json : Json) (h : json.Legible) (depth : Nat) :
    ∃ c s, json.write depth = c :: s ∧ isSpace c = false ∧ c ≠ ']' := by
  have henclose : ∀ opening closing parts, isSpace opening = false → opening ≠ ']' →
      ∃ c s, enclose opening closing depth parts = c :: s ∧ isSpace c = false ∧ c ≠ ']' := by
    intro opening closing parts hspace hend
    unfold enclose
    split
    · exact ⟨_, _, rfl, hspace, hend⟩
    · exact ⟨_, _, rfl, hspace, hend⟩
  cases json with
  | null => exact ⟨_, _, rfl, by decide, by decide⟩
  | bool value => cases value <;> exact ⟨_, _, rfl, by decide, by decide⟩
  | number n =>
    obtain ⟨c, s, hdigits, hc⟩ := exists_toDigits n
    refine ⟨c, s, hdigits, digit_notSpace hc, ?_⟩
    rintro rfl
    exact absurd hc (by decide)
  | otherNumber literal => exact h.elim
  | string content =>
    obtain ⟨s, hs, -⟩ := exists_writeString content
    exact ⟨_, s, hs, by decide, by decide⟩
  | array items =>
    rw [write]
    exact henclose _ _ _ (by decide) (by decide)
  | object members =>
    rw [write]
    exact henclose _ _ _ (by decide) (by decide)

/-- Digits are read as a number: all other values start with a character that is no digit. -/
theorem readValue?_toDigits {n : Nat} (h : n < twoPow 64) {rest : List Char} (hrest : Ends rest)
    (fuel : Nat) :
    readValue? (fuel + 1) (Nat.toDigits 10 n ++ rest) = some (.number n, rest) := by
  have hread := readNumber?_toDigits h hrest
  obtain ⟨c, s, hdigits, hc⟩ := exists_toDigits n
  rw [hdigits, List.cons_append] at hread ⊢
  rw [readValue?, skipSpace_cons (digit_notSpace hc)]
  split
  case h_7 => exact hread
  all_goals
    next hother =>
      obtain ⟨rfl, -⟩ := List.cons.inj hother
      exact absurd hc (by decide)

theorem readValue?_string (content : Option String) (rest : List Char) (fuel : Nat) :
    readValue? (fuel + 1) (writeString content ++ rest) = some (.string content, rest) := by
  obtain ⟨s, hs, hread⟩ := exists_writeString content
  rw [hs, List.cons_append, readValue?, skipSpace_cons (by decide)]
  simp [hread]

/-- What stands between the written parts of a container: the first part on its own line, and a
    comma before the others. -/
theorem writeParts_cons (depth : Nat) (part : List Char) (parts : List (List Char)) :
    writeParts depth (part :: parts) =
      newline depth ++ (part ++ if parts.isEmpty then [] else ',' :: writeParts depth parts) := by
  cases parts <;> simp [writeParts]

/-- The written items of an array do not look like its end. -/
theorem skipSpace_writeItems (item : Json) (h : item.Legible) (depth : Nat)
    (parts : List (List Char)) (tail : List Char) :
    ∀ s, skipSpace (writeParts depth (item.write depth :: parts) ++ tail) ≠ ']' :: s := by
  intro s hs
  obtain ⟨c, t, hwrite, hspace, hend⟩ := exists_write item h depth
  rw [writeParts_cons, List.append_assoc, skipSpace_newline, hwrite, List.cons_append,
    List.cons_append, skipSpace_cons hspace] at hs
  exact hend (List.cons.inj hs).1

/-- What is written of a member: its key, a colon and its value. -/
def memberText (depth : Nat) (key : Option String) (value : Json) : List Char :=
  writeString key ++ [':', ' '] ++ value.write depth

theorem writeMembers_cons (depth : Nat) (key : Option String) (value : Json)
    (members : List (Option String × Json)) :
    writeMembers depth ((key, value) :: members) =
      memberText depth key value :: writeMembers depth members := by
  rw [writeMembers, memberText]

/-- The written members of an object start with a string, not with its end. -/
theorem skipSpace_writeMembers (depth : Nat) (key : Option String) (value : Json)
    (parts : List (List Char)) (tail : List Char) :
    ∃ s, skipSpace (writeParts depth (memberText depth key value :: parts) ++ tail) = '"' :: s ∧
      readString? s = some (key, ':' :: ' ' :: (value.write depth ++
        ((if parts.isEmpty then [] else ',' :: writeParts depth parts) ++ tail))) := by
  obtain ⟨s, hs, hread⟩ := exists_writeString key
  refine ⟨_, ?_, hread _⟩
  rw [writeParts_cons, memberText, hs, List.append_assoc, skipSpace_newline]
  simp only [List.append_assoc, List.cons_append, List.nil_append]
  exact skipSpace_cons (by decide) _

mutual

/-- A value is read back from what is written of it. The reader takes at least one character for
    each value and each member, so fuel beyond the length of the text is enough. -/
theorem readValue?_write (json : Json) (h : json.Legible) (depth fuel : Nat) (rest : List Char)
    (hfuel : (json.write depth).length < fuel) (hrest : Ends rest) :
    readValue? fuel (json.write depth ++ rest) = some (json, rest) := by
  cases fuel with
  | zero => omega
  | succ fuel =>
    cases json with
    | null => simp [write, readValue?, skipSpace, isSpace]
    | bool value => cases value <;> simp [write, readValue?, skipSpace, isSpace]
    | number n =>
      rw [Legible] at h
      rw [write, readValue?_toDigits h hrest]
    | otherNumber literal => exact h.elim
    | string content => rw [write, readValue?_string]
    | array items =>
      cases items with
      | nil => simp [write, writeItems, enclose, readValue?, skipSpace, isSpace]
      | cons item items =>
        rw [Legible, LegibleItems] at h
        simp only [write, writeItems, enclose, List.isEmpty_cons, Bool.false_eq_true, if_false,
          List.cons_append, List.append_assoc, List.nil_append, List.length_cons,
          List.length_append] at hfuel ⊢
        -- the opening bracket is paid for by the fuel of this step
        have hitems := readItems?_write item items h.1 h.2 (depth + 1) depth fuel rest
          (by omega)
        rw [readValue?, skipSpace_cons (by decide)]
        simp only
        split
        next hend => exact absurd hend (skipSpace_writeItems item h.1 _ _ _ _)
        next => rw [readItems?_skipSpace, hitems, Option.map_some]
    | object members =>
      cases members with
      | nil => simp [write, writeMembers, enclose, readValue?, skipSpace, isSpace]
      | cons member members =>
        obtain ⟨key, value⟩ := member
        rw [Legible, LegibleMembers] at h
        simp only [write, writeMembers_cons, enclose, List.isEmpty_cons, Bool.false_eq_true,
          if_false, List.cons_append, List.append_assoc, List.nil_append, List.length_cons,
          List.length_append] at hfuel ⊢
        have hmembers := readMembers?_write key value members h.1 h.2 (depth + 1) depth fuel
          rest (by omega)
        obtain ⟨s, hs, -⟩ := skipSpace_writeMembers (depth + 1) key value
          (writeMembers (depth + 1) members) (newline depth ++ '\x7d' :: rest)
        rw [readValue?, skipSpace_cons (by decide)]
        simp only
        split
        next hend => rw [hs] at hend; cases hend
        next => rw [readMembers?_skipSpace, hmembers, Option.map_some]
termination_by fuel

/-- So are the items of an array, up to its closing bracket. -/
theorem readItems?_write (item : Json) (items : List Json) (h : item.Legible)
    (hitems : LegibleItems items) (depth outer fuel : Nat) (rest : List Char)
    (hfuel : (writeParts depth (item.write depth :: writeItems depth items)).length < fuel) :
    readItems? fuel (writeParts depth (item.write depth :: writeItems depth items) ++
      (newline outer ++ ']' :: rest)) = some (item :: items, rest) := by
  cases fuel with
  | zero => omega
  | succ fuel =>
    rw [writeParts_cons] at hfuel ⊢
    rw [readItems?, List.append_assoc, ← readValue?_skipSpace, skipSpace_newline,
      readValue?_skipSpace, List.append_assoc]
    simp only [List.length_append] at hfuel
    have hlength : 0 < (newline depth).length := by simp [newline]
    cases items with
    | nil =>
      have hfirst := readValue?_write item h depth fuel (newline outer ++ ']' :: rest)
        (by omega) (ends_newline _ _)
      simp [writeItems, hfirst, skipSpace_newline, skipSpace_cons (c := ']') (by decide)]
    | cons next items =>
      rw [LegibleItems] at hitems
      have hfirst := fun s => readValue?_write item h depth fuel (',' :: s)
        (by omega) (ends_comma _)
      simp only [writeItems, List.isEmpty_cons, Bool.false_eq_true, if_false,
        List.length_cons] at hfuel
      have hothers := readItems?_write next items hitems.1 hitems.2 depth outer fuel rest
        (by omega)
      simp [writeItems, hfirst, skipSpace_cons (c := ',') (by decide), hothers]
termination_by fuel

/-- So are the members of an object, up to its closing brace. -/
theorem readMembers?_write (key : Option String) (value : Json)
    (members : List (Option String × Json)) (h : value.Legible)
    (hmembers : LegibleMembers members) (depth outer fuel : Nat) (rest : List Char)
    (hfuel : (writeParts depth
      (memberText depth key value :: writeMembers depth members)).length < fuel) :
    readMembers? fuel (writeParts depth (memberText depth key value :: writeMembers depth members) ++
      (newline outer ++ '\x7d' :: rest)) = some ((key, value) :: members, rest) := by
  cases fuel with
  | zero => omega
  | succ fuel =>
    obtain ⟨s, hs, hkey⟩ := skipSpace_writeMembers depth key value (writeMembers depth members)
      (newline outer ++ '\x7d' :: rest)
    have hblank : ∀ t, readValue? fuel (' ' :: t) = readValue? fuel t := by
      intro t
      rw [← readValue?_skipSpace, ← readValue?_skipSpace fuel t]
      rfl
    rw [writeParts_cons, memberText] at hfuel
    simp only [List.length_append, List.length_cons] at hfuel
    rw [readMembers?, hs]
    cases members with
    | nil =>
      have hfirst := readValue?_write value h depth fuel (newline outer ++ '\x7d' :: rest)
        (by omega) (ends_newline _ _)
      simp only [writeMembers, List.isEmpty_nil, if_true, List.nil_append] at hkey
      simp [hkey, skipSpace_cons (c := ':') (by decide), hblank, hfirst, skipSpace_newline,
        skipSpace_cons (c := '\x7d') (by decide)]
    | cons next members =>
      obtain ⟨nextKey, nextValue⟩ := next
      rw [LegibleMembers] at hmembers
      have hfirst := fun s => readValue?_write value h depth fuel (',' :: s)
        (by omega) (ends_comma _)
      simp only [writeMembers_cons, List.isEmpty_cons, Bool.false_eq_true, if_false,
        List.length_cons] at hfuel
      have hothers := readMembers?_write nextKey nextValue members hmembers.1 hmembers.2 depth
        outer fuel rest (by omega)
      simp only [writeMembers_cons, List.isEmpty_cons, Bool.false_eq_true, if_false,
        List.cons_append] at hkey
      simp [hkey, skipSpace_cons (c := ':') (by decide), hblank, hfirst,
        skipSpace_cons (c := ',') (by decide), hothers]
termination_by fuel

end

/-- Reading undoes writing. -/
theorem read?_pretty (json : Json) (h : json.Legible) : read? json.pretty = some json := by
  have htext : json.pretty.toList = json.write 0 := String.toList_ofList
  have hread : ∀ fuel, (json.write 0).length < fuel →
      readValue? fuel (json.write 0) = some (json, []) := by
    intro fuel hfuel
    have hvalue := readValue?_write json h 0 fuel [] hfuel ends_nil
    rwa [List.append_nil] at hvalue
  have hfuel : (json.write 0).length < 2 * (json.write 0).length + 2 := by omega
  have hend : (skipSpace []).isEmpty = true := rfl
  rw [read?, htext, hread _ hfuel]
  simp only [Option.bind_eq_bind, Option.bind_some, hend, if_true, Option.pure_def]

end Gherkin.Json
