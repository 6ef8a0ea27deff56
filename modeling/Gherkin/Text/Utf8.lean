/-
  Gherkin.Text.Utf8

  Bytes as text in UTF-8. What is no character is cut into the longest pieces
  that could have begun one; a lenient reading puts a replacement character for
  each such piece, a strict one refuses.
-/

namespace Gherkin.Text

/-- How a character begins: the value of its first byte, and the range of each byte to follow. -/
structure Lead where
  value : Nat
  more : List (UInt8 × UInt8)

/-- The range of a byte to follow, unless the first byte narrows it. -/
def anyTail : UInt8 × UInt8 := (0x80, 0xbf)

/-- The character that a byte begins. -/
def lead? (b : UInt8) : Option Lead :=
  if b ≤ 0x7f then some ⟨b.toNat, []⟩
  else if b < 0xc2 then none
  else if b ≤ 0xdf then some ⟨b.toNat % 32, [anyTail]⟩
  else if b ≤ 0xef then
    let second := if b = 0xe0 then (0xa0, 0xbf) else if b = 0xed then (0x80, 0x9f) else anyTail
    some ⟨b.toNat % 16, [second, anyTail]⟩
  else if b ≤ 0xf4 then
    let second := if b = 0xf0 then (0x90, 0xbf) else if b = 0xf4 then (0x80, 0x8f) else anyTail
    some ⟨b.toNat % 8, [second, anyTail, anyTail]⟩
  else none

/-- Takes the bytes that follow a first byte; stops before one out of its range. -/
def takeTail (value : Nat) : List (UInt8 × UInt8) → List UInt8 → Option Nat × List UInt8
  | [], bytes => (some value, bytes)
  | _ :: _, [] => (none, [])
  | (least, greatest) :: more, b :: bytes =>
    if least ≤ b ∧ b ≤ greatest then takeTail (value * 64 + b.toNat % 64) more bytes
    else (none, b :: bytes)

theorem length_takeTail_le (value : Nat) (more : List (UInt8 × UInt8)) (bytes : List UInt8) :
    (takeTail value more bytes).2.length ≤ bytes.length := by
  fun_induction takeTail value more bytes with
  | case1 => simp
  | case2 => simp
  | case3 _ _ _ _ _ _ _ ih => simp only [List.length_cons]; omega
  | case4 => simp

/-- The characters that bytes stand for; none for each piece that is no character. -/
def decode : List UInt8 → List (Option Char)
  | [] => []
  | b :: bytes =>
    match lead? b with
    | none => none :: decode bytes
    | some lead =>
      have := length_takeTail_le lead.value lead.more bytes
      (takeTail lead.value lead.more bytes).1.map Char.ofNat ::
        decode (takeTail lead.value lead.more bytes).2
termination_by bytes => bytes.length

/-- The text that bytes stand for, if every piece is a character. -/
def ofUtf8? (bytes : List UInt8) : Option String := ((decode bytes).mapM id).map String.ofList

/-- The text that bytes stand for, with a replacement character for each other piece. -/
def ofUtf8Lossy (bytes : List UInt8) : String :=
  .ofList ((decode bytes).map fun c => c.getD '\ufffd')

example : ofUtf8Lossy [0x61, 0xe2, 0x82, 0x62, 0xff, 0xc3, 0xa9] = "a\ufffdb\ufffdé" := by
  decide +kernel

end Gherkin.Text
