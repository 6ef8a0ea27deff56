/-
  Gherkin.Text.Property.Break

  The parts that characters play where a text is cut into graphemes, words and
  sentences. Classes of a few signs are given by a table, in version 16 of the
  Unicode standard; the others follow from categories, properties and scripts.
-/
import Gherkin.Text.Property.Derived
import Gherkin.Text.Property.Script

namespace Gherkin.Text.Property

/-! ## Signs with rules of their own -/

/-- The carriage return. -/
def carriageReturn : Ranges := [(0xd, 0xd)]

/-- The line feed. -/
def lineFeed : Ranges := [(0xa, 0xa)]

/-- The joiner of pictures. -/
def joiner : Ranges := [(0x200d, 0x200d)]

/-- Decimal digits, and the signs that go before numbers or after them. -/
def numeral : Ranges :=
  digitRanges.union
    [(0x600, 0x605), (0x6dd, 0x6dd), (0x890, 0x891), (0x8e2, 0x8e2), (0x19da, 0x19da),
     (0x110bd, 0x110bd), (0x110cd, 0x110cd)]

/-! ## Graphemes -/

/-- Syllables of a first and a middle letter, in the Hangul script. -/
def openSyllable : Ranges := .ofRuns [⟨0xac00, 0xd788, 28⟩]

/-- Syllables with a last letter, in the Hangul script. -/
def closedSyllable : Ranges := Ranges.diff [(0xac00, 0xd7a3)] openSyllable

/-- Marks that take room and go with the character before, and two vowels that do. -/
def graphemeSpacingMark : Ranges :=
  ((spacingMark.diff graphemeExtend).union [(0xe33, 0xe33), (0xeb3, 0xeb3)]).diff
    [(0x102b, 0x102c), (0x1038, 0x1038), (0x1062, 0x1064), (0x1067, 0x106d), (0x1083, 0x1083),
     (0x1087, 0x108c), (0x108f, 0x108f), (0x109a, 0x109c), (0x1a61, 0x1a61), (0x1a63, 0x1a64),
     (0xaa7b, 0xaa7b), (0xaa7d, 0xaa7d), (0x11720, 0x11721)]

/-- What a character is to the graphemes of a text. -/
def graphemeBreaks : List NamedSet :=
  [⟨["CR"], carriageReturn⟩,
   ⟨["LF"], lineFeed⟩,
   ⟨["CN", "Control"],
    [(0x0, 0x9), (0xb, 0xc), (0xe, 0x1f), (0x7f, 0x9f), (0xad, 0xad), (0x61c, 0x61c),
     (0x180e, 0x180e), (0x200b, 0x200b), (0x200e, 0x200f), (0x2028, 0x202e), (0x2060, 0x206f),
     (0xfeff, 0xfeff), (0xfff0, 0xfffb), (0x13430, 0x1343f), (0x1bca0, 0x1bca3), (0x1d173, 0x1d17a),
     (0xe0000, 0xe001f), (0xe0080, 0xe00ff), (0xe01f0, 0xe0fff)]⟩,
   ⟨["EX", "Extend"], graphemeExtend.union emojiModifier⟩,
   ⟨["L"], [(0x1100, 0x115f), (0xa960, 0xa97c)]⟩,
   ⟨["LV"], openSyllable⟩,
   ⟨["LVT"], closedSyllable⟩,
   ⟨["PP", "Prepend"],
    [(0x600, 0x605), (0x6dd, 0x6dd), (0x70f, 0x70f), (0x890, 0x891), (0x8e2, 0x8e2), (0xd4e, 0xd4e),
     (0x110bd, 0x110bd), (0x110cd, 0x110cd), (0x111c2, 0x111c3), (0x113d1, 0x113d1),
     (0x1193f, 0x1193f), (0x11941, 0x11941), (0x11a3a, 0x11a3a), (0x11a84, 0x11a89),
     (0x11d46, 0x11d46), (0x11f02, 0x11f02)]⟩,
   ⟨["RI", "Regional_Indicator"], regionalIndicator⟩,
   ⟨["SM", "SpacingMark"], graphemeSpacingMark⟩,
   ⟨["T"], [(0x11a8, 0x11ff), (0xd7cb, 0xd7fb)]⟩,
   ⟨["V"], [(0x1160, 0x11a7), (0xd7b0, 0xd7c6), (0x16d63, 0x16d63), (0x16d67, 0x16d6a)]⟩,
   ⟨["ZWJ"], joiner⟩]

/-! ## Sentences -/

/-- Full stops, which end a sentence or not. -/
def fullStop : Ranges := [(0x2e, 0x2e), (0x2024, 0x2024), (0xfe52, 0xfe52), (0xff0e, 0xff0e)]

/-- Signs that separate paragraphs. -/
def paragraphSign : Ranges := [(0x85, 0x85), (0x2028, 0x2029)]

/-- Small letters in sentences. -/
def sentenceLower : Ranges := lowercase.diff (graphemeExtend.union mkhedruli)

/-- Capital letters in sentences. -/
def sentenceUpper : Ranges := titlecaseLetter.union (uppercase.diff mtavruli)

/-- Characters that go with the one before in sentences. -/
def sentenceExtend : Ranges := .unions [graphemeExtend, spacingMark, joiner]

/-- Letters without case in sentences. -/
def sentenceLetter : Ranges :=
  (alphabetic.union [(0x5f3, 0x5f3)]).diff (.unions [sentenceLower, sentenceUpper, sentenceExtend])

/-- What a character is to the sentences of a text. -/
def sentenceBreaks : List NamedSet :=
  [⟨["AT", "ATerm"], fullStop⟩,
   ⟨["CL", "Close"],
    [(0x22, 0x22), (0x27, 0x29), (0x5b, 0x5b), (0x5d, 0x5d), (0x7b, 0x7b), (0x7d, 0x7d),
     (0xab, 0xab), (0xbb, 0xbb), (0xf3a, 0xf3d), (0x169b, 0x169c), (0x2018, 0x201f),
     (0x2039, 0x203a), (0x2045, 0x2046), (0x207d, 0x207e), (0x208d, 0x208e), (0x2308, 0x230b),
     (0x2329, 0x232a), (0x275b, 0x2760), (0x2768, 0x2775), (0x27c5, 0x27c6), (0x27e6, 0x27ef),
     (0x2983, 0x2998), (0x29d8, 0x29db), (0x29fc, 0x29fd), (0x2e00, 0x2e0d), (0x2e1c, 0x2e1d),
     (0x2e20, 0x2e29), (0x2e42, 0x2e42), (0x2e55, 0x2e5c), (0x3008, 0x3011), (0x3014, 0x301b),
     (0x301d, 0x301f), (0xfd3e, 0xfd3f), (0xfe17, 0xfe18), (0xfe35, 0xfe44), (0xfe47, 0xfe48),
     (0xfe59, 0xfe5e), (0xff08, 0xff09), (0xff3b, 0xff3b), (0xff3d, 0xff3d), (0xff5b, 0xff5b),
     (0xff5d, 0xff5d), (0xff5f, 0xff60), (0xff62, 0xff63), (0x1f676, 0x1f678)]⟩,
   ⟨["CR"], carriageReturn⟩,
   ⟨["EX", "Extend"], sentenceExtend⟩,
   ⟨["FO", "Format"],
    [(0xad, 0xad), (0x61c, 0x61c), (0x70f, 0x70f), (0x180e, 0x180e), (0x200b, 0x200b),
     (0x200e, 0x200f), (0x202a, 0x202e), (0x2060, 0x2064), (0x2066, 0x206f), (0xfeff, 0xfeff),
     (0xfff9, 0xfffb), (0x13430, 0x1343f), (0x1bca0, 0x1bca3), (0x1d173, 0x1d17a),
     (0xe0001, 0xe0001)]⟩,
   ⟨["LE", "OLetter"], sentenceLetter⟩,
   ⟨["LF"], lineFeed⟩,
   ⟨["LO", "Lower"], sentenceLower⟩,
   ⟨["NU", "Numeric"], numeral.union [(0x66b, 0x66c)]⟩,
   ⟨["SC", "SContinue"],
    [(0x2c, 0x2d), (0x3a, 0x3b), (0x37e, 0x37e), (0x55d, 0x55d), (0x60c, 0x60d), (0x7f8, 0x7f8),
     (0x1802, 0x1802), (0x1808, 0x1808), (0x2013, 0x2014), (0x3001, 0x3001), (0xfe10, 0xfe11),
     (0xfe13, 0xfe14), (0xfe31, 0xfe32), (0xfe50, 0xfe51), (0xfe54, 0xfe55), (0xfe58, 0xfe58),
     (0xfe63, 0xfe63), (0xff0c, 0xff0d), (0xff1a, 0xff1b), (0xff64, 0xff64)]⟩,
   ⟨["SE", "Sep"], paragraphSign⟩,
   ⟨["SP", "Sp"], blankRanges.diff (.unions [carriageReturn, lineFeed, paragraphSign])⟩,
   ⟨["ST", "STerm"], sentenceTerminal.diff fullStop⟩,
   ⟨["UP", "Upper"], sentenceUpper⟩]

/-! ## Words -/

/-- Characters that go with the one before in words. -/
def wordExtend : Ranges :=
  (Ranges.unions [graphemeExtend, spacingMark, emojiModifier]).diff joiner

/-- Letters of the Hebrew script. -/
def hebrewLetter : Ranges := (ofScript "Hebrew").inter otherLetter

/-- Letters that words of the Katakana script are written with. -/
def wordKatakana : Ranges :=
  (ofScript "Katakana").union
    [(0x3031, 0x3035), (0x309b, 0x309c), (0x30a0, 0x30a0), (0x30fc, 0x30fc), (0xff70, 0xff70)]

/-- Scripts that put no spaces between words. -/
def unspacedScripts : List String :=
  ["Ahom", "Hiragana", "Khmer", "Lao", "Myanmar", "New_Tai_Lue", "Tai_Le", "Tai_Tham", "Tai_Viet",
   "Thai"]

/-- Signs that count as letters in words. -/
def letterSign : Ranges :=
  [(0x2c2, 0x2c5), (0x2d2, 0x2d7), (0x2de, 0x2df), (0x2e5, 0x2eb), (0x2ed, 0x2ed), (0x2ef, 0x2ff),
   (0x55a, 0x55c), (0x55e, 0x55e), (0x58a, 0x58a), (0x5f3, 0x5f3), (0x70f, 0x70f), (0xa708, 0xa716),
   (0xa720, 0xa721), (0xa789, 0xa78a), (0xab5b, 0xab5b)]

/-- Letters of scripts that put spaces between words. -/
def wordLetter : Ranges :=
  (alphabetic.union letterSign).diff
    (.unions ([ideographic, wordKatakana, wordExtend, hebrewLetter] ++
      unspacedScripts.map ofScript))

/-- What a character is to the words of a text. -/
def wordBreaks : List NamedSet :=
  [⟨["LE", "ALetter"], wordLetter⟩,
   ⟨["CR"], carriageReturn⟩,
   ⟨["DQ", "Double_Quote"], [(0x22, 0x22)]⟩,
   ⟨["Extend"], wordExtend⟩,
   ⟨["EX", "ExtendNumLet"], connectorPunctuation.union [(0x202f, 0x202f)]⟩,
   ⟨["FO", "Format"],
    [(0xad, 0xad), (0x61c, 0x61c), (0x180e, 0x180e), (0x200e, 0x200f), (0x202a, 0x202e),
     (0x2060, 0x2064), (0x2066, 0x206f), (0xfeff, 0xfeff), (0xfff9, 0xfffb), (0x13430, 0x1343f),
     (0x1bca0, 0x1bca3), (0x1d173, 0x1d17a), (0xe0001, 0xe0001)]⟩,
   ⟨["HL", "Hebrew_Letter"], hebrewLetter⟩,
   ⟨["KA", "Katakana"], wordKatakana⟩,
   ⟨["LF"], lineFeed⟩,
   ⟨["ML", "MidLetter"], midLetter⟩,
   ⟨["MN", "MidNum"],
    [(0x2c, 0x2c), (0x3b, 0x3b), (0x37e, 0x37e), (0x589, 0x589), (0x60c, 0x60d), (0x66c, 0x66c),
     (0x7f8, 0x7f8), (0x2044, 0x2044), (0xfe50, 0xfe50), (0xfe54, 0xfe54), (0xff0c, 0xff0c),
     (0xff1b, 0xff1b)]⟩,
   ⟨["MB", "MidNumLet"], midNumLet⟩,
   ⟨["NL", "Newline"], [(0xb, 0xc), (0x85, 0x85), (0x2028, 0x2029)]⟩,
   ⟨["NU", "Numeric"], numeral.union [(0x66b, 0x66b)]⟩,
   ⟨["RI", "Regional_Indicator"], regionalIndicator⟩,
   ⟨["SQ", "Single_Quote"], singleQuote⟩,
   ⟨["WSegSpace"],
    [(0x20, 0x20), (0x1680, 0x1680), (0x2000, 0x2006), (0x2008, 0x200a), (0x205f, 0x205f),
     (0x3000, 0x3000)]⟩,
   ⟨["ZWJ"], joiner⟩]

end Gherkin.Text.Property
