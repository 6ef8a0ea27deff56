/-
  Gherkin.Text.Property.Category

  General categories and their groups. Each character is in one category; a
  code point that no other category takes is unassigned.
-/
import Gherkin.Text.Digit
import Gherkin.Text.Property.Case
import Gherkin.Text.Property.Letter
import Gherkin.Text.Property.Mark
import Gherkin.Text.Property.Sign

namespace Gherkin.Text.Property

/-! ## Groups -/

/-- Group LC: letters with case. -/
def casedLetter : Ranges := .unions [uppercaseLetter, lowercaseLetter, titlecaseLetter]

/-- Group L: letters. -/
def letter : Ranges := .unions [casedLetter, modifierLetter, otherLetter]

/-- Group M: marks. -/
def mark : Ranges := .unions [nonspacingMark, spacingMark, enclosingMark]

/-- Group N: digits and other numerals. -/
def number : Ranges := .unions [digitRanges, letterNumber, otherNumber]

/-- Group P: punctuation. -/
def punctuation : Ranges :=
  .unions [connectorPunctuation, dashPunctuation, openPunctuation, closePunctuation,
    initialPunctuation, finalPunctuation, otherPunctuation]

/-- Group S: symbols. -/
def symbol : Ranges := .unions [mathSymbol, currencySymbol, modifierSymbol, otherSymbol]

/-- Group Z: separators. -/
def separator : Ranges := .unions [spaceSeparator, lineSeparator, paragraphSeparator]

/-- The characters with a category that says what they are for. -/
def assigned : Ranges :=
  .unions [letter, mark, number, punctuation, symbol, separator, control, format, privateUse]

/-- General category Cn: no character has this code point. -/
def unassigned : Ranges := assigned.complement

/-- The code points that are no characters. -/
def surrogate : Ranges := [(0xd800, 0xdfff)]

/-- Group C: all that has no shape. -/
def other : Ranges := .unions [control, format, surrogate, privateUse, unassigned]

/-! ## Names -/

/-- The general categories and their groups. -/
def categories : List NamedSet :=
  [⟨["Any"], [(0, Ranges.lastPoint)]⟩,
   ⟨["ASCII"], [(0, 0x7f)]⟩,
   ⟨["Assigned"], unassigned.complement⟩,
   ⟨["L", "Letter"], letter⟩,
   ⟨["LC", "Cased_Letter"], casedLetter⟩,
   ⟨["Lu", "Uppercase_Letter"], uppercaseLetter⟩,
   ⟨["Ll", "Lowercase_Letter"], lowercaseLetter⟩,
   ⟨["Lt", "Titlecase_Letter"], titlecaseLetter⟩,
   ⟨["Lm", "Modifier_Letter"], modifierLetter⟩,
   ⟨["Lo", "Other_Letter"], otherLetter⟩,
   ⟨["M", "Mark", "Combining_Mark"], mark⟩,
   ⟨["Mn", "Nonspacing_Mark"], nonspacingMark⟩,
   ⟨["Mc", "Spacing_Mark"], spacingMark⟩,
   ⟨["Me", "Enclosing_Mark"], enclosingMark⟩,
   ⟨["N", "Number"], number⟩,
   ⟨["Nd", "Decimal_Number", "digit"], digitRanges⟩,
   ⟨["Nl", "Letter_Number"], letterNumber⟩,
   ⟨["No", "Other_Number"], otherNumber⟩,
   ⟨["P", "Punctuation", "punct"], punctuation⟩,
   ⟨["Pc", "Connector_Punctuation"], connectorPunctuation⟩,
   ⟨["Pd", "Dash_Punctuation"], dashPunctuation⟩,
   ⟨["Ps", "Open_Punctuation"], openPunctuation⟩,
   ⟨["Pe", "Close_Punctuation"], closePunctuation⟩,
   ⟨["Pi", "Initial_Punctuation"], initialPunctuation⟩,
   ⟨["Pf", "Final_Punctuation"], finalPunctuation⟩,
   ⟨["Po", "Other_Punctuation"], otherPunctuation⟩,
   ⟨["S", "Symbol"], symbol⟩,
   ⟨["Sm", "Math_Symbol"], mathSymbol⟩,
   ⟨["Sc", "Currency_Symbol"], currencySymbol⟩,
   ⟨["Sk", "Modifier_Symbol"], modifierSymbol⟩,
   ⟨["So", "Other_Symbol"], otherSymbol⟩,
   ⟨["Z", "Separator"], separator⟩,
   ⟨["Zs", "Space_Separator"], spaceSeparator⟩,
   ⟨["Zl", "Line_Separator"], lineSeparator⟩,
   ⟨["Zp", "Paragraph_Separator"], paragraphSeparator⟩,
   ⟨["C", "Other"], other⟩,
   ⟨["Cc", "Control", "cntrl"], control⟩,
   ⟨["Cf", "Format"], format⟩,
   ⟨["Co", "Private_Use"], privateUse⟩,
   ⟨["Cn", "Unassigned"], unassigned⟩]

end Gherkin.Text.Property
