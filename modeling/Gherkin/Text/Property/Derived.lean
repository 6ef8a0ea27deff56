/-
  Gherkin.Text.Property.Derived

  Properties that a character has or has not, those that follow from categories,
  case folding and other properties; and the names of all such properties.
-/
import Gherkin.Text.Blank
import Gherkin.Text.Folding
import Gherkin.Text.Property.Category
import Gherkin.Text.Property.Trait

namespace Gherkin.Text.Property

/-! ## Letters and case -/

/-- Capital characters. -/
def uppercase : Ranges := uppercaseLetter.union otherUppercase

/-- Small characters. -/
def lowercase : Ranges := lowercaseLetter.union otherLowercase

/-- Characters with case. -/
def cased : Ranges := .unions [uppercase, lowercase, titlecaseLetter]

/-- Alphabetic characters. -/
def alphabetic : Ranges :=
  .unions [cased, modifierLetter, otherLetter, letterNumber, otherAlphabetic]

/-- The apostrophe. -/
def singleQuote : Ranges := [(0x27, 0x27)]

/-- Signs that may stand inside a word. -/
def midLetter : Ranges :=
  [(0x3a, 0x3a), (0xb7, 0xb7), (0x387, 0x387), (0x55f, 0x55f), (0x5f4, 0x5f4), (0x2027, 0x2027),
   (0xfe13, 0xfe13), (0xfe55, 0xfe55), (0xff1a, 0xff1a)]

/-- Signs that may stand inside a word or a number. -/
def midNumLet : Ranges :=
  [(0x2e, 0x2e), (0x2018, 0x2019), (0x2024, 0x2024), (0xfe52, 0xfe52), (0xff07, 0xff07),
   (0xff0e, 0xff0e)]

/-- Characters that are passed over when the case of those around them is looked at. -/
def caseIgnorable : Ranges :=
  .unions [nonspacingMark, enclosingMark, format, modifierLetter, modifierSymbol, midLetter,
    midNumLet, singleQuote]

/-- Characters that fold to another one. -/
def folding : Ranges := .ofPoints (foldPairs.map (·.1))

/-- Characters to which another one folds. -/
def folded : Ranges := .ofPoints (foldPairs.map (·.2))

/-- The small letters of the Georgian script. They have capitals, but no titles are written
    with these. -/
def mkhedruli : Ranges := [(0x10d0, 0x10fa), (0x10fd, 0x10ff)]

/-- The capital letters of the Georgian script. -/
def mtavruli : Ranges := [(0x1c90, 0x1cba), (0x1cbd, 0x1cbf)]

/-- Characters that differ from their small form: capitals that fold, the dotted capital I, and the
    capitals to which the small letters of the Cherokee script fold. -/
def changesWhenLowercased : Ranges :=
  (folding.diff lowercase).union [(0x130, 0x130), (0x13a0, 0x13f5)]

/-- Characters that differ from their capital form: those without capitals that have case variants,
    and those whose capital form is longer or is a variant of another letter. -/
def changesWhenUppercased : Ranges :=
  ((folding.union folded).diff uppercase).union
    [(0x131, 0x131), (0x149, 0x149), (0x1f0, 0x1f0), (0x587, 0x587), (0x1e96, 0x1e9a),
     (0x1f50, 0x1f50), (0x1f52, 0x1f52), (0x1f54, 0x1f54), (0x1f56, 0x1f56), (0x1fb2, 0x1fb2),
     (0x1fb4, 0x1fb4), (0x1fb6, 0x1fb7), (0x1fc2, 0x1fc2), (0x1fc4, 0x1fc4), (0x1fc6, 0x1fc7),
     (0x1fd2, 0x1fd2), (0x1fd6, 0x1fd7), (0x1fe2, 0x1fe2), (0x1fe4, 0x1fe4), (0x1fe6, 0x1fe7),
     (0x1ff2, 0x1ff2), (0x1ff4, 0x1ff4), (0x1ff6, 0x1ff7), (0xfb00, 0xfb04), (0xfb13, 0xfb17)]

/-- Characters that differ from the form in which they start a title. -/
def changesWhenTitlecased : Ranges :=
  (changesWhenUppercased.diff (titlecaseLetter.union mkhedruli)).union
    [(0x1c4, 0x1c4), (0x1c7, 0x1c7), (0x1ca, 0x1ca), (0x1f1, 0x1f1)]

/-- Characters that differ from one of their forms. -/
def changesWhenCasemapped : Ranges :=
  .unions [changesWhenLowercased, changesWhenUppercased, changesWhenTitlecased]

/-- Characters that full case folding changes: those that fold, but for three that are equal to what
    they fold to, and those that fold to several characters. -/
def changesWhenCasefolded : Ranges :=
  (folding.diff [(0x1fbe, 0x1fbe), (0x1fd3, 0x1fd3), (0x1fe3, 0x1fe3)]).union
    [(0xdf, 0xdf), (0x130, 0x130), (0x149, 0x149), (0x587, 0x587), (0x1e9a, 0x1e9a),
     (0x1f80, 0x1f87), (0x1f90, 0x1f97), (0x1fa0, 0x1fa7), (0x1fb2, 0x1fb4), (0x1fb7, 0x1fb7),
     (0x1fc2, 0x1fc4), (0x1fc7, 0x1fc7), (0x1ff2, 0x1ff4), (0x1ff7, 0x1ff7), (0xfb00, 0xfb04),
     (0xfb06, 0xfb06), (0xfb13, 0xfb17)]

/-! ## Names of things -/

/-- Signs that are kept for the syntax of patterns. -/
def patternSigns : Ranges := patternSyntax.union patternWhiteSpace

/-- Starts of names. -/
def idStart : Ranges := (Ranges.unions [letter, letterNumber, otherIdStart]).diff patternSigns

/-- Characters in names. -/
def idContinue : Ranges :=
  (Ranges.unions [idStart, nonspacingMark, spacingMark, digitRanges, connectorPunctuation,
    otherIdContinue]).diff patternSigns

/-- Starts of names that stay so in every normal form. -/
def xidStart : Ranges :=
  idStart.diff
    [(0x37a, 0x37a), (0xe33, 0xe33), (0xeb3, 0xeb3), (0x309b, 0x309c), (0xfc5e, 0xfc63),
     (0xfdfa, 0xfdfb), (0xfe70, 0xfe70), (0xfe72, 0xfe72), (0xfe74, 0xfe74), (0xfe76, 0xfe76),
     (0xfe78, 0xfe78), (0xfe7a, 0xfe7a), (0xfe7c, 0xfe7c), (0xfe7e, 0xfe7e), (0xff9e, 0xff9f)]

/-- Characters in names that stay so in every normal form. -/
def xidContinue : Ranges :=
  idContinue.diff
    [(0x37a, 0x37a), (0x309b, 0x309c), (0xfc5e, 0xfc63), (0xfdfa, 0xfdfb), (0xfe70, 0xfe70),
     (0xfe72, 0xfe72), (0xfe74, 0xfe74), (0xfe76, 0xfe76), (0xfe78, 0xfe78), (0xfe7a, 0xfe7a),
     (0xfe7c, 0xfe7c), (0xfe7e, 0xfe7e)]

/-! ## Other properties -/

/-- Characters of mathematics. -/
def math : Ranges := mathSymbol.union otherMath

/-- Format characters that are shown all the same: those of interlinear notes and of hieroglyphs. -/
def shownFormat : Ranges := [(0xfff9, 0xfffb), (0x13430, 0x13440)]

/-- Characters that are not shown where they are not supported. -/
def defaultIgnorableCodePoint : Ranges :=
  (Ranges.unions [otherDefaultIgnorableCodePoint, format, variationSelector]).diff
    (.unions [blankRanges, shownFormat, prependedConcatenationMark])

/-- Characters that extend the one before. -/
def graphemeExtend : Ranges := .unions [nonspacingMark, enclosingMark, otherGraphemeExtend]

/-- Characters that may be extended. -/
def graphemeBase : Ranges :=
  (Ranges.unions [control, format, surrogate, privateUse, unassigned, lineSeparator,
    paragraphSeparator, graphemeExtend]).complement

/-! ## Names -/

/-- All properties that a character has or has not. -/
def traits : List NamedSet :=
  [⟨["AHex", "ASCII_Hex_Digit"], asciiHexDigit⟩,
   ⟨["Alpha", "Alphabetic"], alphabetic⟩,
   ⟨["Bidi_C", "Bidi_Control"], bidiControl⟩,
   ⟨["Bidi_M", "Bidi_Mirrored"], bidiMirrored⟩,
   ⟨["CI", "Case_Ignorable"], caseIgnorable⟩,
   ⟨["Cased"], cased⟩,
   ⟨["CWCF", "Changes_When_Casefolded"], changesWhenCasefolded⟩,
   ⟨["CWCM", "Changes_When_Casemapped"], changesWhenCasemapped⟩,
   ⟨["CWL", "Changes_When_Lowercased"], changesWhenLowercased⟩,
   ⟨["CWT", "Changes_When_Titlecased"], changesWhenTitlecased⟩,
   ⟨["CWU", "Changes_When_Uppercased"], changesWhenUppercased⟩,
   ⟨["Dash"], dash⟩,
   ⟨["DI", "Default_Ignorable_Code_Point"], defaultIgnorableCodePoint⟩,
   ⟨["Dep", "Deprecated"], deprecated⟩,
   ⟨["Dia", "Diacritic"], diacritic⟩,
   ⟨["Emoji"], emoji⟩,
   ⟨["EComp", "Emoji_Component"], emojiComponent⟩,
   ⟨["EMod", "Emoji_Modifier"], emojiModifier⟩,
   ⟨["EBase", "Emoji_Modifier_Base"], emojiModifierBase⟩,
   ⟨["EPres", "Emoji_Presentation"], emojiPresentation⟩,
   ⟨["ExtPict", "Extended_Pictographic"], extendedPictographic⟩,
   ⟨["Ext", "Extender"], extender⟩,
   ⟨["Gr_Base", "Grapheme_Base"], graphemeBase⟩,
   ⟨["Gr_Ext", "Grapheme_Extend"], graphemeExtend⟩,
   ⟨["Gr_Link", "Grapheme_Link"], graphemeLink⟩,
   ⟨["Hex", "Hex_Digit"], hexDigit⟩,
   ⟨["Hyphen"], hyphen⟩,
   ⟨["IDSB", "IDS_Binary_Operator"], idsBinaryOperator⟩,
   ⟨["IDST", "IDS_Trinary_Operator"], idsTrinaryOperator⟩,
   ⟨["IDSU", "IDS_Unary_Operator"], idsUnaryOperator⟩,
   ⟨["ID_Compat_Math_Continue"], idCompatMathContinue⟩,
   ⟨["ID_Compat_Math_Start"], idCompatMathStart⟩,
   ⟨["IDC", "ID_Continue"], idContinue⟩,
   ⟨["IDS", "ID_Start"], idStart⟩,
   ⟨["Ideo", "Ideographic"], ideographic⟩,
   ⟨["Join_C", "Join_Control"], joinControl⟩,
   ⟨["LOE", "Logical_Order_Exception"], logicalOrderException⟩,
   ⟨["Lower", "Lowercase"], lowercase⟩,
   ⟨["Math"], math⟩,
   ⟨["MCM", "Modifier_Combining_Mark"], modifierCombiningMark⟩,
   ⟨["NChar", "Noncharacter_Code_Point"], noncharacterCodePoint⟩,
   ⟨["OAlpha", "Other_Alphabetic"], otherAlphabetic⟩,
   ⟨["ODI", "Other_Default_Ignorable_Code_Point"], otherDefaultIgnorableCodePoint⟩,
   ⟨["OGr_Ext", "Other_Grapheme_Extend"], otherGraphemeExtend⟩,
   ⟨["OIDC", "Other_ID_Continue"], otherIdContinue⟩,
   ⟨["OIDS", "Other_ID_Start"], otherIdStart⟩,
   ⟨["OLower", "Other_Lowercase"], otherLowercase⟩,
   ⟨["OMath", "Other_Math"], otherMath⟩,
   ⟨["OUpper", "Other_Uppercase"], otherUppercase⟩,
   ⟨["Pat_Syn", "Pattern_Syntax"], patternSyntax⟩,
   ⟨["Pat_WS", "Pattern_White_Space"], patternWhiteSpace⟩,
   ⟨["PCM", "Prepended_Concatenation_Mark"], prependedConcatenationMark⟩,
   ⟨["QMark", "Quotation_Mark"], quotationMark⟩,
   ⟨["Radical"], radical⟩,
   ⟨["RI", "Regional_Indicator"], regionalIndicator⟩,
   ⟨["STerm", "Sentence_Terminal"], sentenceTerminal⟩,
   ⟨["SD", "Soft_Dotted"], softDotted⟩,
   ⟨["Term", "Terminal_Punctuation"], terminalPunctuation⟩,
   ⟨["Uideo", "Unified_Ideograph"], unifiedIdeograph⟩,
   ⟨["Upper", "Uppercase"], uppercase⟩,
   ⟨["VS", "Variation_Selector"], variationSelector⟩,
   ⟨["space", "WSpace", "White_Space"], blankRanges⟩,
   ⟨["XIDC", "XID_Continue"], xidContinue⟩,
   ⟨["XIDS", "XID_Start"], xidStart⟩]

end Gherkin.Text.Property
