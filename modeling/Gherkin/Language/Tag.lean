/-
  Gherkin.Language.Tag

  Language tags such as `pt-BR`: a language subtag, then optionally a script, a
  region and variants, in this order. Letters and digits are those of ASCII, and
  case does not matter; a tag is kept in its canonical case.
-/

namespace Gherkin

/-- A language tag in canonical case: the language in lower case, the script capitalised, the
    region in upper case, the variants in lower case and rising. -/
structure LanguageTag where
  language : String
  script : Option String := none
  region : Option String := none
  variants : List String := []
  deriving DecidableEq, Repr

namespace LanguageTag

/-- Why a text is no language tag. -/
inductive Fault where
  /-- The first subtag names no language. -/
  | language
  /-- A later subtag fits no place that is left. -/
  | subtag
  deriving DecidableEq, Repr

/-- The wording of a fault. -/
def Fault.message : Fault → String
  | language => "Parser error: The given language subtag is invalid"
  | subtag => "Parser error: Invalid subtag"

/-! ## Subtags -/

/-- Two, three or five to eight letters. -/
def isLanguage (s : List Char) : Bool :=
  s.all Char.isAlpha && 2 ≤ s.length && s.length ≤ 8 && s.length != 4

/-- Four letters. -/
def isScript (s : List Char) : Bool := s.all Char.isAlpha && s.length == 4

/-- Two letters or three digits. -/
def isRegion (s : List Char) : Bool :=
  (s.all Char.isAlpha && s.length == 2) || (s.all Char.isDigit && s.length == 3)

/-- Five to eight letters or digits, or four ASCII characters that start with a digit or end in
    three letters or digits. -/
def isVariant (s : List Char) : Bool :=
  if s.length == 4 then
    s.all (fun c => 0 < c.toNat && c.toNat < 128) &&
      (s.head?.any Char.isDigit || s.tail.all Char.isAlphanum)
  else
    s.all Char.isAlphanum && 5 ≤ s.length && s.length ≤ 8

/-! ## Reading and writing -/

/-- The first subtag, if it is of the wanted form, and the subtags after it. -/
def takeIf (form : List Char → Bool) : List (List Char) → Option (List Char) × List (List Char)
  | [] => (none, [])
  | s :: rest => if form s then (some s, rest) else (none, s :: rest)

/-- A subtag in lower case. -/
def lower (s : List Char) : String := .ofList (s.map Char.toLower)

/-- A subtag in upper case. -/
def upper (s : List Char) : String := .ofList (s.map Char.toUpper)

/-- A subtag in lower case but for its first letter. -/
def capitalise : List Char → String
  | [] => ""
  | c :: s => .ofList (c.toUpper :: s.map Char.toLower)

/-- Reads a tag whose subtags are joined by hyphens. -/
def read (text : List Char) : Except Fault LanguageTag :=
  match text.splitOn '-' with
  | [] => .error .language
  | first :: rest =>
    if isLanguage first then
      let (script, rest) := takeIf isScript rest
      let (region, rest) := takeIf isRegion rest
      if rest.all isVariant then
        .ok {
          language := lower first
          script := script.map capitalise
          region := region.map upper
          variants := ((rest.map lower).mergeSort (· ≤ ·)).eraseReps }
      else
        .error .subtag
    else
      .error .language

/-- The canonical text of a tag. -/
def text (tag : LanguageTag) : String :=
  "-".intercalate (tag.language :: (tag.script.toList ++ tag.region.toList ++ tag.variants))

end LanguageTag

end Gherkin
