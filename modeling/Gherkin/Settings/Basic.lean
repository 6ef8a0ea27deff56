/-
  Gherkin.Settings.Basic

  Settings: the language of documents, the tags to run, the treatment of example
  rows and the placeholders of expressions. They can be read from variables.
-/
import Gherkin.Expression.Registry
import Gherkin.Language.Table
import Gherkin.Reader.Document
import Gherkin.Tag.Filter

namespace Gherkin

/-- What reading and planning depend on. -/
structure Settings where
  /-- The code of the language of documents that do not name one. -/
  language : String := "en"
  tags : TagPolicy := {}
  /-- Whether example rows must stand under an examples keyword. -/
  strictExamples : Bool := false
  registry : Registry := .empty

namespace Settings

/-- How documents are read under the settings. -/
def mode (settings : Settings) : ReadingMode :=
  { language := settings.language, strict := settings.strictExamples }

/-! ## Description -/

/-- A tag filter in one line. -/
def filterDescription : TagFilter → String
  | .tag name => s!"Tag({Text.quote name})"
  | .all names => s!"All({Text.quoteList names})"

/-- A list of tag filters in one line. -/
def filtersDescription (filters : List TagFilter) : String :=
  "[" ++ ", ".intercalate (filters.map filterDescription) ++ "]"

/-- Settings in one line. -/
def description (settings : Settings) : String :=
  let including := filtersDescription settings.tags.including
  let excluding := filtersDescription settings.tags.excluding
  let strict := if settings.strictExamples then "true" else "false"
  s!"Config \x7b language: {Text.quote settings.language}, " ++
    s!"tags: TagPolicy \x7b include: {including}, exclude: {excluding} \x7d, " ++
    s!"strict_examples: {strict}, expressions: {settings.registry.description} \x7d"

/-! ## Variables -/

/-- The variable for the language. -/
def languageVariable : String := "CUKEPLAN_LANGUAGE"

/-- The variable for the tags to run. -/
def includeVariable : String := "CUKEPLAN_INCLUDE_TAGS"

/-- The variable for the tags to leave out. -/
def excludeVariable : String := "CUKEPLAN_EXCLUDE_TAGS"

/-- The variable for the treatment of example rows. -/
def strictVariable : String := "CUKEPLAN_STRICT_EXAMPLES"

/-- The words for true. -/
def trueWords : List String :=
  ["1", "true", "TRUE", "True", "yes", "YES", "Yes", "on", "ON", "On"]

/-- The words for false. -/
def falseWords : List String :=
  ["0", "false", "FALSE", "False", "no", "NO", "No", "off", "OFF", "Off"]

/-- The truth value that a text names; blanks around it do not matter. -/
def readBool? (text : String) : Option Bool :=
  if trueWords.contains (Text.trim text) then some true
  else if falseWords.contains (Text.trim text) then some false
  else none

/-- The language that a variable names; the default if it is unset or blank. It is noted if there
    is no keyword table for it. -/
def readLanguage (value : Option String) : Noted String :=
  let language := (value.map Text.trim).getD ""
  if language.isEmpty then pure "en"
  else if Language.isSupported language then pure language
  else ⟨language, [.unsupportedLanguage languageVariable language]⟩

/-- The filters that a variable lists; none if it is unset. -/
def readFilters (key : String) (value : Option String) : Except SettingFault (List TagFilter) :=
  match value with
  | none => .ok []
  | some text =>
    match TagFilter.readList text with
    | .ok filters => .ok filters
    | .error fault => .error (fault.inSetting key)

/-- The truth value that a variable names; false if it is unset. -/
def readSwitch (key : String) (value : Option String) : Except SettingFault Bool :=
  match value with
  | none => .ok false
  | some text =>
    match readBool? text with
    | some b => .ok b
    | none => .error (.notBoolean key (Text.trim text))

/-- The settings that variables give for a language; the first fault counts. -/
def readRest (value? : String → Option String) (language : String) :
    Except SettingFault Settings := do
  let including ← readFilters includeVariable (value? includeVariable)
  let excluding ← readFilters excludeVariable (value? excludeVariable)
  let strictExamples ← readSwitch strictVariable (value? strictVariable)
  return { language, tags := { including, excluding }, strictExamples }

/-- Reads settings from variables. -/
def ofVariables (value? : String → Option String) : Noted (Except SettingFault Settings) := do
  let language ← readLanguage (value? languageVariable)
  match readRest value? language with
  | .error fault => return .error fault
  | .ok settings =>
    Noted.say (.settingsLoaded settings.description)
    return .ok settings

end Settings

end Gherkin
