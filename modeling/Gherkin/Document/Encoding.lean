/-
  Gherkin.Document.Encoding

  Documents as JSON values. Every part is an object with its fields in a fixed
  order. Reading takes the fields in any order, passes over unknown ones, and
  takes an optional field that is missing for null; it also takes an array of
  all the fields in order. A field that occurs twice is refused.
-/
import Gherkin.Document.Feature
import Gherkin.Json.Reader

namespace Gherkin

/-! ## Objects by their fields -/

namespace Json

/-- The object with the given members. -/
def record (members : List (String × Json)) : Json :=
  .object (members.map fun (key, value) => (some key, value))

/-- The only member under a key: `some none` if there is none, `none` if there are several. -/
def member? (members : List (Option String × Json)) (key : String) : Option (Option Json) :=
  match members.filter (·.1 = some key) with
  | [] => some none
  | [(_, value)] => some (some value)
  | _ => none

/-- The values of the named fields of an object, or of an array that lists them all. -/
def fields? (names : List String) : Json → Option (List (Option Json))
  | .object members =>
    if members.all (·.1.isSome) then names.mapM (member? members) else none
  | .array items => if items.length = names.length then some (items.map some) else none
  | _ => none

/-- A field that must be there. -/
def required (decode : Json → Option α) (field : Option Json) : Option α :=
  field.bind decode

/-- A field that may be missing or null. -/
def optional (decode : Json → Option α) : Option Json → Option (Option α)
  | none => some none
  | some .null => some none
  | some json => (decode json).map some

/-- A value or null. -/
def nullable (decode : Json → Option α) (json : Json) : Option (Option α) :=
  optional decode (some json)

/-- The text of a string. -/
def toText? : Json → Option String
  | .string content => content
  | _ => none

/-- The value of a boolean. -/
def toBool? : Json → Option Bool
  | .bool value => some value
  | _ => none

/-- The value of a natural number. -/
def toNat? : Json → Option Nat
  | .number n => some n
  | _ => none

/-- The items of an array, each decoded. -/
def toList? (decode : Json → Option α) : Json → Option (List α)
  | .array items => items.mapM decode
  | _ => none

/-- The texts of an array of strings. -/
def toTexts? : Json → Option (List String) := toList? toText?

end Json

open Json

/-! ## Parts of a document -/

namespace TagSet

/-- The JSON value of a tag set. -/
def toJson (tags : TagSet) : Json := Json.texts tags.names

/-- Tags are taken as they stand, without being normalised. -/
def ofJson? (json : Json) : Option TagSet := (toTexts? json).map TagSet.mk

end TagSet

namespace DocString

/-- The JSON value of a doc-string. -/
def toJson (doc : DocString) : Json :=
  record [("content", .text doc.content), ("media_type", .option .text doc.mediaType)]

/-- Reads a doc-string from a JSON value. -/
def ofJson? (json : Json) : Option DocString := do
  let [content, mediaType] ← fields? ["content", "media_type"] json | none
  return { content := ← required toText? content, mediaType := ← optional toText? mediaType }

end DocString

namespace DataTable

/-- The JSON value of a data table. -/
def toJson (table : DataTable) : Json := .array (table.rows.map Json.texts)

/-- Reads a data table from a JSON value. -/
def ofJson? (json : Json) : Option DataTable := (toList? toTexts? json).map DataTable.mk

end DataTable

namespace StepKeyword

/-- The JSON value of a step keyword. -/
def toJson (keyword : StepKeyword) : Json := .text keyword.name

/-- A keyword by its exact name, alone or as the key of a null member. -/
def ofJson? : Json → Option StepKeyword
  | .string (some name) => all.find? (·.name = name)
  | .object [(some name, .null)] => all.find? (·.name = name)
  | _ => none

end StepKeyword

namespace Step

/-- The JSON value of a step. -/
def toJson (step : Step) : Json :=
  record
    [("keyword", step.keyword.toJson),
     ("keyword_text", .text step.keywordText),
     ("details", .text step.details),
     ("doc_string", .option DocString.toJson step.docString),
     ("data_table", .option DataTable.toJson step.dataTable),
     ("line", .number step.line),
     ("called", .bool step.called)]

/-- Reads a step from a JSON value. -/
def ofJson? (json : Json) : Option Step := do
  let [keyword, keywordText, details, docString, dataTable, line, called] ←
    fields?
      ["keyword", "keyword_text", "details", "doc_string", "data_table", "line", "called"] json
    | none
  return {
    keyword := ← required StepKeyword.ofJson? keyword
    keywordText := ← required toText? keywordText
    details := ← required toText? details
    docString := ← optional DocString.ofJson? docString
    dataTable := ← optional DataTable.ofJson? dataTable
    line := ← required toNat? line
    called := ← required toBool? called }

end Step

namespace ExampleRow

/-- The JSON value of a cell under its column. -/
def cellToJson (cell : String × Option String) : Json :=
  .array [.text cell.1, .option .text cell.2]

/-- Reads a cell under its column from a JSON value. -/
def cellOfJson? : Json → Option (String × Option String)
  | .array [column, value] => do return (← toText? column, ← nullable toText? value)
  | _ => none

/-- The JSON value of an example row. -/
def toJson (row : ExampleRow) : Json :=
  record
    [("values", .array (row.values.map cellToJson)),
     ("tags", row.tags.toJson),
     ("line", .number row.line)]

/-- Reads an example row from a JSON value. -/
def ofJson? (json : Json) : Option ExampleRow := do
  let [values, tags, line] ← fields? ["values", "tags", "line"] json | none
  return {
    values := ← required (toList? cellOfJson?) values
    tags := ← required TagSet.ofJson? tags
    line := ← required toNat? line }

end ExampleRow

namespace Outline

/-- The JSON value of an outline. -/
def toJson (outline : Outline) : Json :=
  record
    [("examples", .array (outline.examples.map ExampleRow.toJson)),
     ("missing_examples_keyword", .bool outline.missingKeyword)]

/-- Reads an outline from a JSON value. -/
def ofJson? (json : Json) : Option Outline := do
  let [examples, missingKeyword] ← fields? ["examples", "missing_examples_keyword"] json | none
  return {
    examples := ← required (toList? ExampleRow.ofJson?) examples
    missingKeyword := ← required toBool? missingKeyword }

end Outline

namespace StepBlock

/-- The names of the fields of a block. -/
def fieldNames : List String :=
  ["name", "keyword", "description", "steps", "tags", "line", "called"]

/-- The fields of a block. -/
def members (block : StepBlock) : List (String × Json) :=
  [("name", .text block.name),
   ("keyword", .text block.keyword),
   ("description", .texts block.description),
   ("steps", .array (block.steps.map Step.toJson)),
   ("tags", block.tags.toJson),
   ("line", .number block.line),
   ("called", .bool block.called)]

/-- Reads a block of steps from the values of its fields. -/
def ofFields? : List (Option Json) → Option StepBlock
  | [name, keyword, description, steps, tags, line, called] => do
    return {
      name := ← required toText? name
      keyword := ← required toText? keyword
      description := ← required toTexts? description
      steps := ← required (toList? Step.ofJson?) steps
      tags := ← required TagSet.ofJson? tags
      line := ← required toNat? line
      called := ← required toBool? called }
  | _ => none

end StepBlock

namespace Background

/-- The JSON value of a background. -/
def toJson (background : Background) : Json := record background.members

/-- Reads a background from a JSON value. -/
def ofJson? (json : Json) : Option Background :=
  (fields? StepBlock.fieldNames json).bind StepBlock.ofFields?

end Background

namespace Scenario

/-- The JSON value of a scenario. -/
def toJson (scenario : Scenario) : Json :=
  record (scenario.members ++ [("outline", .option Outline.toJson scenario.outline)])

/-- Reads a scenario from a JSON value. -/
def ofJson? (json : Json) : Option Scenario := do
  let fields ← fields? (StepBlock.fieldNames ++ ["outline"]) json
  return {
    toStepBlock := ← StepBlock.ofFields? (fields.take 7)
    outline := ← optional Outline.ofJson? (fields.drop 7).head?.join }

end Scenario

/-! ## Rules and features -/

namespace Rule

/-- The JSON value of a rule. -/
def toJson (rule : Rule) : Json :=
  record
    [("name", .text rule.name),
     ("keyword", .text rule.keyword),
     ("description", .texts rule.description),
     ("tags", rule.tags.toJson),
     ("background", .option Background.toJson rule.background),
     ("scenarios", .array (rule.scenarios.map Scenario.toJson)),
     ("line", .number rule.line),
     ("called", .bool rule.called)]

/-- Reads a rule from a JSON value. -/
def ofJson? (json : Json) : Option Rule := do
  let [name, keyword, description, tags, background, scenarios, line, called] ←
    fields?
      ["name", "keyword", "description", "tags", "background", "scenarios", "line", "called"] json
    | none
  return {
    name := ← required toText? name
    keyword := ← required toText? keyword
    description := ← required toTexts? description
    tags := ← required TagSet.ofJson? tags
    background := ← optional Background.ofJson? background
    scenarios := ← required (toList? Scenario.ofJson?) scenarios
    line := ← required toNat? line
    called := ← required toBool? called }

end Rule

namespace Feature

/-- The JSON value of a feature. -/
def toJson (feature : Feature) : Json :=
  record
    [("name", .text feature.name),
     ("keyword", .text feature.keyword),
     ("language", .text feature.language),
     ("description", .texts feature.description),
     ("tags", feature.tags.toJson),
     ("background", .option Background.toJson feature.background),
     ("scenarios", .array (feature.scenarios.map Scenario.toJson)),
     ("rules", .array (feature.rules.map Rule.toJson)),
     ("line", .number feature.line)]

/-- Reads a feature from a JSON value. -/
def ofJson? (json : Json) : Option Feature := do
  let [name, keyword, language, description, tags, background, scenarios, rules, line] ←
    fields?
      ["name", "keyword", "language", "description", "tags", "background", "scenarios", "rules",
       "line"] json
    | none
  return {
    name := ← required toText? name
    keyword := ← required toText? keyword
    language := ← required toText? language
    description := ← required toTexts? description
    tags := ← required TagSet.ofJson? tags
    background := ← optional Background.ofJson? background
    scenarios := ← required (toList? Scenario.ofJson?) scenarios
    rules := ← required (toList? Rule.ofJson?) rules
    line := ← required toNat? line }

/-- The JSON text of a feature. -/
def dump (feature : Feature) : String := feature.toJson.pretty

/-- The feature that a JSON text describes. -/
def restore? (text : String) : Option Feature := (Json.read? text).bind ofJson?

end Feature

end Gherkin
