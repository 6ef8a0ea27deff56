/-
  Gherkin.Reader.Line

  Reading one line. Outside doc-strings the form of the line says which of the
  transitions below it takes; inside, every line but the closing fence is text.
  A refused line leaves the document as it was, but for an examples table that
  it ended, and reading can go on.
-/
import Gherkin.Reader.Basic

namespace Gherkin.Reader

/-! ## Headers -/

/-- The feature line. -/
def onFeature (reader : Reader) (header : Header) : Outcome :=
  if reader.feature.isSome then reader.refuse (.duplicateFeature reader.line)
  else if header.name.isEmpty then reader.refuse (.emptyFeatureName reader.line)
  else
    let feature : Feature :=
      { name := header.name, keyword := header.keyword, language := reader.language.code
        tags := reader.pendingTags, line := reader.line }
    let opened := { reader with feature := some feature, place := none, pendingTags := {} }
    (opened.accept .header).after [.featureStarted header.name]

/-- A rule line. -/
def onRule (reader : Reader) (header : Header) (tags : TagSet) : Outcome :=
  let rule : Rule := { name := header.name, keyword := header.keyword, tags, line := reader.line }
  let opened : Reader :=
    { reader with feature := reader.feature.map (·.addRule rule), place := none }
  opened.accept .header

/-- The kind of the active section. -/
def activeKind (feature : Feature) : SectionKind :=
  if feature.rules.isEmpty then .feature else .rule

/-- A background line in a feature. -/
def onBackground (reader : Reader) (feature : Feature) (header : Header) (tags : TagSet) :
    Outcome :=
  if feature.active.background.isSome then
    reader.refuse (.duplicateBackground reader.line (activeKind feature))
  else
    let background : Background :=
      { name := header.name, keyword := header.keyword, tags, line := reader.line }
    let opened := reader.modifyActive ({ · with background := some background })
    { opened with place := some .background : Reader }.accept .header

/-- A scenario or scenario outline line. -/
def onScenario (reader : Reader) (header : Header) (tags : TagSet) : Outcome :=
  let scenario : Scenario :=
    { name := header.name, keyword := header.keyword, tags, line := reader.line
      outline := if header.kind = .ScenarioOutline then some {} else none }
  let opened := reader.modifyActive (·.addScenario scenario)
  { opened with place := some .scenario : Reader }.accept .header

/-- An examples line. It makes an outline of the scenario it stands in. -/
def onExamples (reader : Reader) (tags : TagSet) : Outcome :=
  match reader.scenario? with
  | none => reader.refuse (.examplesWithoutScenario reader.line)
  | some scenario =>
    let block : ExamplesBlock := { explicit := true, tags, line := reader.line }
    -- even without a row the scenario is an outline from now on
    let opened := reader.modifyScenario (·.modifyOutline id)
    ({ opened with examples := some block : Reader }.accept .header).after
      (if scenario.isOutline then [] else [.scenarioPromoted scenario.name])

/-- A header line. The tags that wait go to what it opens. -/
def onHeader (reader : Reader) (text : String) (header : Header) : Outcome :=
  match header.kind, reader.feature with
  | .Feature, _ => reader.onFeature header
  | _, none => reader.refuse (.beforeFeature reader.line text)
  | kind, some feature =>
    let tags := reader.pendingTags
    -- the tags are gone also if the header is refused
    let reader := { reader with pendingTags := {} }
    match kind with
    | .Rule => reader.onRule header tags
    | .Background => reader.onBackground feature header tags
    | .Examples => reader.onExamples tags
    | _ => reader.onScenario header tags

/-! ## Table rows -/

/-- A row right after a step or its table belongs to the step. -/
def onDataRow (reader : Reader) (cells : List String) : Outcome :=
  if reader.hasStep then
    (reader.modifyBlock (·.modifyLastStep (·.addRow cells))).accept .dataTableRow
  else
    reader.refuse (.tableRowOutsideExamples reader.line)

/-- A row of an open examples table. -/
def onExampleRow (reader : Reader) (block : ExamplesBlock) (cells : List String) : Outcome :=
  let pushed := block.push cells reader.line
  ({ reader with examples := some pushed.value }.accept .exampleRow).after pushed.notices

/-- A row that opens an examples table by itself: the outline misses an examples keyword. -/
def onBareRow (reader : Reader) (cells : List String) : Outcome :=
  match reader.scenario? with
  | none => reader.refuse (.tableRowOutsideExamples reader.line)
  | some scenario =>
    if scenario.isOutline then
      let flagged := reader.modifyScenario (·.modifyOutline ({ · with missingKeyword := true }))
      (flagged.onExampleRow { explicit := false, line := reader.line } cells).after
        [.rowsWithoutExamples reader.line scenario.name]
    else
      reader.refuse (.tableRowOutsideExamples reader.line)

/-- A table row. -/
def onRow (reader : Reader) (cells : List String) : Outcome :=
  match reader.examples with
  | some block => reader.onExampleRow block cells
  | none =>
    -- a blank line in between counts as a line, a comment does not
    if reader.previous = .step ∨ reader.previous = .dataTableRow then reader.onDataRow cells
    else reader.onBareRow cells

/-! ## Other lines -/

/-- A comment. Before the feature line it may declare the language of the document. -/
def onComment (reader : Reader) (comment : String) : Outcome :=
  match reader.feature, declaredLanguage? comment with
  | none, some code =>
    let language := Language.ofCode code
    { reader := { reader with language := language.value }
      notices := language.notices ++ [.documentLanguage language.value.code] }
  | _, _ => { reader }

/-- A line of tags. -/
def onTags (reader : Reader) (tags : List String) : Outcome :=
  { reader with pendingTags := reader.pendingTags.extend tags }.accept .tags

/-- The opening fence of a doc-string; `text` is the whole line. -/
def onFence (reader : Reader) (text : String) (fence : Fence) (mediaType : Option String) :
    Outcome :=
  if reader.hasStep then
    let doc : OpenDocString :=
      { fence, indent := Text.indentOf text.toList, mediaType, line := reader.line }
    { reader := { reader with docString := some doc } }
  else
    reader.refuse (.docStringWithoutStep reader.line)

/-- A step line; `text` is the stripped line. -/
def onStep (reader : Reader) (text : String) (found : StepLine) : Outcome :=
  if reader.feature.isNone then reader.refuse (.beforeFeature reader.line text)
  else if reader.block?.isNone then reader.refuse (.stepWithoutScenario reader.line text)
  else if reader.place = some .background ∧ !found.kind.allowedInBackground then
    reader.refuse (.disallowedBackgroundStep reader.line found.kind)
  else
    let step : Step :=
      { keyword := found.kind, keywordText := found.keyword, details := found.details
        line := reader.line }
    (reader.modifyBlock (·.addStep step)).accept .step

/-- Any other text describes the innermost entity that is open. -/
def onProse (reader : Reader) (text : String) : Outcome :=
  if reader.feature.isNone then (reader.accept .description).after [.textBeforeFeature text]
  else
    match reader.place with
    | none => (reader.modifyActive (·.describe text)).accept .description
    | some _ => (reader.modifyBlock (·.describe text)).accept .description

/-- Whether an examples table stays open over a line of this form. -/
def keepsExamples (reader : Reader) : LineForm → Bool
  | .comment _ | .row _ => true
  | .blank => reader.examples.any (·.awaitsRows)
  | _ => false

/-- The transition for each form of line. -/
def onForm (reader : Reader) (text trimmed : String) : LineForm → Outcome
  | .comment comment => reader.onComment comment
  | .header header => reader.onHeader trimmed header
  | .row cells => reader.onRow cells
  | .blank => reader.accept .blank
  | .tags tags => reader.onTags tags
  | .fence fence mediaType => reader.onFence text fence mediaType
  | .step found => reader.onStep trimmed found
  | .prose => reader.onProse trimmed

/-- A line outside doc-strings. An open examples table ends first, unless the line may stand
    inside it. -/
def onLine (reader : Reader) (text : String) : Outcome :=
  let trimmed := Text.trim text
  let form := reader.language.form trimmed
  let settled := if reader.keepsExamples form then pure reader else reader.flush
  (settled.value.onForm text trimmed form).after settled.notices

/-! ## Doc-strings -/

/-- A line inside a doc-string: the closing fence or text. -/
def onDocString (reader : Reader) (doc : OpenDocString) (text : String) : Outcome :=
  if Text.trim text = doc.fence.text then
    let closed := reader.modifyBlock (·.modifyLastStep ({ · with docString := some doc.close }))
    { closed with docString := none : Reader }.accept .docString
  else
    let doc := { doc with lines := doc.lines ++ [doc.fence.content doc.indent text] }
    { reader := { reader with docString := some doc } }

/-! ## Lines -/

/-- What a line does to a reader that has already counted it. -/
def take (reader : Reader) (text : String) : Outcome :=
  match reader.docString with
  | some doc => reader.onDocString doc text
  | none => reader.onLine text

/-- Reads one line. -/
def read (reader : Reader) (text : String) : Outcome :=
  let outcome := { reader with line := reader.line + 1 }.take text
  match outcome.fault with
  | some _ => outcome
  | none =>
    let after := outcome.reader
    { outcome with
      notices := outcome.notices ++
        [.lineRead after.line after.previous.name after.docString.isSome] }

end Gherkin.Reader
