/-
  Gherkin.Reader.Indexed

  A reader that records where it stands as indices apart from the document, so
  that its standing can be written down after every line. An index is looked up
  when it is used: the index of a scenario counts within the rule that is active
  at that time, or within the feature if no rule is.
-/
import Gherkin.Reader.Cursor
import Gherkin.Reader.Document

namespace Gherkin

/-! ## Parts of a feature under indices -/

namespace Feature

/-- The rule at an index, if there is an index and a rule there. -/
def ruleAt? (feature : Feature) (rule : Option Nat) : Option Rule := rule.bind (feature.rules[·]?)

/-- The section that scenarios belong to under an active rule. -/
def scope (feature : Feature) (rule : Option Nat) : Section :=
  ((feature.ruleAt? rule).map (·.toSection)).getD feature.toSection

/-- The feature with the rule at an index changed by `f`. -/
def modifyRuleAt (rule : Nat) (f : Section → Section) (feature : Feature) : Feature :=
  { feature with rules := feature.rules.modify rule (·.modifySection f) }

/-- The feature with the section that scenarios belong to changed by `f`. -/
def modifyScope (rule : Option Nat) (f : Section → Section) (feature : Feature) : Feature :=
  match rule with
  | none => feature.modifySection f
  | some index =>
    if index < feature.rules.length then feature.modifyRuleAt index f else feature.modifySection f

/-- The block that a container stands for under an active rule. -/
def blockAt? (feature : Feature) (rule : Option Nat) : Container → Option StepBlock
  | .featureBackground => feature.background
  | .ruleBackground => (feature.ruleAt? rule).bind (·.background)
  | .scenario index => (feature.scope rule).scenarios[index]?.map (·.toStepBlock)

/-- The feature with the scenario at an index under an active rule changed by `f`. -/
def modifyScenarioAt (rule : Option Nat) (index : Nat) (f : Scenario → Scenario) :
    Feature → Feature :=
  modifyScope rule fun part => { part with scenarios := part.scenarios.modify index f }

/-- The feature with the block that a container stands for changed by `f`. -/
def modifyBlockAt (rule : Option Nat) (f : StepBlock → StepBlock) (feature : Feature) :
    Container → Feature
  | .featureBackground => feature.modifySection (·.modifyBlock .background f)
  | .ruleBackground =>
    match rule with
    | none => feature
    | some index => feature.modifyRuleAt index (·.modifyBlock .background f)
  | .scenario index => feature.modifyScenarioAt rule index (·.modifyBlock f)

/-- The feature with a line of description for the container, or for the section if no container
    is open or the rule of the container is not there. -/
def describeAt (rule : Option Nat) (text : String) (feature : Feature) :
    Option Container → Feature
  | none => feature.modifyScope rule (·.describe text)
  | some .ruleBackground =>
    if (feature.ruleAt? rule).isSome then
      feature.modifyBlockAt rule (·.describe text) .ruleBackground
    else feature.modifySection (·.describe text)
  | some container => feature.modifyBlockAt rule (·.describe text) container

end Feature

/-- Backgrounds do not take every step. -/
def Container.isBackground : Container → Bool
  | .scenario _ => false
  | _ => true

/-! ## Readers with indices -/

/-- An open examples table and the index of the scenario that its rows go to. -/
structure TargetedBlock extends ExamplesBlock where
  target : Nat
  deriving DecidableEq, Repr

/-- Where a reader stands. -/
structure Cursor where
  /-- The code of the language in use. -/
  language : String
  feature : Option Nat := none
  rule : Option Nat := none
  container : Option Container := none
  pendingTags : TagSet := {}
  examples : Option TargetedBlock := none
  docString : Option OpenDocString := none
  previous : LineKind := .start
  line : Nat := 0
  deriving DecidableEq, Repr

/-- A reader that finds its way by its cursor. -/
structure IndexedReader where
  language : Language
  cursor : Cursor
  features : List Feature := []
  deriving DecidableEq, Repr

namespace IndexedReader

/-- A reader at the start of a document in the language of a code. -/
def ofLanguage (code : String) : Noted IndexedReader := do
  let language ← Language.ofCode code
  return { language, cursor := { language := language.code } }

/-- What came of a line: the reader after it and, if the line was refused, why. -/
structure Outcome where
  reader : IndexedReader
  fault : Option DocumentFault := none
  notices : List Notice := []

/-- The line was accepted as of a kind. -/
def accept (reader : IndexedReader) (kind : LineKind) : Outcome :=
  { reader := { reader with cursor := { reader.cursor with previous := kind } } }

/-- The line was refused. -/
def refuse (reader : IndexedReader) (fault : DocumentFault) : Outcome :=
  { reader, fault := some fault }

/-- The outcome with notices that came before. -/
def Outcome.after (outcome : Outcome) (notices : List Notice) : Outcome :=
  { outcome with notices := notices ++ outcome.notices }

/-! ## What the cursor points at -/

/-- The feature that is being read. -/
def feature? (reader : IndexedReader) : Option Feature :=
  reader.cursor.feature.bind (reader.features[·]?)

/-- The reader with the feature that is being read changed by `f`. -/
def modifyFeature (f : Feature → Feature) (reader : IndexedReader) : IndexedReader :=
  match reader.cursor.feature with
  | none => reader
  | some index => { reader with features := reader.features.modify index f }

/-- The scenario at an index of the active scope. -/
def scenarioAt (reader : IndexedReader) (index : Nat) : Except DocumentFault Scenario :=
  match reader.feature? with
  | none => .error (.beforeFeature reader.cursor.line "")
  | some feature =>
    match (feature.scope reader.cursor.rule).scenarios[index]? with
    | none => .error (.examplesWithoutScenario reader.cursor.line)
    | some scenario => .ok scenario

/-- The reader with the scenario at an index of the active scope changed by `f`. -/
def modifyScenario (index : Nat) (f : Scenario → Scenario) (reader : IndexedReader) :
    IndexedReader :=
  reader.modifyFeature (·.modifyScenarioAt reader.cursor.rule index f)

/-- The block that steps go to. -/
def block? (reader : IndexedReader) : Option StepBlock := do
  (← reader.feature?).blockAt? reader.cursor.rule (← reader.cursor.container)

/-- The reader with the open block changed by `f`. -/
def modifyBlock (f : StepBlock → StepBlock) (reader : IndexedReader) : IndexedReader :=
  match reader.cursor.container with
  | none => reader
  | some container => reader.modifyFeature (·.modifyBlockAt reader.cursor.rule f container)

/-- Whether the open block has a step. -/
def hasStep (reader : IndexedReader) : Bool := reader.block?.any (!·.steps.isEmpty)

/-- Ends an open examples table: its rows join the outline. -/
def flush (reader : IndexedReader) : Noted IndexedReader :=
  match reader.cursor.examples with
  | none => pure reader
  | some block =>
    let closed := { reader with cursor := { reader.cursor with examples := none } }
    match closed.scenarioAt block.target with
    -- the scenario that the rows were for cannot be found any more
    | .error _ => ⟨closed, [.examplesLost block.line]⟩
    | .ok _ =>
      { value := closed.modifyScenario block.target (·.modifyOutline (Reader.addRows block.rows))
        notices := if block.headers.isNone then [.examplesWithoutTable block.line] else [] }

/-! ## Headers -/

/-- The feature line. -/
def onFeature (reader : IndexedReader) (header : Header) : Outcome :=
  if reader.cursor.feature.isSome then reader.refuse (.duplicateFeature reader.cursor.line)
  else if header.name.isEmpty then reader.refuse (.emptyFeatureName reader.cursor.line)
  else
    let feature : Feature :=
      { name := header.name, keyword := header.keyword, language := reader.cursor.language
        tags := reader.cursor.pendingTags, line := reader.cursor.line }
    let features := reader.features ++ [feature]
    let cursor :=
      { reader.cursor with
        feature := some (features.length - 1), rule := none, container := none, pendingTags := {} }
    ({ reader with cursor, features }.accept .header).after [.featureStarted header.name]

/-- A rule line. -/
def onRule (reader : IndexedReader) (header : Header) (tags : TagSet) : Outcome :=
  match reader.feature? with
  | none => reader.refuse (.beforeFeature reader.cursor.line "")
  | some feature =>
    let rule : Rule :=
      { name := header.name, keyword := header.keyword, tags, line := reader.cursor.line }
    let opened := reader.modifyFeature (·.addRule rule)
    let cursor :=
      { opened.cursor with
        rule := some ((feature.addRule rule).rules.length - 1), container := none }
    { opened with cursor }.accept .header

/-- A background line. -/
def onBackground (reader : IndexedReader) (header : Header) (tags : TagSet) : Outcome :=
  match reader.feature? with
  | none => reader.refuse (.beforeFeature reader.cursor.line "")
  | some feature =>
    let (kind, container) :=
      if (feature.ruleAt? reader.cursor.rule).isSome then
        (SectionKind.rule, Container.ruleBackground)
      else (SectionKind.feature, Container.featureBackground)
    if (feature.scope reader.cursor.rule).background.isSome then
      reader.refuse (.duplicateBackground reader.cursor.line kind)
    else
      let background : Background :=
        { name := header.name, keyword := header.keyword, tags, line := reader.cursor.line }
      let opened := reader.modifyFeature
        (·.modifyScope reader.cursor.rule ({ · with background := some background }))
      { opened with cursor := { opened.cursor with container := some container } }.accept .header

/-- A scenario or scenario outline line. -/
def onScenario (reader : IndexedReader) (header : Header) (tags : TagSet) : Outcome :=
  match reader.feature? with
  | none => reader.refuse (.beforeFeature reader.cursor.line "")
  | some feature =>
    let scenario : Scenario :=
      { name := header.name, keyword := header.keyword, tags, line := reader.cursor.line
        outline := if header.kind = .ScenarioOutline then some {} else none }
    let index := ((feature.scope reader.cursor.rule).addScenario scenario).scenarios.length - 1
    let opened := reader.modifyFeature (·.modifyScope reader.cursor.rule (·.addScenario scenario))
    let cursor := { opened.cursor with container := some (.scenario index) }
    { opened with cursor }.accept .header

/-- An examples line. It makes an outline of the scenario it stands in. -/
def onExamples (reader : IndexedReader) (tags : TagSet) : Outcome :=
  match reader.cursor.container with
  | some (.scenario index) =>
    match reader.scenarioAt index with
    | .error fault => reader.refuse fault
    | .ok scenario =>
      let block : TargetedBlock :=
        { explicit := true, tags, line := reader.cursor.line, target := index }
      -- even without a row the scenario is an outline from now on
      let opened := reader.modifyScenario index (·.modifyOutline id)
      let cursor := { opened.cursor with examples := some block }
      ({ opened with cursor }.accept .header).after
        (if scenario.isOutline then [] else [.scenarioPromoted scenario.name])
  | _ => reader.refuse (.examplesWithoutScenario reader.cursor.line)

/-- A header line. The tags that wait go to what it opens. -/
def onHeader (reader : IndexedReader) (text : String) (header : Header) : Outcome :=
  if header.kind = .Feature then reader.onFeature header
  else if reader.cursor.feature.isNone then
    reader.refuse (.beforeFeature reader.cursor.line text)
  else
    let tags := reader.cursor.pendingTags
    -- the tags are gone also if the header is refused
    let reader := { reader with cursor := { reader.cursor with pendingTags := {} } }
    match header.kind with
    | .Rule => reader.onRule header tags
    | .Background => reader.onBackground header tags
    | .Examples => reader.onExamples tags
    | _ => reader.onScenario header tags

/-! ## Table rows -/

/-- A row right after a step or its table belongs to the step. -/
def onDataRow (reader : IndexedReader) (cells : List String) : Outcome :=
  if reader.hasStep then
    (reader.modifyBlock (·.modifyLastStep (·.addRow cells))).accept .dataTableRow
  else
    reader.refuse (.tableRowOutsideExamples reader.cursor.line)

/-- A row of an open examples table. -/
def onExampleRow (reader : IndexedReader) (block : TargetedBlock) (cells : List String) :
    Outcome :=
  let pushed := block.toExamplesBlock.push cells reader.cursor.line
  -- the table stays with the scenario it was opened under
  let block := { pushed.value with target := block.target }
  let cursor := { reader.cursor with examples := some block }
  ({ reader with cursor }.accept .exampleRow).after pushed.notices

/-- A row that opens an examples table by itself: the outline misses an examples keyword. -/
def onBareRow (reader : IndexedReader) (cells : List String) : Outcome :=
  match reader.cursor.container with
  | some (.scenario index) =>
    match reader.scenarioAt index with
    | .error fault => reader.refuse fault
    | .ok scenario =>
      if scenario.isOutline then
        let flagged :=
          reader.modifyScenario index (·.modifyOutline ({ · with missingKeyword := true }))
        let block : TargetedBlock :=
          { explicit := false, line := reader.cursor.line, target := index }
        (flagged.onExampleRow block cells).after
          [.rowsWithoutExamples reader.cursor.line scenario.name]
      else
        reader.refuse (.tableRowOutsideExamples reader.cursor.line)
  | _ => reader.refuse (.tableRowOutsideExamples reader.cursor.line)

/-- A table row. -/
def onRow (reader : IndexedReader) (cells : List String) : Outcome :=
  match reader.cursor.examples with
  | some block => reader.onExampleRow block cells
  | none =>
    -- a blank line in between counts as a line, a comment does not
    if reader.cursor.previous = .step ∨ reader.cursor.previous = .dataTableRow then
      reader.onDataRow cells
    else
      reader.onBareRow cells

/-! ## Other lines -/

/-- A comment. Before the feature line it may declare the language of the document. -/
def onComment (reader : IndexedReader) (comment : String) : Outcome :=
  if reader.cursor.feature.isSome then { reader }
  else
    match declaredLanguage? comment with
    | none => { reader }
    | some code =>
      let language := Language.ofCode code
      let cursor := { reader.cursor with language := language.value.code }
      { reader := { reader with language := language.value, cursor }
        notices := language.notices ++ [.documentLanguage cursor.language] }

/-- A line of tags. -/
def onTags (reader : IndexedReader) (tags : List String) : Outcome :=
  let cursor := { reader.cursor with pendingTags := reader.cursor.pendingTags.extend tags }
  { reader with cursor }.accept .tags

/-- The opening fence of a doc-string; `text` is the whole line. -/
def onFence (reader : IndexedReader) (text : String) (fence : Fence)
    (mediaType : Option String) : Outcome :=
  if reader.hasStep then
    let doc : OpenDocString :=
      { fence, indent := Text.indentOf text.toList, mediaType, line := reader.cursor.line }
    { reader := { reader with cursor := { reader.cursor with docString := some doc } } }
  else
    reader.refuse (.docStringWithoutStep reader.cursor.line)

/-- A step line; `text` is the stripped line. -/
def onStep (reader : IndexedReader) (text : String) (found : StepLine) : Outcome :=
  if reader.cursor.feature.isNone then reader.refuse (.beforeFeature reader.cursor.line text)
  else if reader.block?.isNone then
    reader.refuse (.stepWithoutScenario reader.cursor.line text)
  else if reader.cursor.container.any (·.isBackground) ∧ !found.kind.allowedInBackground then
    reader.refuse (.disallowedBackgroundStep reader.cursor.line found.kind)
  else
    let step : Step :=
      { keyword := found.kind, keywordText := found.keyword, details := found.details
        line := reader.cursor.line }
    (reader.modifyBlock (·.addStep step)).accept .step

/-- Any other text describes the innermost entity that is open. -/
def onProse (reader : IndexedReader) (text : String) : Outcome :=
  if reader.feature?.isNone then
    (reader.accept .description).after [.textBeforeFeature text]
  else
    (reader.modifyFeature
      (·.describeAt reader.cursor.rule text reader.cursor.container)).accept .description

/-- Whether an examples table stays open over a line of this form. -/
def keepsExamples (reader : IndexedReader) : LineForm → Bool
  | .comment _ | .row _ => true
  | .blank => reader.cursor.examples.any (·.awaitsRows)
  | _ => false

/-- The transition for each form of line. -/
def onForm (reader : IndexedReader) (text trimmed : String) : LineForm → Outcome
  | .comment comment => reader.onComment comment
  | .header header => reader.onHeader trimmed header
  | .row cells => reader.onRow cells
  | .blank => reader.accept .blank
  | .tags tags => reader.onTags tags
  | .fence fence mediaType => reader.onFence text fence mediaType
  | .step found => reader.onStep trimmed found
  | .prose => reader.onProse trimmed

/-- A line outside doc-strings. An open examples table ends first, unless the line may stand
    inside it. -/
def onLine (reader : IndexedReader) (text : String) : Outcome :=
  let trimmed := Text.trim text
  let form := reader.language.form trimmed
  let settled := if reader.keepsExamples form then pure reader else reader.flush
  (settled.value.onForm text trimmed form).after settled.notices

/-! ## Lines -/

/-- A line inside a doc-string: the closing fence or text. -/
def onDocString (reader : IndexedReader) (doc : OpenDocString) (text : String) : Outcome :=
  if Text.trim text = doc.fence.text then
    let closed := { reader with cursor := { reader.cursor with docString := none } }
    (closed.modifyBlock
      (·.modifyLastStep ({ · with docString := some doc.close }))).accept .docString
  else
    let doc := { doc with lines := doc.lines ++ [doc.fence.content doc.indent text] }
    { reader := { reader with cursor := { reader.cursor with docString := some doc } } }

/-- What a line does to a reader that has already counted it. -/
def take (reader : IndexedReader) (text : String) : Outcome :=
  match reader.cursor.docString with
  | some doc => reader.onDocString doc text
  | none => reader.onLine text

/-- Reads one line. -/
def read (reader : IndexedReader) (text : String) : Outcome :=
  let counted := { reader with cursor := { reader.cursor with line := reader.cursor.line + 1 } }
  let outcome := counted.take text
  match outcome.fault with
  | some _ => outcome
  | none =>
    let after := outcome.reader.cursor
    { outcome with
      notices := outcome.notices ++
        [.lineRead after.line after.previous.name after.docString.isSome] }

/-- Reads lines up to the first that is refused. -/
def readAll (reader : IndexedReader) : List String → Outcome
  | [] => { reader }
  | line :: lines =>
    let outcome := reader.read line
    match outcome.fault with
    | some _ => outcome
    | none => (outcome.reader.readAll lines).after outcome.notices

/-- The reader after lines, the refused ones included. -/
def readEach (reader : IndexedReader) (lines : List String) : IndexedReader :=
  lines.foldl (fun reader line => (reader.read line).reader) reader

/-- Ends a document. Tags that still wait for an entity are dropped. -/
def finish (reader : IndexedReader) (strict : Bool) :
    Noted (Except DocumentFault (List Feature)) :=
  match reader.cursor.docString with
  | some doc => pure (.error (.unterminatedDocString doc.line))
  | none =>
    let settled := reader.flush
    let tags := reader.cursor.pendingTags
    let discarded := if tags.isEmpty then [] else [Notice.tagsDiscarded tags.names]
    let missing := settled.value.features.firstM Reader.firstMissing?
    { value := match if strict then missing else none with
        | some scenario => .error (.missingExamplesKeyword scenario.line scenario.name)
        | none => .ok settled.value.features
      notices := settled.notices ++ discarded }

end IndexedReader

end Gherkin
