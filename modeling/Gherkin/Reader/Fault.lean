/-
  Gherkin.Reader.Fault

  Why a document is refused. Every fault but one carries the line it was found
  on; lines count from one.
-/
import Gherkin.Document.Lookup

namespace Gherkin

/-- The faults of a document. -/
inductive DocumentFault where
  | duplicateFeature (line : Nat)
  | emptyFeatureName (line : Nat)
  /-- A header or a step stands before the feature line. -/
  | beforeFeature (line : Nat) (text : String)
  | duplicateBackground (line : Nat) (kind : SectionKind)
  | stepWithoutScenario (line : Nat) (text : String)
  | disallowedBackgroundStep (line : Nat) (keyword : StepKeyword)
  | tableRowOutsideExamples (line : Nat)
  | examplesWithoutScenario (line : Nat)
  | docStringWithoutStep (line : Nat)
  /-- The document ends inside the doc-string opened on the line. -/
  | unterminatedDocString (line : Nat)
  | missingFeature
  /-- In strict mode: rows without an examples keyword under the outline on the line. -/
  | missingExamplesKeyword (line : Nat) (scenario : String)
  deriving DecidableEq, Repr

/-- The wording of a fault. -/
def DocumentFault.message : DocumentFault → String
  | duplicateFeature line => s!"line {line}: only one Feature is allowed per document"
  | emptyFeatureName line => s!"line {line}: Feature name must not be empty"
  | beforeFeature line text => s!"line {line}: `{text}` appears before the Feature line"
  | duplicateBackground line kind =>
    s!"line {line}: a Background is already defined in this {kind.title}"
  | stepWithoutScenario line text =>
    s!"line {line}: step `{text}` has no enclosing Scenario or Background"
  | disallowedBackgroundStep line keyword =>
    s!"line {line}: `{keyword.name}` steps are not allowed in a Background"
  | tableRowOutsideExamples line =>
    s!"line {line}: table row has no enclosing Scenario Outline, Examples block or step"
  | examplesWithoutScenario line => s!"line {line}: Examples block has no enclosing Scenario"
  | docStringWithoutStep line => s!"line {line}: doc-string has no preceding step"
  | unterminatedDocString line => s!"line {line}: doc-string opened here is never closed"
  | missingFeature => "document does not contain a Feature"
  | missingExamplesKeyword line scenario =>
    s!"line {line}: scenario outline `{scenario}` has example rows without an Examples keyword"

end Gherkin
