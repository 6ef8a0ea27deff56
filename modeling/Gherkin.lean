import Gherkin.Text.Ranges
import Gherkin.Text.Digit
import Gherkin.Text.Word
import Gherkin.Text.Letter
import Gherkin.Text.Veiled
import Gherkin.Text.Folding
import Gherkin.Text.Blank
import Gherkin.Text.Property.Basic
import Gherkin.Text.Property.Case
import Gherkin.Text.Property.Letter
import Gherkin.Text.Property.Mark
import Gherkin.Text.Property.Sign
import Gherkin.Text.Property.Category
import Gherkin.Text.Property.Trait
import Gherkin.Text.Property.Derived
import Gherkin.Text.Property.Script
import Gherkin.Text.Property.Age
import Gherkin.Text.Property.Break
import Gherkin.Text.Property.Query
import Gherkin.Text.Quoted
import Gherkin.Choice
import Gherkin.Notice
import Gherkin.Language.Tag
import Gherkin.Language.Keyword
import Gherkin.Language.Table
import Gherkin.Language.Line
import Gherkin.Settings.Fault
import Gherkin.Tag.Set
import Gherkin.Tag.Filter
import Gherkin.Document.Step
import Gherkin.Document.Scenario
import Gherkin.Document.Feature
import Gherkin.Document.Lookup
import Gherkin.Document.Selection
import Gherkin.Reader.Row
import Gherkin.Reader.Fence
import Gherkin.Reader.Form
import Gherkin.Reader.Fault
import Gherkin.Reader.Basic
import Gherkin.Reader.Line
import Gherkin.Reader.Document
import Gherkin.Json.Basic
import Gherkin.Json.Reader
import Gherkin.Document.Encoding
import Gherkin.Number.Numeral
import Gherkin.Number.Binary64
import Gherkin.Number.Shortest
import Gherkin.Calendar.Date
import Gherkin.Calendar.Layout
import Gherkin.Regex.Class
import Gherkin.Regex.Basic
import Gherkin.Regex.Program
import Gherkin.Regex.Match
import Gherkin.Regex.Escape
import Gherkin.Regex.Flags
import Gherkin.Regex.Bracket
import Gherkin.Regex.Syntax
import Gherkin.Value
import Gherkin.Expression.Token
import Gherkin.Expression.Kind
import Gherkin.Expression.Specificity
import Gherkin.Expression.Fault
import Gherkin.Expression.Basic
import Gherkin.Expression.Registry
import Gherkin.Outline.Template
import Gherkin.Outline.Expansion
import Gherkin.Plan.Pool
import Gherkin.Plan.Basic
import Gherkin.Plan.Resolve
import Gherkin.Text.Utf8
import Gherkin.Settings.Basic
import Gherkin.Folder.Basic
import Gherkin.Folder.Load
import Gherkin.Reader.Cursor
import Gherkin.Reader.Indexed
import Gherkin.Proofs.Reader.Sound
import Gherkin.Proofs.Reader.Standing
import Gherkin.Proofs.Reader.Agreement
import Gherkin.Proofs.Reader.Placement
import Gherkin.Proofs.Document.Inventory
import Gherkin.Proofs.Reader.Account
import Gherkin.Proofs.Reader.Accepted
import Gherkin.Proofs.Reader.Scanning
import Gherkin.Proofs.Reader.Conservation
import Gherkin.Proofs.Choice
import Gherkin.Proofs.Plan.Run
import Gherkin.Proofs.Plan.Accounting
import Gherkin.Proofs.Plan.Best
import Gherkin.Proofs.Plan.Overridden
import Gherkin.Proofs.Outline.Slot
import Gherkin.Proofs.Outline.Name
import Gherkin.Proofs.Outline.Fault
import Gherkin.Proofs.Tag.Set
import Gherkin.Proofs.Outline.Instance
import Gherkin.Proofs.Expression.Capture
import Gherkin.Proofs.Expression.Token
import Gherkin.Proofs.Expression.Cache
import Gherkin.Proofs.Plan.Values
import Gherkin.Proofs.Json.RoundTrip
import Gherkin.Proofs.Document.Lines
import Gherkin.Proofs.Document.Encoding
import Gherkin.Proofs.Document.Order
import Gherkin.Proofs.Reader.Order
import Gherkin.Proofs.Document.Steps
import Gherkin.Proofs.Document.Renumber
import Gherkin.Proofs.Reader.Renumber
import Gherkin.Proofs.Reader.Likeness
import Gherkin.Proofs.Reader.Interlude
import Gherkin.Proofs.Text.Strip
import Gherkin.Proofs.Text.Split
import Gherkin.Proofs.Reader.Form
import Gherkin.Proofs.Reader.Row
import Gherkin.Proofs.Reader.Fence
import Gherkin.Proofs.Reader.Attachment
import Gherkin.Proofs.Reader.Indent
import Gherkin.Proofs.Reader.Graft
import Gherkin.Proofs.Reader.Block
import Gherkin.Proofs.Reader.Refused
import Gherkin.Proofs.Document.Skeleton
import Gherkin.Proofs.Reader.Skeleton
import Gherkin.Proofs.Reader.Strictness
import Gherkin.Proofs.Reader.Tagging
import Gherkin.Proofs.Reader.Examples
import Gherkin.Proofs.Reader.DocString
import Gherkin.Proofs.Regex.Route
import Gherkin.Proofs.Regex.Run
import Gherkin.Proofs.Regex.Search
import Gherkin.Proofs.Regex.Build
import Gherkin.Proofs.Regex.Steady.Basic
import Gherkin.Proofs.Regex.Steady.Escape
import Gherkin.Proofs.Regex.Steady.Bracket
import Gherkin.Proofs.Regex.Steady.Sign
import Gherkin.Proofs.Regex.Within
import Gherkin.Proofs.Regex.Reads
import Gherkin.Proofs.Regex.Fragment
import Gherkin.Proofs.Regex.Crossing
import Gherkin.Proofs.Expression.Reading
import Gherkin.Proofs.Expression.Reassembly
import Gherkin.Proofs.Expression.Group
import Gherkin.Proofs.Expression.Compilation
import Gherkin.Proofs.Expression.Literal
import Gherkin.Proofs.Expression.Rank
import Gherkin.Proofs.Plan.Exact
import Gherkin.Proofs.Plan.Effective
import Gherkin.Proofs.Tag.Filter
import Gherkin.Proofs.Document.Walk
import Gherkin.Proofs.Document.Runnable
import Gherkin.Proofs.Text.Size
import Gherkin.Proofs.Language.Step
import Gherkin.Proofs.Language.Header
import Gherkin.Proofs.Tag.Insertion
import Gherkin.Proofs.Tag.Merging
import Gherkin.Proofs.Tag.Reading
import Gherkin.Proofs.Tag.Notation
import Gherkin.Proofs.Document.Selection
import Gherkin.Proofs.Regex.Language
import Gherkin.Proofs.Number.Integer
import Gherkin.Proofs.Number.Decimal
import Gherkin.Proofs.Expression.Acceptance
import Gherkin.Proofs.Calendar.Count
import Gherkin.Proofs.Calendar.Spelling
import Gherkin.Proofs.Calendar.Layout
import Gherkin.Proofs.Calendar.Reading
import Gherkin.Proofs.Calendar.Script
import Gherkin.Proofs.Expression.Date
import Gherkin.Proofs.Expression.Conversion
