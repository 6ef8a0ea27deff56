/-
  Gherkin.Tag.Filter

  Selection by tags. A filter asks for one tag or for several at once, a policy
  has filters that let through and filters that keep out. Filters are written
  `@a` or `@a+@b`, and lists of them with commas.
-/
import Gherkin.Settings.Fault
import Gherkin.Tag.Set

namespace Gherkin

/-! ## Filters -/

/-- A condition on a tag set. -/
inductive TagFilter where
  /-- The set holds the tag. -/
  | tag (name : String)
  /-- The set holds every one of the tags. -/
  | all (names : List String)
  deriving DecidableEq, Repr

namespace TagFilter

/-- The filter for one tag. -/
def ofTag (tag : String) : TagFilter := .tag (tagName tag)

/-- The filter for several tags at once. -/
def ofTags (tags : List String) : TagFilter := .all (tags.map tagName)

/-- The names a filter asks for. -/
def names : TagFilter → List String
  | tag name => [name]
  | all names => names

/-- Whether a tag set meets the condition. -/
def accepts (filter : TagFilter) (tags : TagSet) : Bool :=
  filter.names.all tags.contains

/-- A filter as it is written. -/
def text (filter : TagFilter) : String :=
  "+".intercalate (filter.names.map fun name => s!"@{name}")

/-- Names that can be written in a filter: not empty and free of blanks. -/
def isName (name : String) : Bool :=
  !name.isEmpty && !name.toList.any Text.isBlank

/-- Reads one filter. -/
def read (text : String) : Except SettingFault TagFilter :=
  let names := (Text.splitAt '+' text).map tagName
  if names.all isName then
    match names with
    | [name] => .ok (ofTag name)
    | names => .ok (ofTags names)
  else
    .error (.tagExpression "tag filter" (Text.trim text))

/-- Reads a list of filters; blank items do not count. -/
def readList (text : String) : Except SettingFault (List TagFilter) :=
  ((Text.splitAt ',' text).filter fun item => !(Text.trim item).isEmpty).mapM read

/-- Whether some filter of a list accepts the tags. -/
def someAccepts (filters : List TagFilter) (tags : TagSet) : Bool :=
  filters.any (·.accepts tags)

end TagFilter

/-! ## Policies -/

/-- Which tag sets to run: those some filter of `including` accepts, or all if there is none,
    but not those some filter of `excluding` accepts. -/
structure TagPolicy where
  including : List TagFilter := []
  excluding : List TagFilter := []
  deriving DecidableEq, Repr, Inhabited

namespace TagPolicy

/-- Whether an entity with these tags is to be run. -/
def runs (policy : TagPolicy) (tags : TagSet) : Bool :=
  (policy.including.isEmpty || TagFilter.someAccepts policy.including tags) &&
    !TagFilter.someAccepts policy.excluding tags

end TagPolicy

end Gherkin
