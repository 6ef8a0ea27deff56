/-
  Gherkin.Notice

  Notices: what the library has to say about its work besides its results. Each
  notice is a cause with its data; the level and the wording are functions of it.
  `Noted` pairs a result with the notices raised on the way.
-/
import Gherkin.Text.Quoted

namespace Gherkin

/-! ## Levels -/

/-- How grave a notice is. -/
inductive Level where
  | warn
  | debug
  | trace
  deriving DecidableEq, Repr

namespace Level

/-- The name under which a level is reported. -/
def name : Level → String
  | warn => "WARN"
  | debug => "DEBUG"
  | trace => "TRACE"

/-- Rising from the gravest level. -/
def rank : Level → Nat
  | warn => 0
  | debug => 1
  | trace => 2

end Level

/-! ## Notices -/

/-- The occasions on which the library raises a notice. -/
inductive Notice where
  /-- A language code that is no language tag. -/
  | unreadableLanguage (code fault : String)
  /-- A language tag without a keyword table. -/
  | unknownLanguage (tag : String)
  /-- The settings name a language without a keyword table. -/
  | unsupportedLanguage (setting language : String)
  | settingsLoaded (description : String)
  | documentLanguage (code : String)
  /-- A line was accepted; `kind` names what it was taken for. -/
  | lineRead (line : Nat) (kind : String) (inDocString : Bool)
  | featureStarted (name : String)
  | textBeforeFeature (text : String)
  | scenarioPromoted (name : String)
  | rowsWithoutExamples (line : Nat) (scenario : String)
  | extraCells (line cells columns : Nat)
  | examplesWithoutTable (line : Nat)
  /-- An examples table whose scenario is not to be found. -/
  | examplesLost (line : Nat)
  | tagsDiscarded (tags : List String)
  | outlineExpanded (name : String) (count : Nat)
  | placeholderRegistered (name : String)
  /-- An expression was compiled to a regular expression. -/
  | expressionCompiled (pattern source : String)
  | stepOverridden (scope keyword pattern : String)
  | stepsUnresolved (count : Nat)
  | documentLoaded (name : String) (bytes : Nat)
  deriving DecidableEq, Repr

namespace Notice

/-- The level of a notice. -/
def level : Notice → Level
  | unsupportedLanguage .. | rowsWithoutExamples .. | extraCells .. | examplesLost .. => .warn
  | lineRead .. | expressionCompiled .. => .trace
  | _ => .debug

/-- The wording of a notice. -/
def message : Notice → String
  | unreadableLanguage code fault =>
    s!"unparseable language {Text.quote code} ({fault}); using English keywords"
  | unknownLanguage tag => s!"no keyword table for {tag}; using English keywords"
  | unsupportedLanguage setting language =>
    s!"{setting}={language} has no keyword table; using English"
  | settingsLoaded description => s!"loaded configuration: {description}"
  | documentLanguage code => s!"document language set to {code}"
  | lineRead line kind inDocString =>
    s!"line {line}: {kind}" ++ (if inDocString then " (doc-string)" else "")
  | featureStarted name => s!"parsing feature {Text.quote name}"
  | textBeforeFeature text => s!"ignoring text before the Feature line: {Text.quote text}"
  | scenarioPromoted name => s!"scenario {Text.quote name} promoted to an outline"
  | rowsWithoutExamples line scenario =>
    s!"line {line}: scenario outline {Text.quote scenario} has table rows " ++
      "without an Examples keyword"
  | extraCells line cells columns =>
    s!"line {line}: example row has {cells} cells but only {columns} columns; extra cells ignored"
  | examplesWithoutTable line => s!"line {line}: Examples block has no table"
  | examplesLost line => s!"line {line}: examples lost their outline"
  | tagsDiscarded tags =>
    s!"discarding tags TagSet({Text.quoteList tags}) with no following entity"
  | outlineExpanded name count => s!"expanded outline {Text.quote name} into {count} scenarios"
  | placeholderRegistered name => s!"registered custom placeholder \x7b{name}\x7d"
  | expressionCompiled pattern source =>
    s!"compiled expression {Text.quote pattern} to {source}"
  | stepOverridden scope keyword pattern => s!"{scope} step `{keyword} {pattern}` is overridden"
  | stepsUnresolved count => s!"{count} steps have no implementation"
  | documentLoaded name bytes => s!"loaded {name} ({bytes} bytes)"

end Notice

/-! ## Results with notices -/

/-- A value together with the notices raised while it was made, oldest first. -/
structure Noted (α : Type u) where
  value : α
  notices : List Notice := []

namespace Noted

instance : Monad Noted where
  pure a := ⟨a, []⟩
  bind x f :=
    let y := f x.value
    ⟨y.value, x.notices ++ y.notices⟩

@[simp] theorem pure_value (a : α) : (pure a : Noted α).value = a := rfl

@[simp] theorem pure_notices (a : α) : (pure a : Noted α).notices = [] := rfl

@[simp] theorem bind_value (x : Noted α) (f : α → Noted β) :
    (x >>= f).value = (f x.value).value := rfl

@[simp] theorem bind_notices (x : Noted α) (f : α → Noted β) :
    (x >>= f).notices = x.notices ++ (f x.value).notices := rfl

@[simp] theorem map_value (f : α → β) (x : Noted α) : (f <$> x).value = f x.value := rfl

@[simp] theorem map_notices (f : α → β) (x : Noted α) : (f <$> x).notices = x.notices :=
  List.append_nil x.notices

instance : LawfulMonad Noted :=
  LawfulMonad.mk' Noted
    (fun x => by cases x; simp [Functor.map])
    (fun _ _ => by simp [bind, pure])
    (fun _ _ _ => by simp [bind])

/-- Only the value of what came first counts for what comes next. -/
theorem bind_congr {x : Noted α} {f g : α → Noted β} (h : f x.value = g x.value) :
    x >>= f = x >>= g :=
  congrArg (fun y : Noted β => (⟨y.value, x.notices ++ y.notices⟩ : Noted β)) h

/-- Raises one notice. -/
def say (notice : Notice) : Noted Unit := ⟨(), [notice]⟩

end Noted

/-- A result of which something is known is there. -/
theorem exists_ok_of_map_toOption {result : Except ε α} {f : α → β} {b : β}
    (h : result.toOption.map f = some b) : ∃ a, result = .ok a ∧ f a = b := by
  cases result with
  | error fault => cases h
  | ok a => exact ⟨a, rfl, Option.some.inj h⟩

end Gherkin
