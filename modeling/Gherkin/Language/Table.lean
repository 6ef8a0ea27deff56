/-
  Gherkin.Language.Table

  The languages in which documents may be written, the keywords of each, and
  the choice of a language by its tag. A step keyword that must be followed by a
  blank carries the blank in its spelling.
-/
import Gherkin.Language.Keyword
import Gherkin.Language.Tag
import Gherkin.Notice

namespace Gherkin

/-- The languages with a keyword table. -/
inductive Language where
  | english
  | french
  | spanish
  | german
  | italian
  | portuguese
  | dutch
  | japanese
  deriving DecidableEq, Repr

namespace Language

/-- All languages, in the order in which they are listed. -/
def all : List Language :=
  [english, french, spanish, german, italian, portuguese, dutch, japanese]

theorem mem_all (language : Language) : language ∈ all := by
  cases language <;> decide

/-- The language subtag of a language. -/
def code : Language → String
  | english => "en"
  | french => "fr"
  | spanish => "es"
  | german => "de"
  | italian => "it"
  | portuguese => "pt"
  | dutch => "nl"
  | japanese => "ja"

theorem code_injective {a b : Language} (h : a.code = b.code) : a = b := by
  revert h
  cases a <;> cases b <;> decide

/-! ## Keywords -/

/-- The spellings of a header keyword. -/
def headers : Language → HeaderKeyword → List String
  | english, .Feature => ["Feature", "Business Need", "Ability"]
  | english, .Rule => ["Rule"]
  | english, .Background => ["Background"]
  | english, .Scenario => ["Scenario", "Example"]
  | english, .ScenarioOutline => ["Scenario Outline", "Scenario Template"]
  | english, .Examples => ["Examples", "Scenarios"]
  | french, .Feature => ["Fonctionnalité"]
  | french, .Rule => ["Règle"]
  | french, .Background => ["Contexte"]
  | french, .Scenario => ["Scénario", "Exemple"]
  | french, .ScenarioOutline => ["Plan du scénario", "Plan du Scénario"]
  | french, .Examples => ["Exemples"]
  | spanish, .Feature => ["Característica", "Necesidad del negocio", "Requisito"]
  | spanish, .Rule => ["Regla de negocio", "Regla"]
  | spanish, .Background => ["Antecedentes"]
  | spanish, .Scenario => ["Escenario", "Ejemplo"]
  | spanish, .ScenarioOutline => ["Esquema del escenario"]
  | spanish, .Examples => ["Ejemplos"]
  | german, .Feature => ["Funktionalität", "Funktion"]
  | german, .Rule => ["Regel", "Rule"]
  | german, .Background => ["Grundlage", "Hintergrund", "Voraussetzungen", "Vorbedingungen"]
  | german, .Scenario => ["Szenario", "Beispiel"]
  | german, .ScenarioOutline => ["Szenariogrundriss", "Szenarien"]
  | german, .Examples => ["Beispiele"]
  | italian, .Feature => ["Funzionalità", "Esigenza di Business", "Abilità"]
  | italian, .Rule => ["Regola"]
  | italian, .Background => ["Contesto"]
  | italian, .Scenario => ["Scenario", "Esempio"]
  | italian, .ScenarioOutline => ["Schema dello scenario"]
  | italian, .Examples => ["Esempi"]
  | portuguese, .Feature => ["Funcionalidade", "Característica", "Caracteristica"]
  | portuguese, .Rule => ["Regra"]
  | portuguese, .Background => ["Contexto", "Cenário de Fundo", "Cenario de Fundo", "Fundo"]
  | portuguese, .Scenario => ["Exemplo", "Cenário", "Cenario"]
  | portuguese, .ScenarioOutline =>
    ["Esquema do Cenário", "Esquema do Cenario", "Delineação do Cenário", "Delineacao do Cenario"]
  | portuguese, .Examples => ["Exemplos", "Cenários", "Cenarios"]
  | dutch, .Feature => ["Functionaliteit"]
  | dutch, .Rule => ["Regel"]
  | dutch, .Background => ["Achtergrond"]
  | dutch, .Scenario => ["Voorbeeld", "Scenario"]
  | dutch, .ScenarioOutline => ["Abstract Scenario"]
  | dutch, .Examples => ["Voorbeelden"]
  | japanese, .Feature => ["フィーチャ", "機能"]
  | japanese, .Rule => ["ルール"]
  | japanese, .Background => ["背景"]
  | japanese, .Scenario => ["シナリオ"]
  | japanese, .ScenarioOutline =>
    ["シナリオアウトライン", "シナリオテンプレート", "シナリオテンプレ", "テンプレ"]
  | japanese, .Examples => ["例", "サンプル"]

/-- The spellings of a step keyword. -/
def steps : Language → StepKeyword → List String
  | english, .Given => ["Given "]
  | english, .When => ["When "]
  | english, .Then => ["Then "]
  | english, .And => ["And ", "* "]
  | english, .But => ["But "]
  | french, .Given =>
    ["Soit ", "Sachant que ", "Sachant qu'", "Sachant ", "Etant donné que ", "Etant donné qu'",
     "Etant donné ", "Etant donnée ", "Etant donnés ", "Etant données ", "Étant donné que ",
     "Étant donné qu'", "Étant donné ", "Étant donnée ", "Étant donnés ", "Étant données "]
  | french, .When => ["Quand ", "Lorsque ", "Lorsqu'"]
  | french, .Then => ["Alors ", "Donc "]
  | french, .And => ["Et que ", "Et qu'", "Et ", "* "]
  | french, .But => ["Mais que ", "Mais qu'", "Mais "]
  | spanish, .Given => ["Dado ", "Dada ", "Dados ", "Dadas "]
  | spanish, .When => ["Cuando "]
  | spanish, .Then => ["Entonces "]
  | spanish, .And => ["Y ", "E ", "* "]
  | spanish, .But => ["Pero "]
  | german, .Given => ["Angenommen ", "Gegeben seien ", "Gegeben sei "]
  | german, .When => ["Wenn "]
  | german, .Then => ["Dann "]
  | german, .And => ["Und ", "* "]
  | german, .But => ["Aber "]
  | italian, .Given => ["Dato ", "Data ", "Dati ", "Date "]
  | italian, .When => ["Quando "]
  | italian, .Then => ["Allora "]
  | italian, .And => ["E ", "* "]
  | italian, .But => ["Ma "]
  | portuguese, .Given => ["Dado ", "Dada ", "Dados ", "Dadas "]
  | portuguese, .When => ["Quando "]
  | portuguese, .Then => ["Então ", "Entao "]
  | portuguese, .And => ["E ", "* "]
  | portuguese, .But => ["Mas "]
  | dutch, .Given => ["Gegeven ", "Stel "]
  | dutch, .When => ["Als ", "Wanneer "]
  | dutch, .Then => ["Dan "]
  | dutch, .And => ["En ", "* "]
  | dutch, .But => ["Maar "]
  | japanese, .Given => ["前提"]
  | japanese, .When => ["もし"]
  | japanese, .Then => ["ならば"]
  | japanese, .And => ["かつ", "* "]
  | japanese, .But => ["しかし", "但し", "ただし"]

/-! ## Choosing a language -/

/-- A language code as a tag: blanks around it are dropped and underscores join like hyphens. -/
def readTag (code : String) : Except LanguageTag.Fault LanguageTag :=
  LanguageTag.read ((Text.strip code.toList).map fun c => if c = '_' then '-' else c)

/-- The language whose subtag a tag carries. -/
def ofTag? (tag : LanguageTag) : Option Language :=
  all.find? fun language => language.code = tag.language

/-- The language for a code; English, with a notice, if the code is no tag or has no table. -/
def ofCode (code : String) : Noted Language :=
  match readTag code with
  | .error fault => ⟨english, [.unreadableLanguage code fault.message]⟩
  | .ok tag =>
    match ofTag? tag with
    | none => ⟨english, [.unknownLanguage tag.text]⟩
    | some language => pure language

/-- Whether a code has a table of its own. -/
def isSupported (code : String) : Bool :=
  match readTag code with
  | .error _ => false
  | .ok tag => (ofTag? tag).isSome

example : (ofCode "pt_BR").value = portuguese ∧ (ofCode "tlh").value = english := by decide

end Language

end Gherkin
