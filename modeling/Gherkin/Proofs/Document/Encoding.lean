/-
  Gherkin.Proofs.Document.Encoding

  A document is restored from its JSON text as it was, whatever texts, tables,
  tags and marks are in it. Each part is decoded from its own JSON value, and all
  values that parts are encoded as can be read back from the text.
-/
import Gherkin.Document.Encoding
import Gherkin.Proofs.Document.Lines
import Gherkin.Proofs.Json.RoundTrip

namespace Gherkin

open Json
open Number (twoPow)

namespace Json

/-! ## Decoding of records and arrays -/

theorem mapM_map_eq_some {f : α → β} {g : β → Option γ} {h : α → γ} {xs : List α}
    (hg : ∀ x ∈ xs, g (f x) = some (h x)) : (xs.map f).mapM g = some (xs.map h) := by
  induction xs with
  | nil => rfl
  | cons x xs ih =>
    obtain ⟨hx, hxs⟩ := List.forall_mem_cons.1 hg
    rw [List.map_cons, List.mapM_cons, hx, ih hxs]
    rfl

/-- A record has one member under each of its distinct keys. -/
theorem member?_record {members : List (String × Json)} (h : (members.map (·.1)).Nodup)
    {member : String × Json} (hmember : member ∈ members) :
    member? (members.map fun (key, value) => (some key, value)) member.1 =
      some (some member.2) := by
  obtain ⟨before, after, rfl⟩ := List.append_of_mem hmember
  simp only [List.map_append, List.map_cons, List.nodup_append, List.nodup_cons] at h
  obtain ⟨-, ⟨hafter, -⟩, hbefore⟩ := h
  -- what precedes and what follows the member has other keys
  have hother : ∀ others : List (String × Json), member.1 ∉ others.map (·.1) →
      (others.map fun (key, value) => ((some key : Option String), value)).filter
        (·.1 = some member.1) = [] := by
    intro others hkey
    rw [List.filter_eq_nil_iff]
    rintro _ hmem
    obtain ⟨other, hother, rfl⟩ := List.mem_map.1 hmem
    intro heq
    exact hkey (List.mem_map.2 ⟨other, hother, Option.some.inj (of_decide_eq_true heq)⟩)
  have hfront : member.1 ∉ before.map (·.1) := fun hmem =>
    hbefore member.1 hmem member.1 List.mem_cons_self rfl
  rw [member?, List.map_append, List.map_cons, List.filter_append, hother before hfront,
    List.filter_cons_of_pos (by simp), hother after hafter]
  rfl

/-- The fields of a record with distinct keys are the values of its members. -/
theorem fields?_record {names : List String} {members : List (String × Json)}
    (hnames : members.map (·.1) = names) (hdistinct : names.Nodup) :
    fields? names (record members) = some (members.map fun member => some member.2) := by
  subst hnames
  have hkeys : (members.map fun (key, value) => ((some key : Option String), value)).all
      (·.1.isSome) = true := by simp
  unfold fields? record
  simp only [hkeys, if_true]
  exact mapM_map_eq_some fun member hmember => member?_record hdistinct hmember

theorem toList?_map {encode : α → Json} {decode : Json → Option α}
    (h : ∀ a, decode (encode a) = some a) (items : List α) :
    toList? decode (.array (items.map encode)) = some items := by
  rw [toList?, mapM_map_eq_some (h := id) fun item _ => h item, List.map_id]

@[simp] theorem toText?_text (s : String) : toText? (text s) = some s := rfl

@[simp] theorem toTexts?_texts (items : List String) : toTexts? (texts items) = some items :=
  toList?_map toText?_text items

theorem optional_option {encode : α → Json} {decode : Json → Option α}
    (h : ∀ a, decode (encode a) = some a) (hnull : ∀ a, encode a ≠ .null) (a : Option α) :
    optional decode (some (.option encode a)) = some a := by
  cases a with
  | none => rfl
  | some a =>
    rw [Json.option, optional, h, Option.map_some]
    exact hnull a

@[simp] theorem optional_text (s : Option String) :
    optional toText? (some (.option text s)) = some s :=
  optional_option toText?_text (by simp [text]) s

@[simp] theorem required_some (decode : Json → Option α) (json : Json) :
    required decode (some json) = decode json := rfl

@[simp] theorem record_ne_null (members : List (String × Json)) : record members ≠ .null := by
  simp [record]

/-! ## Legible values -/

theorem legibleItems_iff (items : List Json) :
    LegibleItems items ↔ ∀ item ∈ items, item.Legible := by
  induction items with
  | nil => simp [LegibleItems]
  | cons item items ih => rw [LegibleItems, ih, List.forall_mem_cons]

theorem legibleMembers_iff (members : List (Option String × Json)) :
    LegibleMembers members ↔ ∀ member ∈ members, member.2.Legible := by
  induction members with
  | nil => simp [LegibleMembers]
  | cons member members ih => rw [LegibleMembers, ih, List.forall_mem_cons]

@[simp] theorem legible_record (members : List (String × Json)) :
    (record members).Legible ↔ ∀ member ∈ members, member.2.Legible := by
  rw [record, Legible, legibleMembers_iff, List.forall_mem_map]

@[simp] theorem legible_map (encode : α → Json) (items : List α) :
    (array (items.map encode)).Legible ↔ ∀ item ∈ items, (encode item).Legible := by
  rw [Legible, legibleItems_iff, List.forall_mem_map]

@[simp] theorem legible_option (encode : α → Json) (a : Option α) :
    (option encode a).Legible ↔ ∀ b ∈ a, (encode b).Legible := by
  cases a <;> simp [option, Legible]

@[simp] theorem legible_text (s : String) : (text s).Legible := by
  rw [text, Legible]
  trivial

@[simp] theorem legible_texts (items : List String) : (texts items).Legible :=
  (legible_map text items).2 fun item _ => legible_text item

@[simp] theorem legible_bool (value : Bool) : (bool value).Legible := by
  rw [Legible]
  trivial

@[simp] theorem legible_number (n : Nat) : (number n).Legible ↔ n < twoPow 64 := by
  rw [Legible]

end Json

/-! ## Tags and arguments of steps -/

@[simp] theorem TagSet.ofJson?_toJson (tags : TagSet) : ofJson? tags.toJson = some tags := by
  rw [ofJson?, toJson, toTexts?_texts, Option.map_some]

@[simp] theorem TagSet.legible_toJson (tags : TagSet) : tags.toJson.Legible :=
  legible_texts tags.names

@[simp] theorem DocString.ofJson?_toJson (doc : DocString) : ofJson? doc.toJson = some doc := by
  rw [ofJson?, toJson, fields?_record]
  · simp
  · rfl
  · decide

@[simp] theorem DocString.legible_toJson (doc : DocString) : doc.toJson.Legible := by
  simp [toJson]

@[simp] theorem DataTable.ofJson?_toJson (table : DataTable) :
    ofJson? table.toJson = some table := by
  rw [ofJson?, toJson, toList?_map toTexts?_texts, Option.map_some]

@[simp] theorem DataTable.legible_toJson (table : DataTable) : table.toJson.Legible := by
  simp [toJson]

@[simp] theorem StepKeyword.ofJson?_toJson (keyword : StepKeyword) :
    ofJson? keyword.toJson = some keyword := by
  cases keyword <;> decide

@[simp] theorem StepKeyword.legible_toJson (keyword : StepKeyword) : keyword.toJson.Legible :=
  legible_text keyword.name

/-! ## Steps and rows -/

namespace Step

@[simp] theorem ofJson?_toJson (step : Step) : ofJson? step.toJson = some step := by
  have hdoc : optional DocString.ofJson? (some (.option DocString.toJson step.docString)) =
      some step.docString :=
    optional_option DocString.ofJson?_toJson (fun _ => record_ne_null _) _
  have htable : optional DataTable.ofJson? (some (.option DataTable.toJson step.dataTable)) =
      some step.dataTable :=
    optional_option DataTable.ofJson?_toJson (by simp [DataTable.toJson]) _
  rw [ofJson?, toJson, fields?_record]
  · simp [hdoc, htable, toNat?, toBool?]
  · rfl
  · decide

theorem legible_toJson {step : Step} (h : step.line < twoPow 64) : step.toJson.Legible := by
  simp [toJson, h]

end Step

namespace ExampleRow

theorem cellOfJson?_cellToJson (cell : String × Option String) :
    cellOfJson? (cellToJson cell) = some cell := by
  simp [cellOfJson?, cellToJson, nullable]

@[simp] theorem ofJson?_toJson (row : ExampleRow) : ofJson? row.toJson = some row := by
  rw [ofJson?, toJson, fields?_record]
  · simp [toList?_map cellOfJson?_cellToJson, toNat?]
  · rfl
  · decide

theorem legible_toJson {row : ExampleRow} (h : row.line < twoPow 64) : row.toJson.Legible := by
  have hcell : ∀ cell, (cellToJson cell).Legible := by
    intro cell
    simp [cellToJson, Legible, LegibleItems]
  simp [toJson, h, hcell]

end ExampleRow

namespace Outline

@[simp] theorem ofJson?_toJson (outline : Outline) : ofJson? outline.toJson = some outline := by
  rw [ofJson?, toJson, fields?_record]
  · simp [toList?_map ExampleRow.ofJson?_toJson, toBool?]
  · rfl
  · decide

theorem legible_toJson {outline : Outline} (h : ∀ row ∈ outline.examples, row.line < twoPow 64) :
    outline.toJson.Legible := by
  simpa [toJson] using fun row hrow => ExampleRow.legible_toJson (h row hrow)

end Outline

/-! ## Backgrounds and scenarios -/

namespace StepBlock

theorem ofFields?_members (block : StepBlock) :
    ofFields? (block.members.map fun member => some member.2) = some block := by
  simp [ofFields?, members, toList?_map Step.ofJson?_toJson, toNat?, toBool?]

theorem legible_members {block : StepBlock} (h : ∀ n ∈ block.lines, n < twoPow 64) :
    ∀ member ∈ block.members, member.2.Legible := by
  rw [lines, List.forall_mem_cons, List.forall_mem_map] at h
  simpa [members, h.1] using fun step hstep => Step.legible_toJson (h.2 step hstep)

end StepBlock

namespace Background

@[simp] theorem ofJson?_toJson (background : Background) :
    ofJson? background.toJson = some background := by
  rw [ofJson?, toJson, fields?_record]
  · rw [Option.bind_some, StepBlock.ofFields?_members]
  · rfl
  · decide

theorem legible_toJson {background : Background} (h : ∀ n ∈ background.lines, n < twoPow 64) :
    (Background.toJson background).Legible :=
  (legible_record _).2 (StepBlock.legible_members h)

end Background

namespace Scenario

@[simp] theorem ofJson?_toJson (scenario : Scenario) :
    ofJson? scenario.toJson = some scenario := by
  have houtline : optional Outline.ofJson? (some (.option Outline.toJson scenario.outline)) =
      some scenario.outline :=
    optional_option Outline.ofJson?_toJson (fun _ => record_ne_null _) _
  have hlength : (scenario.members.map fun member => some member.2).length = 7 := rfl
  rw [ofJson?, toJson, fields?_record]
  · simp only [List.map_append, Option.bind_eq_bind, Option.bind_some, List.take_left' hlength,
      List.drop_left' hlength, StepBlock.ofFields?_members, List.map_cons, List.map_nil,
      List.head?_cons, Option.join_some, houtline, Option.pure_def]
  · rfl
  · decide

theorem legible_toJson {scenario : Scenario} (h : ∀ n ∈ scenario.lines, n < twoPow 64) :
    scenario.toJson.Legible := by
  rw [lines, List.forall_mem_append, List.forall_mem_map] at h
  rw [toJson, legible_record, List.forall_mem_append, List.forall_mem_singleton, legible_option]
  refine ⟨StepBlock.legible_members h.1, ?_⟩
  intro outline houtline
  refine Outline.legible_toJson fun row hrow => h.2 row ?_
  rw [examples, Option.mem_def.1 houtline]
  exact hrow

end Scenario

/-! ## Rules and features -/

/-- The background and the scenarios of a section have lines of the section only. -/
theorem Section.legible_parts {part : Section} (h : ∀ n ∈ part.lines, n < twoPow 64) :
    part.line < twoPow 64 ∧ (Json.option Background.toJson part.background).Legible ∧
      (Json.array (part.scenarios.map Scenario.toJson)).Legible := by
  rw [lines, List.forall_mem_cons, inner, List.forall_mem_append] at h
  obtain ⟨hline, hbackground, hscenarios⟩ := h
  refine ⟨hline, (legible_option _ _).2 ?_, (legible_map _ _).2 ?_⟩
  · intro background hmem
    refine Background.legible_toJson fun n hn => hbackground n ?_
    exact List.mem_flatMap.2 ⟨background, Option.mem_toList.2 hmem, hn⟩
  · intro scenario hmem
    exact Scenario.legible_toJson fun n hn =>
      hscenarios n (List.mem_flatMap.2 ⟨scenario, hmem, hn⟩)

theorem optional_background (background : Option Background) :
    optional Background.ofJson? (some (.option Background.toJson background)) =
      some background :=
  optional_option Background.ofJson?_toJson (fun _ => record_ne_null _) _

namespace Rule

@[simp] theorem ofJson?_toJson (rule : Rule) : ofJson? rule.toJson = some rule := by
  rw [ofJson?, toJson, fields?_record]
  · simp [optional_background, toList?_map Scenario.ofJson?_toJson, toNat?,
      toBool?]
  · rfl
  · decide

theorem legible_toJson {rule : Rule} (h : ∀ n ∈ rule.toSection.lines, n < twoPow 64) :
    rule.toJson.Legible := by
  obtain ⟨hline, hbackground, hscenarios⟩ := Section.legible_parts h
  simp [toJson, hline, hbackground, hscenarios, -legible_option, -legible_map]

end Rule

namespace Feature

@[simp] theorem ofJson?_toJson (feature : Feature) : ofJson? feature.toJson = some feature := by
  rw [ofJson?, toJson, fields?_record]
  · simp [optional_background, toList?_map Scenario.ofJson?_toJson,
      toList?_map Rule.ofJson?_toJson, toNat?]
  · rfl
  · decide

theorem legible_toJson {feature : Feature} (h : ∀ n ∈ feature.lines, n < twoPow 64) :
    feature.toJson.Legible := by
  rw [lines, List.forall_mem_append] at h
  obtain ⟨hline, hbackground, hscenarios⟩ := Section.legible_parts h.1
  have hrules : (Json.array (feature.rules.map Rule.toJson)).Legible := by
    rw [legible_map]
    intro rule hmem
    exact Rule.legible_toJson fun n hn => h.2 n (List.mem_flatMap.2 ⟨rule, hmem, hn⟩)
  simp [toJson, hline, hbackground, hscenarios, hrules, -legible_option, -legible_map]

/-- A feature whose lines have numbers on 64 bits is restored from its JSON text. -/
theorem restore?_dump (feature : Feature) (h : ∀ n ∈ feature.lines, n < twoPow 64) :
    restore? feature.dump = some feature := by
  rw [restore?, dump, read?_pretty _ (legible_toJson h), Option.bind_some, ofJson?_toJson]

/-- A feature with a rule, an outline with a missing cell, a doc-string and a table, with quotation
    marks, backslashes and controls in its texts, and with the last of all lines. -/
def intricate : Feature where
  name := "\"quoted\" \\ \x00"
  keyword := "Feature"
  language := "en"
  description := ["one\ntwo", ""]
  tags := ⟨["tag", "tag"]⟩
  background := some { name := "", keyword := "Background", line := 2 }
  rules := [{
    name := "\x1f\x7f"
    keyword := "Rule"
    called := true
    line := 3
    scenarios := [{
      name := "é"
      keyword := "Scenario Outline"
      line := 4
      steps := [{
        keyword := .But
        keywordText := "*"
        details := "<a>"
        docString := some { content := "\t", mediaType := some "json" }
        dataTable := some { rows := [["x"], []] }
        line := twoPow 64 - 1
        called := true }]
      outline := some {
        examples := [{ values := [("a", some "1"), ("b", none)], line := 6 }]
        missingKeyword := true } }] }]
  line := 1

theorem restore?_dump_intricate :
    (∀ n ∈ intricate.lines, n < twoPow 64) ∧ restore? intricate.dump = some intricate :=
  have h : ∀ n ∈ intricate.lines, n < twoPow 64 := by decide
  ⟨h, restore?_dump intricate h⟩

end Feature

end Gherkin
