/-
  Gherkin.Proofs.Reader.Block

  A scenario is read in the same way wherever it stands. Its header line leaves
  nothing of what the reader knew but the language and the document; the lines
  behind it change only the scenario; and the numbers of the lines are passed on
  as they are. So a block of lines makes the same scenario in any document as
  behind a feature line alone.
-/
import Gherkin.Proofs.Reader.Graft
import Gherkin.Proofs.Reader.Placement
import Gherkin.Proofs.Reader.Renumber

namespace Gherkin

namespace Reader

variable {reader fresh : Reader} {base freshBase : Feature} {header : Header} {text : String}

/-! ## The header line -/

/-- The reader is between two blocks of a document: `base` is the document when a table that may
    still be open has ended. -/
structure Between (base : Feature) (reader : Reader) : Prop where
  feature : reader.flush.value.feature = some base
  docString : reader.docString = none
  pendingTags : reader.pendingTags = {}

/-- The scenario that a header line opens. -/
def opens (header : Header) (line : Nat) : Scenario :=
  { name := header.name, keyword := header.keyword, line
    outline := if header.kind = .ScenarioOutline then some {} else none }

/-- A reader behind the header line of a scenario has nothing of what was read before but the
    language and the document around the scenario. -/
def opened (language : Language) (header : Header) (base : Feature) (line : Nat) : Reader :=
  { language, feature := some (base.modifyActive (·.addScenario (opens header line)))
    place := some .scenario, previous := .header, line }

theorem read_opens (h : reader.Between base)
    (hform : reader.language.form (Text.trim text) = .header header)
    (hkind : header.kind = .Scenario ∨ header.kind = .ScenarioOutline) :
    (reader.read text).fault = none ∧
      (reader.read text).reader = opened reader.language header base (reader.line + 1) := by
  have hmeets : ({ reader with line := reader.line + 1 } : Reader).settle (.header header) =
      { reader with
        feature := some base, examples := none, line := reader.line + 1 } := by
    show ({ reader with line := reader.line + 1 } : Reader).flush.value = _
    rw [flush_withLine reader (reader.line + 1), flush_eq reader, h.feature]
  rw [read_fault_of_none h.docString, read_reader_of_none h.docString, onLine_fault, onLine_reader]
  simp only [hform, hmeets, onForm]
  rw [onHeader_of_some rfl]
  rcases hkind with hkind | hkind <;>
    simp [hkind, onScenario, modifyActive, accept, h.pendingTags, h.docString, opens, opened]

theorem renumber_opens (f : Nat → Nat) (header : Header) (line : Nat) :
    (opens header line).renumber f = opens header (f line) := by
  unfold opens Scenario.renumber
  split <;> rfl

section Opened

variable (language : Language) (header : Header) (base other : Feature) (line : Nat)

theorem scenario?_opened :
    (opened language header base line).scenario? = some (opens header line) := by
  simp [opened, scenario?, Feature.active_modifyActive, Section.addScenario]

theorem scanner_opened :
    (opened language header base line).scanner = { language, inFeature := true, line } := rfl

/-- The document that the scenario was opened in does not matter for another one. -/
theorem graft_opened :
    (opened language header base line).graft other = opened language header other line := by
  rw [graft, scenario?_opened]
  rfl

theorem graft_renumber_opened (f : Nat → Nat) :
    ((opened language header base line).renumber f).graft other =
      opened language header other (f line) := by
  rw [graft, scenario?_renumber, scenario?_opened, Option.map_some, Option.map_some,
    renumber_opens]
  rfl

end Opened

/-! ## The block -/

theorem readAll_of_accepted {line : String} (h : (reader.read line).fault = none)
    (lines : List String) :
    reader.readAll (line :: lines) =
      ((reader.read line).reader.readAll lines).after (reader.read line).notices := by
  rw [readAll]
  simp only [h]

theorem scanner_renumber (f : Nat → Nat) (reader : Reader) :
    (reader.renumber f).scanner = { reader.scanner with line := f reader.line } := by
  simp [scanner, renumber, OpenDocString.renumber, Function.comp_def]

section Open

variable {rest : List String}

/-- Lines that open no other entity make the same scenario of the open one in any document. -/
theorem flush_readAll_graft (h : reader.scenario?.isSome)
    (hrest : ∀ entry ∈ ({ reader.scanner with line := 0 } : Scanner).entries [] rest,
      entry.opensEntity = false) :
    ∃ scenario, (reader.readAll rest).reader.flush.value.scenario? = some scenario ∧
      ∀ base, ((reader.graft base).readAll rest).reader.flush.value.feature =
        some (base.modifyActive (·.addScenario scenario)) := by
  have hlocal : ∀ base, (reader.readAll rest).Local base ((reader.graft base).readAll rest) :=
    fun _ => readAll_local h hrest
  obtain ⟨scenario, hscenario⟩ := Option.isSome_iff_exists.1
    (isSome_scenario?_flush (hlocal (.ofName "")).opened)
  refine ⟨scenario, hscenario, fun base => ?_⟩
  rw [(hlocal base).grafted]
  show ((reader.readAll rest).reader.graft base).flush.value.feature = _
  rw [flush_graft, graft, hscenario]
  rfl

/-- They do so under any numbers that follow on each other. -/
theorem flush_readAll_renumber_graft {f : Nat → Nat} (hfollow : ∀ n, f (n + 1) = f n + 1)
    (h : reader.scenario?.isSome)
    (hrest : ∀ entry ∈ ({ reader.scanner with line := 0 } : Scanner).entries [] rest,
      entry.opensEntity = false)
    {scenario : Scenario}
    (hread : (reader.readAll rest).reader.flush.value.scenario? = some scenario) (base : Feature) :
    (((reader.renumber f).graft base).readAll rest).fault =
        (reader.readAll rest).fault.map (·.renumber f) ∧
      (((reader.renumber f).graft base).readAll rest).reader.flush.value.feature =
        some (base.modifyActive (·.addScenario (scenario.renumber f))) := by
  have hopen : (reader.renumber f).scenario?.isSome := by
    rw [scenario?_renumber, Option.isSome_map]
    exact h
  have hlocal : ((reader.renumber f).readAll rest).Local base
      (((reader.renumber f).graft base).readAll rest) := by
    refine @readAll_local base _ hopen 0 [] rest ?_
    rw [scanner_renumber]
    exact hrest
  -- the block is read under its other numbers first, then with the feature around it
  rw [hlocal.grafted, readAll_renumber rest fun n _ _ => hfollow n]
  refine ⟨rfl, ?_⟩
  show (((reader.readAll rest).reader.renumber f).graft base).flush.value.feature = _
  rw [flush_graft, flush_renumber, graft, scenario?_renumber, hread]
  rfl

end Open

/-- A block of lines that is led by a scenario line and opens nothing else makes the same of any
    document that it may follow: it is refused for the same reason, or adds the same scenario to
    the active section. -/
theorem readAll_block {first : String} {rest : List String} (h : reader.Between base)
    (hfresh : fresh.Between freshBase) (hlanguage : fresh.language = reader.language)
    (hcount : fresh.line ≤ reader.line)
    (hfirst : reader.language.form (Text.trim first) = .header header)
    (hkind : header.kind = .Scenario ∨ header.kind = .ScenarioOutline)
    (hrest : ∀ entry ∈ ({ language := reader.language, inFeature := true } : Scanner).entries []
      rest, entry.opensEntity = false) :
    (reader.readAll (first :: rest)).fault =
        (fresh.readAll (first :: rest)).fault.map
          (·.renumber (· + (reader.line - fresh.line))) ∧
      ∃ scenario : Scenario,
        (fresh.readAll (first :: rest)).reader.flush.value.feature =
          some (freshBase.modifyActive (·.addScenario scenario)) ∧
        (reader.readAll (first :: rest)).reader.flush.value.feature =
          some (base.modifyActive
            (·.addScenario (scenario.renumber (· + (reader.line - fresh.line))))) := by
  generalize hshift : (fun n => n + (reader.line - fresh.line)) = shift
  have hnumber : shift (fresh.line + 1) = reader.line + 1 := by
    rw [← hshift]
    show fresh.line + 1 + (reader.line - fresh.line) = reader.line + 1
    omega
  have hfollow : ∀ n, shift (n + 1) = shift n + 1 := by
    intro n
    rw [← hshift]
    exact Nat.add_right_comm n 1 _
  obtain ⟨haccept, hopened⟩ := read_opens h hfirst hkind
  obtain ⟨hfreshAccept, hfreshOpened⟩ := read_opens hfresh (hlanguage ▸ hfirst) hkind
  rw [readAll_of_accepted haccept, readAll_of_accepted hfreshAccept]
  show ((reader.read first).reader.readAll rest).fault =
      ((fresh.read first).reader.readAll rest).fault.map _ ∧
    ∃ scenario, ((fresh.read first).reader.readAll rest).reader.flush.value.feature = _ ∧
      ((reader.read first).reader.readAll rest).reader.flush.value.feature = _
  rw [hopened, hfreshOpened, hlanguage]
  have hopen : (opened reader.language header freshBase (fresh.line + 1)).scenario?.isSome := by
    rw [scenario?_opened]
    rfl
  have hlines : ∀ entry ∈ ({ (opened reader.language header freshBase (fresh.line + 1)).scanner with
      line := 0 } : Scanner).entries [] rest, entry.opensEntity = false := by
    rw [scanner_opened]
    exact hrest
  obtain ⟨scenario, hread, hgraft⟩ := flush_readAll_graft hopen hlines
  -- the one reader in its own document, the other one under other numbers and in another
  have hthere := hgraft freshBase
  rw [graft_opened] at hthere
  have hhere := flush_readAll_renumber_graft hfollow hopen hlines hread base
  rw [graft_renumber_opened, hnumber] at hhere
  exact ⟨hhere.1, scenario, hthere, hhere.2⟩

/-! ## A feature line alone -/

/-- Only a feature line gives a reader a feature at once, and nothing else. -/
theorem read_start {language : Language}
    (h : (({ language } : Reader).read text).reader.feature.isSome) :
    ∃ feature : Feature, feature.rules = [] ∧
      (({ language } : Reader).read text).reader =
        { language, feature := some feature, previous := .header, line := 1 } := by
  rw [read_reader_of_none rfl, onLine_reader] at h ⊢
  -- at the start no table is open that a line could end
  have hmeets : ∀ form, ({ language, line := 0 + 1 } : Reader).settle form =
      { language, line := 1 } := by
    intro form
    unfold settle
    split <;> rfl
  simp only [hmeets] at h ⊢
  generalize language.form (Text.trim text) = form at h ⊢
  cases form with
  | header header =>
    simp only [onForm, @onHeader_of_none { language, line := 1 } rfl] at h ⊢
    by_cases hkind : header.kind = .Feature
    · rw [if_pos hkind] at h ⊢
      by_cases hname : header.name.isEmpty
      · simp [onFeature, hname, refuse] at h
      · simp only [onFeature, Option.isSome_none, Bool.false_eq_true, if_false, hname]
        exact ⟨_, rfl, rfl⟩
    · rw [if_neg hkind] at h
      cases h
  | comment comment =>
    simp only [onForm, onComment] at h
    split at h <;> cases h
  | row cells => cases h
  | blank => cases h
  | tags tags => cases h
  | fence fence mediaType => cases h
  | step found => cases h
  | prose => cases h

/-- Between two blocks a reader has a document, with or without a table that is still open. -/
theorem exists_between (hfeature : reader.feature.isSome) (hdoc : reader.docString = none)
    (htags : reader.pendingTags = {}) : ∃ base, reader.Between base := by
  have hflushed : reader.flush.value.feature.isSome := by
    unfold flush
    split
    · exact hfeature
    · simpa [modifyScenario, modifyActive] using hfeature
  obtain ⟨base, hbase⟩ := Option.isSome_iff_exists.1 hflushed
  exact ⟨base, hbase, hdoc, htags⟩

theorem ruleIndex?_flush (reader : Reader) :
    reader.flush.value.ruleIndex? = reader.ruleIndex? := by
  unfold flush
  split
  · rfl
  · exact congrArg Cursor.rule
      (standing_modifyActive (fun _ => List.length_modify _ _ _) reader)

theorem readEach_line (reader : Reader) (lines : List String) :
    (reader.readEach lines).line = reader.line + lines.length := by
  induction lines generalizing reader with
  | nil => rfl
  | cons line lines ih =>
    show ((reader.read line).reader.readEach lines).line = _
    rw [ih, read_line, List.length_cons]
    omega

end Reader

namespace IndexedReader

/-- The features read, with the rows of an open examples table in the scenario that the table
    stands in. -/
def settled (reader : IndexedReader) : List Feature :=
  match reader.cursor.examples with
  | none => reader.features
  | some block =>
    reader.features.map
      (·.modifyScenarioAt reader.cursor.rule block.target
        (·.modifyOutline (Reader.addRows block.rows)))

theorem settled_ofReader (reader : Reader) :
    (ofReader reader).settled = reader.flush.value.feature.toList := by
  unfold settled
  cases hexamples : reader.examples with
  | none =>
    rw [examples_ofReader_none hexamples, Reader.flush_of_none hexamples]
    rfl
  | some block =>
    rw [examples_ofReader_some hexamples, Reader.flush_feature hexamples]
    cases hfeature : reader.feature with
    | none => simp [ofReader, Reader.modifyScenario, Reader.modifyActive, hfeature]
    | some feature =>
      have hrule : (ofReader reader).cursor.rule = feature.lastRule? :=
        Reader.ruleIndex?_of_feature hfeature
      have hstored := Feature.modifyScenarioAt_last
        (·.modifyOutline (Reader.addRows block.rows)) feature
      simp only [hrule, Reader.lastScenarioIndex_of_feature hfeature]
      simpa [ofReader, Reader.modifyScenario, Reader.modifyActive, hfeature] using hstored

/-- The features that a reader leaves when all tables have ended. -/
theorem flush_readAll_ofReader {reader : Reader} (h : reader.Sound) {lines : List String}
    {feature : Feature}
    (hfeature : (reader.readAll lines).reader.flush.value.feature = some feature) :
    ((ofReader reader).readAll lines).reader.flush.value.features = [feature] := by
  rw [readAll_ofReader h]
  show (ofReader (reader.readAll lines).reader).flush.value.features = _
  rw [flush_ofReader (h.readAll lines)]
  show (reader.readAll lines).reader.flush.value.feature.toList = _
  rw [hfeature]
  rfl

/-- A reader that stands between two blocks after any lines. -/
theorem exists_between_readEach {code : String} {before : List String} {reader : IndexedReader}
    (hreader : (ofLanguage code).value.readEach before = reader)
    (hfeature : reader.cursor.feature.isSome) (hdoc : reader.cursor.docString = none)
    (htags : reader.cursor.pendingTags = {}) :
    ∃ (stands : Reader) (base : Feature), reader = ofReader stands ∧ stands.Sound ∧
      stands.Between base ∧ 1 ≤ stands.line := by
  rw [readEach_ofLanguage] at hreader
  have hsound : ((Reader.ofLanguage code).value.readEach before).Sound :=
    (Reader.sound_start _).readEach before
  have hline := Reader.readEach_line (Reader.ofLanguage code).value before
  generalize hstands : (Reader.ofLanguage code).value.readEach before = stands
    at hreader hsound hline
  subst hreader
  rw [isSome_cursor_feature] at hfeature
  obtain ⟨base, hbase⟩ := Reader.exists_between hfeature hdoc htags
  refine ⟨stands, base, rfl, hsound, hbase, ?_⟩
  cases before with
  | nil =>
    -- without lines there is no feature
    subst hstands
    cases hfeature
  | cons line before =>
    rw [hline, List.length_cons]
    omega

/-- A reader that has read a feature line and nothing else. -/
theorem exists_read_start {code opening : String} {fresh : IndexedReader}
    (hfresh : ((ofLanguage code).value.read opening).reader = fresh)
    (hopened : fresh.cursor.feature.isSome) :
    ∃ (start : Reader) (feature : Feature), fresh = ofReader start ∧ start.Sound ∧
      start.Between feature ∧ start.line = 1 ∧ start.feature = some feature ∧
      feature.rules = [] := by
  have hstart : (Reader.ofLanguage code).value.Sound := Reader.sound_start _
  have hsound := hstart.read opening
  rw [ofLanguage_eq_ofReader, read_ofReader hstart] at hfresh
  have hread : fresh = ofReader ((Reader.ofLanguage code).value.read opening).reader := hfresh.symm
  rw [hread, isSome_cursor_feature] at hopened
  obtain ⟨feature, hrules, hafter⟩ := Reader.read_start hopened
  refine ⟨_, feature, hread, hsound, ?_⟩
  have hsame : ((Reader.ofLanguage code).value.read opening).reader = _ := hafter
  rw [hsame]
  exact ⟨⟨rfl, rfl, rfl⟩, rfl, rfl, hrules⟩

/-- Between two blocks, whatever was read before, refused lines included: a block of lines that is
    led by a scenario line and opens nothing else is refused for the reason for which it is refused
    behind a feature line alone, or not at all as there; and it makes the same scenario, but for
    the numbers of the lines. The scenario comes last in the active rule, or in the feature if no
    rule is active, and nothing else changes, but that the rows of a table that was open go to the
    scenario of that table. -/
theorem readAll_scenarioBlock {code freshCode opening first : String} {before rest : List String}
    {reader fresh : IndexedReader} {header : Header}
    (hreader : (ofLanguage code).value.readEach before = reader)
    (hfeature : reader.cursor.feature.isSome) (hdoc : reader.cursor.docString = none)
    (htags : reader.cursor.pendingTags = {})
    (hfresh : ((ofLanguage freshCode).value.read opening).reader = fresh)
    (hopened : fresh.cursor.feature.isSome) (hlanguage : fresh.language = reader.language)
    (hfirst : reader.language.form (Text.trim first) = .header header)
    (hkind : header.kind = .Scenario ∨ header.kind = .ScenarioOutline)
    (hrest : ∀ entry ∈ ({ language := reader.language, inFeature := true } : Scanner).entries []
      rest, entry.opensEntity = false) :
    (reader.readAll (first :: rest)).fault =
        (fresh.readAll (first :: rest)).fault.map
          (·.renumber (· + (reader.cursor.line - 1))) ∧
      ∃ (scenario : Scenario) (freshFeature feature : Feature),
        fresh.features = [freshFeature] ∧ reader.settled = [feature] ∧
        (fresh.readAll (first :: rest)).reader.flush.value.features =
          [freshFeature.modifySection (·.addScenario scenario)] ∧
        (reader.readAll (first :: rest)).reader.flush.value.features =
          [feature.modifyScope reader.cursor.rule
            (·.addScenario (scenario.renumber (· + (reader.cursor.line - 1))))] := by
  -- both readers stand between blocks, so from the first line of the block on they go side by side
  obtain ⟨stands, base, rfl, hsound, hbetween, hcount⟩ :=
    exists_between_readEach hreader hfeature hdoc htags
  obtain ⟨start, freshFeature, rfl, hfreshSound, hfreshBetween, hone, hfreshFeature, hrules⟩ :=
    exists_read_start hfresh hopened
  have hblock := Reader.readAll_block hbetween hfreshBetween hlanguage (hone ▸ hcount) hfirst
    hkind hrest
  rw [hone] at hblock
  obtain ⟨hfault, scenario, hthere, hhere⟩ := hblock
  refine ⟨?_, scenario, freshFeature, base, ?_, ?_, ?_, ?_⟩
  · rw [readAll_ofReader hsound, readAll_ofReader hfreshSound]
    exact hfault
  · show start.feature.toList = _
    rw [hfreshFeature]
    rfl
  · rw [settled_ofReader, hbetween.feature]
    rfl
  · rw [flush_readAll_ofReader hfreshSound hthere, Feature.modifyActive, hrules]
    rfl
  -- the active rule is the last one of the feature
  · have hrule : (ofReader stands).cursor.rule = base.lastRule? := by
      show stands.ruleIndex? = _
      rw [← Reader.ruleIndex?_flush, Reader.ruleIndex?_of_feature hbetween.feature]
    rw [flush_readAll_ofReader hsound hhere, hrule, Feature.modifyScope_lastRule?]
    rfl

/-- A block in a rule, behind a table that is still open. -/
theorem readAll_scenarioBlock_inRule :
    ∃ (scenario : Scenario) (feature : Feature),
      ((ofLanguage "en").value.readEach
        ["Feature: f", "Rule: r", "Scenario Outline: a", "Examples:", "| p |", "| 1 |"]).settled =
          [feature] ∧
      (((ofLanguage "en").value.readEach
        ["Feature: f", "Rule: r", "Scenario Outline: a", "Examples:", "| p |", "| 1 |"]).readAll
          ["Scenario: b", "Given c", "| d |", "Examples:", "| q |",
            "| 2 |"]).reader.flush.value.features =
        [feature.modifyScope (some 0) (·.addScenario (scenario.renumber (· + 5)))] ∧
      (feature.modifyScope (some 0) (·.addScenario (scenario.renumber (· + 5)))).lines =
        [1, 2, 3, 6, 7, 8, 12] := by
  obtain ⟨hlanguage, hcursor⟩ : ((ofLanguage "en").value.readEach
      ["Feature: f", "Rule: r", "Scenario Outline: a", "Examples:", "| p |", "| 1 |"]).language =
        .english ∧
      ((ofLanguage "en").value.readEach
        ["Feature: f", "Rule: r", "Scenario Outline: a", "Examples:", "| p |", "| 1 |"]).cursor =
        { language := "en", feature := some 0, rule := some 0, container := some (.scenario 0)
          examples := some
            { headers := some ["p"], rows := [{ values := [("p", some "1")], line := 6 }]
              explicit := true, line := 4, target := 0 }
          previous := .exampleRow, line := 6 } := by
    decide +kernel
  obtain ⟨hfresh, hopened⟩ :
      ((ofLanguage "en").value.read "Feature: g").reader.language = .english ∧
      ((ofLanguage "en").value.read "Feature: g").reader.cursor.feature.isSome := by
    decide +kernel
  have hlines : (((ofLanguage "en").value.readEach
      ["Feature: f", "Rule: r", "Scenario Outline: a", "Examples:", "| p |", "| 1 |"]).readAll
        ["Scenario: b", "Given c", "| d |", "Examples:", "| q |",
          "| 2 |"]).reader.flush.value.features.map (·.lines) = [[1, 2, 3, 6, 7, 8, 12]] := by
    decide +kernel
  -- the block starts behind six lines here and behind one there
  obtain ⟨-, scenario, -, feature, -, hsettled, -, hread⟩ := @readAll_scenarioBlock
    "en" "en" "Feature: g" "Scenario: b"
    ["Feature: f", "Rule: r", "Scenario Outline: a", "Examples:", "| p |", "| 1 |"]
    ["Given c", "| d |", "Examples:", "| q |", "| 2 |"] _ _
    { kind := .Scenario, keyword := "Scenario", name := "b" }
    rfl (by rw [hcursor]; rfl) (by rw [hcursor]) (by rw [hcursor]) rfl hopened
    (hfresh.trans hlanguage.symm) (by rw [hlanguage]; decide +kernel) (.inl rfl)
    (by rw [hlanguage]; decide +kernel)
  rw [hcursor] at hread
  rw [hread] at hlines
  exact ⟨scenario, feature, hsettled, hread, (List.cons.inj hlines).1⟩

end IndexedReader

end Gherkin
