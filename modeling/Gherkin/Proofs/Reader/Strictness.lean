/-
  Gherkin.Proofs.Reader.Strictness

  Strict reading refuses what could not be expanded. The flag of an outline is
  raised by a row that opens a table on it without an examples keyword, and by
  nothing else; it is never lowered. Expansion and strict reading look at the same
  flag, so a document that is read leniently is refused strictly for the first
  scenario that expansion would refuse for its missing keyword.
-/
import Gherkin.Proofs.Outline.Fault
import Gherkin.Proofs.Reader.Renumber
import Gherkin.Proofs.Reader.Skeleton

namespace Gherkin

open LineEntry (latest? opensBlock)

/-! ## Bare tables -/

/-- The line is a row that opens a table without an examples keyword, on the outline that is the
    latest block and stands on the line `outline`. -/
def LineEntry.OpensBareTable (before : List LineEntry) (entry : LineEntry) (outline : Nat) :
    Prop :=
  (∃ cells, entry.form = some (.row cells)) ∧ OpenTable.ofSeen before = .closed ∧
    latest? opensBlock before = some outline

/-- One of the lines has opened a table without an examples keyword on the outline. -/
def HasBareTable (seen : List LineEntry) (outline : Nat) : Prop :=
  ∃ later entry before, seen = later ++ entry :: before ∧ entry.OpensBareTable before outline

/-- What a line does among those before it is done by the first line of a list or by a later
    one. -/
theorem exists_split_cons {P : List α → α → Prop} {x : α} {xs : List α} :
    (∃ later y before, x :: xs = later ++ y :: before ∧ P before y) ↔
      P xs x ∨ ∃ later y before, xs = later ++ y :: before ∧ P before y := by
  constructor
  · rintro ⟨later, y, before, hsplit, hy⟩
    cases later with
    | nil =>
      obtain ⟨rfl, rfl⟩ := List.cons.inj hsplit
      exact .inl hy
    | cons first later => exact .inr ⟨later, y, before, (List.cons.inj hsplit).2, hy⟩
  · rintro (hx | ⟨later, y, before, rfl, hy⟩)
    · exact ⟨[], x, xs, rfl, hx⟩
    · exact ⟨x :: later, y, before, rfl, hy⟩

variable {seen : List LineEntry} {entry : LineEntry} {outline : Nat}

theorem not_hasBareTable_nil : ¬ HasBareTable [] outline := by
  rintro ⟨later, entry, before, hsplit, -⟩
  simp at hsplit

theorem hasBareTable_cons :
    HasBareTable (entry :: seen) outline ↔
      entry.OpensBareTable seen outline ∨ HasBareTable seen outline :=
  exists_split_cons

/-! ## Flags -/

/-- The lines of the scenarios that miss their examples keyword. -/
def flaggedLines (parts : List Section) : List Nat :=
  ((parts.flatMap (·.scenarios)).filter (·.missesKeyword)).map (·.line)

theorem flaggedLines_append (parts more : List Section) :
    flaggedLines (parts ++ more) = flaggedLines parts ++ flaggedLines more := by
  simp [flaggedLines]

theorem flaggedLines_singleton (part : Section) :
    flaggedLines [part] = (part.scenarios.filter (·.missesKeyword)).map (·.line) := by
  simp [flaggedLines]

theorem missesKeyword_modifyOutline {f : Outline → Outline}
    (hf : ∀ outline, (f outline).missingKeyword = outline.missingKeyword) (scenario : Scenario) :
    (scenario.modifyOutline f).missesKeyword = scenario.missesKeyword := by
  cases houtline : scenario.outline <;>
    simp [Scenario.missesKeyword, Scenario.modifyOutline, houtline, hf]

namespace Reader

variable {reader : Reader} {form? : Option LineForm} {parts : List Section}

/-- A change of the outline of the last scenario that leaves the flag alone. -/
theorem Outlines.flaggedLines_eq {f : Outline → Outline}
    (hf : ∀ outline, (f outline).missingKeyword = outline.missingKeyword)
    (h : reader.Outlines f parts) : flaggedLines parts = flaggedLines reader.skeleton := by
  obtain ⟨before, part, scenarios, scenario, hlast, hscenarios, -, rfl⟩ := h.last
  rw [hlast, flaggedLines_append, flaggedLines_append, flaggedLines_singleton,
    flaggedLines_singleton, hscenarios]
  have hsame := missesKeyword_modifyOutline hf scenario
  simp only [List.filter_append, List.map_append, List.filter_singleton, hsame]
  cases scenario.missesKeyword <;> rfl

/-- A bare row flags the open scenario, which may have been flagged before. -/
theorem Outlines.mem_flaggedLines
    (h : reader.Outlines ({ · with missingKeyword := true }) parts) :
    ∃ line, reader.blockLine? = some line ∧
      ∀ n, n ∈ flaggedLines parts ↔ n = line ∨ n ∈ flaggedLines reader.skeleton := by
  obtain ⟨before, part, scenarios, scenario, hlast, hscenarios, hline, rfl⟩ := h.last
  refine ⟨scenario.line, hline, fun n => ?_⟩
  rw [hlast, flaggedLines_append, flaggedLines_append, flaggedLines_singleton,
    flaggedLines_singleton, hscenarios]
  have hflagged : (scenario.modifyOutline ({ · with missingKeyword := true })).missesKeyword =
      true := rfl
  have hsame : (scenario.modifyOutline ({ · with missingKeyword := true })).line =
      scenario.line := rfl
  simp only [List.filter_append, List.map_append, List.filter_singleton, hflagged, cond_true,
    List.map_singleton, hsame, List.mem_append, List.mem_singleton]
  -- whether it was flagged before makes no difference to which lines are flagged
  cases scenario.missesKeyword with
  | true =>
    simp only [cond_true, List.map_singleton, List.mem_singleton]
    tauto
  | false =>
    simp only [cond_false, List.map_nil, List.not_mem_nil, or_false]
    tauto

/-- A line that opens a bare table flags the open scenario; any other line leaves all flags as they
    are. -/
theorem Turn.flaggedLines (h : reader.Turn form? parts) :
    ((∃ cells, form? = some (.row cells)) ∧ reader.openTable = .closed ∧
      ∃ line, reader.blockLine? = some line ∧
        ∀ n, n ∈ flaggedLines parts ↔ n = line ∨ n ∈ flaggedLines reader.skeleton) ∨
    ((∀ cells, form? = some (.row cells) → reader.openTable ≠ .closed) ∧
      flaggedLines parts = flaggedLines reader.skeleton) := by
  -- of all lines only a row with no table open sets a flag
  cases h with
  | feature _ hnone =>
    rw [hnone]
    exact .inr ⟨by simp, rfl⟩
  | rule =>
    refine .inr ⟨by simp, ?_⟩
    rw [flaggedLines_append]
    exact List.append_nil _
  | background _ hlast =>
    refine .inr ⟨by simp, ?_⟩
    rw [hlast, flaggedLines_append, flaggedLines_append]
    rfl
  | scenario _ hlast =>
    refine .inr ⟨by simp, ?_⟩
    rw [hlast, flaggedLines_append, flaggedLines_append, flaggedLines_singleton,
      flaggedLines_singleton]
    simp [Section.addScenario, Scenario.missesKeyword_titled]
  | examples _ houtlines => exact .inr ⟨by simp, houtlines.flaggedLines_eq fun _ => rfl⟩
  | bareRow htable houtlines => exact .inl ⟨⟨_, rfl⟩, htable, houtlines.mem_flaggedLines⟩
  | valueRow hblock _ houtlines =>
    refine .inr ⟨?_, Outlines.flaggedLines_eq (f := addRows _) (fun _ => rfl) houtlines⟩
    simp [openTable, hblock]
  | still _ hrow =>
    refine .inr ⟨?_, rfl⟩
    intro cells hform
    rcases hrow cells hform with hdata | ⟨block, hblock, -⟩
    · simp [hdata]
    · simp [openTable, hblock]

/-! ## Runs -/

variable {seen : List LineEntry}

/-- The outlines that miss their keyword are those on which a bare table was opened. -/
def FlagsBareTables (seen : List LineEntry) (reader : Reader) : Prop :=
  ∀ n, n ∈ Gherkin.flaggedLines reader.skeleton ↔ HasBareTable seen n

theorem flagsBareTables_start (language : Language) :
    ({ language } : Reader).FlagsBareTables [] := by
  intro n
  constructor
  · intro hmem
    cases hmem
  · exact fun hbare => absurd hbare not_hasBareTable_nil

/-- One line keeps the flags and the bare tables together. -/
theorem FlagsBareTables.read (h : reader.FlagsBareTables seen) (hkept : reader.Kept seen)
    {text : String} (haccept : (reader.read text).fault = none) :
    (reader.read text).reader.FlagsBareTables (reader.scanner.entry text :: seen) := by
  intro n
  rw [hasBareTable_cons, ← h n]
  rcases (turn_read hkept.sound haccept).flaggedLines with
    ⟨⟨cells, hform⟩, hclosed, line, hline, hflags⟩ | ⟨hopen, hsame⟩
  · have hplace : reader.place.isSome := by
      obtain ⟨block, hblock, -⟩ := Option.map_eq_some_iff.1 hline
      exact place_of_block? hblock
    have hlatest : latest? opensBlock seen = some line :=
      (hkept.booked.block hplace).symm.trans hline
    have hopens : (reader.scanner.entry text).OpensBareTable seen n ↔ n = line := by
      constructor
      · rintro ⟨-, -, hother⟩
        exact Option.some.inj (hother.symm.trans hlatest)
      · rintro rfl
        exact ⟨⟨cells, hform⟩, (hkept.table_of_form? hform).symm.trans hclosed, hlatest⟩
    rw [hopens]
    exact hflags n
  · have hnone : ¬ (reader.scanner.entry text).OpensBareTable seen n := by
      rintro ⟨⟨cells, hform⟩, hclosed, -⟩
      exact hopen cells hform ((hkept.table_of_form? hform).trans hclosed)
    rw [hsame]
    exact ⟨.inr, fun hany => hany.resolve_left hnone⟩

theorem FlagsBareTables.readAll (h : reader.FlagsBareTables seen) (hkept : reader.Kept seen)
    {lines : List String} (haccept : (reader.readAll lines).fault = none) :
    (reader.readAll lines).reader.FlagsBareTables (reader.scanner.entries seen lines) :=
  hkept.induct (P := FlagsBareTables) (fun hkept h hread => h.read hkept hread) h haccept

end Reader

/-! ## Expansion -/

namespace Scenario

variable {scenario : Scenario} {mapping : ValueMapping}

/-- Expansion refuses the scenario because it misses its examples keyword. -/
def FailsForKeyword (scenario : Scenario) (mapping : ValueMapping) : Prop :=
  ∃ name, (scenario.expand mapping).value = .error (.missingKeyword name)

/-- Of all that expansion looks at the keyword comes first. -/
theorem failsForKeyword_iff : scenario.FailsForKeyword mapping ↔ scenario.missesKeyword = true := by
  constructor
  · rintro ⟨name, h⟩
    cases expand_eq_error_iff.1 h with
    | missingKeyword houtline hkeyword => simp [missesKeyword, houtline, hkeyword]
  · intro h
    obtain ⟨outline, houtline, hkeyword⟩ := (Option.any_eq_true _ _).1 h
    exact ⟨_, expand_eq_error_iff.2 (.missingKeyword houtline hkeyword)⟩

end Scenario

/-! ## Documents -/

/-- The scenarios of a document in order. -/
def scenariosOf (feature : Option Feature) : List Scenario :=
  feature.toList.flatMap fun feature => feature.allScenarios.map (·.2)

theorem bind_firstMissing? (feature : Option Feature) :
    feature.bind Reader.firstMissing? = (scenariosOf feature).find? (·.missesKeyword) := by
  cases feature with
  | none => rfl
  | some feature =>
    rw [scenariosOf, Option.toList_some, List.flatMap_singleton]
    rfl

/-- The skeleton has the scenarios of the document that is read so far. -/
theorem Reader.scenarios_skeleton (reader : Reader) :
    reader.skeleton.flatMap (·.scenarios) =
      (scenariosOf reader.flush.value.feature).map Scenario.skeleton := by
  rw [skeleton, settled_eq_flush]
  cases reader.flush.value.feature with
  | none => rfl
  | some feature =>
    rw [scenariosOf, Option.toList_some, List.flatMap_singleton, List.flatMap_singleton,
      Feature.scenarios_skeleton]

theorem flaggedLines_settled (reader : Reader) :
    flaggedLines reader.skeleton =
      ((scenariosOf reader.flush.value.feature).filter (·.missesKeyword)).map (·.line) := by
  rw [flaggedLines, reader.scenarios_skeleton, List.filter_map, List.map_map]
  rfl

/-- No two scenarios stand on one line. -/
theorem Reader.Rising.nodup_lines {reader : Reader} {last : Nat} (h : reader.Rising last) :
    ((scenariosOf reader.flush.value.feature).map (·.line)).Nodup := by
  cases hfeature : reader.flush.value.feature with
  | none => exact List.nodup_nil
  | some feature =>
    have hordered := (h feature hfeature).inSourceOrder.allScenarios
    rw [scenariosOf, Option.toList_some, List.flatMap_singleton, List.map_map]
    exact hordered.imp fun hlt => Nat.ne_of_lt hlt

/-- A scenario is flagged if its line is, since it is the only one on the line. -/
theorem missesKeyword_iff_mem {scenarios : List Scenario} (h : (scenarios.map (·.line)).Nodup)
    {scenario : Scenario} (hmem : scenario ∈ scenarios) :
    scenario.missesKeyword = true ↔
      scenario.line ∈ (scenarios.filter (·.missesKeyword)).map (·.line) := by
  constructor
  · intro hmisses
    exact List.mem_map.2 ⟨scenario, List.mem_filter.2 ⟨hmem, hmisses⟩, rfl⟩
  · intro hline
    obtain ⟨other, hother, hsame⟩ := List.mem_map.1 hline
    obtain ⟨hin, hmisses⟩ := List.mem_filter.1 hother
    obtain rfl := List.inj_on_of_nodup_map h hin hmem hsame
    exact hmisses

namespace ReadingMode

/-- Strict reading is lenient reading and a check of its result. -/
theorem readLines_strict_eq (mode : ReadingMode) (lines : List String) :
    (({ mode with strict := true } : ReadingMode).readLines lines).value =
      (({ mode with strict := false } : ReadingMode).readLines lines).value >>=
        Reader.check true := by
  have hreader (strict : Bool) : ({ mode with strict } : ReadingMode).reader = mode.reader := rfl
  rw [readLines_value, readLines_value, hreader true, hreader false]
  cases (mode.reader.readAll lines).fault with
  | some fault => rfl
  | none =>
    cases hdoc : (mode.reader.readAll lines).reader.docString with
    | some doc =>
      simp only [Reader.finish_of_some hdoc]
      rfl
    | none =>
      simp only [Reader.finish_of_none hdoc]
      rfl

theorem accepted_of_readLines {mode : ReadingMode} {lines : List String}
    {feature : Option Feature} (h : (mode.readLines lines).value = .ok feature) :
    (mode.reader.readAll lines).fault = none ∧
      feature = (mode.reader.readAll lines).reader.flush.value.feature := by
  rw [readLines_value] at h
  cases hfault : (mode.reader.readAll lines).fault with
  | some fault => simp [hfault] at h
  | none =>
    simp only [hfault] at h
    exact ⟨rfl, Reader.feature_of_finish h⟩

/-- The scenarios that a strict reader looks for are those that a row has opened a bare table on. -/
theorem missesKeyword_iff_hasBareTable {mode : ReadingMode} {lines : List String}
    {feature : Option Feature} (h : (mode.readLines lines).value = .ok feature)
    {scenario : Scenario} (hmem : scenario ∈ scenariosOf feature) :
    scenario.missesKeyword = true ↔
      HasBareTable (mode.scanner.entries [] lines) scenario.line := by
  obtain ⟨haccept, rfl⟩ := accepted_of_readLines h
  have hstart : mode.reader.Kept [] := Reader.kept_start _
  have hrising : mode.reader.Rising mode.reader.line := Reader.rising_start _
  have hlines := (hstart.rising_readAll hrising haccept).nodup_lines
  have hflags := (Reader.flagsBareTables_start _).readAll hstart haccept
  rw [missesKeyword_iff_mem hlines hmem, ← flaggedLines_settled]
  exact hflags scenario.line

/-- A document that is refused leniently is refused strictly for the same reason. One that is read
    leniently is the same strictly unless expansion refuses a scenario for its missing keyword,
    and else it is refused for the first such scenario. These scenarios are those on which a row
    opened a table without an examples keyword. -/
theorem readLines_strict (mode : ReadingMode) (lines : List String) (mapping : ValueMapping) :
    (∀ fault,
      (({ mode with strict := false } : ReadingMode).readLines lines).value = .error fault →
      (({ mode with strict := true } : ReadingMode).readLines lines).value = .error fault) ∧
    ∀ feature,
      (({ mode with strict := false } : ReadingMode).readLines lines).value = .ok feature →
      ((∀ scenario ∈ scenariosOf feature, ¬ scenario.FailsForKeyword mapping) →
        (({ mode with strict := true } : ReadingMode).readLines lines).value = .ok feature) ∧
      (∀ before scenario after, scenariosOf feature = before ++ scenario :: after →
        (∀ other ∈ before, ¬ other.FailsForKeyword mapping) →
        scenario.FailsForKeyword mapping →
        (({ mode with strict := true } : ReadingMode).readLines lines).value =
          .error (.missingExamplesKeyword scenario.line scenario.name)) ∧
      ∀ scenario ∈ scenariosOf feature, scenario.FailsForKeyword mapping ↔
        HasBareTable (mode.scanner.entries [] lines) scenario.line := by
  constructor
  · intro fault h
    rw [readLines_strict_eq, h]
    rfl
  intro feature h
  -- strictly the scenarios are looked through in order, and the first that misses its keyword
  -- counts
  have hstrict : (({ mode with strict := true } : ReadingMode).readLines lines).value =
      ((scenariosOf feature).find? (·.missesKeyword)).elim (.ok feature) fun scenario =>
        .error (.missingExamplesKeyword scenario.line scenario.name) := by
    rw [readLines_strict_eq, h, ← bind_firstMissing?]
    show Reader.check true feature = _
    cases hmissing : feature.bind Reader.firstMissing? with
    | none => simp [Reader.check, hmissing]
    | some scenario => simp [Reader.check, hmissing]
  simp only [Scenario.failsForKeyword_iff]
  refine ⟨?_, ?_, ?_⟩
  · intro hnone
    rw [hstrict, List.find?_eq_none.2 hnone, Option.elim_none]
  · intro before scenario after hsplit hbefore hmisses
    have hfirst : (scenariosOf feature).find? (·.missesKeyword) = some scenario := by
      refine List.find?_eq_some_iff_append.2 ⟨hmisses, before, after, hsplit, ?_⟩
      intro other hother
      simpa using hbefore other hother
    rw [hstrict, hfirst, Option.elim_some]
  · intro scenario hmem
    exact @missesKeyword_iff_hasBareTable { mode with strict := false } _ _ h _ hmem

/-- Of three outlines the second and the third have a bare table, the second one behind a table
    under a keyword; the strict reader stops at it. -/
theorem readLines_strict_second :
    (({ strict := true } : ReadingMode).readLines
      ["Feature: f", "Scenario Outline: a", "Examples:", "| p |", "| 1 |", "Rule: r",
        "Scenario Outline: b", "Examples:", "| p |", "| 2 |", "", "| q |", "| 3 |",
        "Scenario Outline: c", "| p |", "| 4 |"]).value =
      .error (.missingExamplesKeyword 7 "b") := by
  have hvalue : (({} : ReadingMode).readLines
      ["Feature: f", "Scenario Outline: a", "Examples:", "| p |", "| 1 |", "Rule: r",
        "Scenario Outline: b", "Examples:", "| p |", "| 2 |", "", "| q |", "| 3 |",
        "Scenario Outline: c", "| p |", "| 4 |"]).value.toOption.map
          (fun feature => (scenariosOf feature).map fun scenario =>
            (scenario.line, scenario.name, scenario.missesKeyword)) =
      some [(2, "a", false), (7, "b", true), (14, "c", true)] := by
    decide +kernel
  obtain ⟨feature, hread, hscenarios⟩ := exists_ok_of_map_toOption hvalue
  obtain ⟨first, rest, hsplit, hfirst, hrest⟩ := List.map_eq_cons_iff.1 hscenarios
  obtain ⟨second, after, rfl, hsecond, -⟩ := List.map_eq_cons_iff.1 hrest
  simp only [Prod.mk.injEq] at hfirst hsecond
  obtain ⟨hline, hname, hmisses⟩ := hsecond
  rw [← hline, ← hname]
  apply ((readLines_strict {} _ {}).2 feature hread).2.1 [first] second after hsplit
  · rw [List.forall_mem_singleton, Scenario.failsForKeyword_iff, hfirst.2.2]
    exact Bool.false_ne_true
  · exact Scenario.failsForKeyword_iff.2 hmisses

end ReadingMode

end Gherkin
