/-
  Gherkin.Proofs.Document.Order

  The order of lines in a document. Parts are added at the end of the active
  section, each with a line behind all others. So within a section and from
  section to section the lines rise, although the rows of an outline may stand
  between its steps and a background behind scenarios.
-/
import Gherkin.Proofs.Document.Lines
import Mathlib.Data.List.Nodup

namespace Gherkin

open List (Perm Sublist)

/-! ## Parts of a feature -/

/-- The blocks of a section that hold steps. -/
def Section.blocks (part : Section) : List StepBlock :=
  part.background.toList ++ part.scenarios.map (·.toStepBlock)

namespace Feature

/-- The feature's own section and those of its rules, in order. -/
def sections (feature : Feature) : List Section :=
  feature.toSection :: feature.rules.map (·.toSection)

theorem lines_eq_flatMap (feature : Feature) : feature.lines = feature.sections.flatMap (·.lines) := by
  rw [lines, sections, List.flatMap_cons, List.flatMap_map]

theorem lines_subset_of_mem {feature : Feature} {part : Section} (h : part ∈ feature.sections) :
    part.lines ⊆ feature.lines := by
  intro n hn
  rw [lines_eq_flatMap]
  exact List.mem_flatMap.2 ⟨part, h, hn⟩

theorem scenarios_sections (feature : Feature) :
    feature.sections.flatMap (·.scenarios) =
      feature.scenarios ++ feature.rules.flatMap (·.scenarios) := by
  rw [sections, List.flatMap_cons, List.flatMap_map]

theorem allScenarios_eq_flatMap (feature : Feature) :
    feature.allScenarios.map (·.2) = feature.sections.flatMap (·.scenarios) := by
  simp [allScenarios, scenarios_sections, List.map_flatMap, Function.comp_def]

/-- The active section is the last one, and changing it leaves the others alone. -/
theorem exists_sections (feature : Feature) :
    ∃ before, feature.sections = before ++ [feature.active] ∧
      ∀ f, (feature.modifyActive f).sections = before ++ [f feature.active] := by
  rcases List.eq_nil_or_concat feature.rules with hrules | ⟨rules, rule, hrules⟩
  · refine ⟨[], by simp [sections, active, hrules], fun f => ?_⟩
    simp [sections, active, modifyActive, modifySection, hrules]
  · rw [List.concat_eq_append] at hrules
    refine ⟨feature.toSection :: rules.map (·.toSection), by simp [sections, active, hrules],
      fun f => ?_⟩
    have hmodify : feature.rules.modify (feature.rules.length - 1) (·.modifySection f) =
        rules ++ [rule.modifySection f] := by
      rw [hrules, List.length_append, List.length_singleton, Nat.add_sub_cancel,
        modify_length_append_singleton]
    have hsome : ¬feature.rules.isEmpty = true := by simp [hrules]
    rw [modifyActive, if_neg hsome, hmodify]
    simp [sections, active, hrules, Rule.modifySection]

end Feature

/-! ## Additions of one line -/

section Added

variable {added xs ys : List Nat} {line : Nat}

/-- At most one line is added, and it is behind all others. -/
theorem nodup_of_perm_added (hperm : Perm xs (added ++ ys)) (hadded : Sublist added [line])
    (hys : ys.Nodup) (hfresh : ∀ n ∈ ys, n < line) : xs.Nodup := by
  rw [hperm.nodup_iff, List.nodup_append]
  refine ⟨hadded.nodup (List.nodup_singleton line), hys, ?_⟩
  rintro n hn _ hm rfl
  exact Nat.ne_of_lt (hfresh n hm) (List.mem_singleton.1 (hadded.subset hn))

theorem subset_of_perm_added (hperm : Perm xs (added ++ ys)) (hadded : Sublist added [line]) :
    xs ⊆ line :: ys := by
  intro n hn
  rcases List.mem_append.1 (hperm.subset hn) with hnew | hold
  · exact List.mem_cons.2 (.inl (List.mem_singleton.1 (hadded.subset hnew)))
  · exact List.mem_cons_of_mem line hold

theorem pairwise_append_added (hadded : Sublist added [line]) (hys : ys.Pairwise (· < ·))
    (hfresh : ∀ n ∈ ys, n < line) : (ys ++ added).Pairwise (· < ·) := by
  refine List.pairwise_append.2 ⟨hys, (List.pairwise_singleton _ line).sublist hadded, ?_⟩
  intro n hn m hm
  rw [List.mem_singleton.1 (hadded.subset hm)]
  exact hfresh n hn

end Added

/-! ## Sections -/

namespace Section

/-- The lines of a section rise: no two are the same, its own is the least, steps follow each
    other and the line of their block, and whatever is in a scenario precedes the next one. -/
structure Rising (part : Section) : Prop where
  nodup : part.lines.Nodup
  least : ∀ n ∈ part.lines, part.line ≤ n
  blocks : ∀ block ∈ part.blocks, block.lines.Pairwise (· < ·)
  scenarios : part.scenarios.Pairwise fun scenario next => ∀ n ∈ scenario.lines, n < next.line

/-- A section has come out of another by an addition: its lines rise, and at most one is new. -/
structure Grows (part : Section) (line : Nat) (grown : Section) : Prop where
  line_eq : grown.line = part.line
  rising : grown.Rising
  subset : grown.lines ⊆ line :: part.lines

variable {part : Section} {line : Nat}

theorem line_mem_lines (part : Section) : part.line ∈ part.lines := List.mem_cons_self

theorem lines_subset_of_mem {scenario : Scenario} (h : scenario ∈ part.scenarios) :
    scenario.lines ⊆ part.lines := by
  intro n hn
  refine List.mem_cons_of_mem _ (List.mem_append_right _ ?_)
  exact List.mem_flatMap.2 ⟨scenario, h, hn⟩

theorem block_lines_subset (scenario : Scenario) :
    scenario.toStepBlock.lines ⊆ scenario.lines := List.subset_append_left _ _

namespace Rising

/-- A section starts with its own line. -/
theorem start (hbackground : part.background = none) (hscenarios : part.scenarios = []) :
    part.lines = [part.line] ∧ part.Rising := by
  have hlines : part.lines = [part.line] := by
    simp [lines, inner, hbackground, hscenarios]
  refine ⟨hlines, ?_⟩
  constructor
  · rw [hlines]
    exact List.nodup_singleton part.line
  · simp [hlines]
  · simp [Section.blocks, hbackground, hscenarios]
  · rw [hscenarios]
    exact List.Pairwise.nil

/-- What an addition has to see to: the order of the blocks and that of the scenarios. -/
theorem grows (h : part.Rising) (hfresh : ∀ n ∈ part.lines, n < line) {grown : Section}
    {added : List Nat} (hadded : Sublist added [line]) (hline : grown.line = part.line)
    (hperm : Perm grown.lines (added ++ part.lines))
    (hblocks : ∀ block ∈ grown.blocks, block.lines.Pairwise (· < ·))
    (hscenarios : grown.scenarios.Pairwise fun scenario next =>
      ∀ n ∈ scenario.lines, n < next.line) : part.Grows line grown := by
  have hsubset := subset_of_perm_added hperm hadded
  refine ⟨hline, ⟨nodup_of_perm_added hperm hadded h.nodup hfresh, ?_, hblocks, hscenarios⟩,
    hsubset⟩
  intro n hn
  rw [hline]
  rcases List.mem_cons.1 (hsubset hn) with rfl | hold
  · exact Nat.le_of_lt (hfresh _ (line_mem_lines part))
  · exact h.least n hold

/-- A change that touches no lines. -/
theorem grows_of_eq (h : part.Rising) (hfresh : ∀ n ∈ part.lines, n < line) {grown : Section}
    (hline : grown.line = part.line) (hbackground : grown.background = part.background)
    (hscenarios : grown.scenarios = part.scenarios) : part.Grows line grown := by
  have hlines : grown.lines = part.lines := by
    rw [lines, lines, inner, inner, hline, hbackground, hscenarios]
  have hblocks : grown.blocks = part.blocks := by
    rw [Section.blocks, Section.blocks, hbackground, hscenarios]
  refine h.grows hfresh (List.nil_sublist _) hline (by rw [hlines, List.nil_append]) ?_ ?_
  · rw [hblocks]
    exact h.blocks
  · rw [hscenarios]
    exact h.scenarios

/-- A scenario without steps and examples joins the others. -/
theorem addScenario (h : part.Rising) (hfresh : ∀ n ∈ part.lines, n < line) {scenario : Scenario}
    (hline : scenario.line = line) (hsteps : scenario.steps = [])
    (hexamples : scenario.examples = []) : part.Grows line (part.addScenario scenario) := by
  have hblock : scenario.toStepBlock.lines = [line] := by
    rw [StepBlock.lines, hline, hsteps, List.map_nil]
  have hscenario : scenario.lines = [line] := by
    rw [Scenario.lines, hblock, hexamples, List.map_nil, List.append_nil]
  have hlines : (part.addScenario scenario).lines = part.lines ++ [line] := by
    simp [lines, inner, Section.addScenario, hscenario]
  apply h.grows hfresh (List.Sublist.refl [line])
  · rfl
  · rw [hlines]
    exact List.perm_append_comm
  · intro block hmem
    rw [Section.blocks, Section.addScenario, List.map_append, ← List.append_assoc,
      List.mem_append] at hmem
    rcases hmem with hold | hnew
    · exact h.blocks block hold
    · obtain rfl := List.mem_singleton.1 hnew
      rw [hblock]
      exact List.pairwise_singleton _ _
  · rw [Section.addScenario, List.pairwise_append]
    refine ⟨h.scenarios, List.pairwise_singleton _ _, ?_⟩
    intro before hbefore _ hnew n hn
    rw [List.mem_singleton.1 hnew, hline]
    exact hfresh n (lines_subset_of_mem hbefore hn)

/-- A background may be opened or get a step, also behind scenarios. -/
theorem setBackground (h : part.Rising) (hfresh : ∀ n ∈ part.lines, n < line)
    {background : Background} {added : List Nat} (hadded : Sublist added [line])
    (hlines : background.lines = part.background.toList.flatMap StepBlock.lines ++ added) :
    part.Grows line { part with background := some background } := by
  have hold : (part.background.toList.flatMap StepBlock.lines).Pairwise (· < ·) := by
    cases hbackground : part.background with
    | none => exact List.Pairwise.nil
    | some old =>
      rw [Option.toList_some, List.flatMap_singleton]
      exact h.blocks old (List.mem_append_left _ (by simp [hbackground]))
  have hrising : background.lines.Pairwise (· < ·) := by
    rw [hlines]
    refine pairwise_append_added hadded hold fun n hn => hfresh n ?_
    exact List.mem_cons_of_mem _ (List.mem_append_left _ hn)
  apply h.grows hfresh hadded
  · rfl
  · rw [lines, lines, inner, inner, Option.toList_some, List.flatMap_singleton, hlines,
      List.append_assoc]
    exact (((List.perm_append_comm_assoc _ added _)).cons _).trans List.perm_middle.symm
  · intro block hmem
    rcases List.mem_append.1 hmem with hnew | hscenario
    · obtain rfl := Option.some.inj (Option.mem_toList.1 hnew)
      exact hrising
    · exact h.blocks block (List.mem_append_right _ hscenario)
  · exact h.scenarios

/-- The last scenario may get a step or a row: the scenarios before it do not look at it. -/
theorem modifyLastScenario (h : part.Rising) (hfresh : ∀ n ∈ part.lines, n < line)
    {f : Scenario → Scenario} {added : List Nat} (hadded : Sublist added [line])
    (hline : ∀ s, (f s).line = s.line) (hperm : ∀ s, Perm (f s).lines (added ++ s.lines))
    (hblock : ∀ s, (∀ n ∈ s.toStepBlock.lines, n < line) →
      s.toStepBlock.lines.Pairwise (· < ·) → (f s).toStepBlock.lines.Pairwise (· < ·)) :
    part.Grows line (part.modifyLastScenario f) := by
  -- only the last scenario changes; without any nothing does
  rcases List.eq_nil_or_concat part.scenarios with hnil | ⟨before, last, hlast⟩
  · have hsame : (part.modifyLastScenario f).scenarios = part.scenarios := by
      rw [Section.modifyLastScenario, hnil]
      rfl
    exact h.grows_of_eq hfresh rfl rfl hsame
  · rw [List.concat_eq_append] at hlast
    have hmodify : (part.modifyLastScenario f).scenarios = before ++ [f last] := by
      rw [Section.modifyLastScenario, hlast, List.length_append, List.length_singleton,
        Nat.add_sub_cancel, modify_length_append_singleton]
    have hlines : (part.modifyLastScenario f).lines =
        (part.line :: (part.background.toList.flatMap StepBlock.lines ++
          before.flatMap Scenario.lines)) ++ (f last).lines := by
      rw [lines, inner, hmodify]
      simp [Section.modifyLastScenario]
    have hmem : last ∈ part.scenarios := by simp [hlast]
    apply h.grows hfresh hadded
    · rfl
    · rw [hlines, lines, inner, hlast]
      refine ((hperm last).append_left _).trans ((List.perm_append_comm_assoc _ _ _).trans ?_)
      simp
    -- a block is an old one or that of the last scenario
    · intro block hin
      rw [Section.blocks, hmodify, List.map_append, ← List.append_assoc, List.mem_append] at hin
      rcases hin with hold | hnew
      · apply h.blocks
        rw [Section.blocks, hlast, List.map_append, ← List.append_assoc]
        exact List.mem_append_left _ hold
      · obtain rfl := List.mem_singleton.1 hnew
        refine hblock last (fun n hn => hfresh n ?_) (h.blocks _ ?_)
        · exact lines_subset_of_mem hmem (block_lines_subset last hn)
        · exact List.mem_append_right _ (List.mem_map_of_mem hmem)
    -- the lines of the earlier scenarios are compared with the line of the last one, which stays
    · have hordered := h.scenarios
      rw [hlast, List.pairwise_append] at hordered
      rw [hmodify, List.pairwise_append]
      refine ⟨hordered.1, List.pairwise_singleton _ _, ?_⟩
      intro scenario hscenario next hnext n hn
      rw [List.mem_singleton.1 hnext, hline]
      exact hordered.2.2 scenario hscenario last List.mem_cons_self n hn

/-- A block may get a step at its end. -/
theorem modifyBlock (h : part.Rising) (hfresh : ∀ n ∈ part.lines, n < line) (place : Place)
    {f : StepBlock → StepBlock} {added : List Nat} (hadded : Sublist added [line])
    (hf : ∀ block, (f block).lines = block.lines ++ added) :
    part.Grows line (part.modifyBlock place f) := by
  cases place with
  | background =>
    -- without a background there is nothing that changes
    cases hbackground : part.background with
    | none =>
      have hsame : part.modifyBlock .background f = part := by
        rw [Section.modifyBlock, hbackground, Option.map_none, ← hbackground]
      rw [hsame]
      exact h.grows_of_eq hfresh rfl rfl rfl
    | some background =>
      have hset : part.modifyBlock .background f =
          { part with background := some (f background) } := by
        rw [Section.modifyBlock, hbackground, Option.map_some]
      rw [hset]
      apply h.setBackground hfresh hadded
      rw [hf, hbackground, Option.toList_some, List.flatMap_singleton]
  | scenario =>
    apply h.modifyLastScenario hfresh hadded
    · intro s
      exact (List.cons.inj (hf s.toStepBlock)).1
    · intro s
      rw [Scenario.lines, Scenario.lines, Scenario.modifyBlock, hf, List.append_assoc]
      exact List.perm_append_comm_assoc _ added _
    · intro s hlt hrising
      rw [Scenario.modifyBlock, hf]
      exact pairwise_append_added hadded hrising hlt

/-- The outline of the last scenario may get a row. -/
theorem modifyOutline (h : part.Rising) (hfresh : ∀ n ∈ part.lines, n < line)
    {f : Outline → Outline} {rows : List ExampleRow} (hrows : Sublist (rows.map (·.line)) [line])
    (hf : ∀ outline, (f outline).examples = outline.examples ++ rows) :
    part.Grows line (part.modifyLastScenario (·.modifyOutline f)) := by
  refine h.modifyLastScenario hfresh hrows (fun _ => rfl) ?_ fun _ _ hrising => hrising
  intro s
  rw [Scenario.lines, Scenario.lines, s.examples_modifyOutline hf, List.map_append,
    ← List.append_assoc]
  exact List.perm_append_comm

end Rising

end Section

/-! ## Features -/

namespace Feature

/-- The lines of a feature rise up to the last one, within each section and from one to the
    next. -/
structure Rising (feature : Feature) (last : Nat) : Prop where
  sections : ∀ part ∈ feature.sections, part.Rising
  apart : feature.sections.Pairwise fun part next => ∀ n ∈ part.lines, n < next.line
  counted : ∀ n ∈ feature.lines, 1 ≤ n ∧ n ≤ last

namespace Rising

variable {feature : Feature} {last line : Nat}

theorem mono (h : feature.Rising last) (hle : last ≤ line) : feature.Rising line where
  sections := h.sections
  apart := h.apart
  counted n hn := ⟨(h.counted n hn).1, Nat.le_trans (h.counted n hn).2 hle⟩

/-- A feature starts with its own line. -/
theorem start (hline : 1 ≤ feature.line) (hbackground : feature.background = none)
    (hscenarios : feature.scenarios = []) (hrules : feature.rules = []) :
    feature.Rising feature.line := by
  obtain ⟨hlines, hrising⟩ := Section.Rising.start hbackground hscenarios
  have hsections : feature.sections = [feature.toSection] := by
    rw [Feature.sections, hrules, List.map_nil]
  constructor
  · rw [hsections, List.forall_mem_singleton]
    exact hrising
  · rw [hsections]
    exact List.pairwise_singleton _ _
  · rw [lines_eq_flatMap, hsections, List.flatMap_singleton, hlines, List.forall_mem_singleton]
    exact ⟨hline, Nat.le_refl _⟩

/-- The active section may grow: it is the last one. -/
theorem modifyActive (h : feature.Rising last) (hlt : last < line) {f : Section → Section}
    (hf : feature.active.Rising → (∀ n ∈ feature.active.lines, n < line) →
      feature.active.Grows line (f feature.active)) :
    (feature.modifyActive f).Rising line := by
  obtain ⟨before, hsections, hmodified⟩ := feature.exists_sections
  obtain ⟨hrising, hapart, hcounted⟩ := h
  rw [lines_eq_flatMap, hsections] at hcounted
  rw [hsections] at hrising hapart
  have hactive : ∀ n ∈ feature.active.lines, 1 ≤ n ∧ n ≤ last := by
    intro n hn
    apply hcounted
    rw [List.flatMap_append, List.flatMap_singleton]
    exact List.mem_append_right _ hn
  -- the active section comes last, and it grows by lines behind all others
  obtain ⟨hline, hgrown, hsubset⟩ := hf (hrising _ (List.mem_append_right _ List.mem_cons_self))
    fun n hn => Nat.lt_of_le_of_lt (hactive n hn).2 hlt
  have hpos : 1 ≤ line := by omega
  constructor
  · rw [hmodified, List.forall_mem_append, List.forall_mem_singleton]
    exact ⟨fun part hpart => hrising part (List.mem_append_left _ hpart), hgrown⟩
  · rw [List.pairwise_append] at hapart
    rw [hmodified, List.pairwise_append]
    refine ⟨hapart.1, List.pairwise_singleton _ _, ?_⟩
    intro part hpart next hnext n hn
    rw [List.mem_singleton.1 hnext, hline]
    exact hapart.2.2 part hpart _ List.mem_cons_self n hn
  · rw [lines_eq_flatMap, hmodified, List.flatMap_append, List.flatMap_singleton,
      List.forall_mem_append]
    constructor
    · intro n hn
      have hbefore := hcounted n (by
        rw [List.flatMap_append]
        exact List.mem_append_left _ hn)
      exact ⟨hbefore.1, by omega⟩
    · intro n hn
      rcases List.mem_cons.1 (hsubset hn) with rfl | hold
      · exact ⟨hpos, Nat.le_refl _⟩
      · have hbefore := hactive n hold
        exact ⟨hbefore.1, by omega⟩

/-- A rule starts a new section. -/
theorem addRule (h : feature.Rising last) {rule : Rule} (hlt : last < rule.line)
    (hbackground : rule.background = none) (hscenarios : rule.scenarios = []) :
    (feature.addRule rule).Rising rule.line := by
  obtain ⟨hlines, hrising⟩ := Section.Rising.start hbackground hscenarios
  have hsections : (feature.addRule rule).sections = feature.sections ++ [rule.toSection] := by
    simp [Feature.sections, Feature.addRule]
  constructor
  · rw [hsections, List.forall_mem_append, List.forall_mem_singleton]
    exact ⟨h.sections, hrising⟩
  · rw [hsections, List.pairwise_append]
    refine ⟨h.apart, List.pairwise_singleton _ _, ?_⟩
    intro part hpart next hnext n hn
    rw [List.mem_singleton.1 hnext]
    have hcounted := h.counted n (lines_subset_of_mem hpart hn)
    omega
  · rw [lines_eq_flatMap, hsections, List.flatMap_append, List.flatMap_singleton, hlines,
      List.forall_mem_append, List.forall_mem_singleton, ← lines_eq_flatMap]
    refine ⟨(h.mono (Nat.le_of_lt hlt)).counted, ?_, Nat.le_refl _⟩
    omega

end Rising

/-! ## The order that a reader of the document sees -/

/-- Nothing is under the same line as anything else, and everything that comes later in the
    document has a later line, up to the last one. -/
structure InSourceOrder (feature : Feature) (last : Nat) : Prop where
  nodup : feature.lines.Nodup
  counted : ∀ n ∈ feature.lines, 1 ≤ n ∧ n ≤ last
  least : ∀ n ∈ feature.lines, feature.line ≤ n
  scenarios : (feature.scenarios.map (·.line)).Pairwise (· < ·)
  rules : (feature.rules.map (·.line)).Pairwise (· < ·)
  ruleScenarios : ∀ rule ∈ feature.rules, (rule.scenarios.map (·.line)).Pairwise (· < ·)
  /-- What stands outside the rules precedes the first of them. -/
  beforeRules : ∀ rule ∈ feature.rules.head?, ∀ n ∈ feature.inner, n < rule.line
  /-- What stands in a rule is between its line and that of the next rule. -/
  withinRule : ∀ (k : Nat) (rule : Rule), feature.rules[k]? = some rule → ∀ n ∈ rule.inner,
    rule.line < n ∧ ∀ next ∈ feature.rules[k + 1]?, n < next.line
  /-- The steps of a background or scenario follow each other and its own line. -/
  steps : ∀ part ∈ feature.sections, ∀ block ∈ part.blocks,
    (block.steps.map (·.line)).Pairwise (· < ·) ∧ ∀ step ∈ block.steps, block.line < step.line
  /-- What stands in a scenario precedes all scenarios that come later, those of the rules after
      those of the feature. -/
  scenario : (feature.scenarios ++ feature.rules.flatMap (·.scenarios)).Pairwise
    fun scenario next => ∀ n ∈ scenario.lines, n < next.line
  allScenarios : (feature.allScenarios.map (·.2.line)).Pairwise (· < ·)

/-- Scenarios whose contents precede the next one have rising lines. -/
theorem pairwise_line {scenarios : List Scenario}
    (h : scenarios.Pairwise fun scenario next => ∀ n ∈ scenario.lines, n < next.line) :
    (scenarios.map (·.line)).Pairwise (· < ·) := by
  rw [List.pairwise_map]
  exact h.imp fun hlt => hlt _ List.mem_cons_self

theorem Rising.inSourceOrder {feature : Feature} {last : Nat} (h : feature.Rising last) :
    feature.InSourceOrder last := by
  obtain ⟨hrising, hapart, hcounted⟩ := h
  -- the scenarios of all sections in their order
  have hall : (feature.scenarios ++ feature.rules.flatMap (·.scenarios)).Pairwise
      fun scenario next => ∀ n ∈ scenario.lines, n < next.line := by
    rw [← scenarios_sections, List.pairwise_flatMap]
    refine ⟨fun part hpart => (hrising part hpart).scenarios, ?_⟩
    refine List.Pairwise.imp_of_mem ?_ hapart
    intro part next _ hnext hlt scenario hscenario later hlater n hn
    have hbefore := hlt n (Section.lines_subset_of_mem hscenario hn)
    have hleast := (hrising next hnext).least later.line
      (Section.lines_subset_of_mem hlater List.mem_cons_self)
    omega
  have hrules := hapart
  rw [Feature.sections, List.pairwise_cons, List.pairwise_map, List.forall_mem_map] at hrules
  obtain ⟨hoffeature, hofrules⟩ := hrules
  have hrule : ∀ rule ∈ feature.rules, rule.toSection.Rising := by
    intro rule hmem
    exact hrising _ (List.mem_cons_of_mem _ (List.mem_map_of_mem hmem))
  have hfeature : feature.toSection.Rising := hrising _ List.mem_cons_self
  constructor
  case nodup =>
    rw [lines_eq_flatMap, List.Nodup, List.pairwise_flatMap]
    refine ⟨fun part hpart => (hrising part hpart).nodup, ?_⟩
    refine List.Pairwise.imp_of_mem ?_ hapart
    intro part next _ hnext hlt n hn m hm
    have hbefore := hlt n hn
    have hleast := (hrising next hnext).least m hm
    omega
  case counted => exact hcounted
  case least =>
    intro n hn
    rw [lines, List.mem_append, List.mem_flatMap] at hn
    rcases hn with hown | ⟨rule, hmem, hn⟩
    · exact hfeature.least n hown
    · have hbefore := hoffeature rule hmem _ (Section.line_mem_lines _)
      have hleast := (hrule rule hmem).least n hn
      omega
  case scenarios => exact pairwise_line hfeature.scenarios
  case rules =>
    rw [List.pairwise_map]
    exact hofrules.imp fun hlt => hlt _ (Section.line_mem_lines _)
  case ruleScenarios => exact fun rule hmem => pairwise_line (hrule rule hmem).scenarios
  case beforeRules =>
    intro rule hmem n hn
    exact hoffeature rule (List.mem_of_head? hmem) n (List.mem_cons_of_mem _ hn)
  case withinRule =>
    intro k rule hk n hn
    have hmem := List.mem_of_getElem? hk
    have hnodup := (hrule rule hmem).nodup
    have hleast := (hrule rule hmem).least n (List.mem_cons_of_mem _ hn)
    rw [Section.lines, List.nodup_cons] at hnodup
    refine ⟨Nat.lt_of_le_of_ne hleast fun heq => hnodup.1 (heq ▸ hn), ?_⟩
    intro next hnext
    obtain ⟨hlt, hthis⟩ := List.getElem?_eq_some_iff.1 hk
    obtain ⟨hltNext, hthat⟩ := List.getElem?_eq_some_iff.1 hnext
    have hpair := List.pairwise_iff_getElem.1 hofrules k (k + 1) hlt hltNext (Nat.lt_succ_self k)
    rw [hthis, hthat] at hpair
    exact hpair n (List.mem_cons_of_mem _ hn)
  case steps =>
    intro part hpart block hblock
    have hpairwise := (hrising part hpart).blocks block hblock
    rw [StepBlock.lines, List.pairwise_cons, List.forall_mem_map] at hpairwise
    exact hpairwise.symm
  case scenario => exact hall
  case allScenarios =>
    have hlines := pairwise_line hall
    rwa [← scenarios_sections, ← allScenarios_eq_flatMap, List.map_map] at hlines

end Feature

end Gherkin
