/-
  Gherkin.Proofs.Reader.Indent

  Lines may be indented at will. Outside doc-strings a line is read without the
  blanks around it. Inside, what is taken off a line is the indentation of the
  opening fence, so it is enough that both get the same blanks before them.
-/
import Gherkin.Proofs.Reader.Conservation
import Gherkin.Proofs.Reader.Fence

namespace Gherkin

namespace Reader

variable {reader : Reader} {pad : String}

/-! ## Deeper doc-strings -/

/-- The reader with the opening fence of its doc-string, if one is open, deeper by `n` bytes. -/
def deepen (n : Nat) (reader : Reader) : Reader :=
  { reader with docString := reader.docString.map fun doc => { doc with indent := n + doc.indent } }

theorem deepen_of_none (h : reader.docString = none) (n : Nat) : reader.deepen n = reader := by
  obtain ⟨language, feature, place, pendingTags, examples, docString, previous, line⟩ := reader
  cases h
  rfl

theorem finish_deepen (n : Nat) (reader : Reader) (strict : Bool) :
    (reader.deepen n).finish strict = reader.finish strict := by
  rcases Option.eq_none_or_eq_some reader.docString with hdoc | ⟨doc, hdoc⟩
  · rw [deepen_of_none hdoc]
  · have hdeep : (reader.deepen n).docString = some { doc with indent := n + doc.indent } := by
      simp [deepen, hdoc]
    simp only [finish, hdoc, hdeep]

theorem modifyBlock_deepen (n : Nat) (f : StepBlock → StepBlock) (reader : Reader) :
    (reader.deepen n).modifyBlock f = (reader.modifyBlock f).deepen n := by
  obtain ⟨language, feature, place, pendingTags, examples, docString, previous, line⟩ := reader
  cases place <;> rfl

/-- The outcomes are the same, but that a doc-string that is open then is deeper by `n` bytes. -/
structure Outcome.Deeper (n : Nat) (outcome other : Outcome) : Prop where
  fault : other.fault = outcome.fault
  notices : other.notices = outcome.notices
  reader : outcome.fault = none → other.reader = outcome.reader.deepen n

theorem Outcome.Deeper.after {n : Nat} {outcome other : Outcome} (h : outcome.Deeper n other)
    (notices : List Notice) : (outcome.after notices).Deeper n (other.after notices) where
  fault := h.fault
  notices := congrArg (notices ++ ·) h.notices
  reader := h.reader

theorem Outcome.Deeper.logged {n : Nat} {outcome other : Outcome} (h : outcome.Deeper n other) :
    outcome.logged.Deeper n other.logged := by
  obtain ⟨after, fault, notices⟩ := outcome
  obtain ⟨hfault, hnotices, hreader⟩ := h
  cases fault with
  | some fault =>
    have hother : other.fault = some fault := hfault
    refine ⟨by simp only [Outcome.logged, hother], ?_, nofun⟩
    simpa only [Outcome.logged, hother] using hnotices
  | none =>
    have hother : other.fault = none := hfault
    have hdeeper : other.reader = after.deepen n := hreader rfl
    refine ⟨by simp only [Outcome.logged, hother], ?_, fun _ => ?_⟩
    · simp [Outcome.logged, hother, hdeeper, hnotices, deepen]
    · simp only [Outcome.logged, hother, hdeeper]

/-! ## Lines behind blanks -/

theorem onForm_indent (hblank : ∀ c ∈ pad.toList, Text.isBlank c = true)
    (hdoc : reader.docString = none) (text trimmed : String) (form : LineForm) :
    (reader.onForm text trimmed form).Deeper (Text.byteLength pad.toList)
      (reader.onForm (pad ++ text) trimmed form) := by
  cases form with
  | fence fence mediaType =>
    have hindent := Text.indentOf_pad hblank text.toList
    simp only [onForm, onFence, String.toList_append, hindent]
    split
    · exact ⟨rfl, rfl, fun _ => rfl⟩
    · exact ⟨rfl, rfl, nofun⟩
  | _ =>
    refine ⟨rfl, rfl, fun haccept => ?_⟩
    exact (deepen_of_none (onForm_docString (by simp) haccept hdoc) _).symm

theorem onLine_indent (hblank : ∀ c ∈ pad.toList, Text.isBlank c = true)
    (hdoc : reader.docString = none) (text : String) :
    (reader.onLine text).Deeper (Text.byteLength pad.toList) (reader.onLine (pad ++ text)) := by
  unfold onLine
  rw [Text.trim_pad hblank]
  simp only
  generalize hform : reader.language.form (Text.trim text) = form
  have hsettled : (if reader.keepsExamples form then pure reader
      else reader.flush).value.docString = none := by
    split
    · exact hdoc
    · exact (flush_docString reader).trans hdoc
  generalize (if reader.keepsExamples form then pure reader else reader.flush) = settled
    at hsettled ⊢
  exact (onForm_indent hblank hsettled text _ form).after _

/-- What is taken off a line of a doc-string is what its fence is indented by. -/
theorem onDocString_indent (hblank : ∀ c ∈ pad.toList, Text.isBlank c = true)
    (reader : Reader) (doc : OpenDocString) (text : String) :
    (reader.onDocString doc text).Deeper (Text.byteLength pad.toList)
      ((reader.deepen (Text.byteLength pad.toList)).onDocString
        { doc with indent := Text.byteLength pad.toList + doc.indent } (pad ++ text)) := by
  have hcontent : doc.fence.content (Text.byteLength pad.toList + doc.indent) (pad ++ text) =
      doc.fence.content doc.indent text := by
    rw [Fence.content, Fence.content, String.toList_append, Text.unindent_pad hblank]
  generalize Text.byteLength pad.toList = n at hcontent ⊢
  unfold onDocString
  rw [Text.trim_pad hblank]
  split
  · -- the closing fence
    refine ⟨rfl, rfl, fun _ => ?_⟩
    rw [modifyBlock_deepen]
    rfl
  · refine ⟨rfl, rfl, fun _ => ?_⟩
    rw [hcontent]
    rfl

theorem take_indent (hblank : ∀ c ∈ pad.toList, Text.isBlank c = true) (reader : Reader)
    (text : String) :
    (reader.take text).Deeper (Text.byteLength pad.toList)
      ((reader.deepen (Text.byteLength pad.toList)).take (pad ++ text)) := by
  rcases Option.eq_none_or_eq_some reader.docString with hdoc | ⟨doc, hdoc⟩
  · rw [deepen_of_none hdoc, take_of_none hdoc, take_of_none hdoc]
    exact onLine_indent hblank hdoc text
  · have hdeep : (reader.deepen (Text.byteLength pad.toList)).docString =
        some { doc with indent := Text.byteLength pad.toList + doc.indent } := by
      simp only [deepen, hdoc, Option.map_some]
    rw [take_of_some hdoc, take_of_some hdeep]
    exact onDocString_indent hblank reader doc text

theorem read_indent (hblank : ∀ c ∈ pad.toList, Text.isBlank c = true) (reader : Reader)
    (text : String) :
    (reader.read text).Deeper (Text.byteLength pad.toList)
      ((reader.deepen (Text.byteLength pad.toList)).read (pad ++ text)) := by
  have htake := take_indent hblank { reader with line := reader.line + 1 } text
  rw [read_eq_logged, read_eq_logged]
  exact htake.logged

/-! ## Documents behind blanks -/

/-- All lines of a doc-string have the same blanks before them: each line that follows while one is
    open has those of the line before it, and a doc-string that is open at the start is deeper by
    those of the first line. -/
theorem readAll_indent {padded : List (String × String)} {n : Nat}
    (hblank : ∀ line ∈ padded, ∀ c ∈ line.1.toList, Text.isBlank c = true)
    (hstart : reader.docString.isSome → ∀ line ∈ padded.head?, Text.byteLength line.1.toList = n)
    (hdoc : ∀ i < padded.length,
      (reader.readAll ((padded.take (i + 1)).map (·.2))).reader.docString.isSome →
        ∀ next ∈ padded[i + 1]?, some next.1 = padded[i]?.map (·.1)) :
    ∃ m, (reader.readAll (padded.map (·.2))).Deeper m
      ((reader.deepen n).readAll (padded.map fun line => line.1 ++ line.2)) := by
  induction padded generalizing reader n with
  | nil => exact ⟨n, rfl, rfl, fun _ => rfl⟩
  | cons line padded ih =>
    have hsame : reader.deepen n = reader.deepen (Text.byteLength line.1.toList) := by
      rcases Option.eq_none_or_eq_some reader.docString with hclosed | ⟨doc, hopen⟩
      · rw [deepen_of_none hclosed, deepen_of_none hclosed]
      · rw [hstart (by simp [hopen]) line rfl]
    have hread := read_indent (hblank line List.mem_cons_self) reader line.2
    rw [hsame, List.map_cons, List.map_cons, readAll, readAll, hread.fault]
    cases hfault : (reader.read line.2).fault with
    | some fault => exact ⟨_, hread⟩
    | none =>
      -- what the lines say of the reader after the first one
      have hnext : (reader.read line.2).reader.docString.isSome →
          ∀ next ∈ padded.head?, Text.byteLength next.1.toList = Text.byteLength line.1.toList := by
        intro hopen next hhead
        have hpad := hdoc 0 (by simp) (by simpa [readAll, hfault, Outcome.after] using hopen)
          next (by simpa [List.head?_eq_getElem?] using hhead)
        rw [Option.some.inj hpad]
      have hlater : ∀ i < padded.length,
          ((reader.read line.2).reader.readAll
            ((padded.take (i + 1)).map (·.2))).reader.docString.isSome →
            ∀ next ∈ padded[i + 1]?, some next.1 = padded[i]?.map (·.1) := by
        intro i hlt hopen
        exact hdoc (i + 1) (by simpa using hlt)
          (by simpa [readAll, hfault, Outcome.after] using hopen)
      obtain ⟨m, hrest⟩ := ih (fun next hmem => hblank next (List.mem_cons_of_mem line hmem))
        hnext hlater
      rw [hread.reader hfault]
      refine ⟨m, hrest.fault, ?_, hrest.reader⟩
      simp only [Outcome.after, hread.notices, hrest.notices]

end Reader

namespace ReadingMode

/-- Any blanks may be put before the lines of a document, as long as all the lines of a doc-string,
    its fences included, get the same ones: what comes of the document is the same. -/
theorem readLines_indent (mode : ReadingMode) {padded : List (String × String)}
    (hblank : ∀ line ∈ padded, line.1.toList.all Text.isBlank)
    (hdoc : ∀ i < padded.length,
      (mode.reader.readAll ((padded.take (i + 1)).map (·.2))).reader.docString.isSome →
        ∀ next ∈ padded[i + 1]?, some next.1 = padded[i]?.map (·.1)) :
    mode.readLines (padded.map fun line => line.1 ++ line.2) =
      mode.readLines (padded.map (·.2)) := by
  obtain ⟨n, hread⟩ := @Reader.readAll_indent mode.reader padded 0
    (fun line hmem => List.all_eq_true.1 (hblank line hmem)) nofun hdoc
  have hstart : mode.reader.deepen 0 = mode.reader := rfl
  rw [hstart] at hread
  -- both documents begin with the same reader and end with readers that finish alike
  have hbegin : (Reader.ofLanguage mode.language).value = mode.reader := rfl
  unfold readLines
  apply Noted.bind_congr
  simp only [hbegin, hread.fault, hread.notices]
  cases hfault : (mode.reader.readAll (padded.map (·.2))).fault with
  | some fault => rfl
  | none => simp only [hread.reader hfault, Reader.finish_deepen]

/-- Blanks of one and of three bytes, a line of a doc-string that keeps two blanks of its own, and
    lines outside that get other blanks. -/
theorem readLines_indent_docString :
    ∃ feature, (({} : ReadingMode).readLines
        ["Feature: f", "Scenario: s", "Given a", "\"\"\"", "  text", "\"\"\"", "Then b"]).value =
          .ok (some feature) ∧
      (({} : ReadingMode).readLines
        ["\tFeature: f", "Scenario: s", "\u3000Given a", "\u2003 \"\"\"", "\u2003   text",
          "\u2003 \"\"\"", "  Then b"]).value = .ok (some feature) ∧
      (feature.allScenarios.flatMap (·.2.steps)).map (·.docString.map (·.content)) =
        [some "  text", none] := by
  have hvalue : (({} : ReadingMode).readLines
      ["Feature: f", "Scenario: s", "Given a", "\"\"\"", "  text", "\"\"\"",
        "Then b"]).value.toOption.map (·.map fun feature =>
          (feature.allScenarios.flatMap (·.2.steps)).map (·.docString.map (·.content))) =
      some (some [some "  text", none]) := by
    decide +kernel
  obtain ⟨result, hread, hsome⟩ := exists_ok_of_map_toOption hvalue
  obtain ⟨feature, rfl, hcontents⟩ := Option.map_eq_some_iff.1 hsome
  have hindented := @readLines_indent {}
    [("\t", "Feature: f"), ("", "Scenario: s"), ("\u3000", "Given a"),
      ("\u2003 ", "\"\"\""), ("\u2003 ", "  text"), ("\u2003 ", "\"\"\""), ("  ", "Then b")]
    (by decide +kernel) (by decide +kernel)
  refine ⟨feature, hread, ?_, hcontents⟩
  exact (congrArg Noted.value hindented).trans hread

end ReadingMode

end Gherkin
