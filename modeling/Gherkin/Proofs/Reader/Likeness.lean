/-
  Gherkin.Proofs.Reader.Likeness

  Readers that read on alike. The kind of the last line only tells whether a row
  belongs to a step, so it does not show while an examples table or a doc-string
  is open. Any line but a row or a comment ends an examples table, so before
  such a line it does not show either whether the table has ended already.
-/
import Gherkin.Proofs.Reader.Renumber

namespace Gherkin

namespace Reader

variable {reader other : Reader}

/-! ## The kind of the last line -/

/-- The other reader differs at most in the kind of the last line, and in that only while an
    examples table or a doc-string is open. -/
def Interchangeable (reader other : Reader) : Prop :=
  other = reader ∨
    (reader.examples.isSome ∨ reader.docString.isSome) ∧
      ∃ kind, other = { reader with previous := kind }

/-- Both outcomes refuse the line for the same fault, or the readers after it are
    interchangeable. -/
def Outcome.Interchangeable (outcome other : Outcome) : Prop :=
  other.fault = outcome.fault ∧
    (outcome.fault = none → outcome.reader.Interchangeable other.reader)

theorem refuse_interchangeable (fault : DocumentFault) (reader other : Reader) :
    (reader.refuse fault).Interchangeable (other.refuse fault) := ⟨rfl, nofun⟩

theorem Outcome.interchangeable_of_eq {outcome other : Outcome} (h : other = outcome) :
    outcome.Interchangeable other := by
  subst h
  exact ⟨rfl, fun _ => .inl rfl⟩

/-! ## Lines that are neither rows nor comments nor blank -/

section Previous

variable (kind : LineKind)

theorem onFeature_previous (reader : Reader) (header : Header) :
    (reader.onFeature header).Interchangeable
      ({ reader with previous := kind }.onFeature header) := by
  unfold onFeature
  split
  · exact refuse_interchangeable _ _ _
  split
  · exact refuse_interchangeable _ _ _
  · exact Outcome.interchangeable_of_eq rfl

theorem onBackground_previous (reader : Reader) (feature : Feature) (header : Header)
    (tags : TagSet) :
    (reader.onBackground feature header tags).Interchangeable
      ({ reader with previous := kind }.onBackground feature header tags) := by
  unfold onBackground
  split
  · exact refuse_interchangeable _ _ _
  · exact Outcome.interchangeable_of_eq rfl

theorem onExamples_previous (reader : Reader) (tags : TagSet) :
    (reader.onExamples tags).Interchangeable
      ({ reader with previous := kind }.onExamples tags) := by
  have hscenario : ({ reader with previous := kind } : Reader).scenario? = reader.scenario? := rfl
  unfold onExamples
  rw [hscenario]
  split
  · exact refuse_interchangeable _ _ _
  · exact Outcome.interchangeable_of_eq rfl

theorem onHeader_previous (reader : Reader) (text : String) (header : Header) :
    (reader.onHeader text header).Interchangeable
      ({ reader with previous := kind }.onHeader text header) := by
  rcases Option.eq_none_or_eq_some reader.feature with hfeature | ⟨feature, hfeature⟩
  · rw [onHeader_of_none hfeature,
      @onHeader_of_none { reader with previous := kind } hfeature]
    split
    · exact onFeature_previous kind reader header
    · exact refuse_interchangeable _ _ _
  · rw [onHeader_of_some hfeature,
      @onHeader_of_some { reader with previous := kind } feature hfeature]
    cases header.kind with
    | Feature => exact onFeature_previous kind reader header
    | Rule => exact Outcome.interchangeable_of_eq rfl
    | Background => exact onBackground_previous kind _ feature header _
    | Examples => exact onExamples_previous kind _ _
    | Scenario => exact Outcome.interchangeable_of_eq rfl
    | ScenarioOutline => exact Outcome.interchangeable_of_eq rfl

theorem hasStep_previous (reader : Reader) :
    ({ reader with previous := kind } : Reader).hasStep = reader.hasStep := rfl

/-- A line that is accepted says of which kind it is. -/
theorem accept_modifyBlock_previous (f : StepBlock → StepBlock) (reader : Reader)
    (accepted : LineKind) :
    ({ reader with previous := kind }.modifyBlock f).accept accepted =
      (reader.modifyBlock f).accept accepted := by
  obtain ⟨language, feature, place, pendingTags, examples, docString, previous, line⟩ := reader
  cases place <;> rfl

/-- An accepted fence opens a doc-string, during which the kind does not show. -/
theorem onFence_previous (reader : Reader) (text : String) (fence : Fence)
    (mediaType : Option String) :
    (reader.onFence text fence mediaType).Interchangeable
      ({ reader with previous := kind }.onFence text fence mediaType) := by
  unfold onFence
  rw [hasStep_previous kind reader]
  split
  · exact ⟨rfl, fun _ => .inr ⟨.inr rfl, kind, rfl⟩⟩
  · exact refuse_interchangeable _ _ _

theorem onStep_previous (reader : Reader) (text : String) (found : StepLine) :
    (reader.onStep text found).Interchangeable
      ({ reader with previous := kind }.onStep text found) := by
  have hblock : ({ reader with previous := kind } : Reader).block? = reader.block? := rfl
  unfold onStep
  rw [hblock]
  split
  · exact refuse_interchangeable _ _ _
  split
  · exact refuse_interchangeable _ _ _
  split
  · exact refuse_interchangeable _ _ _
  · exact Outcome.interchangeable_of_eq (accept_modifyBlock_previous kind _ reader .step)

theorem onProse_previous (reader : Reader) (text : String) :
    (reader.onProse text).Interchangeable
      ({ reader with previous := kind }.onProse text) := by
  have hplace : ({ reader with previous := kind } : Reader).place = reader.place := rfl
  unfold onProse
  rw [hplace]
  split
  · exact Outcome.interchangeable_of_eq rfl
  split
  · exact Outcome.interchangeable_of_eq rfl
  · exact Outcome.interchangeable_of_eq (accept_modifyBlock_previous kind _ reader .description)

/-- Only rows look at the kind, and only comments leave it as it is. -/
theorem onForm_previous (reader : Reader) (text trimmed : String) {form : LineForm}
    (hcomment : ∀ comment, form ≠ .comment comment) (hrow : ∀ cells, form ≠ .row cells) :
    (reader.onForm text trimmed form).Interchangeable
      ({ reader with previous := kind }.onForm text trimmed form) := by
  cases form with
  | comment comment => exact absurd rfl (hcomment comment)
  | header header => exact onHeader_previous kind reader trimmed header
  | row cells => exact absurd rfl (hrow cells)
  | blank => exact Outcome.interchangeable_of_eq rfl
  | tags tags => exact Outcome.interchangeable_of_eq rfl
  | fence fence mediaType => exact onFence_previous kind reader text fence mediaType
  | step found => exact onStep_previous kind reader trimmed found
  | prose => exact onProse_previous kind reader trimmed

theorem flush_previous (reader : Reader) :
    ({ reader with previous := kind } : Reader).flush =
      ⟨{ reader.flush.value with previous := kind }, reader.flush.notices⟩ := by
  obtain ⟨language, feature, place, pendingTags, examples, docString, previous, line⟩ := reader
  cases examples <;> rfl

theorem settle_previous (reader : Reader) (form : LineForm) :
    ({ reader with previous := kind } : Reader).settle form =
      { reader.settle form with previous := kind } := by
  have hkeeps : ({ reader with previous := kind } : Reader).keepsExamples form =
      reader.keepsExamples form := by
    cases form <;> rfl
  unfold settle
  rw [hkeeps, flush_previous kind reader]
  split <;> rfl

theorem onComment_previous (reader : Reader) (comment : String) :
    ({ reader with previous := kind }.onComment comment).reader =
      { (reader.onComment comment).reader with previous := kind } := by
  obtain ⟨language, feature, place, pendingTags, examples, docString, previous, line⟩ := reader
  unfold onComment
  cases feature with
  | some feature => rfl
  | none => cases declaredLanguage? comment <;> rfl

end Previous

/-! ## Lines while the kind does not show -/

/-- While an examples table is open a row belongs to it. -/
theorem onRow_previous (kind : LineKind) {reader : Reader} (h : reader.examples.isSome)
    (cells : List String) :
    { reader with previous := kind }.onRow cells = reader.onRow cells := by
  obtain ⟨block, hblock⟩ := Option.isSome_iff_exists.1 h
  simp only [onRow, hblock]
  rfl

theorem onComment_fault (reader : Reader) (comment : String) :
    (reader.onComment comment).fault = none := by
  unfold onComment
  split <;> rfl

theorem onComment_examples (reader : Reader) (comment : String) :
    (reader.onComment comment).reader.examples = reader.examples := by
  unfold onComment
  split <;> rfl

theorem onLine_previous (kind : LineKind) {reader : Reader} (h : reader.examples.isSome)
    (text : String) :
    (reader.onLine text).Interchangeable ({ reader with previous := kind }.onLine text) := by
  have hform : ∀ form, ((reader.settle form).onForm text (Text.trim text) form).Interchangeable
      (({ reader with previous := kind } : Reader).settle form |>.onForm text (Text.trim text)
        form) := by
    intro form
    rw [settle_previous kind reader form]
    cases form with
    | comment comment =>
      -- a comment keeps the table, and whatever the kind is
      have hkeeps : reader.settle (.comment comment) = reader := rfl
      rw [hkeeps]
      refine ⟨by simp only [onForm, onComment_fault], fun _ => .inr ⟨.inl ?_, kind, ?_⟩⟩
      · simpa only [onForm, onComment_examples] using h
      · exact onComment_previous kind reader comment
    | row cells => exact Outcome.interchangeable_of_eq (onRow_previous kind h cells)
    | _ => exact onForm_previous kind _ text _ (by simp) (by simp)
  refine ⟨?_, ?_⟩
  · rw [onLine_fault, onLine_fault]
    exact (hform _).1
  · rw [onLine_fault, onLine_reader, onLine_reader]
    exact (hform _).2

theorem onDocString_previous (kind : LineKind) (reader : Reader) (doc : OpenDocString)
    (text : String) :
    (reader.onDocString doc text).Interchangeable
      ({ reader with previous := kind }.onDocString doc text) := by
  unfold onDocString
  split
  · obtain ⟨language, feature, place, pendingTags, examples, docString, previous, line⟩ := reader
    apply Outcome.interchangeable_of_eq
    cases place <;> rfl
  · exact ⟨rfl, fun _ => .inr ⟨.inr rfl, kind, rfl⟩⟩

/-! ## Reading on -/

namespace Interchangeable

theorem take (h : reader.Interchangeable other) (text : String) :
    (reader.take text).Interchangeable (other.take text) := by
  obtain rfl | ⟨hopen, kind, rfl⟩ := h
  · exact Outcome.interchangeable_of_eq rfl
  rcases Option.eq_none_or_eq_some reader.docString with hdoc | ⟨doc, hdoc⟩
  · have hexamples : reader.examples.isSome := by simpa [hdoc] using hopen
    rw [take_of_none hdoc, @take_of_none { reader with previous := kind } hdoc]
    exact onLine_previous kind hexamples text
  · rw [take_of_some hdoc, @take_of_some { reader with previous := kind } doc hdoc]
    exact onDocString_previous kind reader doc text

theorem read (h : reader.Interchangeable other) (text : String) :
    (reader.read text).Interchangeable (other.read text) := by
  have hcounted : ({ reader with line := reader.line + 1 } : Reader).Interchangeable
      { other with line := other.line + 1 } := by
    obtain rfl | ⟨hopen, kind, rfl⟩ := h
    · exact .inl rfl
    · exact .inr ⟨hopen, kind, rfl⟩
  refine ⟨?_, ?_⟩
  · rw [read_fault, read_fault]
    exact (hcounted.take text).1
  · rw [read_fault, read_reader, read_reader]
    exact (hcounted.take text).2

theorem finish (h : reader.Interchangeable other) (strict : Bool) :
    (other.finish strict).value = (reader.finish strict).value := by
  obtain rfl | ⟨-, kind, rfl⟩ := h
  · rfl
  rcases Option.eq_none_or_eq_some reader.docString with hdoc | ⟨doc, hdoc⟩
  · rw [finish_of_none hdoc, @finish_of_none { reader with previous := kind } hdoc,
      flush_previous kind reader]
  · rw [finish_of_some hdoc, @finish_of_some { reader with previous := kind } doc hdoc]

/-- Interchangeable readers make the same document of the lines to come. -/
theorem readToEnd (h : reader.Interchangeable other) (strict : Bool) (lines : List String) :
    other.readToEnd strict lines = reader.readToEnd strict lines := by
  induction lines generalizing reader other with
  | nil => exact h.finish strict
  | cons line lines ih =>
    obtain ⟨hfault, hreader⟩ := h.read line
    rw [readToEnd_cons, readToEnd_cons, hfault]
    cases haccept : (reader.read line).fault with
    | some fault => rfl
    | none => exact ih (hreader haccept)

end Interchangeable

end Reader

end Gherkin
