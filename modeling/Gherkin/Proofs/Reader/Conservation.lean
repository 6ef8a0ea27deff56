/-
  Gherkin.Proofs.Reader.Conservation

  Nothing is lost, doubled or misplaced: the inventory of a document that was
  read is the account of its lines.
-/
import Gherkin.Proofs.Reader.Ledger

namespace Gherkin

open List (Perm)

namespace Reader

variable {reader : Reader} {seen : List LineEntry}

/-- The checks at the end of a document pass the feature on as it is. -/
theorem feature_of_finish {strict : Bool} {feature : Option Feature}
    (haccept : (reader.finish strict).value = .ok feature) :
    feature = reader.flush.value.feature := by
  unfold finish at haccept
  split at haccept
  · cases haccept
  · unfold check at haccept
    simp only at haccept
    split at haccept
    · cases haccept
    · exact (Except.ok.inj haccept).symm

/-! ## Runs -/

/-- What holds of a reader after lines that it accepted. -/
structure Kept (seen : List LineEntry) (reader : Reader) : Prop where
  sound : reader.Sound
  booked : reader.Booked seen
  table : reader.docString = none → reader.openTable = OpenTable.ofSeen seen

theorem kept_start (language : Language) : ({ language } : Reader).Kept [] where
  sound := sound_start language
  booked := booked_start language
  table _ := rfl

namespace Kept

theorem read (h : reader.Kept seen) {text : String} (haccept : (reader.read text).fault = none) :
    (reader.read text).reader.Kept (reader.scanner.entry text :: seen) where
  sound := h.sound.read text
  booked := h.booked.read h.sound h.table haccept
  table hclosed := openTable_read h.sound h.table haccept hclosed

/-- Outside doc-strings the lines seen tell which table is open. -/
theorem table_of_form? (h : reader.Kept seen) {text : String} {form : LineForm}
    (hform : reader.scanner.form? text = some form) :
    reader.openTable = OpenTable.ofSeen seen :=
  h.table (docString_of_form? hform)

/-- What every accepted line keeps, an accepted run keeps. -/
theorem induct {P : List LineEntry → Reader → Prop}
    (hstep : ∀ {seen reader text}, reader.Kept seen → P seen reader →
      (reader.read text).fault = none →
      P (reader.scanner.entry text :: seen) (reader.read text).reader)
    (hkept : reader.Kept seen) (h : P seen reader) {lines : List String}
    (haccept : (reader.readAll lines).fault = none) :
    P (reader.scanner.entries seen lines) (reader.readAll lines).reader := by
  induction lines generalizing reader seen with
  | nil => exact h
  | cons line lines ih =>
    unfold Reader.readAll at haccept ⊢
    cases hfault : (reader.read line).fault with
    | some fault => simp [hfault] at haccept
    | none =>
      simp only [hfault] at haccept ⊢
      -- the scanner of the other lines is that of the reader after the first one
      rw [Scanner.entries, ← scanner_read hfault]
      exact ih (hkept.read hfault) (hstep hkept h hfault) haccept

theorem readAll (h : reader.Kept seen) {lines : List String}
    (haccept : (reader.readAll lines).fault = none) :
    (reader.readAll lines).reader.Kept (reader.scanner.entries seen lines) :=
  h.induct (P := Reader.Kept) (fun hkept _ hread => hkept.read hread) h haccept

/-- At the end of the document no rows are pending. -/
theorem finish (h : reader.Kept seen) {strict : Bool} {feature : Option Feature}
    (haccept : (reader.finish strict).value = .ok feature) :
    Perm (feature.toList.flatMap Feature.items) (account seen) := by
  have hitems := (h.booked.flush h.sound).items
  rw [pending_of_none (flush_examples reader), List.nil_append] at hitems
  rw [feature_of_finish haccept]
  exact hitems

end Kept

end Reader

namespace ReadingMode

/-! ## Whole documents -/

/-- A scanner at the start of a document. -/
def scanner (mode : ReadingMode) : Scanner := { language := (Language.ofCode mode.language).value }

/-- A reader at the start of a document. -/
def reader (mode : ReadingMode) : Reader := { language := (Language.ofCode mode.language).value }

theorem readLines_value (mode : ReadingMode) (lines : List String) :
    (mode.readLines lines).value =
      match (mode.reader.readAll lines).fault with
      | some fault => .error fault
      | none => ((mode.reader.readAll lines).reader.finish mode.strict).value := by
  show (match (mode.reader.readAll lines).fault with
    | some fault => (⟨.error fault, _⟩ : Noted (Except DocumentFault (Option Feature)))
    | none => ⟨_, _⟩).value = _
  cases (mode.reader.readAll lines).fault <;> rfl

/-- Every line of an accepted document has contributed what the lines before it say, exactly once,
    and nothing else is in the document. No two entities stand on one line, so that the line of an
    entity says which one is meant. -/
theorem readLines_conserves (mode : ReadingMode) {lines : List String} {feature : Option Feature}
    (h : (mode.readLines lines).value = .ok feature) :
    Perm (feature.toList.flatMap Feature.items) (account (mode.scanner.entries [] lines)) ∧
      ((feature.toList.flatMap Feature.items).filterMap Item.entityLine?).Nodup := by
  have hstart : mode.reader.Kept [] := Reader.kept_start _
  have hitems : Perm (feature.toList.flatMap Feature.items)
      (account (mode.scanner.entries [] lines)) := by
    rw [readLines_value] at h
    cases hfault : (mode.reader.readAll lines).fault with
    | some fault => simp [hfault] at h
    | none =>
      simp only [hfault] at h
      exact (hstart.readAll hfault).finish h
  refine ⟨hitems, ?_⟩
  have hnodup : ((mode.scanner.entries [] lines).map (·.number)).Nodup :=
    mode.scanner.nodup_entries lines List.nodup_nil (by simp)
  rw [(hitems.filterMap Item.entityLine?).nodup_iff]
  exact hnodup.sublist (entityLines_account _)

/-- An outline whose step has a table, whose rows stand under an examples keyword with a blank
    line and a comment between them, and whose description comes late. -/
theorem readLines_conserves_outline :
    ∃ feature, (({} : ReadingMode).readLines
        ["Feature: f", "Scenario Outline: s", "Given a", "| x |", "| y |", "more", "Examples:",
          "| p | q |", "", "| 1 | 2 |", "# c", "| 3 |"]).value = .ok (some feature) ∧
      Perm feature.items
        [.entity 1, .entity 2, .step (some 2) 3 ⟨.Given, "Given", "a"⟩, .dataRow (some 3) ["x"],
          .dataRow (some 3) ["y"], .description 2 "more",
          .exampleRow (some 2) 10 [("p", some "1"), ("q", some "2")],
          .exampleRow (some 2) 12 [("p", some "3"), ("q", none)]] := by
  have hvalue : (({} : ReadingMode).readLines
      ["Feature: f", "Scenario Outline: s", "Given a", "| x |", "| y |", "more", "Examples:",
        "| p | q |", "", "| 1 | 2 |", "# c", "| 3 |"]).value.toOption.map (·.isSome) =
      some true := by
    decide +kernel
  obtain ⟨result, hread, hsome⟩ := exists_ok_of_map_toOption hvalue
  obtain ⟨feature, rfl⟩ := Option.isSome_iff_exists.1 hsome
  have hitems := (readLines_conserves {} hread).1
  rw [Option.toList_some, List.flatMap_singleton] at hitems
  refine ⟨feature, hread, hitems.trans ?_⟩
  decide +kernel

end ReadingMode

end Gherkin
