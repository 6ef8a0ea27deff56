/-
  Gherkin.Proofs.Expression.Conversion

  Converting what was accepted. A built-in kind has a value for each text that it
  accepts, but for whole numbers that do not fit, for dates that are impossible or in
  a form without a layout, and for digits that are not of ASCII, which the fragments
  for numbers and dates accept and no conversion reads. An expression that matches a
  text has values for it, unless a placeholder took such a text.
-/
import Gherkin.Proofs.Calendar.Script
import Gherkin.Proofs.Expression.Compilation
import Gherkin.Proofs.Expression.Date

namespace Gherkin

open Layout (Spelling)
open Number (AreDigits FitsInteger HasPlainDigits IsSign outOfRange signed)

namespace BuiltinKind

variable {kind : BuiltinKind} {raw : String}

/-! ## Texts without a value -/

/-- The kinds that accept digits and convert them. -/
def IsNumeric (kind : BuiltinKind) : Prop :=
  kind = number ∨ kind = float ∨ kind = int ∨ kind = date

/-- The texts for which a kind that accepts them has no value. -/
inductive HasNoValue : BuiltinKind → String → Prop
  /-- A digit that is not of ASCII. -/
  | script {kind : BuiltinKind} {raw : String} (hkind : kind.IsNumeric)
      (hraw : ¬ HasPlainDigits raw.toList) : HasNoValue kind raw
  /-- A whole number that does not fit. -/
  | range {raw : String} {sign digits : List Char} {negative : Bool}
      (hraw : raw.toList = sign ++ digits) (hsign : IsSign sign negative)
      (hdigits : AreDigits Char.isDigit digits)
      (hrange : ¬ FitsInteger (signed negative (Nat.ofDigitChars 10 digits 0))) :
      HasNoValue int raw
  /-- A day, a time or an offset that does not exist. -/
  | impossible {spelling : Spelling} (h : ¬ spelling.IsPossible) : HasNoValue date spelling.text
  /-- A clock whose zone is in a form without a layout. -/
  | unread {spelling : Spelling} (h : spelling.isUnread = true) : HasNoValue date spelling.text

/-! ## Conversion of each kind -/

theorem convert_of_accepts (hkind : ¬ kind.IsNumeric) (h : kind.Accepts raw) :
    ∃ value, kind.convert raw = .ok value := by
  cases kind with
  | string => exact ⟨_, rfl⟩
  | word => exact ⟨_, rfl⟩
  | email => exact ⟨_, rfl⟩
  | list => exact ⟨_, rfl⟩
  | char =>
    obtain ⟨c, s, hraw⟩ := List.exists_cons_of_ne_nil (ne_nil_of_accepts_char h)
    exact ⟨.char c, by rw [convert, hraw]⟩
  | boolean =>
    rcases accepts_boolean_iff.1 h with rfl | rfl
    · exact ⟨.bool true, rfl⟩
    · exact ⟨.bool false, rfl⟩
  | number => exact absurd (.inl rfl) hkind
  | float => exact absurd (.inr (.inl rfl)) hkind
  | int => exact absurd (.inr (.inr (.inl rfl))) hkind
  | date => exact absurd (.inr (.inr (.inr rfl))) hkind

/-- A decimal number has a value just in case its digits are those of ASCII. -/
theorem convert_number_iff (hkind : kind = number ∨ kind = float) (h : kind.Accepts raw) :
    (∃ value, kind.convert raw = .ok value) ↔ HasPlainDigits raw.toList := by
  rw [← Binary64.read_ok_iff ((accepts_number_iff hkind).1 h)]
  have hconvert : kind.convert raw = number.convert raw := by
    rcases hkind with rfl | rfl <;> rfl
  rw [hconvert, convert]
  cases Binary64.read raw with
  | ok x => simp
  | error fault => simp

/-- A sign and ASCII digits have the whole number that they stand for as their value, if it
    fits. -/
theorem convert_int_of_digits {sign digits : List Char} {negative : Bool}
    (hraw : raw.toList = sign ++ digits) (hsign : IsSign sign negative)
    (hdigits : AreDigits Char.isDigit digits) :
    int.convert raw =
      if FitsInteger (signed negative (Nat.ofDigitChars 10 digits 0)) then
        .ok (.integer (signed negative (Nat.ofDigitChars 10 digits 0)))
      else .error (.integer raw (outOfRange negative)) := by
  rw [convert, Number.readInteger_of_digits hsign hdigits hraw]
  by_cases hfits : FitsInteger (signed negative (Nat.ofDigitChars 10 digits 0))
  · rw [if_pos hfits, if_pos hfits]
  · rw [if_neg hfits, if_neg hfits]

/-- Digits of other scripts are accepted and have no value. -/
theorem convert_of_script (hkind : kind.IsNumeric) (h : kind.Accepts raw)
    (hraw : ¬ HasPlainDigits raw.toList) : ∃ fault, kind.convert raw = .error fault := by
  have hnumber (hkind : kind = number ∨ kind = float) :
      ∃ fault, kind.convert raw = .error fault := by
    cases hconvert : kind.convert raw with
    | error fault => exact ⟨fault, rfl⟩
    | ok value => exact absurd ((convert_number_iff hkind h).1 ⟨value, hconvert⟩) hraw
  rcases hkind with hkind | hkind | rfl | rfl
  · exact hnumber (.inl hkind)
  · exact hnumber (.inr hkind)
  · obtain ⟨sign, negative, digits, htext, hsign, hdigits⟩ := accepts_int_iff.1 h
    have hother : ¬ HasPlainDigits digits := fun hplain => hraw <| by
      rw [htext]
      exact hsign.plain_append hplain
    obtain ⟨fault, hfault⟩ := Number.readInteger_of_other hsign hdigits hother htext
    exact ⟨.integer raw fault, by rw [convert, hfault]⟩
  · cases hmoment : Layout.readMoment? raw with
    | none => exact ⟨.date raw, by rw [convert, hmoment]⟩
    | some moment => exact absurd (Layout.plain_of_readMoment? hmoment) hraw

theorem HasNoValue.convert_error (hvalue : kind.HasNoValue raw) (h : kind.Accepts raw) :
    ∃ fault, kind.convert raw = .error fault := by
  cases hvalue with
  | script hkind hraw => exact convert_of_script hkind h hraw
  | range hraw hsign hdigits hrange =>
    exact ⟨_, by rw [convert_int_of_digits hraw hsign hdigits, if_neg hrange]⟩
  | impossible hspelling => exact ⟨_, convert_text_of_not fun hboth => hspelling hboth.1⟩
  | unread hspelling =>
    exact ⟨_, convert_text_of_not fun hboth => by cases hspelling.symm.trans hboth.2⟩

/-- A text that is accepted and not converted is one of those without a value. -/
theorem hasNoValue_of_error {fault : ConversionFault} (h : kind.Accepts raw)
    (herror : kind.convert raw = .error fault) : kind.HasNoValue raw := by
  -- only numbers and dates may have no value
  by_cases hkind : kind.IsNumeric
  · by_cases hplain : HasPlainDigits raw.toList
    · have hnumber (hkind : kind = number ∨ kind = float) : kind.HasNoValue raw := by
        obtain ⟨value, hvalue⟩ := (convert_number_iff hkind h).2 hplain
        cases herror.symm.trans hvalue
      rcases hkind with hkind | hkind | rfl | rfl
      · exact hnumber (.inl hkind)
      · exact hnumber (.inr hkind)
      · obtain ⟨sign, negative, digits, htext, hsign, hdigits⟩ := accepts_int_iff.1 h
        have hascii : AreDigits Char.isDigit digits :=
          hdigits.plain (hplain.of_subset (by rw [htext]; exact List.subset_append_right _ _))
        refine .range htext hsign hascii fun hfits => ?_
        rw [convert_int_of_digits htext hsign hascii, if_pos hfits] at herror
        cases herror
      · obtain ⟨spelling, rfl⟩ := exists_spelling h hplain
        by_cases hpossible : spelling.IsPossible
        · cases hread : spelling.isUnread with
          | true => exact .unread hread
          | false =>
            obtain ⟨moment, hmoment, -⟩ := convert_text_of_possible hpossible hread
            cases herror.symm.trans hmoment
        · exact .impossible hpossible
    · exact .script hkind hplain
  · obtain ⟨value, hvalue⟩ := convert_of_accepts hkind h
    cases herror.symm.trans hvalue

/-- A text that is accepted has a value just in case it is none of those without. -/
theorem convert_ok_iff (h : kind.Accepts raw) :
    (∃ value, kind.convert raw = .ok value) ↔ ¬ kind.HasNoValue raw := by
  constructor
  · rintro ⟨value, hvalue⟩ hnone
    obtain ⟨fault, hfault⟩ := hnone.convert_error h
    cases hvalue.symm.trans hfault
  · intro hsome
    cases hconvert : kind.convert raw with
    | ok value => exact ⟨value, rfl⟩
    | error fault => exact absurd (hasNoValue_of_error h hconvert) hsome

end BuiltinKind

/-! ## Captures -/

open Expression (Token)

variable {kindOf : String → Option Kind} {text : Array Char} {tokens : List Token} {i j : Nat}
  {raws : List String}

/-- Each text that a placeholder takes is taken by its kind. -/
theorem Tiles.takes (h : Tiles kindOf text tokens i j raws) :
    ∀ place ∈ (tokens.filterMap (Token.kind? kindOf)).zip raws,
      ∃ i k, place.1.Takes text i k ∧ place.2 = .ofList (text.extract i k).toList := by
  induction h with
  | nil => simp
  | literal _ _ ih => exact ih
  | unknown hname _ _ ih =>
    rw [List.filterMap_cons_none (by exact hname)]
    exact ih
  | known hname htakes _ ih =>
    rw [List.filterMap_cons_some (by exact hname), List.zip_cons_cons]
    exact List.forall_mem_cons.2 ⟨⟨_, _, htakes, rfl⟩, ih⟩

/-- What a kind takes that looks at nothing around it, it accepts. -/
theorem Kind.Takes.accepts {kind : BuiltinKind} {k : Nat} (h : (Kind.builtin kind).Takes text i k)
    (hword : kind ≠ .word) : kind.Accepts (.ofList (text.extract i k).toList) := by
  obtain ⟨r, marks, hr, hpath⟩ := h
  have hplaceless := kind.placeless_fragment hword
  rw [show Regex.read? kind.fragment = some r from hr, Option.any_some] at hplaceless
  rw [BuiltinKind.accepts_iff_denotes hr hplaceless, String.toList_ofList]
  exact hpath.denotes

theorem Expression.exists_of_convertAll_eq_error {taken : List (Kind × String)}
    {fault : ConversionFault} (h : convertAll taken = .error fault) :
    ∃ place ∈ taken, place.1.convert place.2 = .error fault := by
  induction taken with
  | nil => cases h
  | cons place taken ih =>
    obtain ⟨kind, raw⟩ := place
    rw [convertAll] at h
    split at h
    · next hfirst =>
      obtain rfl := Except.error.inj h
      exact ⟨(kind, raw), List.mem_cons_self, hfirst⟩
    · split at h
      · next hrest =>
        obtain ⟨place, hmem, hplace⟩ := ih (hrest.trans h)
        exact ⟨place, List.mem_cons_of_mem _ hmem, hplace⟩
      · cases h

namespace Registry

variable {registry : Registry} {pattern : String} {e : Expression}

/-- A text that is matched has no values only because a placeholder took one without a value. -/
theorem Built.hasNoValue (hbuilt : registry.Built) (he : registry.expression? pattern = some e)
    (hread : ∀ placeholder, .custom placeholder ∈ registry.kindsIn pattern →
      (Regex.read? placeholder.fragment).isSome = true) {text : String} {miss : Miss}
    {fault : ConversionFault} (hmiss : e.captures text = .error miss)
    (hreason : miss.reason = some (.conversion fault)) :
    ∃ raws kind raw, e.regex.groups? e.groups text = some raws ∧
      (Kind.builtin kind, raw) ∈ (registry.kindsIn pattern).zip raws ∧ kind.Accepts raw ∧
        kind.convert raw = .error fault ∧ kind.HasNoValue raw := by
  rw [Expression.captures] at hmiss
  split at hmiss
  · split at hmiss
    · obtain rfl := Except.error.inj hmiss
      cases hreason
    · next raws hraws =>
      split at hmiss
      · next fault' herror =>
        obtain rfl := Except.error.inj hmiss
        obtain rfl : fault' = fault := by simpa using hreason
        obtain ⟨⟨kind, raw⟩, hmem, hfault⟩ := Expression.exists_of_convertAll_eq_error herror
        rw [kinds_of_expression? he] at hmem
        obtain ⟨i, k, htakes, hraw⟩ := (hbuilt.tiles he hread hraws).takes _ hmem
        cases kind with
        | custom placeholder => cases hfault
        | builtin kind =>
          -- a word looks at what stands around it, but it never fails
          have hword : kind ≠ .word := by
            rintro rfl
            cases hfault
          have haccepts : kind.Accepts raw := by
            rw [show raw = _ from hraw]
            exact htakes.accepts hword
          exact ⟨raws, kind, raw, hraws, hmem, haccepts, hfault,
            BuiltinKind.hasNoValue_of_error haccepts hfault⟩
      · cases hmiss
  · split at hmiss
    · cases hmiss
    · obtain rfl := Except.error.inj hmiss
      cases hreason

/-- The registry that knows the built-in kinds only finds no others. -/
theorem kindsIn_empty (pattern : String) (placeholder : Placeholder) :
    .custom placeholder ∉ empty.kindsIn pattern := by
  intro hmem
  obtain ⟨token, -, htoken⟩ := List.mem_filterMap.1 hmem
  cases token with
  | literal text => cases htoken
  | placeholder start name =>
    have hbuiltin : (Kind.builtin? name).or none = some (.custom placeholder) := htoken
    rw [Option.or_none] at hbuiltin
    obtain ⟨kind, -, hkind⟩ := Option.map_eq_some_iff.1 hbuiltin
    cases hkind

/-- A placeholder alone takes a whole text that its kind accepts. -/
theorem groups?_alone {kind : BuiltinKind} (hword : kind ≠ .word) {text : String}
    (h : kind.Accepts text) :
    ∃ e, empty.expression? s!"\x7b{kind.name}\x7d" = some e ∧ e.kinds = [.builtin kind] ∧
      e.regex.groups? e.groups text = some [text] := by
  have hnames : ∀ kind ∈ BuiltinKind.all, Expression.isName kind.name.toList = true := by decide
  have htokens := Expression.tokens_braced (hnames kind kind.mem_all)
  have hname : empty.kind? kind.name = some (.builtin kind) := by
    cases kind <;> rfl
  have hkinds : empty.kindsIn s!"\x7b{kind.name}\x7d" = [.builtin kind] := by
    rw [kindsIn, htokens, List.filterMap_cons_some (by exact hname), List.filterMap_nil]
  have hread : ∀ placeholder, .custom placeholder ∈ empty.kindsIn s!"\x7b{kind.name}\x7d" →
      (Regex.read? placeholder.fragment).isSome = true :=
    fun placeholder hmem => absurd hmem (kindsIn_empty _ placeholder)
  have hsome : (empty.expression? s!"\x7b{kind.name}\x7d").isSome = true := by
    have hparts : partsOf empty.kind? s!"\x7b{kind.name}\x7d" =
        [.capture (.builtin kind) s!"{kind.name}{0}"] := by
      rw [partsOf, htokens]
      simp [parts, hname]
    obtain ⟨hgroups, hdepth⟩ := kind.fragment_harmless
    rw [expression?, Expression.ofPattern?, Option.isSome_map,
      read?_partsSource_isSome_iff (Built.empty.readable hread), hparts]
    refine ⟨?_, List.forall_mem_singleton.2 hdepth⟩
    rw [List.flatMap_singleton, Part.groupNames, Kind.fragment, hgroups]
    exact List.nodup_singleton _
  obtain ⟨e, he⟩ := Option.isSome_iff_exists.1 hsome
  have hwhole (raw : String) : Expression.interleave empty.kind?
      (Expression.tokens s!"\x7b{kind.name}\x7d") [raw] = [] ++ (raw.toList ++ []) := by
    rw [htokens, Expression.interleave, hname, Option.isSome_some, if_pos rfl]
    rfl
  have hgroups := Built.empty.groups?_single he hkinds (kind.placeless_fragment hword) hwhole
    (List.append_nil text.toList).symm (BuiltinKind.accepts_iff_matches.1 h)
  exact ⟨e, he, by rw [kinds_of_expression? he, hkinds], hgroups⟩

/-- A placeholder alone misses a text that its kind accepts and does not convert, for that reason. -/
theorem captures_alone {kind : BuiltinKind} (hword : kind ≠ .word) {text : String}
    (h : kind.Accepts text) {fault : ConversionFault} (hfault : kind.convert text = .error fault) :
    ∃ e miss, empty.expression? s!"\x7b{kind.name}\x7d" = some e ∧
      e.captures text = .error miss ∧ miss.reason = some (.conversion fault) := by
  obtain ⟨e, he, hkinds, hgroups⟩ := groups?_alone hword h
  have hplaceholders : e.hasPlaceholders = true := by
    rw [Expression.hasPlaceholders, Bool.not_eq_true', List.isEmpty_eq_false_iff]
    intro hnil
    rw [Expression.kinds, hnil] at hkinds
    cases hkinds
  have hconvert : Expression.convertAll [(Kind.builtin kind, text)] = .error fault := by
    rw [Expression.convertAll, show (Kind.builtin kind).convert text = .error fault from hfault]
  refine ⟨e, { pattern := e.pattern, text := text, reason := some (.conversion fault) }, he, ?_, rfl⟩
  rw [Expression.captures, if_pos hplaceholders, hgroups, hkinds]
  dsimp only
  rw [List.zip_cons_cons, List.zip_nil_left, hconvert]

/-- A built-in kind converts the texts that it accepts, but for those without a value: whole numbers
    to the number that their digits stand for, if it fits. An expression that matches a text has
    values for it, unless a placeholder took a text without a value. -/
theorem captures_of_accepts (hbuilt : registry.Built) (he : registry.expression? pattern = some e)
    (hread : ∀ placeholder, .custom placeholder ∈ registry.kindsIn pattern →
      (Regex.read? placeholder.fragment).isSome = true) :
    (∀ (kind : BuiltinKind) (raw : String), kind.Accepts raw →
      ((∃ value, kind.convert raw = .ok value) ↔ ¬ kind.HasNoValue raw)) ∧
    (∀ (raw : String) (sign digits : List Char) (negative : Bool), raw.toList = sign ++ digits →
      IsSign sign negative → AreDigits Char.isDigit digits →
        BuiltinKind.int.Accepts raw ∧
          BuiltinKind.int.convert raw =
            if FitsInteger (signed negative (Nat.ofDigitChars 10 digits 0)) then
              .ok (.integer (signed negative (Nat.ofDigitChars 10 digits 0)))
            else .error (.integer raw (outOfRange negative))) ∧
    ∀ (text : String) (miss : Miss) (fault : ConversionFault), e.captures text = .error miss →
      miss.reason = some (.conversion fault) →
        ∃ raws kind raw, e.regex.groups? e.groups text = some raws ∧
          (Kind.builtin kind, raw) ∈ (registry.kindsIn pattern).zip raws ∧ kind.Accepts raw ∧
            kind.convert raw = .error fault ∧ kind.HasNoValue raw := by
  refine ⟨fun kind raw => BuiltinKind.convert_ok_iff, ?_, fun text miss fault hmiss hreason =>
    hbuilt.hasNoValue he hread hmiss hreason⟩
  intro raw sign digits negative hraw hsign hdigits
  exact ⟨BuiltinKind.accepts_int_iff.2 ⟨sign, negative, digits, hraw, hsign, hdigits.script⟩,
    BuiltinKind.convert_int_of_digits hraw hsign hdigits⟩

/-- The least whole number has a value; the one beyond the greatest is missed for having none. -/
theorem captures_of_accepts_int :
    BuiltinKind.int.convert "-9223372036854775808" = .ok (.integer (-9223372036854775808)) ∧
      ∃ e miss fault raws kind raw, empty.expression? "\x7bint\x7d" = some e ∧
        e.captures "9223372036854775808" = .error miss ∧
        miss.reason = some (.conversion fault) ∧
        (Kind.builtin kind, raw) ∈ (empty.kindsIn "\x7bint\x7d").zip raws ∧
        kind.Accepts raw ∧ kind.HasNoValue raw := by
  have hplain : AreDigits Char.isDigit "9223372036854775808".toList := by decide
  have hsplit : "9223372036854775808".toList = [] ++ "9223372036854775808".toList := rfl
  have hgreat : BuiltinKind.int.Accepts "9223372036854775808" :=
    BuiltinKind.accepts_int_iff.2 ⟨[], false, _, hsplit, .nothing, hplain.script⟩
  have hfault : BuiltinKind.int.convert "9223372036854775808" =
      .error (.integer "9223372036854775808" .tooLarge) :=
    (BuiltinKind.convert_int_of_digits hsplit .nothing hplain).trans (if_neg (by decide))
  obtain ⟨e, miss, he, hmiss, hreason⟩ := captures_alone (by decide) hgreat hfault
  obtain ⟨-, hdigits, hcaptures⟩ := captures_of_accepts Built.empty he
    fun placeholder hmem => absurd hmem (kindsIn_empty _ placeholder)
  refine ⟨?_, ?_⟩
  · have hleast := hdigits "-9223372036854775808" ['-'] "9223372036854775808".toList true rfl .minus
      hplain
    exact hleast.2.trans (if_pos (by decide))
  · obtain ⟨raws, kind, raw, -, hmem, haccepts, -, hnone⟩ :=
      hcaptures "9223372036854775808" miss _ hmiss hreason
    exact ⟨e, miss, _, raws, kind, raw, he, hmiss, hreason, hmem, haccepts, hnone⟩

/-- The Arabic digit three is accepted as a whole number and as a decimal number and has no value as
    either, so that it is missed for a reason other than its size. -/
theorem captures_arabicDigit :
    BuiltinKind.int.Accepts "٣" ∧ BuiltinKind.number.Accepts "٣" ∧
      (¬ ∃ value, BuiltinKind.number.convert "٣" = .ok value) ∧
      BuiltinKind.int.convert "٣" = .error (.integer "٣" .invalidDigit) ∧
      ∃ e miss, empty.expression? "\x7bint\x7d" = some e ∧ e.captures "٣" = .error miss ∧
        miss.reason = some (.conversion (.integer "٣" .invalidDigit)) := by
  have hdigits : AreDigits Text.isDigit "٣".toList := by decide
  have hint : BuiltinKind.int.Accepts "٣" :=
    BuiltinKind.accepts_int_iff.2 ⟨[], false, "٣".toList, rfl, .nothing, hdigits⟩
  have hnumber : BuiltinKind.number.Accepts "٣" :=
    (BuiltinKind.accepts_number_iff (.inl rfl)).2
      ⟨[], false, "٣".toList, [], by simp, .nothing, .inl hdigits, .inl rfl⟩
  have hfault : BuiltinKind.int.convert "٣" = .error (.integer "٣" .invalidDigit) := by
    decide +kernel
  refine ⟨hint, hnumber, ?_, hfault, captures_alone (by decide) hint hfault⟩
  rw [BuiltinKind.convert_number_iff (.inl rfl) hnumber]
  exact fun hplain => absurd (hplain '٣' (by decide) (by decide +kernel)) (by decide)

end Registry

end Gherkin
