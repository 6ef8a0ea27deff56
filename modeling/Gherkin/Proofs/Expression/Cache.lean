/-
  Gherkin.Proofs.Expression.Cache

  Registries keep the expressions that they have made, and none of their
  answers shows it. After any requests to registries and to copies of them, each
  reply is the one that somebody gives who knows the same placeholders and makes
  every expression afresh.
-/
import Gherkin.Document.Step
import Gherkin.Expression.Registry
import Gherkin.Proofs.Expression.Token

namespace Gherkin

namespace Registry

/-! ## Registration -/

/-- What a registry says to a placeholder besides those it knows: a fault, or nothing. -/
def refusal? (custom : List Placeholder) (placeholder : Placeholder) : Option ExpressionFault :=
  let name := placeholder.name
  if (BuiltinKind.ofName? name).isSome then some (.reservedName name)
  else if (custom.find? (·.name = name)).isSome then some (.duplicateName name)
  else if !isPlaceholderName name then some (.invalidName name)
  else if (Regex.read? s!"^(?:{placeholder.fragment})$").isNone then some (.invalidFragment name)
  else none

/-- A registration is refused, or adds the placeholder to those that are known. -/
theorem register_cases (registry : Registry) (placeholder : Placeholder) :
    (∃ fault, refusal? registry.custom placeholder = some fault ∧
        (registry.register placeholder).value = .error fault) ∨
      refusal? registry.custom placeholder = none ∧
        ∃ after, (registry.register placeholder).value = .ok after ∧
          after.custom = registry.custom ++ [placeholder] := by
  unfold register refusal? Registry.placeholder?
  simp only
  split
  · exact .inl ⟨_, rfl, rfl⟩
  split
  · exact .inl ⟨_, rfl, rfl⟩
  split
  · exact .inl ⟨_, rfl, rfl⟩
  split
  · exact .inl ⟨_, rfl, rfl⟩
  · exact .inr ⟨rfl, _, rfl, rfl⟩

/-- A placeholder is registered if it has a name of its own and a fragment that can be read between
    anchors. -/
theorem refusal?_eq_none_iff {custom : List Placeholder} {placeholder : Placeholder} :
    refusal? custom placeholder = none ↔
      Kind.builtin? placeholder.name = none ∧ custom.find? (·.name = placeholder.name) = none ∧
        isPlaceholderName placeholder.name = true ∧
        (Regex.read? s!"^(?:{placeholder.fragment})$").isSome = true := by
  have hbuiltin : Kind.builtin? placeholder.name = none ↔
      (BuiltinKind.ofName? placeholder.name).isSome = false := by
    simp [Kind.builtin?]
  rw [hbuiltin, refusal?]
  generalize Regex.read? _ = read
  cases (BuiltinKind.ofName? placeholder.name).isSome with
  | true => simp
  | false =>
    cases custom.find? (·.name = placeholder.name) with
    | some other => simp
    | none => cases isPlaceholderName placeholder.name <;> cases read <;> simp

/-- After a placeholder is registered its name stands for it. -/
theorem kindAmong?_append {custom : List Placeholder} {placeholder : Placeholder}
    (h : refusal? custom placeholder = none) :
    kindAmong? (custom ++ [placeholder]) placeholder.name = some (.custom placeholder) := by
  obtain ⟨hbuiltin, hfind, -⟩ := refusal?_eq_none_iff.1 h
  rw [kindAmong?, hbuiltin, List.find?_append, hfind]
  simp

/-- The pattern that is the name in braces then has one placeholder of that kind. -/
theorem partsOf_braced {custom : List Placeholder} {placeholder : Placeholder}
    (h : refusal? custom placeholder = none) :
    partsOf (kindAmong? (custom ++ [placeholder])) s!"\x7b{placeholder.name}\x7d" =
      [.capture (.custom placeholder) s!"{placeholder.name}{0}"] := by
  obtain ⟨-, -, hname, -⟩ := refusal?_eq_none_iff.1 h
  have hlexed : Expression.isName placeholder.name.toList = true := by
    rw [isPlaceholderName, Bool.and_eq_true] at hname
    exact hname.1
  rw [partsOf, Expression.tokens_braced hlexed]
  simp [parts, kindAmong?_append h]

/-! ## Requests -/

/-- What a registry can be asked. A step is matched by its details. -/
inductive Request where
  | register (placeholder : Placeholder)
  | compile (pattern : String)
  | matchText (pattern text : String)
  | matchStep (pattern : String) (step : Step)
  | tryStep (pattern : String) (step : Step)
  | contains (pattern : String)
  | copy

/-- What comes back. -/
inductive Reply where
  | registered (result : Except ExpressionFault Unit)
  | compiled (made : Option Expression)
  | matched (result : Except ExpressionFault (List Value))
  | tried (result : Except Miss (List Value))
  | contained (answer : Bool)
  | copied

/-- The reply of a registry, and the registry after it. -/
def serve (registry : Registry) : Request → Reply × Registry
  | .register placeholder =>
    match (registry.register placeholder).value with
    | .ok after => (.registered (.ok ()), after)
    | .error fault => (.registered (.error fault), registry)
  | .compile pattern =>
    let served := (compile pattern registry).value
    (.compiled served.1, served.2)
  | .matchText pattern text =>
    let served := (matchText pattern text registry).value
    (.matched served.1, served.2)
  | .matchStep pattern step =>
    let served := (matchText pattern step.details registry).value
    (.matched served.1, served.2)
  | .tryStep pattern step =>
    let served := (tryText pattern step.details registry).value
    (.tried served.1, served.2)
  | .contains pattern => (.contained (registry.containsPlaceholder pattern), registry)
  | .copy => (.copied, registry)

/-- The registries that a request adds to those there are. -/
def added (registry : Registry) : Request → List Registry
  | .copy => [registry.copy]
  | _ => []

/-- One request to one of several registries, by its place among them: the reply, if there is a
    registry, and the registries after it. -/
def call (registries : List Registry) (place : Nat) (request : Request) :
    Option Reply × List Registry :=
  match registries[place]? with
  | none => (none, registries)
  | some registry =>
    let served := registry.serve request
    (some served.1, registries.set place served.2 ++ served.2.added request)

/-- Requests one after the other: the replies, and the registries after them. -/
def calls (registries : List Registry) : List (Nat × Request) → List (Option Reply) × List Registry
  | [] => ([], registries)
  | (place, request) :: rest =>
    let called := call registries place request
    let later := calls called.2 rest
    (called.1 :: later.1, later.2)

/-! ## Replies made afresh -/

/-- The reply of somebody who knows some placeholders and keeps nothing. -/
def freshReply (custom : List Placeholder) : Request → Reply
  | .register placeholder =>
    .registered (match refusal? custom placeholder with
      | some fault => .error fault
      | none => .ok ())
  | .compile pattern => .compiled (Expression.ofPattern? (kindAmong? custom) pattern)
  | .matchText pattern text => .matched (freshMatch custom pattern text)
  | .matchStep pattern step => .matched (freshMatch custom pattern step.details)
  | .tryStep pattern step => .tried (freshTry custom pattern step.details)
  | .contains pattern =>
    .contained ((partsOf (kindAmong? custom) pattern).any (·.capture?.isSome))
  | .copy => .copied
where
  /-- Matches a text by an expression made for it. -/
  freshMatch (custom : List Placeholder) (pattern text : String) :
      Except ExpressionFault (List Value) :=
    match Expression.ofPattern? (kindAmong? custom) pattern with
    | none => .error .unreadable
    | some e => (e.captures text).mapError .mismatch
  /-- Matches a text likewise; an expression that cannot be made is a miss. -/
  freshTry (custom : List Placeholder) (pattern text : String) : Except Miss (List Value) :=
    match Expression.ofPattern? (kindAmong? custom) pattern with
    | none => .error { pattern, text, reason := some .unreadable }
    | some e => e.captures text

/-- The placeholders known after a request. -/
def known (custom : List Placeholder) : Request → List Placeholder
  | .register placeholder =>
    if (refusal? custom placeholder).isNone then custom ++ [placeholder] else custom
  | _ => custom

/-- One request to one of several who keep nothing. -/
def freshCall (customs : List (List Placeholder)) (place : Nat) (request : Request) :
    Option Reply × List (List Placeholder) :=
  match customs[place]? with
  | none => (none, customs)
  | some custom =>
    let after := known custom request
    (some (freshReply custom request),
      customs.set place after ++ match request with
        | .copy => [after]
        | _ => [])

/-- Requests one after the other to those who keep nothing. -/
def freshCalls (customs : List (List Placeholder)) :
    List (Nat × Request) → List (Option Reply) × List (List Placeholder)
  | [] => ([], customs)
  | (place, request) :: rest =>
    let called := freshCall customs place request
    let later := freshCalls called.2 rest
    (called.1 :: later.1, later.2)

/-! ## One request -/

section Served

variable (registry : Registry)

theorem matchText_value (pattern text : String) :
    (matchText pattern text registry).value =
      (freshReply.freshMatch registry.custom pattern text,
        (compile pattern registry).value.2) := by
  have hmade : (compile pattern registry).value.1 =
      Expression.ofPattern? (kindAmong? registry.custom) pattern :=
    compile_value_fst registry pattern
  unfold matchText freshReply.freshMatch
  simp only [bind, StateT.bind]
  rw [← hmade]
  cases (compile pattern registry).value.1 with
  | none => rfl
  | some e => cases hcaptures : e.captures text <;> simp only [hcaptures] <;> rfl

theorem tryText_value (pattern text : String) :
    (tryText pattern text registry).value =
      (freshReply.freshTry registry.custom pattern text, (compile pattern registry).value.2) := by
  have hmade : (compile pattern registry).value.1 =
      Expression.ofPattern? (kindAmong? registry.custom) pattern :=
    compile_value_fst registry pattern
  unfold tryText freshReply.freshTry
  simp only [bind, StateT.bind]
  rw [← hmade]
  cases (compile pattern registry).value.1 <;> rfl

theorem containsPlaceholder_eq (pattern : String) :
    registry.containsPlaceholder pattern =
      (partsOf (kindAmong? registry.custom) pattern).any (·.capture?.isSome) := by
  unfold containsPlaceholder partsOf
  generalize ([] : List String) = seen
  induction Expression.tokens pattern generalizing seen with
  | nil => rfl
  | cons token tokens ih =>
    cases token with
    | literal text => simpa [parts, Part.capture?] using ih seen
    | placeholder start name =>
      cases hkind : kindAmong? registry.custom name with
      | none => simpa [parts, Part.capture?, hkind, kind?] using ih seen
      | some kind => simp [parts, Part.capture?, hkind, kind?]

/-- A registry replies as if it kept nothing. -/
theorem serve_reply (request : Request) :
    (registry.serve request).1 = freshReply registry.custom request := by
  cases request with
  | register placeholder =>
    rcases register_cases registry placeholder with
      ⟨fault, hrefusal, hvalue⟩ | ⟨hrefusal, after, hvalue, -⟩
    · simp only [serve, hvalue, freshReply, hrefusal]
    · simp only [serve, hvalue, freshReply, hrefusal]
  | compile pattern => exact congrArg Reply.compiled (compile_value_fst registry pattern)
  | matchText pattern text => simp only [serve, matchText_value, freshReply]
  | matchStep pattern step => simp only [serve, matchText_value, freshReply]
  | tryStep pattern step => simp only [serve, tryText_value, freshReply]
  | contains pattern => simp only [serve, containsPlaceholder_eq, freshReply]
  | copy => rfl

/-- A request changes what is known by a registration only. -/
theorem serve_custom (request : Request) :
    (registry.serve request).2.custom = known registry.custom request := by
  cases request with
  | register placeholder =>
    rcases register_cases registry placeholder with
      ⟨fault, hrefusal, hvalue⟩ | ⟨hrefusal, after, hvalue, hcustom⟩
    · simp only [serve, hvalue, known, hrefusal, Option.isNone_some, Bool.false_eq_true, if_false]
    · simp only [serve, hvalue, known, hrefusal, Option.isNone_none, if_true, hcustom]
  | compile pattern => exact compile_value_snd_custom registry pattern
  | matchText pattern text =>
    simp only [serve, matchText_value, known]
    exact compile_value_snd_custom registry pattern
  | matchStep pattern step =>
    simp only [serve, matchText_value, known]
    exact compile_value_snd_custom registry pattern
  | tryStep pattern step =>
    simp only [serve, tryText_value, known]
    exact compile_value_snd_custom registry pattern
  | contains pattern => rfl
  | copy => rfl

end Served

/-! ## All requests -/

theorem call_eq (registries : List Registry) (place : Nat) (request : Request) :
    (call registries place request).1 =
        (freshCall (registries.map (·.custom)) place request).1 ∧
      (call registries place request).2.map (·.custom) =
        (freshCall (registries.map (·.custom)) place request).2 := by
  unfold call freshCall
  rw [List.getElem?_map]
  cases registries[place]? with
  | none => exact ⟨rfl, rfl⟩
  | some registry =>
    refine ⟨congrArg some (serve_reply registry request), ?_⟩
    simp only [Option.map_some, List.map_append, List.map_set, serve_custom]
    congr 1
    cases request with
    | copy => rfl
    | _ => rfl

/-- Requests are served as if nothing were kept. -/
theorem calls_eq (registries : List Registry) (requests : List (Nat × Request)) :
    (calls registries requests).1 = (freshCalls (registries.map (·.custom)) requests).1 ∧
      (calls registries requests).2.map (·.custom) =
        (freshCalls (registries.map (·.custom)) requests).2 := by
  induction requests generalizing registries with
  | nil => exact ⟨rfl, rfl⟩
  | cons first rest ih =>
    obtain ⟨place, request⟩ := first
    obtain ⟨hreply, hcustom⟩ := call_eq registries place request
    obtain ⟨hreplies, hcustoms⟩ := ih (call registries place request).2
    rw [hcustom] at hreplies hcustoms
    exact ⟨by rw [calls, freshCalls, hreply, hreplies], by rw [calls, freshCalls, hcustoms]⟩

/-- A placeholder that is refused changes no registry. -/
theorem call_refused {registries : List Registry} {place : Nat} {placeholder : Placeholder}
    {fault : ExpressionFault}
    (h : (call registries place (.register placeholder)).1 = some (.registered (.error fault))) :
    (call registries place (.register placeholder)).2 = registries := by
  unfold call at h ⊢
  cases hplace : registries[place]? with
  | none => rfl
  | some registry =>
    rcases register_cases registry placeholder with ⟨fault, -, hvalue⟩ | ⟨-, after, hvalue, -⟩
    · obtain ⟨hlt, hget⟩ := List.getElem?_eq_some_iff.1 hplace
      subst hget
      simp [serve, hvalue, added]
    · simp [hplace, serve, hvalue] at h

/-! ## What is kept is not seen -/

/-- What holds of a registry whatever it keeps. -/
structure Transparent (registry : Registry) : Prop where
  /-- Every expression is the one made from scratch for the placeholders registered. -/
  compiled : ∀ pattern, (compile pattern registry).value.1 =
    Expression.ofPattern? (kindAmong? registry.custom) pattern
  /-- A pattern contains placeholders if its expression has some. -/
  contained : ∀ pattern e, (compile pattern registry).value.1 = some e →
    registry.containsPlaceholder pattern = e.hasPlaceholders
  /-- Texts and steps match as they match the expression made from scratch. -/
  matched : ∀ pattern e, Expression.ofPattern? (kindAmong? registry.custom) pattern = some e →
    ∀ text, (matchText pattern text registry).value.1.toOption = (e.captures text).toOption ∧
      (tryText pattern text registry).value.1.toOption = (e.captures text).toOption
  /-- A placeholder that is registered is what its name in braces then stands for. -/
  registered : ∀ placeholder after, (registry.register placeholder).value = .ok after →
    after.custom = registry.custom ++ [placeholder] ∧
      ∀ e, (compile s!"\x7b{placeholder.name}\x7d" after).value.1 = some e →
        e.kinds = [.custom placeholder]

theorem transparent (registry : Registry) : registry.Transparent where
  compiled := compile_value_fst registry
  contained := by
    intro pattern e he
    rw [compile_value_fst] at he
    have hparts : e.parts = partsOf (kindAmong? registry.custom) pattern :=
      (Expression.pattern_of_ofPattern? he).2
    rw [containsPlaceholder_eq, ← hparts, Expression.hasPlaceholders, Expression.placeholders,
      Bool.eq_iff_iff]
    simp [List.filterMap_eq_nil_iff, Option.isSome_iff_ne_none]
  matched := by
    intro pattern e he text
    rw [matchText_value, tryText_value, freshReply.freshMatch, freshReply.freshTry, he]
    refine ⟨?_, rfl⟩
    show ((e.captures text).mapError _).toOption = _
    cases e.captures text <;> rfl
  registered := by
    intro placeholder after hafter
    rcases register_cases registry placeholder with
      ⟨fault, -, hvalue⟩ | ⟨hrefusal, made, hvalue, hcustom⟩
    · rw [hvalue] at hafter
      cases hafter
    · rw [hvalue] at hafter
      obtain rfl := Except.ok.inj hafter
      refine ⟨hcustom, ?_⟩
      intro e he
      rw [compile_value_fst, Registry.expression?, Registry.kind?, hcustom] at he
      rw [Expression.kinds, Expression.placeholders, (Expression.pattern_of_ofPattern? he).2]
      show ((partsOf (kindAmong? (registry.custom ++ [placeholder])) _).filterMap _).map _ = _
      rw [partsOf_braced hrefusal]
      rfl

/-- After any requests to a registry and to copies of it, refused registrations included, all
    replies are those made afresh, a refused registration changes no later reply and no
    placeholders, and no registry shows what it keeps. -/
theorem cache_unseen (requests : List (Nat × Request)) :
    (calls [empty] requests).1 = (freshCalls [[]] requests).1 ∧
      (calls [empty] requests).2.map (·.custom) = (freshCalls [[]] requests).2 ∧
      (∀ place placeholder fault later,
        (call (calls [empty] requests).2 place (.register placeholder)).1 =
            some (.registered (.error fault)) →
          calls (calls [empty] requests).2 ((place, .register placeholder) :: later) =
            (some (.registered (.error fault)) :: (calls (calls [empty] requests).2 later).1,
              (calls (calls [empty] requests).2 later).2)) ∧
      ∀ registry ∈ (calls [empty] requests).2, registry.Transparent := by
  obtain ⟨hreplies, hcustoms⟩ := calls_eq [empty] requests
  refine ⟨hreplies, hcustoms, ?_, ?_⟩
  · intro place placeholder fault later hrefused
    rw [calls, hrefused, call_refused hrefused]
  · intro registry _
    exact registry.transparent

end Registry

end Gherkin
