import Phrasebook.Proofs.Template.Asking
import Phrasebook.Template.Placeholder

/-!
The first stage as one simultaneous replacement. The placeholders are filled one after the other, and
the value of an identifier is converted when the identifier is met first, by a conversion that may
change a state or fail. All the same, what comes out is the template with the texts of the values in
the places of their placeholders, and every identifier without a text is reported once.
-/

set_option autoImplicit false
set_option relaxedAutoImplicit false

namespace Phrasebook.Template

variable {σ : Type}

/-- The text of the argument of an identifier, if arguments are given, it is one of them, and it has
a text. -/
def argumentText (args : Option Arguments) (identifier : Text) : Option Text := do
  let value ← (← args).get? identifier
  value.toText.toOption

private theorem fill_toOption (key : Text) (args : Arguments) (identifier : Text) :
    (fill key args identifier).toOption = argumentText (some args) identifier := by
  unfold fill argumentText
  cases hget : args.get? identifier with
  | none => simp [hget, Except.toOption]
  | some value => cases htext : value.toText <;> simp [hget, htext, Except.toOption]

theorem fillPlaceholders_fst (key : Text) (args : Option Arguments) (t : Text) :
    (fillPlaceholders key args t).1 = rewrite .bare (argumentText args) t := by
  cases args with
  | none => exact (rewrite_none .bare t).symm
  | some args =>
    simp only [fillPlaceholders]
    exact rewrite_congr fun content _ => fill_toOption key args content

/-- A way to make texts of values, which may change a state. -/
abbrev Conversion (σ : Type) := Value → σ → Except Text Text × σ

def plainConversion : Conversion σ := fun value s => (value.toText, s)

def askArgument (convert : Conversion σ) (key : Text) (args : Arguments) : Query σ :=
  fun identifier s =>
    match args.get? identifier with
    | none => ⟨none, s, [.missingArgument key identifier]⟩
    | some value =>
      match convert value s with
      | (.ok t, s) => ⟨some t, s, []⟩
      | (.error error, s) => ⟨none, s, [.argumentFormatFailed key identifier error]⟩

/-- A template with its placeholders filled one after the other. -/
def fillConverting (convert : Conversion σ) (key : Text) (args : Option Arguments) (t : Text) :
    Effect σ Text :=
  match args with
  | none => do
    unless (bareTokens t).isEmpty do
      Effect.report (.missingArguments key (Text.sortedDistinct ((bareTokens t).map Token.content)))
    return t
  | some args => fillInTurn (askArgument convert key args) .bare t

abbrev Results := List (Text × Except Text Text)

/-- The values of those identifiers that have one, converted one after the other. -/
def convertAll (convert : Conversion σ) (args : Arguments) : List Text → σ → Results × σ
  | [], s => ([], s)
  | identifier :: more, s =>
    match args.get? identifier with
    | none => convertAll convert args more s
    | some value =>
      let (result, s) := convert value s
      let (results, s) := convertAll convert args more s
      ((identifier, result) :: results, s)

def textIn (results : Results) (identifier : Text) : Option Text :=
  (results.lookup identifier).bind Except.toOption

def complaintIn (key : Text) (results : Results) (identifier : Text) : Option Report :=
  match results.lookup identifier with
  | none => some (.missingArgument key identifier)
  | some (.error error) => some (.argumentFormatFailed key identifier error)
  | some (.ok _) => none

/-- A template with the placeholders that have a text replaced all at once, and a report on each
distinct identifier that has none. -/
def fillAtOnce (key t : Text) (results : Results) : Text × List Report :=
  (expandFrom t (Token.written t fun token => textIn results token.content) 0 (bareTokens t),
    (contents (bareTokens t)).filterMap (complaintIn key results))

private theorem convertAll_identifiers (convert : Conversion σ) (args : Arguments) (identifiers : List Text)
    (s : σ) : (convertAll convert args identifiers s).1.map Prod.fst =
      identifiers.filter fun identifier => args.contains identifier := by
  induction identifiers generalizing s with
  | nil => rfl
  | cons identifier more ih =>
    unfold convertAll
    cases hvalue : args.get? identifier with
    | none => simp [Dict.contains, hvalue, ih]
    | some value => simp [Dict.contains, hvalue, ih]

private theorem lookup_convertAll_of_not_mem (convert : Conversion σ) (args : Arguments)
    {identifiers : List Text} {identifier : Text} (h : identifier ∉ identifiers) (s : σ) :
    (convertAll convert args identifiers s).1.lookup identifier = none := by
  rw [List.lookup_eq_none_iff]
  intro entry hentry
  have hmem : entry.1 ∈ (convertAll convert args identifiers s).1.map Prod.fst :=
    List.mem_map_of_mem hentry
  rw [convertAll_identifiers] at hmem
  have hne : identifier ≠ entry.1 := fun heq => h (heq ▸ (List.mem_filter.mp hmem).1)
  simpa using hne

private theorem lookup_results_of_ne {identifier other : Text} (h : other ≠ identifier)
    (result : Except Text Text) (results : Results) :
    ((identifier, result) :: results).lookup other = results.lookup other := by
  simp [List.lookup_cons, beq_false_of_ne h]

private theorem askAll_askArgument (convert : Conversion σ) (key : Text) (args : Arguments)
    {identifiers : List Text} (h : identifiers.Nodup) (s : σ) :
    let converted := convertAll convert args identifiers s
    askAll (askArgument convert key args) identifiers s =
      ⟨identifiers.map fun identifier => (identifier, textIn converted.1 identifier), converted.2,
        identifiers.filterMap (complaintIn key converted.1)⟩ := by
  induction identifiers generalizing s with
  | nil => rfl
  | cons identifier more ih =>
    rw [List.nodup_cons] at h
    cases hvalue : args.get? identifier with
    | none =>
      have hhere := lookup_convertAll_of_not_mem convert args h.1 s
      simp [askAll, askArgument, convertAll, hvalue, ih h.2, textIn, complaintIn, hhere]
    | some value =>
      rcases hresult : convert value s with ⟨result, s'⟩
      have hne : ∀ other ∈ more, other ≠ identifier := fun other hmem heq => h.1 (heq ▸ hmem)
      have htexts : ∀ results : Results, more.map (fun other =>
          (other, textIn ((identifier, result) :: results) other)) =
            more.map fun other => (other, textIn results other) := by
        intro results
        refine List.map_congr_left fun other hmem => ?_
        rw [textIn, lookup_results_of_ne (hne other hmem), textIn]
      have hcomplaints : ∀ results : Results,
          more.filterMap (complaintIn key ((identifier, result) :: results)) =
            more.filterMap (complaintIn key results) := by
        intro results
        refine List.filterMap_congr fun other hmem => ?_
        rw [complaintIn, lookup_results_of_ne (hne other hmem), complaintIn]
      simp only [askAll, askArgument, convertAll, hvalue, hresult, Effect.bind_apply,
        Effect.pure_apply, ih h.2, List.map_cons, htexts, List.filterMap_cons, hcomplaints,
        List.append_nil]
      cases result <;> simp [textIn, complaintIn, Except.toOption]

theorem fillAtOnce_fst (key t : Text) (results : Results) :
    (fillAtOnce key t results).1 = rewrite .bare (textIn results) t :=
  (rewrite_eq_expandFrom .bare _ t).symm

theorem fillConverting_of_some (convert : Conversion σ) (key : Text) (args : Arguments) (t : Text)
    (s : σ) :
    let converted := convertAll convert args (contents (bareTokens t)) s
    fillConverting convert key (some args) t s =
      ⟨(fillAtOnce key t converted.1).1, converted.2, (fillAtOnce key t converted.1).2⟩ := by
  have hasked := askAll_askArgument convert key args (nodup_contents (tokensOf .bare t)) s
  simp only at hasked
  simp only [fillConverting, fillInTurn_apply, hasked, rewrite_tabled, fillAtOnce_fst]
  rfl

theorem fillConverting_of_none (convert : Conversion σ) (key t : Text) (s : σ) :
    fillConverting convert key none t s =
      ⟨t, s, if bareTokens t = [] then []
        else [.missingArguments key (Text.sortedDistinct ((bareTokens t).map Token.content))]⟩ := by
  unfold fillConverting
  by_cases h : bareTokens t = []
  · simp [h]
  · simp [h, Effect.report, Effect.tell]

private theorem convertAll_plain (args : Arguments) (identifiers : List Text) (s : σ) :
    convertAll plainConversion args identifiers s =
      (identifiers.filterMap fun identifier =>
        (args.get? identifier).map fun value => (identifier, value.toText), s) := by
  induction identifiers with
  | nil => rfl
  | cons identifier more ih =>
    unfold convertAll
    cases hvalue : args.get? identifier with
    | none => simp [hvalue, ih]
    | some value => simp [hvalue, ih, plainConversion]

private theorem lookup_convertAll_plain (args : Arguments) {identifiers : List Text}
    {identifier : Text} (h : identifier ∈ identifiers) (s : σ) :
    (convertAll plainConversion args identifiers s).1.lookup identifier =
      (args.get? identifier).map Value.toText := by
  rw [convertAll_plain]
  cases hvalue : args.get? identifier with
  | none =>
    rw [Option.map_none, List.lookup_eq_none_iff]
    intro entry hentry
    obtain ⟨other, -, hother⟩ := List.mem_filterMap.mp hentry
    obtain ⟨value, hsome, rfl⟩ := Option.map_eq_some_iff.mp hother
    have hne : identifier ≠ other := by
      rintro rfl
      rw [hvalue] at hsome
      cases hsome
    simpa using hne
  | some value =>
    induction identifiers with
    | nil => cases h
    | cons first more ih =>
      by_cases hfirst : identifier = first
      · subst hfirst
        simp [hvalue]
      · have hmem : identifier ∈ more := (List.mem_cons.mp h).resolve_left hfirst
        cases hother : args.get? first with
        | none => simpa [hother] using ih hmem
        | some other => simpa [hother, List.lookup_cons, beq_false_of_ne hfirst] using ih hmem

private theorem fillConverting_plain (key : Text) (args : Option Arguments) (t : Text) (s : σ) :
    fillConverting plainConversion key args t s =
      ⟨(fillPlaceholders key args t).1, s, (fillPlaceholders key args t).2⟩ := by
  cases args with
  | none =>
    rw [fillConverting_of_none]
    simp only [fillPlaceholders, List.isEmpty_iff]
  | some args =>
    have hlookup : ∀ identifier ∈ contents (bareTokens t),
        (convertAll plainConversion args (contents (bareTokens t)) s).1.lookup identifier =
          (args.get? identifier).map Value.toText :=
      fun identifier hmem => lookup_convertAll_plain args hmem s
    have hstate : (convertAll plainConversion args (contents (bareTokens t)) s).2 = s := by
      rw [convertAll_plain]
    rw [fillConverting_of_some, hstate, fillAtOnce_fst, fillPlaceholders_fst]
    congr 1
    · refine rewrite_congr fun identifier hmem => ?_
      rw [textIn, hlookup identifier (mem_contents.mpr hmem)]
      cases hvalue : args.get? identifier <;> simp [argumentText, hvalue]
    · refine List.filterMap_congr fun identifier hmem => ?_
      rw [complaintIn, hlookup identifier hmem, fill]
      cases args.get? identifier with
      | none => rfl
      | some value => cases hvalue : value.toText <;> simp [hvalue]

/-- The first stage replaces placeholders all at once. Without arguments it leaves the template, and
reports the contents of the placeholders, if there are any, in their order. With arguments it puts the
texts of the values in the places of the tokens, leaves everything else, and reports each identifier
without a text. However values are converted, it converts that of an identifier once, and the places
of one identifier get one text. -/
theorem placeholders_filled_at_once (key t : Text) (s : σ) :
    (∃ names : List Text, names.Pairwise (List.Lex (· < ·)) ∧
      (∀ name, name ∈ names ↔ ∃ token ∈ bareTokens t, token.content = name) ∧
      fillPlaceholders key none t =
        (t, if bareTokens t = [] then [] else [.missingArguments key names])) ∧
    expandFrom t (fun token => token.literal t) 0 (bareTokens t) = t ∧
    (contents (bareTokens t)).Nodup ∧
    ∀ args : Arguments,
      let identifiers := contents (bareTokens t)
      fillPlaceholders key (some args) t =
          fillAtOnce key t (convertAll plainConversion args identifiers s).1 ∧
        fillConverting plainConversion key (some args) t s =
          ⟨(fillPlaceholders key (some args) t).1, s, (fillPlaceholders key (some args) t).2⟩ ∧
        ∀ convert : Conversion σ,
          let converted := convertAll convert args identifiers s
          fillConverting convert key (some args) t s =
              ⟨(fillAtOnce key t converted.1).1, converted.2, (fillAtOnce key t converted.1).2⟩ ∧
            converted.1.map Prod.fst = identifiers.filter fun identifier => args.contains identifier := by
  have hplain := fun args => fillConverting_plain key args t s
  refine ⟨⟨Text.sortedDistinct ((bareTokens t).map Token.content),
    Text.sortedDistinct_pairwise _, fun name => ?_, ?_⟩, expandFrom_literal .bare t,
    nodup_contents _, fun args => ⟨?_, hplain _, fun convert => ⟨?_, ?_⟩⟩⟩
  · rw [Text.mem_sortedDistinct, List.mem_map]
  · have hnone := hplain none
    rw [fillConverting_of_none] at hnone
    injection hnone with htext _ hreports
    exact Prod.ext htext.symm hreports.symm
  · have hsome := hplain (some args)
    rw [fillConverting_of_some] at hsome
    injection hsome with htext _ hreports
    exact Prod.ext htext.symm hreports.symm
  · exact fillConverting_of_some convert key args t s
  · exact convertAll_identifiers convert args _ s

/-- A text that is filled in is not scanned again, be it a placeholder itself. -/
example : fillPlaceholders "k" (some (.ofList [("a".toList, .text "\x7bb\x7d".toList),
    ("b".toList, .unwritable "no".toList)])) "\x7ba\x7d@\x7ba\x7d\x7bb\x7d\x7ba\x7d" =
      ("\x7bb\x7d@\x7ba\x7d\x7bb\x7d\x7bb\x7d".toList, [.argumentFormatFailed "k" "b" "no"]) := by
  rfl

end Phrasebook.Template
