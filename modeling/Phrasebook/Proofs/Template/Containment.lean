import Phrasebook.Proofs.Failure
import Phrasebook.Proofs.Template.Stages
import Phrasebook.Template.Asking

/-!
What a rendering contains. Every failure of a collaborator that has a text is contained: the rendering
gives the text that it gives where failures are taken to have texts. Only a failure without one ends it.
-/

set_option autoImplicit false
set_option relaxedAutoImplicit false

namespace Phrasebook

open Attempt (Follows)

variable {σ : Type}

/-- A failure in which some collaborator of a rendering may end: the source of templates, the text of
an argument, the table, or a rule. -/
inductive Template.MayMeet (source : Source σ) (chain : Chain σ) (args : Option Template.Arguments)
    (failure : Text) : Prop
  | template {key : Text} {s : σ} (h : (source.template key s).value = .error (.failed failure))
  | argument {given : Template.Arguments} {identifier : Text} {value : Value} (hgiven : args = some given)
    (hvalue : given.get? identifier = some value) (h : value.toText = .error failure)
  | row {lookupKey : Text} {s : σ} (h : (source.row lookupKey s).value = .error failure)
  | rule {rule : Rule σ} {content : Text} {s : σ} (hmem : rule ∈ chain)
    (h : (rule.apply content s).1 = .failed failure ∨ (rule.apply content s).1 = .noTag failure)

namespace Asking

open Template

/-! ## The first stage -/

private def complaint (key : Text) (args : Arguments) (identifier : Text) : Option Report :=
  match Template.fill key args identifier with
  | .ok _ => none
  | .error report => some report

/-- What filling one placeholder comes to, where failures are taken to have texts. -/
private def filling (key : Text) (args : Arguments) (identifier : Text) : Effect σ (Option Text) :=
  fun s => ⟨(Template.fill key args identifier).toOption, s, (complaint key args identifier).toList⟩

private def fillings (key : Text) (args : Arguments) (identifiers : List Text) :
    Effect σ (List (Text × Option Text)) := fun s =>
  ⟨identifiers.map fun identifier => (identifier, (Template.fill key args identifier).toOption), s,
    identifiers.filterMap (complaint key args)⟩

private theorem fillings_cons (key : Text) (args : Arguments) (identifier : Text)
    (identifiers : List Text) :
    (fillings key args (identifier :: identifiers) : Effect σ _) = (do
      let text ← filling key args identifier
      return (identifier, text) :: (← fillings key args identifiers)) := by
  funext s
  simp only [fillings, filling, Effect.bind_apply, Effect.pure_apply, List.map_cons, List.append_nil]
  cases hcomplaint : complaint key args identifier <;> simp [hcomplaint]

private theorem fillPlaceholders_some (key : Text) (args : Arguments) (t : Text) (s : σ) :
    (⟨(Template.fillPlaceholders key (some args) t).1, s,
        (Template.fillPlaceholders key (some args) t).2⟩ : Outcome σ Text) =
      (fillings key args (contents (bareTokens t)) >>= fun filled => pure
        (splice t (bareTokens t) fun token => (filled.lookup token.content).join)) s := by
  simp only [Effect.bind_apply, Effect.pure_apply, fillings, List.append_nil]
  have hsplice := rewrite_tabled .bare (fun identifier => (Template.fill key args identifier).toOption) t
  exact congrArg (Outcome.mk · s _) hsplice.symm

variable [FailureTexts] {met : Text → Prop}

section

variable {args : Arguments} (hmet : ∀ {identifier value failure},
  args.get? identifier = some value → value.toText = .error failure → met failure)

include hmet

private theorem fill_follows (key identifier : Text) :
    Follows met (fill key args identifier : Attempt Text σ (Option Text))
      (filling key args identifier) := by
  unfold fill filling complaint Template.fill
  cases hvalue : args.get? identifier with
  | none => exact (Follows.report _).bind fun _ _ => .pure none
  | some value =>
    cases htext : value.toText with
    | ok text =>
      simp only [htext]
      exact .pure (some text)
    | error failure =>
      simp only [htext]
      exact (Follows.complain _ (hmet hvalue htext)).bind fun _ _ => .pure none

private theorem fillAll_follows (key : Text) (identifiers : List Text) :
    Follows met (fillAll key args identifiers) (fillings (σ := σ) key args identifiers) := by
  induction identifiers with
  | nil => exact .pure []
  | cons identifier identifiers ih =>
    rw [fillings_cons]
    exact (fill_follows hmet key identifier).bind fun _ _ => ih.bind fun _ _ => .pure _

end

private theorem fillPlaceholders_follows {args : Option Arguments}
    (hmet : ∀ {given identifier value failure}, args = some given →
      given.get? identifier = some value → value.toText = .error failure → met failure)
    (key t : Text) :
    Follows met (fillPlaceholders key args t : Attempt Text σ Text) fun s =>
      ⟨(Template.fillPlaceholders key args t).1, s, (Template.fillPlaceholders key args t).2⟩ := by
  cases args with
  | none =>
    unfold fillPlaceholders Template.fillPlaceholders
    cases hempty : (bareTokens t).isEmpty with
    | true =>
      simp only [hempty]
      exact .pure t
    | false =>
      simp only [hempty, Bool.false_eq_true, if_false]
      exact (Follows.report _).bind fun _ _ => .pure t
  | some args =>
    simp only [fillPlaceholders_some]
    exact (fillAll_follows (hmet rfl) key _).bind fun _ _ => .pure _

/-! ## The second stage -/

section

variable {fetch : Text → Effect σ RowAnswer}
  (hmet : ∀ {lookupKey s failure}, (fetch lookupKey s).value = .error failure → met failure)

include hmet

private theorem rowOf_follows (key identifier lookupKey : Text) (rows : FetchedRows) :
    Follows met (rowOf fetch key identifier lookupKey rows)
      (Template.rowOf fetch key identifier lookupKey rows) := by
  unfold rowOf Template.rowOf
  cases rows.lookup identifier with
  | some row => exact .pure _
  | none =>
    refine (Follows.lift _).bind fun answer ⟨s, hanswer⟩ => ?_
    cases answer with
    | ok row => exact .pure _
    | error failure => exact (Follows.complain _ (hmet hanswer)).bind fun _ _ => .pure _

private theorem resolveReference_follows (key : Text) (ids : LookupKeys) (content : Text)
    (rows : FetchedRows) :
    Follows met (resolveReference fetch key ids content rows)
      (Template.resolveReference fetch key ids content rows) := by
  unfold resolveReference Template.resolveReference
  rcases splitReference content with ⟨identifier, tag⟩
  cases hids : (ids.get? identifier).join with
  | none =>
    simp only [hids]
    exact (Follows.report _).bind fun _ _ => .pure _
  | some lookupKey =>
    simp only [hids]
    refine (rowOf_follows hmet key identifier lookupKey rows).bind fun found _ => ?_
    obtain ⟨row, rows⟩ := found
    rcases row.map (entryOf key lookupKey tag) with _ | report | text
    · exact .pure _
    · exact (Follows.report _).bind fun _ _ => .pure _
    · exact .pure _

private theorem resolveReferences_follows (key : Text) (ids : LookupKeys) (contents : List Text)
    (rows : FetchedRows) :
    Follows met (resolveReferences fetch key ids contents rows)
      (Template.resolveReferences fetch key ids contents rows) := by
  induction contents generalizing rows with
  | nil => exact .pure _
  | cons content contents ih =>
    exact (resolveReference_follows hmet key ids content rows).bind fun found _ =>
      (ih found.2).bind fun _ _ => .pure _

private theorem fillReferences_follows (key : Text) (ids : Option LookupKeys) (t : Text) :
    Follows met (fillReferences fetch key ids t) (Template.fillReferences fetch key ids t) := by
  unfold fillReferences Template.fillReferences
  cases ids with
  | none =>
    cases hempty : (references t).isEmpty with
    | true =>
      simp only [hempty]
      exact .pure t
    | false =>
      simp only [hempty, Bool.false_eq_true, if_false]
      exact (Follows.report _).bind fun _ _ => .pure t
  | some ids => exact (resolveReferences_follows hmet key ids _ []).bind fun _ _ => .pure _

end

/-! ## The third stage -/

omit [FailureTexts] in
private theorem chain_apply_cons (content : Text) (rule : Rule σ) (rules : Chain σ) :
    Chain.apply content (rule :: rules) = (do
      match ← attempt rule content with
      | .text output => if output = content then Chain.apply content rules else return some output
      | .notText type =>
        Effect.report (.ruleFailed rule.name content ("expected str, got ".toList ++ type))
        Chain.apply content rules
      | .failed failure | .noTag failure =>
        Effect.report (.ruleFailed rule.name content failure)
        Chain.apply content rules) := by
  funext s
  rcases happly : rule.apply content s with ⟨result, s'⟩
  simp only [Chain.apply, Chain.attempt, attempt, Effect.bind_apply, happly]
  cases result <;> rfl

section

variable {chain : Chain σ}
  (hmet : ∀ {rule : Rule σ} {content s failure}, rule ∈ chain →
    (rule.apply content s).1 = .failed failure ∨ (rule.apply content s).1 = .noTag failure →
      met failure)

include hmet

private theorem apply_follows (content : Text) : Follows met (apply content chain) (chain.apply content) := by
  induction chain with
  | nil => exact .pure none
  | cons rule rules ih =>
    have hrest : Follows met (apply content rules) (Chain.apply content rules) :=
      ih fun hmem => hmet (List.mem_cons_of_mem _ hmem)
    rw [chain_apply_cons]
    refine (Follows.lift (attempt rule content)).bind fun result ⟨s, hresult⟩ => ?_
    have hfails : ∀ failure, result = .failed failure ∨ result = .noTag failure → met failure :=
      fun failure h => hmet List.mem_cons_self (hresult ▸ h)
    cases result with
    | text output =>
      by_cases houtput : output = content
      · simp only [houtput, if_true]
        exact hrest
      · simp only [houtput, if_false]
        exact .pure _
    | notText type => exact (Follows.report _).bind fun _ _ => hrest
    | failed failure => exact (Follows.complain _ (hfails failure (Or.inl rfl))).bind fun _ _ => hrest
    | noTag failure => exact (Follows.complain _ (hfails failure (Or.inr rfl))).bind fun _ _ => hrest

private theorem resolve_follows (t : Text) : Follows met (resolve chain t) (chain.resolve t) := by
  have hall : ∀ contents, Follows met (applyAll chain contents) (chain.applyAll contents) := by
    intro contents
    induction contents with
    | nil => exact .pure []
    | cons content contents ih =>
      exact (apply_follows hmet content).bind fun _ _ => ih.bind fun _ _ => .pure _
  exact (hall _).bind fun _ _ => .pure _

end

/-! ## All stages -/

section

variable {source : Source σ}

private theorem fetch_follows
    (hmet : ∀ {key s failure}, (source.template key s).value = .error (.failed failure) → met failure)
    (policy key : Text) : Follows met (fetch source policy key) (Template.fetch source policy key) := by
  unfold fetch Template.fetch
  refine (Follows.lift _).bind fun answer ⟨s, hanswer⟩ => ?_
  rcases answer with ⟨locale | failure⟩ | template
  · exact (Follows.report _).bind fun _ _ => .pure _
  · exact (Follows.complain _ (hmet hanswer)).bind fun _ _ => .pure _
  · exact .pure _

theorem render_follows (source : Source σ) (chain : Chain σ) (policy : Text) (request : Request) :
    Follows (Template.MayMeet source chain request.args) (render source chain policy request)
      (Template.render source chain policy request) := by
  rw [Template.render_eq]
  refine (fetch_follows .template policy request.key).bind fun template _ => ?_
  have hargument : ∀ {given identifier value failure}, request.args = some given →
      given.get? identifier = some value → value.toText = .error failure →
        Template.MayMeet source chain request.args failure := .argument
  have hfilled : Follows (Template.MayMeet source chain request.args)
      (fillPlaceholders request.key request.args template : Attempt Text σ Text) _ :=
    fillPlaceholders_follows hargument request.key template
  exact hfilled.bind fun filled _ => (fillReferences_follows .row request.key request.ids filled).bind
    fun resolved _ => resolve_follows .rule resolved

end

end Asking

end Phrasebook
