import Phrasebook.Proofs.Template.Placeholders
import Phrasebook.Proofs.Template.References
import Phrasebook.Template.Render

/-!
The three stages as rewritings. Whatever is memorised on the way, a stage puts in the place of every
token of its kind the text that its sources have for the content. Where tables and rules answer by
the question alone, that text does not depend on the template or on what was asked before.
-/

set_option autoImplicit false
set_option relaxedAutoImplicit false

namespace Phrasebook

variable {σ : Type}

/-- A rule whose result depends on the content alone, whatever it does to the state. -/
def Rule.GivenBy (rule : Rule σ) (f : Text → RuleResult) : Prop :=
  ∀ content s, (rule.apply content s).1 = f content

namespace Rule

/-- The text that a result puts in the place of a content, if the rule applies to it. -/
def changeOf (content : Text) : RuleResult → Option Text
  | .text t => if t = content then none else some t
  | _ => none

/-- What the first of several rules makes of a content that changes it. -/
def firstChange (rules : List (Text → RuleResult)) (content : Text) : Option Text :=
  rules.findSome? fun f => changeOf content (f content)

end Rule

/-! ## The third stage -/

namespace Chain

open Template

theorem resolve_value (chain : Chain σ) (t : Text) (s : σ) :
    (chain.resolve t s).value =
      rewrite .bare (tabled (chain.applyAll (contents (bareTokens t)) s).value) t := rfl

private theorem attempt_value {rule : Rule σ} {f : Text → RuleResult} (h : rule.GivenBy f)
    (content : Text) (s : σ) :
    (attempt rule content s).value.toOption.bind (fun t => if t = content then none else some t) =
      Rule.changeOf content (f content) := by
  have hresult := h content s
  unfold attempt
  rcases happly : rule.apply content s with ⟨result, s'⟩
  rw [happly] at hresult
  rw [← hresult]
  cases result <;> rfl

theorem apply_value {chain : Chain σ} {rules : List (Text → RuleResult)}
    (h : List.Forall₂ Rule.GivenBy chain rules) (content : Text) (s : σ) :
    (chain.apply content s).value = Rule.firstChange rules content := by
  induction h generalizing s with
  | nil => rfl
  | @cons rule f chain rules hrule _ ih =>
    have hvalue := attempt_value hrule content s
    simp only [apply, Effect.bind_apply, Rule.firstChange, List.findSome?_cons]
    cases hattempt : (attempt rule content s).value with
    | error error =>
      rw [hattempt] at hvalue
      rw [← hvalue]
      exact ih _
    | ok output =>
      rw [hattempt] at hvalue
      rw [← hvalue]
      by_cases hout : output = content
      · simp only [hout, if_true, Except.toOption, Option.bind_some]
        exact ih _
      · simp only [hout, if_false, Except.toOption, Option.bind_some]
        rfl

private theorem applyAll_value {chain : Chain σ} {rules : List (Text → RuleResult)}
    (h : List.Forall₂ Rule.GivenBy chain rules) (contents : List Text) (s : σ) :
    (chain.applyAll contents s).value =
      contents.map fun content => (content, Rule.firstChange rules content) := by
  induction contents generalizing s with
  | nil => rfl
  | cons content contents ih =>
    simp only [applyAll, Effect.bind_apply, apply_value h, List.map_cons]
    rw [ih]
    rfl

theorem resolve_value_of_givenBy {chain : Chain σ} {rules : List (Text → RuleResult)}
    (h : List.Forall₂ Rule.GivenBy chain rules) (t : Text) (s : σ) :
    (chain.resolve t s).value = rewrite .bare (Rule.firstChange rules) t := by
  rw [resolve_value, applyAll_value h]
  exact rewrite_tabled .bare _ t

end Chain

/-! ## All stages -/

namespace Template

theorem render_eq (source : Source σ) (chain : Chain σ) (policy : Text) (request : Request) :
    render source chain policy request = (do
      let template ← fetch source policy request.key
      Effect.tell (fillPlaceholders request.key request.args template).2
      let resolved ← fillReferences source.row request.key request.ids
        (fillPlaceholders request.key request.args template).1
      chain.resolve resolved) :=
  rfl

/-- With tables and rules that go by what they are asked alone, the three stages are three
rewritings of the template. -/
theorem render_value_of_answers {source : Source σ} {chain : Chain σ} {request : Request} {s : σ}
    {template : Text} {answer : Text → RowAnswer} {rules : List (Text → RuleResult)}
    (htemplate : (source.template request.key s).value = .ok template)
    (hrows : AnsweredBy source.row answer) (hrules : List.Forall₂ Rule.GivenBy chain rules)
    (policy : Text) :
    (render source chain policy request s).value =
      rewrite .bare (Rule.firstChange rules) (rewrite .reference (tableText answer request.ids)
        (rewrite .bare (argumentText request.args) template)) := by
  have hfetch : (fetch source policy request.key s).value = template := by
    simp only [fetch, Effect.bind_apply, htemplate]
    rfl
  simp only [render, Effect.bind_apply, hfetch]
  rw [Chain.resolve_value_of_givenBy hrules, fillReferences_value_of_answeredBy hrows,
    fillPlaceholders_fst]

end Template

end Phrasebook
