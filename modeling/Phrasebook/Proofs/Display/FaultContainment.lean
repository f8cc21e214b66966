import Phrasebook.Proofs.Display.Refresh
import Phrasebook.Proofs.Template.Simulation

/-!
Faults are contained. Whatever fails on the way to a text, be it the source of templates, the text of
an argument, a table or a rule, is as good as absent: but for the reports, a rendering with faults is
the rendering with a harmless counterpart in the place of everything that fails.
-/

set_option autoImplicit false
set_option relaxedAutoImplicit false

namespace Phrasebook

variable {ε σ : Type}

/-- A source that never fails: the text in place of a missing template is one of its templates, and
where a table fails it has no row. -/
def Source.harmless (policy : Text) (source : Source σ) : Source σ where
  template := fun key => do
    return .ok ((← source.template key).toOption.getD (Template.substitute policy key))
  row := fun lookupKey => do
    return .ok (← source.row lookupKey).toOption.join

/-- The content, wherever a result is not a text. -/
def RuleResult.orContent (content : Text) : RuleResult → RuleResult
  | .text t => .text t
  | _ => .text content

/-- A rule that gives back every content on which it fails. -/
def Rule.harmless (rule : Rule σ) : Rule σ where
  name := rule.name
  apply := fun content s =>
    let outcome := rule.apply content s
    (outcome.1.orContent content, outcome.2)

/-- A request without the arguments that have no text. -/
def Request.harmless (request : Request) : Request :=
  { request with args := request.args.map (·.filter fun entry => entry.2.toText.toOption.isSome) }

def Display.Outlet.harmless (outlet : Outlet ε σ) : Outlet ε σ :=
  { outlet with
    source := outlet.source.harmless outlet.policy
    chain := outlet.chain.map Rule.harmless }

namespace Template

private theorem argumentText_harmless (request : Request) (identifier : Text) :
    argumentText request.harmless.args identifier = argumentText request.args identifier := by
  cases hargs : request.args with
  | none => simp [Request.harmless, argumentText, hargs]
  | some args =>
    simp only [Request.harmless, argumentText, hargs, Option.map_some, Option.bind_eq_bind,
      Option.bind_some, Dict.get?_filter]
    cases args.get? identifier with
    | none => rfl
    | some value =>
      cases htext : value.toText <;> simp [Option.filter, htext, Except.toOption]

private theorem fetch_harmless (source : Source σ) (policy key : Text) :
    Effect.Simulates Eq (fetch source policy key) (fetch (source.harmless policy) policy key) := by
  rintro s _ rfl
  simp only [fetch, Source.harmless, Effect.bind_apply, Effect.pure_apply]
  rcases (source.template key s).value with ⟨_ | _⟩ | template <;> exact ⟨rfl, rfl⟩

private theorem row_harmless (source : Source σ) (policy : Text) :
    RowsSimulate Eq source.row (source.harmless policy).row := by
  rintro lookupKey s _ rfl
  exact ⟨rfl, rfl⟩

private theorem rule_harmless (rule : Rule σ) : rule.Simulates Eq rule.harmless := by
  rintro content s _ rfl
  refine ⟨?_, rfl⟩
  simp only [Rule.harmless]
  cases (rule.apply content s).1 <;> simp [RuleResult.orContent, Rule.changeOf]

private theorem render_harmless (source : Source σ) (chain : Chain σ) (policy : Text) (request : Request) :
    Effect.Simulates Eq (render source chain policy request)
      (render (source.harmless policy) (chain.map Rule.harmless) policy request.harmless) := by
  refine render_simulates (fetch_harmless source policy request.key) (row_harmless source policy) ?_
    rfl rfl (argumentText_harmless request)
  rw [List.forall₂_map_right_iff, List.forall₂_same]
  exact fun rule _ => rule_harmless rule

private theorem not_mayMeet_harmless (source : Source σ) (chain : Chain σ) (policy : Text)
    (request : Request) (failure : Text) :
    ¬ MayMeet (source.harmless policy) (chain.map Rule.harmless) request.harmless.args failure := by
  intro hmeets
  cases hmeets with
  | template h => cases h
  | @argument given identifier value hgiven hvalue h =>
    obtain ⟨args, -, rfl⟩ := Option.map_eq_some_iff.mp hgiven
    rw [Dict.get?_filter] at hvalue
    obtain ⟨-, hwritable⟩ := Option.filter_eq_some_iff.mp hvalue
    rw [h] at hwritable
    cases hwritable
  | row h => cases h
  | @rule rule content s hmem h =>
    obtain ⟨rule, -, rfl⟩ := List.mem_map.mp hmem
    simp only [Rule.harmless] at h
    cases hresult : (rule.apply content s).1 <;> simp [hresult, RuleResult.orContent] at h

end Template

namespace Display

section

variable [FailureTexts]

/-- As long as the sink takes what it is given and failures have texts, refreshing a display with a
request ends well: the sink is given one text, which is kept with the request, and it is the text shown
where nothing fails. Whenever a refresh does not end well, it is for a failure of a collaborator that
raises another one when it is asked for its text; the display is then as it was before, and the sink,
whatever it would do, has no part in it. -/
theorem refresh_contains_faults (outlet : Outlet ε σ)
    (hsink : ∀ text s, ((outlet.sink text).run s).value = .ok ()) (display : Display)
    {request : Request} (hrequest : display.request = some request) (s : σ) :
    let text := (Template.render outlet.source outlet.chain outlet.policy request s).value
    let outcome := (refresh outlet).run (display, s)
    let MayMeet := Template.MayMeet outlet.source outlet.chain request.args
    ((∀ failure, MayMeet failure → ∃ text, FailureTexts.ask failure = .ok text) →
      Shows outlet display s text ∧
        outcome.value = .ok () ∧ outcome.state.1 = ⟨some request, some text⟩ ∧
        Shows outlet.harmless { display with request := some request.harmless } s text) ∧
    (outcome.value ≠ .ok () →
      ∃ failure raised, MayMeet failure ∧ FailureTexts.ask failure = .error raised ∧
        outcome.value = .error (outlet.escape raised) ∧ outcome.state.1 = display ∧
        ∀ sink, (refresh { outlet with sink }).run (display, s) = outcome) := by
  intro text outcome MayMeet
  have hfollows := Asking.render_follows outlet.source outlet.chain outlet.policy request
  refine ⟨fun hgiven => ?_, fun hfailed => ?_⟩
  · obtain ⟨reports, hrun⟩ := hfollows.run_of_given hgiven s
    have houtcome := refresh_of_text outlet hrequest (congrArg Outcome.value hrun)
    have htext : text = (Template.render outlet.harmless.source outlet.harmless.chain
        outlet.harmless.policy request.harmless s).value :=
      (Template.render_harmless outlet.source outlet.chain outlet.policy request s s rfl).1
    refine ⟨shows_of_given outlet hrequest hgiven s, ?_, ?_, ?_⟩
    · simp only [outcome, houtcome]
      exact hsink _ _
    · simp only [outcome, houtcome, hrequest]
      rfl
    · rw [htext]
      refine shows_of_given outlet.harmless rfl (fun failure hmeets => ?_) s
      exact absurd hmeets (Template.not_mayMeet_harmless outlet.source outlet.chain outlet.policy
        request failure)
  · cases hvalue : ((Asking.render outlet.source outlet.chain outlet.policy request).run s).value with
    | ok text' =>
      have houtcome := refresh_of_text outlet hrequest hvalue
      simp only [outcome, houtcome] at hfailed
      exact absurd (hsink _ _) hfailed
    | error raised =>
      obtain ⟨failure, hmeets, hask⟩ := hfollows.exists_of_error hvalue
      have houtcome := refresh_of_error outlet hrequest hvalue
      refine ⟨failure, raised, hmeets, hask, ?_, ?_, fun sink => ?_⟩
      · simp only [outcome, houtcome]
      · simp only [outcome, houtcome]
      · exact (refresh_of_error { outlet with sink } hrequest hvalue).trans houtcome.symm

end

/-- An outlet whose tables fail and whose first rule fails. -/
def faultyOutlet : Outlet Text (List Text) where
  source :=
    { template := fun _ => pure (.ok "\x7bbad\x7d @\x7brow\x7d \x7bup:x\x7d")
      row := fun _ => pure (.error "no table") }
  chain := [⟨"BrokenRule", fun _ s => (.failed "boom", s)⟩, .ofFunction "UpperRule" Text.upper]
  policy := keyPolicy
  sink := fun text => Attempt.change (text :: ·)
  escape := id

/-- A request with an argument that has no text. -/
def faultyRequest : Request where
  key := "faulty"
  args := some (.ofList [("bad", .unwritable "no text")])
  ids := some (.ofList [("row", some "key")])

theorem faultyOutlet_shows :
    Shows faultyOutlet ⟨some faultyRequest, none⟩ [] "BAD @\x7brow\x7d UP:X".toList ∧
      Shows faultyOutlet.harmless ⟨some faultyRequest.harmless, none⟩ []
        "BAD @\x7brow\x7d UP:X".toList := by
  have htext : (Template.render faultyOutlet.source faultyOutlet.chain faultyOutlet.policy
      faultyRequest []).value = "BAD @\x7brow\x7d UP:X".toList := by decide +kernel
  obtain ⟨hcontained, -⟩ := refresh_contains_faults faultyOutlet (fun _ _ => rfl)
    ⟨some faultyRequest, none⟩ rfl []
  obtain ⟨hshows, -, -, hharmless⟩ := hcontained fun failure _ => FailureTexts.usual_allGiven failure
  rw [htext] at hshows hharmless
  exact ⟨hshows, hharmless⟩

/-- A failure that raises itself again when it is asked is not contained. -/
example :
    let _ : FailureTexts := ⟨.error⟩
    ((refresh faultyOutlet).run (⟨some faultyRequest, none⟩, [])).value = .error "no text".toList := by
  decide +kernel

end Display

end Phrasebook
