import Phrasebook.Display
import Phrasebook.Proofs.Template.Containment

/-!
What refreshing a display does: without a request nothing, else exactly one rendering, the text of
which is kept and given to the sink exactly once. Where the rendering comes to no text, nothing is kept
or given.
-/

set_option autoImplicit false
set_option relaxedAutoImplicit false

namespace Phrasebook.Display

variable {ε σ : Type}

private theorem run_outside {α : Type} (x : Attempt ε σ α) (display : Display) (s : σ) :
    (outside x).run (display, s) =
      ⟨(x.run s).value, (display, (x.run s).state), (x.run s).reports⟩ := rfl

section

variable [FailureTexts]

/-- Refreshing a display shows a text: it is what the display's request is rendered to; the sink is
given it, once, after the rendering, in which it has no part; it is kept, and the request stays. What
comes of the refresh is what comes of the sink. -/
def Shows (outlet : Outlet ε σ) (display : Display) (s : σ) (text : Text) : Prop :=
  ∃ request, display.request = some request ∧
    let rendered := (Asking.render outlet.source outlet.chain outlet.policy request).run s
    let given := (outlet.sink text).run rendered.state
    rendered.value = .ok text ∧
      (refresh outlet).run (display, s) =
        ⟨given.value, ({ display with text := some text }, given.state),
          rendered.reports ++ given.reports⟩

variable (outlet : Outlet ε σ) {display : Display} {request : Request} {s : σ}

theorem refresh_of_none (h : display.request = none) (s : σ) :
    (refresh outlet).run (display, s) = ⟨.ok (), (display, s), []⟩ := by
  obtain ⟨request, text⟩ := display
  obtain rfl : request = none := h
  rfl

theorem refresh_of_text (h : display.request = some request) {text : Text}
    (htext : ((Asking.render outlet.source outlet.chain outlet.policy request).run s).value =
      .ok text) :
    (refresh outlet).run (display, s) =
      let rendered := (Asking.render outlet.source outlet.chain outlet.policy request).run s
      let given := (outlet.sink text).run rendered.state
      ⟨given.value, ({ display with text := some text }, given.state),
        rendered.reports ++ given.reports⟩ := by
  have hrendered : ((outside ((Asking.render outlet.source outlet.chain outlet.policy
      request).mapFault outlet.escape)).run (display, s)).value = .ok text := by
    rw [run_outside, Attempt.run_mapFault, htext]
    rfl
  unfold refresh
  rw [Attempt.run_read_bind]
  simp only [h]
  rw [Attempt.run_bind_of_ok hrendered, Attempt.run_change_bind]
  simp only [run_outside, Attempt.run_mapFault, h]

theorem refresh_of_error (h : display.request = some request) {raised : Text}
    (hraised : ((Asking.render outlet.source outlet.chain outlet.policy request).run s).value =
      .error raised) :
    (refresh outlet).run (display, s) =
      let rendered := (Asking.render outlet.source outlet.chain outlet.policy request).run s
      ⟨.error (outlet.escape raised), (display, rendered.state), rendered.reports⟩ := by
  have hrendered : ((outside ((Asking.render outlet.source outlet.chain outlet.policy
      request).mapFault outlet.escape)).run (display, s)).value = .error (outlet.escape raised) := by
    rw [run_outside, Attempt.run_mapFault, hraised]
    rfl
  unfold refresh
  rw [Attempt.run_read_bind]
  simp only [h]
  rw [Attempt.run_bind_of_error hrendered, run_outside, Attempt.run_mapFault]

private theorem shows_of_text (h : display.request = some request) {text : Text}
    (htext : ((Asking.render outlet.source outlet.chain outlet.policy request).run s).value =
      .ok text) : Shows outlet display s text :=
  ⟨request, h, htext, refresh_of_text outlet h htext⟩

/-- The text is that of the rendering in which failures are taken to have texts, unless one that the
rendering may meet has none. -/
theorem shows_of_given (h : display.request = some request)
    (hgiven : ∀ failure, Template.MayMeet outlet.source outlet.chain request.args failure →
      ∃ text, FailureTexts.ask failure = .ok text) (s : σ) :
    Shows outlet display s
      (Template.render outlet.source outlet.chain outlet.policy request s).value := by
  obtain ⟨reports, hrun⟩ := (Asking.render_follows outlet.source outlet.chain outlet.policy
    request).run_of_given hgiven s
  exact shows_of_text outlet h (by rw [hrun])

end

/-! ## The usual failures -/

variable (outlet : Outlet ε σ) {display : Display} {request : Request}

theorem render_usual (source : Source σ) (chain : Chain σ) (policy : Text) (request : Request) :
    Asking.render source chain policy request =
      ExceptT.lift (Template.render source chain policy request) :=
  (Asking.render_follows source chain policy request).eq_lift

theorem refresh_of_some (h : display.request = some request) (s : σ) :
    (refresh outlet).run (display, s) =
      let rendered := Template.render outlet.source outlet.chain outlet.policy request s
      let given := (outlet.sink rendered.value).run rendered.state
      ⟨given.value, ({ display with text := some rendered.value }, given.state),
        rendered.reports ++ given.reports⟩ := by
  have hrun : (Asking.render outlet.source outlet.chain outlet.policy request).run s =
      ⟨.ok (Template.render outlet.source outlet.chain outlet.policy request s).value,
        (Template.render outlet.source outlet.chain outlet.policy request s).state,
        (Template.render outlet.source outlet.chain outlet.policy request s).reports⟩ := by
    rw [render_usual, Attempt.run_lift]
  rw [refresh_of_text outlet h (congrArg Outcome.value hrun), hrun]

theorem shows_rendered (h : display.request = some request) (s : σ) :
    Shows outlet display s
      (Template.render outlet.source outlet.chain outlet.policy request s).value :=
  shows_of_given outlet h (fun failure _ => FailureTexts.usual_allGiven failure) s

theorem shows_iff (outlet : Outlet ε σ) (display : Display) (s : σ) (text : Text) :
    Shows outlet display s text ↔ ∃ request, display.request = some request ∧
      (Template.render outlet.source outlet.chain outlet.policy request s).value = text := by
  constructor
  · rintro ⟨request, hrequest, hvalue, -⟩
    rw [render_usual, Attempt.run_lift] at hvalue
    exact ⟨request, hrequest, Except.ok.inj hvalue⟩
  · rintro ⟨request, hrequest, rfl⟩
    exact shows_rendered outlet hrequest s

end Phrasebook.Display
