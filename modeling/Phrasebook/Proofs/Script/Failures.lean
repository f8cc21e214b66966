import Phrasebook.Proofs.Script.Acts

/-!
What failures say makes no difference to a script, as long as they have something to say: a script takes
the same course, and its steps have the same answers, whatever the texts are that its failures have.
Only the reports of the failures differ.
-/

set_option autoImplicit false
set_option relaxedAutoImplicit false

namespace Phrasebook

variable [FailureTexts] (hgiven : FailureTexts.AllGiven)

include hgiven

/-! ## Showing and delivering -/

private theorem Asking.render_agrees {σ : Type} (source : Source σ) (chain : Chain σ) (policy : Text)
    (request : Request) :
    (render source chain policy request).Agrees (@render σ .usual source chain policy request) := by
  rw [Display.render_usual]
  exact (render_follows source chain policy request).agrees hgiven

private theorem Display.refresh_agrees {ε σ : Type} (outlet : Outlet ε σ) :
    (refresh outlet).Agrees (@refresh ε σ .usual outlet) := by
  refine .bind_right _ fun st => ?_
  cases st.1.request with
  | none => exact .refl _
  | some request =>
    exact .bind (.within _ _ (.mapFault _ (Asking.render_agrees hgiven _ _ _ _))) fun _ => .refl _

private theorem Asking.publish_agrees {σ κ : Type} {channel channel' : Channel σ κ}
    (hregistry : channel'.registry = channel.registry) (hname : channel'.name = channel.name)
    (hcall : ∀ subscriber event,
      (channel.call subscriber event).Agrees (channel'.call subscriber event)) (event : Event) :
    (publish channel event).Agrees (@publish σ κ .usual channel' event) := by
  have hserve : ∀ subscriber,
      (serve channel event subscriber).Agrees (@serve σ κ .usual channel' event subscriber) := by
    intro subscriber
    refine .bind (.lift (hcall subscriber event)) fun result => ?_
    cases result with
    | ok => exact .refl _
    | error failure =>
      rw [hname]
      exact Attempt.complain_agrees hgiven _ failure
  have hdeliver : ∀ pending : List (Subscription κ),
      (deliver channel event pending).Agrees (@deliver σ κ .usual channel' event pending) := by
    intro pending
    induction pending with
    | nil => exact .refl _
    | cons subscription more ih =>
      refine .bind_right _ fun st => ?_
      rw [hregistry]
      split
      · exact .bind (hserve _) fun _ => .bind ih fun _ => .refl _
      · exact ih
  refine .bind_right _ fun st => .bind_right _ fun _ => ?_
  rw [hregistry]
  exact hdeliver _

namespace Script

namespace Act

private theorem refresh_agrees (id : Nat) : (refresh id).Agrees (@refresh .usual id) :=
  .bind_right _ fun _ => .bind_right _ fun _ => .within _ _ (Display.refresh_agrees hgiven _)

private theorem setString_agrees (id : Nat) (request : Request) :
    (setString id request).Agrees (@setString .usual id request) :=
  .bind_right _ fun _ => .bind_right _ fun _ => refresh_agrees hgiven id

private theorem renderOnce_agrees (request : Request) :
    (renderOnce request).Agrees (@renderOnce .usual request) := by
  intro w
  have hshown : (Display.setString (besideWorld w.policy) request).Agrees
      (@Display.setString _ _ .usual (besideWorld w.policy) request) :=
    .bind_right _ fun _ => Display.refresh_agrees hgiven _
  obtain ⟨hvalue, hstate⟩ := hshown ({}, {}, w)
  constructor
  · change Except.map _ _ = Except.map _ _
    rw [hvalue, hstate]
  · exact congrArg (·.2.2) hstate

variable {run run' : Runner} (hrun : ∀ steps, (run steps).Agrees (run' steps))

include hrun

omit hgiven [FailureTexts] in
private theorem call_agrees (id : Nat) (callback : Callback Step) (event : Option Event) :
    (call run id callback event).Agrees (call run' id callback event) :=
  .bind_right _ fun _ => .bind_right _ fun _ => .bind_right _ fun _ => hrun _

private theorem invoke_agrees (event : Event) (subscriber : Subscriber) :
    (invoke run event subscriber).Agrees (@invoke .usual run' event subscriber) := by
  cases subscriber with
  | callback id callback => exact call_agrees hrun id callback _
  | follower id =>
    refine .bind_right _ fun _ => .bind_right _ fun w => ?_
    rcases w.followers.get? id with _ | ⟨_, _, r | ⟨c, callback⟩⟩
    · exact .refl _
    · exact refresh_agrees hgiven r
    · exact call_agrees hrun c callback none

private theorem publish_agrees (notifier : Nat) (event : Event) :
    (publish run notifier event).Agrees (@publish .usual run' notifier event) := by
  have hregistry : (@channel .usual run' notifier).registry = (channel run notifier).registry := rfl
  have hcall : ∀ subscriber event, ((channel run notifier).call subscriber event).Agrees
      ((@channel .usual run' notifier).call subscriber event) :=
    fun subscriber event => .bind (invoke_agrees hgiven hrun event subscriber) fun _ => .refl _
  exact .mapFault _ (Asking.publish_agrees hgiven hregistry rfl hcall event)

private theorem setLocale_agrees [Globbing] (given : Value) :
    (setLocale run given).Agrees (@setLocale .usual _ run' given) := by
  refine .bind_right _ fun locale => .bind_right _ fun m => ?_
  split
  · exact .refl _
  · exact .bind_right _ fun _ => .bind (publish_agrees hgiven hrun _ _) fun _ => .refl _

end Act

open Act

variable {run run' : Runner} (hrun : ∀ steps, (run steps).Agrees (run' steps))

include hrun

omit hgiven [FailureTexts] in
private theorem takeInside_agrees {α : Type} (actions : List Step) (atEnd : Act α) (close : Act Unit) :
    (takeInside run actions atEnd close).Agrees (takeInside run' actions atEnd close) :=
  .bind (.outcome (.bind (hrun actions) fun _ => .refl _)) fun _ => .refl _

private theorem takeOnNotifier_agrees (step : NotifierStep Step) :
    (takeOnNotifier run step).Agrees (@takeOnNotifier .usual run' step) := by
  cases step with
  | publish event on =>
    exact .bind_right _ fun _ => .bind (publish_agrees hgiven hrun _ _) fun _ => .refl _
  | withFollower name actions =>
    exact .bind_right _ fun _ => .bind (takeInside_agrees hrun _ _ _) fun _ => .refl _
  | _ => exact .refl _

private theorem takeOnRenderer_agrees (step : RendererStep Step) :
    (takeOnRenderer run step).Agrees (@takeOnRenderer .usual run' step) := by
  cases step with
  | setString name request =>
    exact .bind_right _ fun _ => .bind (setString_agrees hgiven _ _) fun _ => .refl _
  | refresh name =>
    exact .bind_right _ fun _ => .bind (refresh_agrees hgiven _) fun _ => .refl _
  | withRenderer name actions =>
    exact .bind_right _ fun _ => .bind (takeInside_agrees hrun _ _ _) fun _ => .refl _
  | _ => exact .refl _

private theorem takeOnManager_agrees [Globbing] (step : ManagerStep Step) :
    (takeOnManager run step).Agrees (@takeOnManager .usual _ run' step) := by
  cases step with
  | setLocale given => exact .bind (setLocale_agrees hgiven hrun given) fun _ => .refl _
  | render request => exact .bind (renderOnce_agrees hgiven request) fun _ => .refl _
  | _ => exact .refl _

omit hrun

omit hgiven [FailureTexts] in
private theorem takeAll_agrees {take take' : Taking} (htake : ∀ step, (take step).Agrees (take' step))
    (steps : List Step) : (takeAll take steps).Agrees (takeAll take' steps) := by
  induction steps with
  | nil => exact .refl _
  | cons step steps ih => exact .bind (htake step) fun _ => .bind_right _ fun _ => ih

theorem take_agrees [Globbing] (depth : Nat) (step : Step) :
    (take depth step).Agrees (@take .usual _ depth step) := by
  induction depth generalizing step with
  | zero => exact .refl _
  | succ depth ih =>
    have hrun := takeAll_agrees ih
    cases step with
    | onNotifier told step => exact takeOnNotifier_agrees hgiven hrun step
    | onRenderer told step => exact takeOnRenderer_agrees hgiven hrun step
    | onManager told step => exact takeOnManager_agrees hgiven hrun step

end Script

end Phrasebook
