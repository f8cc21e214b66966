import Phrasebook.Notifier.Delivery
import Phrasebook.Proofs.Failure

/-!
A delivery as a run over the subscriptions that are still to be served.
-/

set_option autoImplicit false
set_option relaxedAutoImplicit false

namespace Phrasebook.Channel

variable {σ κ : Type} {channel : Channel σ κ} {event : Event}

private theorem serve_state (subscriber : κ) (st : σ) :
    (channel.serve event subscriber st).state = (channel.call subscriber event st).state := by
  unfold serve
  rw [Effect.bind_apply]
  cases (channel.call subscriber event st).value <;> rfl

private theorem deliver_cons_of_registered {s : Subscription κ} {st : σ}
    (h : (channel.registry st).isRegistered s.handle = true) (more : List (Subscription κ)) :
    channel.deliver event (s :: more) st =
      let served := channel.serve event s.subscriber st
      let rest := channel.deliver event more served.state
      ⟨rest.value + 1, rest.state, served.reports ++ rest.reports⟩ := by
  rw [deliver, Effect.read_bind_apply, if_pos h]
  simp only [Effect.bind_apply, Effect.pure_apply, List.append_nil]

private theorem deliver_cons_of_not_registered {s : Subscription κ} {st : σ}
    (h : ¬ (channel.registry st).isRegistered s.handle = true) (more : List (Subscription κ)) :
    channel.deliver event (s :: more) st = channel.deliver event more st := by
  rw [deliver, Effect.read_bind_apply, if_neg h]

/-- What a delivery keeps: a relation between the subscriptions still to be served and the state, if
it outlasts the turn of every subscription, be that served or passed over. -/
theorem deliver_keeps {P : List (Subscription κ) → σ → Prop}
    (hserved : ∀ s more st, (channel.registry st).isRegistered s.handle = true → P (s :: more) st →
      P more (channel.call s.subscriber event st).state)
    (hpassed : ∀ s more st, ¬ (channel.registry st).isRegistered s.handle = true →
      P (s :: more) st → P more st)
    {subscriptions : List (Subscription κ)} {st : σ} (h : P subscriptions st) :
    P [] (channel.deliver event subscriptions st).state := by
  induction subscriptions generalizing st with
  | nil => exact h
  | cons s more ih =>
    by_cases hregistered : (channel.registry st).isRegistered s.handle = true
    · rw [deliver_cons_of_registered hregistered]
      apply ih
      rw [serve_state]
      exact hserved s more st hregistered h
    · rw [deliver_cons_of_not_registered hregistered]
      exact ih (hpassed s more st hregistered h)

theorem publish_state (st : σ) :
    (channel.publish event st).state =
      (channel.deliver event ((channel.registry st).of event.eventType) st).state := rfl

end Phrasebook.Channel

/-! ## Asking failures for their texts -/

namespace Phrasebook.Asking

open Attempt (Follows)

variable [FailureTexts] {σ κ : Type} {channel : Channel σ κ} {event : Event}
  {s : Subscription κ} {st : σ} {raised : Text}

/-- Some subscriber may end in a failure. -/
def MayMeet (channel : Channel σ κ) (failure : Text) : Prop :=
  ∃ subscriber event st, (channel.call subscriber event st).value = .error failure

private theorem serve_follows (channel : Channel σ κ) (event : Event) (subscriber : κ) :
    Follows (MayMeet channel) (serve channel event subscriber) (channel.serve event subscriber) := by
  refine (Follows.lift _).bind fun answer ⟨st, hanswer⟩ => ?_
  cases answer with
  | ok value => exact .pure ()
  | error failure => exact .complain _ ⟨subscriber, event, st, hanswer⟩

theorem deliver_follows (channel : Channel σ κ) (event : Event)
    (subscriptions : List (Subscription κ)) :
    Follows (MayMeet channel) (deliver channel event subscriptions)
      (channel.deliver event subscriptions) := by
  induction subscriptions with
  | nil => exact .pure 0
  | cons s more ih =>
    refine (Follows.lift Effect.read).bind fun st _ => ?_
    split
    · exact (serve_follows channel event s.subscriber).bind fun _ _ => ih.bind fun _ _ => .pure _
    · exact ih

theorem publish_follows (channel : Channel σ κ) (event : Event) :
    Follows (MayMeet channel) (publish channel event) (channel.publish event) :=
  (Follows.lift Effect.read).bind fun _ _ =>
    (Follows.report _).bind fun _ _ => deliver_follows channel event _

theorem serve_run_of_ok {subscriber : κ} (h : (channel.call subscriber event st).value = .ok ()) :
    (serve channel event subscriber).run st =
      let called := channel.call subscriber event st
      ⟨.ok (), called.state, called.reports⟩ := by
  unfold serve
  rw [Attempt.run_bind_of_run_eq (Attempt.run_lift _ st)]
  simp [h]

theorem serve_run_of_error {subscriber : κ} {failure : Text}
    (h : (channel.call subscriber event st).value = .error failure) :
    (serve channel event subscriber).run st =
      let called := channel.call subscriber event st
      let told := (Attempt.complain (.eventHandlerFailed (channel.name subscriber) event.eventType)
        failure).run called.state
      ⟨told.value, told.state, called.reports ++ told.reports⟩ := by
  unfold serve
  rw [Attempt.run_bind_of_run_eq (Attempt.run_lift _ st)]
  simp only [h]

theorem serve_state (channel : Channel σ κ) (event : Event) (subscriber : κ) (st : σ) :
    ((serve channel event subscriber).run st).state = (channel.call subscriber event st).state := by
  cases hcall : (channel.call subscriber event st).value with
  | ok value => rw [serve_run_of_ok hcall]
  | error failure =>
    rw [serve_run_of_error hcall]
    cases hask : FailureTexts.ask failure with
    | ok text => simp only [Attempt.run_complain_of_ok _ hask]
    | error raised => simp only [Attempt.run_complain_of_error _ hask]

theorem exists_of_serve_error {subscriber : κ}
    (h : ((serve channel event subscriber).run st).value = .error raised) :
    ∃ failure, (channel.call subscriber event st).value = .error failure ∧
      FailureTexts.ask failure = .error raised := by
  cases hcall : (channel.call subscriber event st).value with
  | ok value =>
    rw [serve_run_of_ok hcall] at h
    cases h
  | error failure =>
    rw [serve_run_of_error hcall] at h
    dsimp only at h
    cases hask : FailureTexts.ask failure with
    | ok text =>
      rw [Attempt.run_complain_of_ok _ hask] at h
      cases h
    | error raised' =>
      rw [Attempt.run_complain_of_error _ hask] at h
      obtain rfl : raised' = raised := Except.error.inj h
      exact ⟨failure, rfl, hask⟩

theorem deliver_cons_of_not_registered
    (h : ¬ (channel.registry st).isRegistered s.handle = true) (more : List (Subscription κ)) :
    (deliver channel event (s :: more)).run st = (deliver channel event more).run st := by
  rw [deliver, Attempt.run_read_bind, if_neg h]

theorem deliver_cons_of_served (h : (channel.registry st).isRegistered s.handle = true)
    (hserved : ((serve channel event s.subscriber).run st).value = .ok ())
    (more : List (Subscription κ)) :
    (deliver channel event (s :: more)).run st =
      let served := (serve channel event s.subscriber).run st
      let rest := (deliver channel event more).run served.state
      ⟨rest.value.map (· + 1), rest.state, served.reports ++ rest.reports⟩ := by
  rw [deliver, Attempt.run_read_bind, if_pos h, Attempt.run_bind_of_ok hserved]
  cases hrest : ((deliver channel event more).run
    ((serve channel event s.subscriber).run st).state).value with
  | ok count =>
    rw [Attempt.run_bind_of_ok hrest]
    simp [hrest, Except.map]
  | error raised =>
    rw [Attempt.run_bind_of_error hrest]
    simp [hrest, Except.map]

theorem deliver_cons_of_error (h : (channel.registry st).isRegistered s.handle = true)
    (hserved : ((serve channel event s.subscriber).run st).value = .error raised)
    (more : List (Subscription κ)) :
    (deliver channel event (s :: more)).run st =
      let served := (serve channel event s.subscriber).run st
      ⟨.error raised, served.state, served.reports⟩ := by
  rw [deliver, Attempt.run_read_bind, if_pos h, Attempt.run_bind_of_error hserved]

theorem publish_run (channel : Channel σ κ) (event : Event) (st : σ) :
    (publish channel event).run st =
      let begun := (channel.registry st).of event.eventType
      let delivered := (deliver channel event begun).run st
      ⟨delivered.value, delivered.state,
        .publishingEvent event.eventType begun.length :: delivered.reports⟩ := by
  unfold publish
  rw [Attempt.run_read_bind, Attempt.run_bind_of_run_eq (Attempt.run_report _ st)]
  rfl

end Phrasebook.Asking
