import Phrasebook.Proofs.Notifier.Delivery
import Phrasebook.Proofs.Notifier.Evolution

/-!
Which subscribers a delivery calls, as the calls themselves show it. Subscribers may do to the registry
whatever can be done to it.
-/

set_option autoImplicit false
set_option relaxedAutoImplicit false

namespace Phrasebook.Channel

variable {σ κ : Type}

/-- The channel with every call of a subscriber written down beside the state, in the order of the
calls. Calls that subscribers bring about themselves are not written down. -/
def noting (channel : Channel σ κ) : Channel (σ × List (κ × Event)) κ where
  registry s := channel.registry s.1
  name := channel.name
  call subscriber event := fun (st, calls) =>
    let outcome := channel.call subscriber event st
    ⟨outcome.value, (outcome.state, calls ++ [(subscriber, event)]), outcome.reports⟩

/-- In states of a kind that they keep up, subscribers change the registry by subscribing, by giving up
subscriptions, and by clearing it, and in no other way. -/
structure Orderly (channel : Channel σ κ) (good : σ → Prop) : Prop where
  keeps : ∀ {subscriber event st}, good st → good (channel.call subscriber event st).state
  evolves : ∀ {subscriber event st}, good st →
    (channel.registry st).Evolves (channel.registry (channel.call subscriber event st).state)

end Phrasebook.Channel

namespace Phrasebook.Asking

section

variable {ε α β : Type} {f : α → β} {result : Except ε α}

private theorem isOk_map : (result.map f).isOk = result.isOk := by
  cases result <;> rfl

private theorem map_eq_ok {b : β} (h : result.map f = .ok b) : ∃ a, result = .ok a ∧ f a = b := by
  cases result with
  | ok a => exact ⟨a, rfl, Except.ok.inj h⟩
  | error e => cases h

private theorem map_eq_error {e : ε} (h : result.map f = .error e) : result = .error e := by
  cases result with
  | ok a => cases h
  | error e' => exact congrArg _ (Except.error.inj h)

end

variable [FailureTexts] {σ κ : Type} {channel : Channel σ κ} {event : Event}

private theorem serve_noting (s : κ) (st : σ) (calls : List (κ × Event)) :
    (serve channel.noting event s).run (st, calls) =
      let outcome := (serve channel event s).run st
      ⟨outcome.value, (outcome.state, calls ++ [(s, event)]), outcome.reports⟩ := by
  have hvalue : (channel.noting.call s event (st, calls)).value = (channel.call s event st).value := rfl
  cases hcall : (channel.call s event st).value with
  | ok value =>
    rw [serve_run_of_ok hcall, serve_run_of_ok (hvalue.trans hcall)]
    rfl
  | error failure =>
    rw [serve_run_of_error hcall, serve_run_of_error (hvalue.trans hcall)]
    cases hask : FailureTexts.ask failure with
    | ok text =>
      simp only [Attempt.run_complain_of_ok _ hask]
      rfl
    | error raised =>
      simp only [Attempt.run_complain_of_error _ hask]
      rfl

theorem deliver_evolves {good : σ → Prop} (h : channel.Orderly good) {st : σ} (hst : good st)
    (pending : List (Subscription κ)) :
    (channel.registry st).Evolves
      (channel.registry ((deliver channel event pending).run st).state) := by
  induction pending generalizing st with
  | nil => exact .refl
  | cons s more ih =>
    by_cases hregistered : (channel.registry st).isRegistered s.handle = true
    · have hstate := serve_state channel event s.subscriber st
      have hfirst : (channel.registry st).Evolves
          (channel.registry ((serve channel event s.subscriber).run st).state) := by
        rw [hstate]
        exact h.evolves hst
      cases hserved : ((serve channel event s.subscriber).run st).value with
      | ok value =>
        rw [deliver_cons_of_served hregistered hserved]
        refine hfirst.trans (ih ?_)
        rw [hstate]
        exact h.keeps hst
      | error raised =>
        rw [deliver_cons_of_error hregistered hserved]
        exact hfirst
    · rw [deliver_cons_of_not_registered hregistered]
      exact ih hst

/-! ## Who is called -/

/-- The subscriptions of which a delivery calls the subscribers. -/
def called (channel : Channel σ κ) (event : Event) :
    List (Subscription κ) → σ → List (Subscription κ)
  | [], _ => []
  | s :: more, st =>
    if (channel.registry st).isRegistered s.handle then
      let served := (serve channel event s.subscriber).run st
      s :: if served.value.isOk then called channel event more served.state else []
    else called channel event more st

section

variable {s : Subscription κ} {st : σ} (more : List (Subscription κ))

private theorem called_cons_of_not_registered
    (h : ¬ (channel.registry st).isRegistered s.handle = true) :
    called channel event (s :: more) st = called channel event more st := by
  rw [called, if_neg h]

private theorem called_cons_of_served (h : (channel.registry st).isRegistered s.handle = true)
    (hserved : ((serve channel event s.subscriber).run st).value = .ok ()) :
    called channel event (s :: more) st =
      s :: called channel event more ((serve channel event s.subscriber).run st).state := by
  have hok : ((serve channel event s.subscriber).run st).value.isOk = true := by
    rw [hserved]
    rfl
  rw [called, if_pos h]
  exact congrArg (s :: ·) (if_pos hok)

private theorem called_cons_of_error {raised : Text}
    (h : (channel.registry st).isRegistered s.handle = true)
    (hserved : ((serve channel event s.subscriber).run st).value = .error raised) :
    called channel event (s :: more) st = [s] := by
  have hfails : ¬ ((serve channel event s.subscriber).run st).value.isOk = true := by
    rw [hserved]
    exact nofun
  rw [called, if_pos h]
  exact congrArg (s :: ·) (if_neg hfails)

end

theorem called_sublist (channel : Channel σ κ) (event : Event) (pending : List (Subscription κ))
    (st : σ) : (called channel event pending st).Sublist pending := by
  induction pending generalizing st with
  | nil => exact List.Sublist.refl _
  | cons s more ih =>
    by_cases hregistered : (channel.registry st).isRegistered s.handle = true
    · cases hserved : ((serve channel event s.subscriber).run st).value with
      | ok value =>
        rw [called_cons_of_served more hregistered hserved]
        exact (ih _).cons_cons s
      | error raised =>
        rw [called_cons_of_error more hregistered hserved]
        exact List.singleton_sublist.mpr List.mem_cons_self
    · rw [called_cons_of_not_registered more hregistered]
      exact (ih st).cons s

theorem deliver_counts {pending : List (Subscription κ)} {st : σ} {count : Nat}
    (h : ((deliver channel event pending).run st).value = .ok count) :
    count = (called channel event pending st).length := by
  induction pending generalizing st count with
  | nil => exact (Except.ok.inj h).symm
  | cons s more ih =>
    by_cases hregistered : (channel.registry st).isRegistered s.handle = true
    · cases hserved : ((serve channel event s.subscriber).run st).value with
      | ok value =>
        rw [deliver_cons_of_served hregistered hserved] at h
        obtain ⟨rest, hrest, rfl⟩ := map_eq_ok h
        rw [called_cons_of_served more hregistered hserved, List.length_cons, ih hrest]
      | error raised =>
        rw [deliver_cons_of_error hregistered hserved] at h
        cases h
    · rw [deliver_cons_of_not_registered hregistered] at h
      rw [called_cons_of_not_registered more hregistered]
      exact ih h

theorem deliver_noting (channel : Channel σ κ) (event : Event) (pending : List (Subscription κ))
    (st : σ) (calls : List (κ × Event)) :
    (deliver channel.noting event pending).run (st, calls) =
      let outcome := (deliver channel event pending).run st
      let noted := (called channel event pending st).map fun s => (s.subscriber, event)
      ⟨outcome.value, (outcome.state, calls ++ noted), outcome.reports⟩ := by
  induction pending generalizing st calls with
  | nil => simp [deliver, called]
  | cons s more ih =>
    by_cases hregistered : (channel.registry st).isRegistered s.handle = true
    · have hnoting : (channel.noting.registry (st, calls)).isRegistered s.handle = true :=
        hregistered
      have hvalue : ((serve channel.noting event s.subscriber).run (st, calls)).value =
          ((serve channel event s.subscriber).run st).value := by
        rw [serve_noting]
      cases hserved : ((serve channel event s.subscriber).run st).value with
      | ok value =>
        rw [deliver_cons_of_served hnoting (hvalue.trans hserved),
          deliver_cons_of_served hregistered hserved,
          called_cons_of_served more hregistered hserved]
        simp [serve_noting, ih]
      | error raised =>
        rw [deliver_cons_of_error hnoting (hvalue.trans hserved),
          deliver_cons_of_error hregistered hserved,
          called_cons_of_error more hregistered hserved]
        simp [serve_noting]
    · have hnoting : ¬ (channel.noting.registry (st, calls)).isRegistered s.handle = true :=
        hregistered
      rw [deliver_cons_of_not_registered hnoting, deliver_cons_of_not_registered hregistered,
        called_cons_of_not_registered more hregistered]
      exact ih st calls

/-- A subscriber is called if it is registered at the end of the delivery to those before it, and that
comes to its end. -/
theorem mem_called_iff (channel : Channel σ κ) (event : Event) {before after : List (Subscription κ)}
    {s : Subscription κ} (hbefore : s ∉ before) (hafter : s ∉ after) (st : σ) :
    let soFar := (deliver channel event before).run st
    s ∈ called channel event (before ++ s :: after) st ↔ soFar.value.isOk = true ∧
      (channel.registry soFar.state).isRegistered s.handle = true := by
  have hbegun : (Except.ok 0 : Except Text Nat).isOk = true := rfl
  induction before generalizing st with
  | nil =>
    have hlater : s ∉ called channel event after st := fun hs =>
      hafter ((called_sublist channel event after st).subset hs)
    by_cases hregistered : (channel.registry st).isRegistered s.handle = true
    · simp [called, deliver, hregistered, hbegun]
    · simp [called, deliver, hregistered, hlater]
  | cons first before ih =>
    obtain ⟨hne, hrest⟩ := not_or.mp fun h => hbefore (List.mem_cons.mpr h)
    rw [List.cons_append]
    by_cases hregistered : (channel.registry st).isRegistered first.handle = true
    · cases hserved : ((serve channel event first.subscriber).run st).value with
      | ok value =>
        rw [called_cons_of_served _ hregistered hserved, deliver_cons_of_served hregistered hserved]
        simpa [hne, isOk_map] using ih hrest _
      | error raised =>
        rw [called_cons_of_error _ hregistered hserved, deliver_cons_of_error hregistered hserved]
        simp [hne, Except.isOk, Except.toBool]
    · rw [called_cons_of_not_registered _ hregistered, deliver_cons_of_not_registered hregistered]
      exact ih hrest st

/-! ## Who ends a delivery -/

/-- A delivery that ends early does so at the call of a registered subscriber: the failure of that has
no text, and those behind it are not called any more. -/
theorem exists_of_deliver_error {pending : List (Subscription κ)} {st : σ} {raised : Text}
    (h : ((deliver channel event pending).run st).value = .error raised) :
    ∃ before last after failure, pending = before ++ last :: after ∧
      let soFar := (deliver channel event before).run st
      let called := channel.call last.subscriber event soFar.state
      soFar.value.isOk = true ∧
      (channel.registry soFar.state).isRegistered last.handle = true ∧
      called.value = .error failure ∧ FailureTexts.ask failure = .error raised ∧
      ((deliver channel event pending).run st).state = called.state := by
  induction pending generalizing st with
  | nil => cases h
  | cons s more ih =>
    by_cases hregistered : (channel.registry st).isRegistered s.handle = true
    · cases hserved : ((serve channel event s.subscriber).run st).value with
      | ok value =>
        rw [deliver_cons_of_served hregistered hserved] at h
        have hrest : ((deliver channel event more).run
            ((serve channel event s.subscriber).run st).state).value = .error raised :=
          map_eq_error h
        obtain ⟨before, last, after, failure, rfl, hends⟩ := ih hrest
        refine ⟨s :: before, last, after, failure, rfl, ?_⟩
        simpa [deliver_cons_of_served hregistered hserved, isOk_map] using hends
      | error raised' =>
        rw [deliver_cons_of_error hregistered hserved] at h
        obtain rfl : raised' = raised := Except.error.inj h
        obtain ⟨failure, hcall, hask⟩ := exists_of_serve_error hserved
        refine ⟨[], s, more, failure, rfl, rfl, hregistered, hcall, hask, ?_⟩
        rw [deliver_cons_of_error hregistered hserved]
        exact serve_state channel event s.subscriber st
    · rw [deliver_cons_of_not_registered hregistered] at h ⊢
      obtain ⟨before, last, after, failure, rfl, hends⟩ := ih h
      refine ⟨s :: before, last, after, failure, rfl, ?_⟩
      simpa [deliver_cons_of_not_registered hregistered] using hends

end Phrasebook.Asking
