import Phrasebook.Failure

/-!
Asking failures for their texts. A computation that does so goes the way of one for which the texts are
there, unless a failure has none: then it ends with what asking for it raises.
-/

set_option autoImplicit false
set_option relaxedAutoImplicit false

namespace Phrasebook.Attempt

variable {σ α β : Type} [FailureTexts] {met : Text → Prop} {x : Attempt Text σ α} {y : Effect σ α}

theorem run_complain_of_ok (r : Text → Report) {failure text : Text}
    (h : FailureTexts.ask failure = .ok text) (s : σ) :
    (complain r failure).run s = ⟨.ok (), s, [r text]⟩ := by
  unfold complain
  rw [h, run_bind_of_run_eq (run_ofExcept _ s)]
  rfl

theorem run_complain_of_error (r : Text → Report) {failure raised : Text}
    (h : FailureTexts.ask failure = .error raised) (s : σ) :
    (complain r failure).run s = ⟨.error raised, s, []⟩ := by
  have hraised : ((ofExcept (.error raised) : Attempt Text σ Text).run s).value = .error raised := rfl
  unfold complain
  rw [h, run_bind_of_error hraised]
  rfl

/-- What becomes of a computation that asks, where another one takes the texts of failures for given:
the same, with the reports as they come out, or else some failure that was met raises another one when
it is asked. -/
def Follows (met : Text → Prop) (x : Attempt Text σ α) (y : Effect σ α) : Prop :=
  ∀ s, (∃ reports, x.run s = ⟨.ok (y s).value, (y s).state, reports⟩ ∧
      ((∀ failure, FailureTexts.ask failure = .ok failure) → reports = (y s).reports)) ∨
    ∃ failure raised, met failure ∧ FailureTexts.ask failure = .error raised ∧
      (x.run s).value = .error raised

namespace Follows

theorem pure (a : α) : Follows met (Pure.pure a : Attempt Text σ α) (Pure.pure a) :=
  fun _ => Or.inl ⟨[], rfl, fun _ => rfl⟩

theorem lift (y : Effect σ α) : Follows met (ExceptT.lift y) y :=
  fun s => Or.inl ⟨(y s).reports, run_lift y s, fun _ => rfl⟩

theorem report (r : Report) : Follows met (Attempt.report r : Attempt Text σ Unit) (Effect.report r) :=
  lift (Effect.report r)

theorem complain (r : Text → Report) {failure : Text} (hmet : met failure) :
    Follows met (Attempt.complain r failure : Attempt Text σ Unit) (Effect.report (r failure)) := by
  intro s
  cases hask : FailureTexts.ask failure with
  | ok text =>
    refine Or.inl ⟨[r text], run_complain_of_ok r hask s, fun husual => ?_⟩
    obtain rfl : text = failure := Except.ok.inj (hask.symm.trans (husual failure))
    rfl
  | error raised => exact Or.inr ⟨failure, raised, hmet, hask, by rw [run_complain_of_error r hask]⟩

theorem bind (h : Follows met x y) {f : α → Attempt Text σ β} {g : α → Effect σ β}
    (hnext : ∀ a, (∃ s, (y s).value = a) → Follows met (f a) (g a)) :
    Follows met (x >>= f) (y >>= g) := by
  intro s
  rcases h s with ⟨reports, hrun, husual⟩ | ⟨failure, raised, hmet, hask, hvalue⟩
  · rw [run_bind_of_run_eq hrun, Effect.bind_apply]
    rcases hnext _ ⟨s, rfl⟩ (y s).state with ⟨more, hmore, husual'⟩ | ⟨failure, raised, hrest⟩
    · refine Or.inl ⟨reports ++ more, ?_, fun hall => ?_⟩
      · rw [hmore]
      · rw [husual hall, husual' hall]
    · exact Or.inr ⟨failure, raised, hrest⟩
  · rw [run_bind_of_error hvalue]
    exact Or.inr ⟨failure, raised, hmet, hask, rfl⟩

/-- Where every failure that was met has a text, the two come to the same. -/
theorem run_of_given (h : Follows met x y)
    (hgiven : ∀ failure, met failure → ∃ text, FailureTexts.ask failure = .ok text) (s : σ) :
    ∃ reports, x.run s = ⟨.ok (y s).value, (y s).state, reports⟩ := by
  rcases h s with ⟨reports, hrun, -⟩ | ⟨failure, raised, hmet, hask, -⟩
  · exact ⟨reports, hrun⟩
  · obtain ⟨text, htext⟩ := hgiven failure hmet
    rw [htext] at hask
    cases hask

theorem exists_of_error (h : Follows met x y) {s : σ} {raised : Text}
    (hvalue : (x.run s).value = .error raised) :
    ∃ failure, met failure ∧ FailureTexts.ask failure = .error raised := by
  rcases h s with ⟨reports, hrun, -⟩ | ⟨failure, raised', hmet, hask, hraised⟩
  · rw [hrun] at hvalue
    cases hvalue
  · obtain rfl : raised' = raised := Except.error.inj (hraised.symm.trans hvalue)
    exact ⟨failure, hmet, hask⟩

end Follows

end Phrasebook.Attempt

namespace Phrasebook

/-! ## Value and state -/

/-- Two computations come to the same value and the same state, whatever they report. -/
def Effect.Agrees {σ α : Type} (x y : Effect σ α) : Prop :=
  ∀ s, (x s).value = (y s).value ∧ (x s).state = (y s).state

namespace Effect.Agrees

variable {σ α β : Type}

theorem refl (x : Effect σ α) : Agrees x x := fun _ => ⟨rfl, rfl⟩

theorem bind {x y : Effect σ α} (h : x.Agrees y) {f g : α → Effect σ β}
    (hnext : ∀ a, Agrees (f a) (g a)) : Agrees (x >>= f) (y >>= g) := by
  intro s
  obtain ⟨hvalue, hstate⟩ := h s
  rw [bind_apply, bind_apply, hvalue, hstate]
  exact hnext _ _

end Effect.Agrees

/-- The same for computations that may stop with a fault. -/
def Attempt.Agrees {ε σ α : Type} (x y : Attempt ε σ α) : Prop := Effect.Agrees x.run y.run

namespace Attempt.Agrees

variable {ε σ α β : Type} {x y : Attempt ε σ α}

theorem refl (x : Attempt ε σ α) : Agrees x x := Effect.Agrees.refl x.run

theorem lift {x y : Effect σ α} (h : x.Agrees y) :
    Agrees (ExceptT.lift x : Attempt ε σ α) (ExceptT.lift y) := by
  intro s
  rw [run_lift, run_lift]
  exact ⟨congrArg Except.ok (h s).1, (h s).2⟩

theorem bind (h : Agrees x y) {f g : α → Attempt ε σ β} (hnext : ∀ a, Agrees (f a) (g a)) :
    Agrees (x >>= f) (y >>= g) := by
  intro s
  obtain ⟨hvalue, hstate⟩ := h s
  cases hx : (x.run s).value with
  | ok a =>
    have hy : (y.run s).value = .ok a := hvalue.symm.trans hx
    rw [run_bind_of_ok hx, run_bind_of_ok hy, hstate]
    exact hnext a _
  | error e =>
    have hy : (y.run s).value = .error e := hvalue.symm.trans hx
    rw [run_bind_of_error hx, run_bind_of_error hy]
    exact ⟨rfl, hstate⟩

theorem bind_right (x : Attempt ε σ α) {f g : α → Attempt ε σ β} (hnext : ∀ a, Agrees (f a) (g a)) :
    Agrees (x >>= f) (x >>= g) :=
  (refl x).bind hnext

theorem outcome (h : Agrees x y) : Agrees (Attempt.outcome x) (Attempt.outcome y) := .lift h

theorem within {τ : Type} (part : σ → τ) (putBack : τ → σ → σ) {x y : Attempt ε τ α}
    (h : Agrees x y) : Agrees (x.within part putBack) (y.within part putBack) := by
  intro s
  obtain ⟨hvalue, hstate⟩ := h (part s)
  rw [run_within, run_within, hstate]
  exact ⟨hvalue, rfl⟩

theorem mapFault {ε' : Type} (f : ε → ε') (h : Agrees x y) :
    Agrees (x.mapFault f) (y.mapFault f) := by
  intro s
  obtain ⟨hvalue, hstate⟩ := h s
  rw [run_mapFault, run_mapFault, hvalue]
  exact ⟨rfl, hstate⟩

end Attempt.Agrees

theorem Attempt.complain_agrees [FailureTexts] (hgiven : FailureTexts.AllGiven) {σ : Type}
    (r : Text → Report) (failure : Text) :
    Agrees (complain r failure : Attempt Text σ Unit) (@complain .usual σ r failure) := by
  intro s
  obtain ⟨text, htext⟩ := hgiven failure
  rw [run_complain_of_ok r htext]
  exact ⟨rfl, rfl⟩

theorem Attempt.Follows.agrees [FailureTexts] {σ α : Type} {met : Text → Prop}
    {x : Attempt Text σ α} {y : Effect σ α} (h : Follows met x y)
    (hgiven : FailureTexts.AllGiven) : Agrees x (ExceptT.lift y) := by
  intro s
  obtain ⟨reports, hrun⟩ := h.run_of_given (fun failure _ => hgiven failure) s
  rw [hrun, run_lift]
  exact ⟨rfl, rfl⟩

/-- The usual failures have the texts that the second computation takes for given. -/
theorem Attempt.Follows.eq_lift {σ α : Type} {met : Text → Prop} {x : Attempt Text σ α}
    {y : Effect σ α} (h : Follows met x y) : x = ExceptT.lift y := by
  refine ExceptT.ext (funext fun s => ?_)
  rcases h s with ⟨reports, hrun, husual⟩ | ⟨failure, raised, -, hask, -⟩
  · have hreports : reports = (y s).reports := husual fun _ => rfl
    rw [Attempt.run_lift, ← hreports]
    exact hrun
  · cases hask

theorem FailureTexts.usual_allGiven : FailureTexts.AllGiven := fun failure => ⟨failure, rfl⟩

end Phrasebook
