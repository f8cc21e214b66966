import Phrasebook.Proofs.Manager.Loading
import Phrasebook.Proofs.Script.Service

/-!
Switching the locale and loading catalogs in a world: what a failure leaves behind, and what can make
one.
-/

set_option autoImplicit false
set_option relaxedAutoImplicit false

namespace Phrasebook.Script

def Managed.withLoader (m : Managed) (loader : FileLoader) : Managed :=
  { m with manager := { m.manager with loader := .files loader } }

namespace Act

variable {run : Runner} {w : World} {m : Managed} {loader : FileLoader} {given : Value}
  {fault : Fault}

private theorem eq_error_of_map {α β : Type} {f : α → β} {x : Except Fault α}
    (h : x.map f = .error fault) : x = .error fault := by
  cases x with
  | ok a => cases h
  | error e => exact congrArg Except.error (Except.error.inj h)

private theorem exists_of_map_eq_ok {α β : Type} {f : α → β} {x : Except Fault α} {b : β}
    (h : x.map f = .ok b) : ∃ a, f a = b := by
  cases x with
  | ok a => exact ⟨a, Except.ok.inj h⟩
  | error e => cases h

private theorem withLoader_self (hbacking : w.backing = .managed m)
    (hloader : m.manager.loader = .files loader) :
    { w with backing := .managed (m.withLoader loader) } = w := by
  obtain ⟨backing⟩ := w
  obtain rfl : backing = .managed m := hbacking
  simp [Managed.withLoader, ← hloader]

/-- What a switch wants for: a locale, or a catalog of it. -/
def Wants [Globbing] (m : Managed) (given : Value) (fault : Fault) : Prop :=
  given.asLocale = .error fault ∨
    ∃ locale, given.asLocale = .ok locale ∧ m.manager.active ≠ locale ∧
      ((Manager.activate m.disk locale).run m.manager).value = .error fault

variable [FailureTexts]

private theorem exists_of_publish_error {notifier : Nat} {event : Event}
    (h : ((publish run notifier event).run w).value = .error fault) :
    ∃ failure raised, Asking.MayMeet (channel run notifier) failure ∧
      FailureTexts.ask failure = .error raised ∧ fault = .raised raised := by
  unfold publish at h
  rw [Attempt.run_mapFault] at h
  cases hvalue : ((Asking.publish (channel run notifier) event).run w).value with
  | ok count =>
    rw [hvalue] at h
    cases h
  | error raised =>
    rw [hvalue] at h
    obtain ⟨failure, hmet, hask⟩ := (Asking.publish_follows _ event).exists_of_error hvalue
    exact ⟨failure, raised, hmet, hask, (Except.error.inj h).symm⟩

variable [Globbing]

private theorem setLocale_value_of_error (hbacking : w.backing = .managed m)
    (h : ((setLocale run given).run w).value = .error fault) :
    Wants m given fault ∨
      ∃ failure raised, Asking.MayMeet (channel run mainNotifier) failure ∧
        FailureTexts.ask failure = .error raised ∧ fault = .raised raised := by
  cases hgiven : given.asLocale with
  | error fault' =>
    rw [setLocale_run_of_unsupported hgiven] at h
    obtain rfl : fault' = fault := Except.error.inj h
    exact Or.inl (Or.inl hgiven)
  | ok locale =>
    by_cases hactive : locale = m.manager.active
    · rw [setLocale_run_of_active hbacking (hactive ▸ hgiven)] at h
      cases h
    · cases hactivate : ((Manager.activate m.disk locale).run m.manager).value with
      | error fault' =>
        rw [setLocale_run_of_activate_error hbacking hgiven hactive hactivate] at h
        obtain rfl : fault' = fault := Except.error.inj h
        exact Or.inl (Or.inr ⟨locale, hgiven, Ne.symm hactive, hactivate⟩)
      | ok previous =>
        obtain ⟨hvalue, -⟩ := setLocale_of_activate_ok run hbacking hgiven hactive hactivate
        rw [h] at hvalue
        exact Or.inr (exists_of_publish_error (eq_error_of_map hvalue.symm))

private theorem setLocale_value_of_wants (run : Runner) (hbacking : w.backing = .managed m)
    (h : Wants m given fault) : ((setLocale run given).run w).value = .error fault := by
  rcases h with hgiven | ⟨locale, hgiven, hactive, hactivate⟩
  · rw [setLocale_run_of_unsupported hgiven]
  · rw [setLocale_run_of_activate_error hbacking hgiven (Ne.symm hactive) hactivate]

private theorem setLocale_value_of_ok {changed : Bool} (hbacking : w.backing = .managed m)
    (h : ((setLocale run given).run w).value = .ok changed) :
    ∃ locale, given.asLocale = .ok locale ∧ (changed = true ↔ m.manager.active ≠ locale) := by
  cases hgiven : given.asLocale with
  | error fault' =>
    rw [setLocale_run_of_unsupported hgiven] at h
    cases h
  | ok locale =>
    refine ⟨locale, rfl, ?_⟩
    by_cases hactive : locale = m.manager.active
    · subst hactive
      rw [setLocale_run_of_active hbacking hgiven] at h
      cases h
      simp
    · cases hactivate : ((Manager.activate m.disk locale).run m.manager).value with
      | error fault' =>
        rw [setLocale_run_of_activate_error hbacking hgiven hactive hactivate] at h
        cases h
      | ok previous =>
        obtain ⟨hvalue, -⟩ := setLocale_of_activate_ok run hbacking hgiven hactive hactivate
        rw [h] at hvalue
        obtain ⟨-, htrue⟩ := exists_of_map_eq_ok hvalue.symm
        simp [← htrue, Ne.symm hactive]

private theorem setLocale_keeps_of_wants (run : Runner) (hbacking : w.backing = .managed m)
    (hloader : m.manager.loader = .files loader) (h : Wants m given fault) :
    let outcome := (setLocale run given).run w
    (∃ loads, outcome.state =
      { w with backing := .managed (m.withLoader { loader with loads }) }) ∧
      ∀ r ∈ outcome.reports, r.isPublication = false := by
  rcases h with hgiven | ⟨locale, hgiven, hactive, hactivate⟩
  · rw [setLocale_run_of_unsupported hgiven]
    exact ⟨⟨loader.loads, (withLoader_self hbacking hloader).symm⟩, nofun⟩
  · rw [setLocale_run_of_activate_error hbacking hgiven (Ne.symm hactive) hactivate]
    obtain ⟨hcontains, hload⟩ := Manager.activate_value_eq_error_iff.mp hactivate
    refine ⟨⟨loader.loads + 1, ?_⟩, Manager.quiet_activate m.disk locale m.manager⟩
    simp only [Manager.activate_run_of_error hcontains hload,
      Manager.load_state_of_error hloader hload]
    rfl

private theorem loadLocale_keeps_of_error (hbacking : w.backing = .managed m)
    (hloader : m.manager.loader = .files loader)
    (h : ((takeOnManager run (.loadLocale given)).run w).value = .error fault) :
    let outcome := (takeOnManager run (.loadLocale given)).run w
    (∃ loads, outcome.state =
      { w with backing := .managed (m.withLoader { loader with loads }) }) ∧
      ∀ r ∈ outcome.reports, r.isPublication = false := by
  have hstep : takeOnManager run (.loadLocale given) = (do
      let locale ← Attempt.ofExcept given.asLocale
      managing (Manager.loadLocale · locale)
      return .nothing) := rfl
  rw [hstep] at h ⊢
  cases hgiven : given.asLocale with
  | error fault' =>
    have hvalue : ((Attempt.ofExcept (.error fault') : Act Locale).run w).value =
        .error fault' := rfl
    rw [Attempt.run_bind_of_error hvalue, Attempt.run_ofExcept]
    exact ⟨⟨loader.loads, (withLoader_self hbacking hloader).symm⟩, nofun⟩
  | ok locale =>
    rw [hgiven] at h
    rw [Attempt.run_bind_of_run_eq (Attempt.run_ofExcept _ w)] at h ⊢
    cases hload : ((Loader.load m.disk locale).run m.manager.loader).value with
    | error fault' =>
      have hvalue : ((Manager.loadLocale m.disk locale).run m.manager).value = .error fault' := by
        rw [Manager.loadLocale_run_of_error hload]
      rw [managing_bind_run_of_error hbacking hvalue]
      refine ⟨⟨loader.loads + 1, ?_⟩, Manager.quiet_loadLocale m.disk locale m.manager⟩
      simp only [Manager.loadLocale_run_of_error hload, Manager.load_state_of_error hloader hload]
      rfl
    | ok catalog =>
      have hvalue : ((Manager.loadLocale m.disk locale).run m.manager).value = .ok () := by
        rw [Manager.loadLocale_run_of_ok hload]
      rw [managing_bind_run_of_ok hbacking hvalue] at h
      cases h

private theorem loadAll_keeps_of_error (hbacking : w.backing = .managed m)
    (hloader : m.manager.loader = .files loader)
    (h : ((takeOnManager run .loadAll).run w).value = .error fault) :
    ∃ after, ((takeOnManager run .loadAll).run w).state =
      { w with backing := .managed (m.withLoader after) } := by
  have hstep : takeOnManager run .loadAll = (do
      managing Manager.loadAll
      return .nothing) := rfl
  rw [hstep] at h ⊢
  cases hload : ((Loader.loadAll m.disk).run m.manager.loader).value with
  | error fault' =>
    have hvalue : ((Manager.loadAll m.disk).run m.manager).value = .error fault' := by
      rw [Manager.loadAll_run_of_error hload]
    rw [managing_bind_run_of_error hbacking hvalue, Manager.loadAll_run_of_error hload, hloader]
    exact ⟨((FileLoader.loadAll m.disk).run loader).state, rfl⟩
  | ok catalogs =>
    have hvalue : ((Manager.loadAll m.disk).run m.manager).value = .ok () := by
      rw [Manager.loadAll_run_of_ok hload]
    rw [managing_bind_run_of_ok hbacking hvalue] at h
    cases h

end Act

/-- A switch of the locale or a load of one that fails leaves the world as it is, but for the number of
loads, and publishes nothing; a load of all locales that fails changes no more than the loader. A switch
fails only for want of a locale or of its catalog, and else it tells whether the locale was another
one. The one exception to what is said of a switch is that a subscriber ends in a failure which raises
another one when it is asked for its text: that one gets through. -/
theorem failed_change_keeps [FailureTexts] [Globbing] (run : Runner) {w : World} {m : Managed}
    {loader : FileLoader} (hbacking : w.backing = .managed m)
    (hloader : m.manager.loader = .files loader) (given : Value) :
    let withLoader (after : FileLoader) : World :=
      { w with backing := .managed (m.withLoader after) }
    let switched := (Act.setLocale run given).run w
    let loaded := (takeOnManager run (.loadLocale given)).run w
    let loadedAll := (takeOnManager run .loadAll).run w
    let wants (fault : Fault) : Prop := given.asLocale = .error fault ∨
      ∃ locale, given.asLocale = .ok locale ∧ m.manager.active ≠ locale ∧
        m.manager.catalogs.contains locale = false ∧
        ((FileLoader.load m.disk locale).run loader).value = .error fault
    let met := Asking.MayMeet (Act.channel run mainNotifier)
    let kept := (∃ loads, switched.state = withLoader { loader with loads }) ∧
      ∀ r ∈ switched.reports, r.isPublication = false
    ((∀ failure, met failure → ∃ text, FailureTexts.ask failure = .ok text) → ∀ fault,
      (switched.value = .error fault → kept) ∧ (switched.value = .error fault ↔ wants fault)) ∧
    (∀ fault, loaded.value = .error fault →
      (∃ loads, loaded.state = withLoader { loader with loads }) ∧
        ∀ r ∈ loaded.reports, r.isPublication = false) ∧
    (∀ fault, loadedAll.value = .error fault → ∃ after, loadedAll.state = withLoader after) ∧
    (∀ changed, switched.value = .ok changed →
      ∃ locale, given.asLocale = .ok locale ∧ (changed = true ↔ m.manager.active ≠ locale)) ∧
    ∀ fault, switched.value = .error fault → wants fault ∧ kept ∨
      ∃ failure raised, met failure ∧ FailureTexts.ask failure = .error raised ∧
        fault = .raised raised := by
  intro withLoader switched loaded loadedAll wants met kept
  have hwants : ∀ fault, wants fault ↔ Act.Wants m given fault := by
    intro fault
    simp only [wants, Act.Wants, Manager.activate_value_eq_error_iff, hloader, Bool.not_eq_true]
    rfl
  have hkept : ∀ fault, wants fault → kept := fun fault hwant =>
    Act.setLocale_keeps_of_wants run hbacking hloader ((hwants fault).mp hwant)
  have hcause : ∀ fault, switched.value = .error fault → wants fault ∨
      ∃ failure raised, met failure ∧ FailureTexts.ask failure = .error raised ∧
        fault = .raised raised := by
    intro fault h
    rw [hwants]
    exact Act.setLocale_value_of_error hbacking h
  refine ⟨fun hgiven fault => ?_, fun fault h => Act.loadLocale_keeps_of_error hbacking hloader h,
    fun fault h => Act.loadAll_keeps_of_error hbacking hloader h,
    fun changed h => Act.setLocale_value_of_ok hbacking h,
    fun fault h => (hcause fault h).imp_left fun hwant => ⟨hwant, hkept fault hwant⟩⟩
  have hfails : switched.value = .error fault → wants fault := by
    intro h
    rcases hcause fault h with hwant | ⟨failure, raised, hmet, hask, -⟩
    · exact hwant
    · obtain ⟨text, htext⟩ := hgiven failure hmet
      rw [htext] at hask
      cases hask
  refine ⟨fun h => hkept fault (hfails h), hfails, fun hwant => ?_⟩
  exact Act.setLocale_value_of_wants run hbacking ((hwants fault).mp hwant)

/-- A manager for whose French file something is wrong, but only after the greeting. -/
def halfFrench : Managed where
  manager :=
    { loader := .files { path := ['d'], useCache := true }
      active := .enUS
      fallback := .enUS
      catalogs := .ofList
        [(.enUS, { locale := .enUS, strings := .ofList [("greet".toList, "Hello".toList)] })] }
  disk := .ofList
    [("fr-FR.yml".toList, .document (.dict
      [(.text "strings".toList, .dict [(.text "greet".toList, .text "Salut".toList)]),
        (.text "tables".toList, .dict [(.unwritable "no text".toList, .dict [])])]))]
  writable := true

/-- A renderer follows the locale and shows the greeting. -/
def greetingShown : World :=
  World.after 1
    [.onRenderer [] (.renderer "r".toList {}),
      .onRenderer [] (.setString "r".toList { key := "greet".toList })]
    { backing := .managed halfFrench, policy := [] }

theorem failed_change_keeps_halfFrench :
    let w : World := { greetingShown with backing := .managed halfFrench }
    let switched := (Act.setLocale (takeAll (take 1)) (.text "fr-FR".toList)).run w
    switched.value.isOk = false ∧
      (∃ loads, switched.state = { greetingShown with
        backing := .managed (halfFrench.withLoader { path := ['d'], useCache := true, loads }) }) ∧
      (∀ r ∈ switched.reports, r.isPublication = false) ∧
      (switched.state.renderers.get? 1).map (·.sink.history) = some ["Hello".toList] := by
  intro w switched
  have hfails : switched.value.isOk = false := by
    decide +kernel
  have hshown : (switched.state.renderers.get? 1).map (·.sink.history) = some ["Hello".toList] := by
    decide +kernel
  obtain ⟨hswitched, -⟩ :=
    failed_change_keeps (takeAll (take 1)) (w := w) (m := halfFrench) rfl rfl (.text "fr-FR".toList)
  have hgiven := hswitched fun failure _ => FailureTexts.usual_allGiven failure
  cases hvalue : switched.value with
  | ok changed =>
    rw [hvalue] at hfails
    cases hfails
  | error fault =>
    obtain ⟨hstate, hquiet⟩ := (hgiven fault).1 hvalue
    exact ⟨rfl, hstate, hquiet, hshown⟩

end Phrasebook.Script
