import Phrasebook.Manager
import Phrasebook.Proofs.Loader.Quiet

/-!
What loading does to a manager. The catalogs of the manager change only by a load that succeeds.
-/

set_option autoImplicit false
set_option relaxedAutoImplicit false

namespace Phrasebook.Manager

variable {disk : Directory} {locale : Locale} {m : Manager} {fault : Fault}

theorem run_withLoader {α : Type} (x : Attempt Fault Loader α) (m : Manager) :
    (withLoader x).run m =
      ⟨(x.run m.loader).value, { m with loader := (x.run m.loader).state },
        (x.run m.loader).reports⟩ := rfl

private theorem withLoader_bind_of_error {α β : Type} {x : Attempt Fault Loader α}
    (h : (x.run m.loader).value = .error fault) (f : α → Managing β) :
    (withLoader x >>= f).run m =
      ⟨.error fault, { m with loader := (x.run m.loader).state }, (x.run m.loader).reports⟩ := by
  have hvalue : ((withLoader x).run m).value = .error fault := h
  rw [Attempt.run_bind_of_error hvalue, run_withLoader]

private theorem withLoader_bind_of_ok {α β : Type} {x : Attempt Fault Loader α} {a : α}
    (h : (x.run m.loader).value = .ok a) (f : α → Managing β) :
    (withLoader x >>= f).run m =
      let next := (f a).run { m with loader := (x.run m.loader).state }
      ⟨next.value, next.state, (x.run m.loader).reports ++ next.reports⟩ := by
  have hvalue : ((withLoader x).run m).value = .ok a := h
  rw [Attempt.run_bind_of_ok hvalue, run_withLoader]

theorem withLoader_bind_state {α β : Type} (x : Attempt Fault Loader α) {f : α → Managing β}
    (hf : ∀ a m, ((f a).run m).state = m) (m : Manager) :
    ((withLoader x >>= f).run m).state = { m with loader := (x.run m.loader).state } := by
  cases hvalue : (x.run m.loader).value with
  | error fault => rw [withLoader_bind_of_error hvalue]
  | ok a =>
    rw [withLoader_bind_of_ok hvalue]
    exact hf a _

variable [Globbing]

theorem loadLocale_run_of_error
    (h : ((Loader.load disk locale).run m.loader).value = .error fault) :
    (loadLocale disk locale).run m =
      let loaded := (Loader.load disk locale).run m.loader
      ⟨.error fault, { m with loader := loaded.state }, loaded.reports⟩ := by
  unfold loadLocale
  rw [withLoader_bind_of_error h]

theorem loadLocale_run_of_ok {catalog : Catalog}
    (h : ((Loader.load disk locale).run m.loader).value = .ok catalog) :
    (loadLocale disk locale).run m =
      let loaded := (Loader.load disk locale).run m.loader
      ⟨.ok (),
        { m with loader := loaded.state, catalogs := m.catalogs.insert locale catalog },
        loaded.reports ++ [.loadedLocaleTranslations locale]⟩ := by
  unfold loadLocale
  rw [withLoader_bind_of_ok h]
  rfl

theorem loadAll_run_of_error (h : ((Loader.loadAll disk).run m.loader).value = .error fault) :
    (loadAll disk).run m =
      let loaded := (Loader.loadAll disk).run m.loader
      ⟨.error fault, { m with loader := loaded.state }, loaded.reports⟩ := by
  unfold loadAll
  rw [withLoader_bind_of_error h]

theorem loadAll_run_of_ok {catalogs : Dict Locale Catalog}
    (h : ((Loader.loadAll disk).run m.loader).value = .ok catalogs) :
    (loadAll disk).run m =
      let loaded := (Loader.loadAll disk).run m.loader
      ⟨.ok (), { m with loader := loaded.state, catalogs },
        loaded.reports ++ [.loadedAllTranslations catalogs.size]⟩ := by
  unfold loadAll
  rw [withLoader_bind_of_ok h]
  rfl

/-- The manager with nothing loaded and nothing kept for the next load. -/
def emptied (m : Manager) : Manager :=
  { m with loader := (Loader.clearCache m.loader).state, catalogs := ∅ }

/-- To reload is to forget everything first and then to load all locales. -/
theorem reload_outcome (disk : Directory) (m : Manager) :
    ((reload disk).run m).value = ((loadAll disk).run m.emptied).value ∧
      ((reload disk).run m).state = ((loadAll disk).run m.emptied).state := by
  have hcleared : (withLoader (ExceptT.lift Loader.clearCache)).run m =
      ⟨.ok (), { m with loader := (Loader.clearCache m.loader).state },
        (Loader.clearCache m.loader).reports⟩ := by
    rw [run_withLoader, Attempt.run_lift]
  unfold reload
  rw [Attempt.run_bind_of_run_eq hcleared, Attempt.run_change_bind]
  change (((loadAll disk) >>= fun _ => _).run m.emptied).value = _ ∧
    (((loadAll disk) >>= fun _ => _).run m.emptied).state = _
  cases hvalue : ((loadAll disk).run m.emptied).value with
  | error fault =>
    rw [Attempt.run_bind_of_error hvalue]
    exact ⟨rfl, rfl⟩
  | ok _ =>
    rw [Attempt.run_bind_of_ok hvalue]
    exact ⟨rfl, rfl⟩

theorem activate_run_of_contains (h : m.catalogs.contains locale = true) :
    (activate disk locale).run m =
      ⟨.ok m.active, { m with active := locale }, [.localeChanged locale m.active]⟩ := by
  unfold activate
  rw [Attempt.run_read_bind, if_pos h]
  rfl

theorem activate_run_of_error (h : ¬ m.catalogs.contains locale = true)
    (hload : ((Loader.load disk locale).run m.loader).value = .error fault) :
    (activate disk locale).run m =
      let loaded := (Loader.load disk locale).run m.loader
      ⟨.error fault, { m with loader := loaded.state }, loaded.reports⟩ := by
  have hvalue : ((loadLocale disk locale).run m).value = .error fault := by
    rw [loadLocale_run_of_error hload]
  unfold activate
  rw [Attempt.run_read_bind, if_neg h, Attempt.run_bind_of_error hvalue,
    loadLocale_run_of_error hload]

theorem activate_run_of_ok {catalog : Catalog} (h : ¬ m.catalogs.contains locale = true)
    (hload : ((Loader.load disk locale).run m.loader).value = .ok catalog) :
    (activate disk locale).run m =
      let loaded := (Loader.load disk locale).run m.loader
      ⟨.ok m.active,
        { m with
          loader := loaded.state
          active := locale
          catalogs := m.catalogs.insert locale catalog },
        loaded.reports ++ [.loadedLocaleTranslations locale] ++ [.localeChanged locale m.active]⟩ := by
  unfold activate
  rw [Attempt.run_read_bind, if_neg h, Attempt.run_bind_of_run_eq (loadLocale_run_of_ok hload)]
  rfl

theorem activate_value_eq_error_iff :
    ((activate disk locale).run m).value = .error fault ↔
      ¬ m.catalogs.contains locale = true ∧
        ((Loader.load disk locale).run m.loader).value = .error fault := by
  by_cases hcontains : m.catalogs.contains locale = true
  · simp [activate_run_of_contains hcontains, hcontains]
  · cases hload : ((Loader.load disk locale).run m.loader).value with
    | error fault' => simp [activate_run_of_error hcontains hload, hcontains]
    | ok catalog => simp [activate_run_of_ok hcontains hload]

theorem activate_of_ok {previous : Locale}
    (h : ((activate disk locale).run m).value = .ok previous) :
    previous = m.active ∧ ((activate disk locale).run m).state.active = locale := by
  by_cases hcontains : m.catalogs.contains locale = true
  · rw [activate_run_of_contains hcontains] at h ⊢
    exact ⟨(Except.ok.inj h).symm, rfl⟩
  · cases hload : ((Loader.load disk locale).run m.loader).value with
    | error fault =>
      rw [activate_run_of_error hcontains hload] at h
      cases h
    | ok catalog =>
      rw [activate_run_of_ok hcontains hload] at h ⊢
      exact ⟨(Except.ok.inj h).symm, rfl⟩

theorem load_state_of_error {loader : FileLoader} (hloader : m.loader = .files loader)
    (h : ((Loader.load disk locale).run m.loader).value = .error fault) :
    ((Loader.load disk locale).run m.loader).state =
      .files { loader with loads := loader.loads + 1 } := by
  rw [hloader] at h ⊢
  exact congrArg Loader.files (FileLoader.load_state_of_error h)

theorem quiet_loadLocale (disk : Directory) (locale : Locale) :
    Attempt.Quiet (loadLocale disk locale) :=
  (Attempt.Quiet.within (Loader.quiet_load disk locale) _ _).bind fun _ =>
    (Attempt.Quiet.change _).bind fun _ => .report rfl

theorem quiet_activate (disk : Directory) (locale : Locale) :
    Attempt.Quiet (activate disk locale) := by
  have hswitch : Attempt.Quiet (do
      let previous := (← Attempt.read).active
      Attempt.change fun manager => { manager with active := locale }
      Attempt.report (.localeChanged locale previous)
      return previous : Managing Locale) :=
    Attempt.Quiet.read.bind fun _ => (Attempt.Quiet.change _).bind fun _ =>
      (Attempt.Quiet.report rfl).bind fun _ => .pure _
  refine Attempt.Quiet.read.bind fun m => ?_
  split
  · exact hswitch
  · exact (quiet_loadLocale disk locale).bind fun _ => hswitch

end Phrasebook.Manager
