import Phrasebook.Proofs.Manager.Loading

/-!
What a manager and its loader hold. Every catalog among it has come out of a complete load, so what is
true of all that the directory makes is true of all that is held.
-/

set_option autoImplicit false
set_option relaxedAutoImplicit false

namespace Phrasebook

variable {directory : Text} {disk : Directory} {P P' Q Q' : Locale → Catalog → Prop}

/-- A loader of files from a directory, all of whose kept catalogs have a property. -/
def Loader.Holds (directory : Text) (P : Locale → Catalog → Prop) : Loader → Prop
  | .files loader => loader.Holds directory P
  | .memory _ => False

namespace Loader.Holds

variable {l : Loader}

private theorem weaken (hP : ∀ {locale catalog}, P locale catalog → P' locale catalog)
    (h : l.Holds directory P) : l.Holds directory P' := by
  cases l with
  | files loader => exact ⟨h.path, fun hkept => hP (h.cache hkept)⟩
  | memory loader => exact h.elim

theorem load [Globbing]
    (hmakes : ∀ {locale catalog}, disk.Makes directory locale catalog → P locale catalog)
    (h : l.Holds directory P) (locale : Locale) :
    let outcome := (load disk locale).run l
    outcome.state.Holds directory P ∧ ∀ {catalog}, outcome.value = .ok catalog → P locale catalog := by
  cases l with
  | files loader => exact FileLoader.Holds.load hmakes h locale
  | memory loader => exact h.elim

theorem loadAll [Globbing]
    (hmakes : ∀ {locale catalog}, disk.Makes directory locale catalog → P locale catalog)
    (h : l.Holds directory P) :
    let outcome := (loadAll disk).run l
    outcome.state.Holds directory P ∧ ∀ {catalogs}, outcome.value = .ok catalogs →
      ∀ {locale catalog}, catalogs.get? locale = some catalog → P locale catalog := by
  cases l with
  | files loader => exact FileLoader.Holds.loadAll hmakes h
  | memory loader => exact h.elim

theorem clearCache (h : l.Holds directory P) : (clearCache l).state.Holds directory P' := by
  cases l with
  | files loader => exact ⟨h.path, nofun⟩
  | memory loader => exact h.elim

end Loader.Holds

/-- All catalogs that the loader of a manager keeps have one property, and those of the manager itself
have another. -/
structure Manager.Holds (directory : Text) (P Q : Locale → Catalog → Prop) (m : Manager) : Prop where
  loader : m.loader.Holds directory P
  catalogs : ∀ {locale catalog}, m.catalogs.get? locale = some catalog → Q locale catalog

namespace Manager.Holds

variable {m : Manager}

theorem weaken (hP : ∀ {locale catalog}, P locale catalog → P' locale catalog)
    (hQ : ∀ {locale catalog}, Q locale catalog → Q' locale catalog) (h : m.Holds directory P Q) :
    m.Holds directory P' Q' :=
  ⟨h.loader.weaken hP, fun hheld => hQ (h.catalogs hheld)⟩

private theorem insert {locale : Locale} {catalog : Catalog} (h : m.Holds directory P Q)
    (hnew : Q locale catalog) :
    { m with catalogs := m.catalogs.insert locale catalog }.Holds directory P Q := by
  refine ⟨h.loader, ?_⟩
  intro other c hc
  rcases Dict.get?_insert_eq_some.mp hc with ⟨rfl, rfl⟩ | ⟨-, hc⟩
  · exact hnew
  · exact h.catalogs hc

variable [Globbing]

section

variable (hmakes : ∀ {locale catalog}, disk.Makes directory locale catalog → P locale catalog)
  (hPQ : ∀ {locale catalog}, P locale catalog → Q locale catalog)

include hmakes hPQ

theorem loadLocale (h : m.Holds directory P Q) (locale : Locale) :
    ((loadLocale disk locale).run m).state.Holds directory P Q := by
  obtain ⟨hloader, hloaded⟩ := h.loader.load hmakes locale
  have hkept : { m with loader := ((Loader.load disk locale).run m.loader).state }.Holds
      directory P Q := ⟨hloader, h.catalogs⟩
  cases hvalue : ((Loader.load disk locale).run m.loader).value with
  | error fault =>
    rw [loadLocale_run_of_error hvalue]
    exact hkept
  | ok catalog =>
    rw [loadLocale_run_of_ok hvalue]
    exact hkept.insert (hPQ (hloaded hvalue))

theorem loadAll (h : m.Holds directory P Q) :
    ((loadAll disk).run m).state.Holds directory P Q := by
  obtain ⟨hloader, hloaded⟩ := h.loader.loadAll hmakes
  cases hvalue : ((Loader.loadAll disk).run m.loader).value with
  | error fault =>
    rw [loadAll_run_of_error hvalue]
    exact ⟨hloader, h.catalogs⟩
  | ok catalogs =>
    rw [loadAll_run_of_ok hvalue]
    exact ⟨hloader, fun hc => hPQ (hloaded hvalue hc)⟩

theorem activate (h : m.Holds directory P Q) (locale : Locale) :
    ((activate disk locale).run m).state.Holds directory P Q := by
  by_cases hcontains : m.catalogs.contains locale = true
  · rw [activate_run_of_contains hcontains]
    exact ⟨h.loader, h.catalogs⟩
  · obtain ⟨hloader, hloaded⟩ := h.loader.load hmakes locale
    have hkept : { m with loader := ((Loader.load disk locale).run m.loader).state }.Holds
        directory P Q := ⟨hloader, h.catalogs⟩
    cases hvalue : ((Loader.load disk locale).run m.loader).value with
    | error fault =>
      rw [activate_run_of_error hcontains hvalue]
      exact hkept
    | ok catalog =>
      rw [activate_run_of_ok hcontains hvalue]
      have hinserted := hkept.insert (hPQ (hloaded hvalue))
      exact ⟨hinserted.loader, hinserted.catalogs⟩

end

theorem reload (hmakes : ∀ {locale catalog}, disk.Makes directory locale catalog → P' locale catalog)
    (h : m.Holds directory P Q) : ((reload disk).run m).state.Holds directory P' P' := by
  have hemptied : m.emptied.Holds directory P' P' := ⟨h.loader.clearCache, nofun⟩
  rw [(reload_outcome disk m).2]
  exact hemptied.loadAll hmakes id

end Manager.Holds

end Phrasebook
