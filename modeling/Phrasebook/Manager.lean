import Phrasebook.Loader.Basic
import Phrasebook.Template.Render

/-!
The manager of the active locale and of the loaded catalogs. What the catalog of the active locale
does not have is looked up in that of the fallback locale.
-/

set_option autoImplicit false
set_option relaxedAutoImplicit false

namespace Phrasebook

open Template (Row)

/-- The active locale, the fallback locale, and the catalogs loaded so far. -/
structure Manager where
  loader : Loader
  active : Locale
  fallback : Locale
  catalogs : Dict Locale Catalog := ∅

namespace Manager

abbrev Managing := Attempt Fault Manager

variable [Globbing]

def withLoader {α : Type} (x : Attempt Fault Loader α) : Managing α :=
  x.within Manager.loader fun loader manager => { manager with loader }

def create (loader : Loader) (active fallback : Locale) : Attempt Fault PUnit Manager := do
  Attempt.report (.initializedLocaleManager active fallback)
  return { loader, active, fallback }

/-- Loads the catalogs of all locales in place of those loaded before. -/
def loadAll (disk : Directory) : Managing Unit := do
  let catalogs ← withLoader (Loader.loadAll disk)
  Attempt.change fun manager => { manager with catalogs }
  Attempt.report (.loadedAllTranslations catalogs.size)

def loadLocale (disk : Directory) (locale : Locale) : Managing Unit := do
  let catalog ← withLoader (Loader.load disk locale)
  Attempt.change fun manager =>
    { manager with catalogs := manager.catalogs.insert locale catalog }
  Attempt.report (.loadedLocaleTranslations locale)

/-- Drops all catalogs and loads them again. -/
def reload (disk : Directory) : Managing Unit := do
  withLoader (ExceptT.lift Loader.clearCache)
  Attempt.change fun manager => { manager with catalogs := ∅ }
  loadAll disk
  Attempt.report .reloadedAllTranslations

/-- Makes another locale the active one, after loading its catalog if that has not been done, and
gives the locale that was active before. -/
def activate (disk : Directory) (locale : Locale) : Managing Locale := do
  unless (← Attempt.read).catalogs.contains locale do loadLocale disk locale
  let previous := (← Attempt.read).active
  Attempt.change fun manager => { manager with active := locale }
  Attempt.report (.localeChanged locale previous)
  return previous

variable {α : Type}

def find (m : Manager) (locale : Locale) (look : Catalog → Option α) : Option α :=
  (m.catalogs.get? locale).bind look

/-- What the catalog of the active locale has, else that of the fallback locale, which is
reported. -/
def lookUp (m : Manager) (look : Catalog → Option α) (key : Text) : Option α × List Report :=
  match m.find m.active look with
  | some found => (some found, [])
  | none =>
    if m.active = m.fallback then (none, [])
    else
      match m.find m.fallback look with
      | some found => (some found, [.usedFallbackTranslation key m.active m.fallback])
      | none => (none, [])

def template? (m : Manager) (key : Text) : Option Text × List Report :=
  m.lookUp (·.template? key) key

def row? (m : Manager) (lookupKey : Text) : Option Row × List Report :=
  m.lookUp (·.row? lookupKey) lookupKey

def hasTemplate (m : Manager) (locale : Locale) (key : Text) : Bool :=
  (m.catalogs.get? locale).any (·.hasTemplate key)

/-- A change made to the loaded catalog of a locale wherever that is held. -/
def edit (m : Manager) (catalog : Catalog) (change : Catalog → Catalog) : Manager :=
  { m with
    catalogs := m.catalogs.mapValues (Loader.edit.editOne catalog.stamp change)
    loader := m.loader.edit catalog.stamp change }

/-- The manager as a source of templates and rows over a state that holds it. -/
def source {σ : Type} (manager : σ → Manager) : Source σ where
  template key := fun s =>
    let (found, reports) := (manager s).template? key
    ⟨found.elim (.error (.notFound (some (manager s).active.tag))) .ok, s, reports⟩
  row lookupKey := fun s =>
    let (found, reports) := (manager s).row? lookupKey
    ⟨.ok found, s, reports⟩

end Manager

end Phrasebook
