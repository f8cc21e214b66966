import Phrasebook.Assembly
import Phrasebook.Bundled
import Phrasebook.Script.Run
import Phrasebook.Settings.Path

/-!
Setting up the world of a script that works on a manager, and running the script in it.
-/

set_option autoImplicit false
set_option relaxedAutoImplicit false

namespace Phrasebook.Script

/-- Where the manager of a script comes from. -/
inductive Origin
  | memory
  | files
  /-- The settings, where the script asks for nothing else. -/
  | assembly
  | settings
  deriving DecidableEq, Repr

structure Setup where
  origin : Origin
  /-- The settings given to the localization. -/
  settings : Dict Text Value := ∅
  catalogs : Dict Locale Catalog := ∅
  /-- The files of the script, if their directory is there. -/
  disk : Option Directory := none
  defaultLocale : Option Value := none
  fallbackLocale : Option Value := none
  useCache : Option Bool := none
  preload : Bool := true
  /-- Whether an assembly is told to read the files of the script. -/
  passDirectory : Bool := false
  /-- The policy for missing templates; the empty text counts as none. -/
  policy : Option Text := none

namespace Setup

def directory : Text := "<dir>".toList

def directoryAt (s : Setup) (path : Text) : Option Directory :=
  if path = directory then s.disk
  else if path = LocalizationSettings.bundled then some Bundled.directory
  else if Settings.Path.isAncestor path then some ∅
  else none

def store (s : Setup) : MemoryLoader where
  catalogs := .ofList (s.catalogs.entries.mapIdx fun i (locale, catalog) =>
    (locale, { catalog with stamp := i }))

def given (locale : Option Value) : Attempt Fault PUnit (Option Locale) :=
  Attempt.ofExcept (locale.mapM Value.asLocale)

def localization (s : Setup) : Attempt Fault PUnit LocalizationSettings :=
  Attempt.ofExcept
    ((LocalizationSettings.ofSources { given := s.settings }).mapError (.invalidSettings ∘ .misfits))

def wishes (s : Setup) : Attempt Fault PUnit Wishes := do
  return {
    directory := if s.passDirectory then some directory else none
    active := ← given s.defaultLocale
    fallback := ← given s.fallbackLocale
    useCache := s.useCache
    preload := s.preload }

def loader (s : Setup) : Attempt Fault PUnit Loader := do
  match s.origin with
  | .memory => return .memory s.store
  | _ => return .files (← FileLoader.create directory (s.useCache.getD true) s.disk)

def ownManager (s : Setup) : Attempt Fault PUnit Manager := do
  let active ← given s.defaultLocale
  let fallback ← given s.fallbackLocale
  let manager ← Manager.create (← s.loader) (active.getD .enUS) (fallback.getD .enUS)
  if s.preload then Attempt.building manager (Manager.loadAll (s.disk.getD ∅)) else return manager

/-- The manager of a script, and the settings of the localization. Only an assembly needs the settings
for the manager; else they are read after it is made. -/
def manager (s : Setup) : Attempt Fault PUnit (Manager × LocalizationSettings) := do
  match s.origin with
  | .memory | .files =>
    let manager ← s.ownManager
    return (manager, ← s.localization)
  | .assembly =>
    let settings ← s.localization
    return (← Manager.assemble settings (← s.wishes) s.directoryAt, settings)
  | .settings =>
    let settings ← s.localization
    return (← Manager.assemble settings {} s.directoryAt, settings)

/-- The directory that a manager reads, and whether it is that of the script. -/
def managed (s : Setup) (manager : Manager) : Managed :=
  match manager.loader with
  | .memory _ => { manager, writable := true }
  | .files loader =>
    { manager
      disk := (s.directoryAt loader.path).getD ∅
      writable := loader.path = directory }

def world (s : Setup) : Attempt Fault PUnit World := do
  let (manager, settings) ← s.manager
  let policy := match s.policy with
    | none | some [] => settings.policy
    | some policy => policy
  return { backing := .managed (s.managed manager), policy }

end Setup

/-- Sets up the world of a script and takes its steps; the first record is that of the setup. Without
a world no step is taken. -/
def runSession (setup : Setup) (steps : List Step) : List Record :=
  let outcome := setup.world.run ⟨⟩
  let name := "setup".toList
  let record (answer : Except Fault Answer) : Record :=
    { step := name, answer, happenings := [], entries := entriesOf name outcome.reports }
  match outcome.value with
  | .error fault => [record (.error fault)]
  | .ok world => record (.ok .nothing) :: runScript steps world

end Phrasebook.Script
