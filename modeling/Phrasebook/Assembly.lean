import Phrasebook.Manager
import Phrasebook.Settings.Basic

/-!
Putting a manager together: what the caller does not ask for is taken from the settings.
-/

set_option autoImplicit false
set_option relaxedAutoImplicit false

namespace Phrasebook

/-- What a caller asks for in place of the settings. -/
structure Wishes where
  directory : Option Text := none
  active : Option Locale := none
  fallback : Option Locale := none
  useCache : Option Bool := none
  /-- Whether the catalogs of all locales are loaded at once. -/
  preload : Bool := true

namespace Manager

def chosenLocale (wish : Option Locale) (tag : Text) : Except Fault Locale :=
  wish.elim (Value.text tag).asLocale .ok

/-- A manager over a directory of translation files, which is looked for by its path. -/
def assemble [Globbing] (settings : LocalizationSettings) (wishes : Wishes)
    (directoryAt : Text → Option Directory) : Attempt Fault PUnit Manager := do
  let path := wishes.directory.getD settings.directory
  let active ← Attempt.ofExcept (chosenLocale wishes.active settings.defaultLocale)
  let fallback ← Attempt.ofExcept (chosenLocale wishes.fallback settings.fallbackLocale)
  let disk := directoryAt path
  let loader ← FileLoader.create path (wishes.useCache.getD settings.useCache) disk
  let manager ← create (.files loader) active fallback
  if wishes.preload then
    let manager ← Attempt.building manager (loadAll (disk.getD ∅))
    Attempt.report (.managerCreatedWithPreload path manager.catalogs.size)
    return manager
  else
    Attempt.report (.managerCreatedLazy path)
    return manager

end Manager

end Phrasebook
