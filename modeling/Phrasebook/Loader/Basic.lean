import Phrasebook.Loader.Files

/-!
Loaders: where a manager gets its catalogs from, which is a directory of translation files or a store
in memory.
-/

set_option autoImplicit false
set_option relaxedAutoImplicit false

namespace Phrasebook

/-- A store of catalogs in memory that remembers which locales were asked for. -/
structure MemoryLoader where
  catalogs : Dict Locale Catalog
  calls : List Locale := []

/-- A source of catalogs. -/
inductive Loader where
  | files (loader : FileLoader)
  | memory (loader : MemoryLoader)

namespace Loader

variable [Globbing]

def load (disk : Directory) (locale : Locale) : Attempt Fault Loader Catalog :=
  ExceptT.mk fun
    | files loader =>
      let outcome := (FileLoader.load disk locale).run loader
      ⟨outcome.value, files outcome.state, outcome.reports⟩
    | memory loader =>
      ⟨(loader.catalogs.get? locale).elim (.error (.noCatalog locale)) .ok,
        memory { loader with calls := loader.calls ++ [locale] }, []⟩

def loadAll (disk : Directory) : Attempt Fault Loader (Dict Locale Catalog) :=
  ExceptT.mk fun
    | files loader =>
      let outcome := (FileLoader.loadAll disk).run loader
      ⟨outcome.value, files outcome.state, outcome.reports⟩
    | memory loader => ⟨.ok loader.catalogs, memory loader, []⟩

/-- Forgets what was kept for the next load; a store in memory keeps nothing apart. -/
def clearCache : Effect Loader Unit := fun
  | files loader =>
    let outcome := FileLoader.clearCache loader
    ⟨(), files outcome.state, outcome.reports⟩
  | memory loader => ⟨(), memory loader, []⟩

def cached : Loader → List Locale
  | files loader => loader.cache.keys
  | memory _ => []

def usesCache : Loader → Bool
  | files loader => loader.useCache
  | memory _ => false

def calls : Loader → List Locale
  | files _ => []
  | memory loader => loader.calls

def edit (stamp : Nat) (change : Catalog → Catalog) : Loader → Loader
  | files loader => files { loader with cache := loader.cache.mapValues (editOne stamp change) }
  | memory loader =>
    memory { loader with catalogs := loader.catalogs.mapValues (editOne stamp change) }
where
  editOne (stamp : Nat) (change : Catalog → Catalog) (c : Catalog) : Catalog :=
    if c.stamp = stamp then change c else c

end Loader

end Phrasebook
