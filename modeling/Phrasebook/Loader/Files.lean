import Phrasebook.Fault
import Phrasebook.Loader.Directory
import Phrasebook.Loader.Document
import Phrasebook.Yaml.Load

/-!
Loading catalogs from a directory of translation files. All files of a locale are merged in the order
of their names; a catalog is kept for the next load only once all of them have been read.
-/

set_option autoImplicit false
set_option relaxedAutoImplicit false

namespace Phrasebook

def FileContent.read (path : Text) : FileContent → Except Fault Value
  | dangling => .error (.vanished path)
  | document value => .ok value
  | bytes content =>
    match Yaml.load content with
    | .ok none => .ok .none
    | .ok (some graph) => .ok (Document.ofGraph graph)
    | .error .malformed | .error .unclosed => .error (.unparsable path)
    | .error .undecodable => .error .undecodable
    | .error (.unreadable cause) => .error (.unreadable cause)

/-- A loader of translation files. -/
structure FileLoader where
  path : Text
  useCache : Bool
  cache : Dict Locale Catalog := ∅
  loads : Nat := 0

namespace FileLoader

abbrev Loading := Attempt Fault FileLoader

variable [Globbing]

def addFile (directory : Text) (disk : Directory) (name : Text) : Attempt Fault Catalog Unit := do
  let path := Directory.pathOf directory name
  match ((disk.get? name).getD .dangling).read path with
  | .ok value =>
    ExceptT.mk do
      match ← (Document.addTo path value).run with
      | .ok () => return .ok ()
      | .error cause => return .error (.unreadable cause)
  | .error fault =>
    if let .unparsable _ := fault then Attempt.report (.parseFailed path)
    throw fault

def addFiles (directory : Text) (disk : Directory) (names : List Text) :
    Attempt Fault Catalog Unit :=
  names.forM (addFile directory disk)

def readFiles (disk : Directory) (locale : Locale) : Loading Catalog := do
  let loader ← Attempt.read
  Attempt.change fun loader => { loader with loads := loader.loads + 1 }
  let names := disk.namesFor locale
  if names.isEmpty then throw (.noFilesFor locale loader.path)
  let blank : Catalog := { locale, stamp := loader.loads }
  let catalog ← Attempt.building blank (addFiles loader.path disk names)
  Attempt.report
    (.loadedTranslations locale names.length catalog.strings.size catalog.tables.size)
  return catalog

/-- The catalog of a locale, from the cache if it may be used and has it. -/
def load (disk : Directory) (locale : Locale) : Loading Catalog := do
  let loader ← Attempt.read
  match if loader.useCache then loader.cache.get? locale else none with
  | some catalog =>
    Attempt.report (.loadedFromCache locale)
    return catalog
  | none =>
    let catalog ← readFiles disk locale
    if loader.useCache then
      Attempt.change fun loader => { loader with cache := loader.cache.insert locale catalog }
    return catalog

/-- The catalogs of several locales. A locale of which a file is missing is reported and left out. -/
def loadEach (disk : Directory) : List Locale → Dict Locale Catalog → Loading (Dict Locale Catalog)
  | [], catalogs => return catalogs
  | locale :: locales, catalogs => do
    match ← (load disk locale).outcome with
    | .ok catalog => loadEach disk locales (catalogs.insert locale catalog)
    | .error fault =>
      if fault.isMissingFile then
        Attempt.report (.couldNotLoadLocale locale)
        loadEach disk locales catalogs
      else throw fault

def loadAll (disk : Directory) : Loading (Dict Locale Catalog) := do
  disk.unrecognized.forM fun name =>
    do Attempt.report (.skippedUnrecognizedFile (Directory.pathOf (← Attempt.read).path name))
  if disk.locales.isEmpty then throw (.noFiles (← Attempt.read).path)
  loadEach disk disk.locales ∅

def clearCache : Effect FileLoader Unit := do
  Effect.change fun loader => { loader with cache := ∅ }
  Effect.report .clearedTranslationCache

def create (path : Text) (useCache : Bool) (disk : Option Directory) :
    Attempt Fault PUnit FileLoader := do
  if disk.isNone then throw (.noDirectory path)
  Attempt.report (.initializedLoader path useCache)
  return { path, useCache }

end FileLoader

end Phrasebook
