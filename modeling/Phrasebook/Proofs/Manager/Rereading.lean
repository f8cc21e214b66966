import Phrasebook.Proofs.Loader.Discovery
import Phrasebook.Proofs.Manager.Holding

/-!
A reload that succeeds. What the manager holds afterwards is what the directory makes now, and nothing
of what it or its loader held before.
-/

set_option autoImplicit false
set_option relaxedAutoImplicit false

namespace Phrasebook

private theorem Directory.Makes.load [Globbing] {directory : Text} {d : Directory} {locale : Locale} {catalog : Catalog}
    (h : d.Makes directory locale catalog) (loads : Nat) :
    ((FileLoader.load d locale).run { path := directory, useCache := false, loads }).value =
      .ok { catalog with stamp := loads } := by
  obtain ⟨documents, hne, hsorted, hnames, hread, stamp, hmerges⟩ := h
  obtain ⟨es, hedits, rfl⟩ := hmerges.exists_edits
  have hnone : FileLoader.HasNone { path := directory, useCache := false, loads } locale := nofun
  rw [FileLoader.load_value hnone, FileLoader.editsOf_of_reads hne ⟨hsorted, hnames, hread⟩, hedits]
  exact congrArg Except.ok (Edit.applyAll_stamp { locale, stamp } loads es)

namespace Manager

section

variable [Globbing] {disk : Directory} {m : Manager} {loader : FileLoader}

private theorem reload_makes (hloader : m.loader = .files loader) {locale : Locale} {catalog : Catalog}
    (h : ((reload disk).run m).state.catalogs.get? locale = some catalog) :
    disk.Makes loader.path locale catalog := by
  have hheld : m.Holds loader.path (fun _ _ => True) fun _ _ => True := by
    refine ⟨?_, fun _ => trivial⟩
    rw [hloader]
    exact ⟨rfl, fun _ => trivial⟩
  have hmade : ((reload disk).run m).state.Holds loader.path (disk.Makes loader.path)
      (disk.Makes loader.path) := hheld.reload id
  exact hmade.catalogs h

private theorem reload_contains (hloader : m.loader = .files loader)
    (h : ((reload disk).run m).value = .ok ()) {locale : Locale} (hopens : disk.Opens locale) :
    ((reload disk).run m).state.catalogs.contains locale = true := by
  obtain ⟨hvalue, hstate⟩ := reload_outcome disk m
  rw [hvalue] at h
  rw [hstate]
  have hemptied : m.emptied.loader = .files (FileLoader.clearCache loader).state := by
    rw [emptied, hloader]
    rfl
  cases hload : ((Loader.loadAll disk).run m.emptied.loader).value with
  | error fault =>
    rw [loadAll_run_of_error hload] at h
    cases h
  | ok catalogs =>
    rw [loadAll_run_of_ok hload]
    rw [hemptied] at hload
    exact FileLoader.loadAll_contains hload hopens

/-- Whatever a manager and its loader held before, a reload that succeeds leaves exactly the locales
that have files all of which can be opened, each with the catalog that a loader without a cache reads
from the directory. The files are those whose names fit the locale, if a search lists what fits its
pattern. -/
theorem reload_shows_directory (hlists : Globbing.ListsAll) (hloader : m.loader = .files loader)
    (h : ((reload disk).run m).value = .ok ()) (locale : Locale) :
    let after := ((reload disk).run m).state
    let fresh : FileLoader := { path := loader.path, useCache := false }
    (after.catalogs.contains locale = true ↔
      (∃ name content, disk.get? name = some content ∧ Directory.Fits locale name) ∧
      ∀ name content, disk.get? name = some content → Directory.Fits locale name →
        Directory.isThere content = true) ∧
    ∀ catalog, after.catalogs.get? locale = some catalog →
      ∃ stamp, ((FileLoader.load disk locale).run fresh).value = .ok { catalog with stamp } := by
  intro after fresh
  rw [← Directory.opens_iff_fits hlists]
  refine ⟨⟨?_, reload_contains hloader h⟩, ?_⟩
  · intro hcontains
    obtain ⟨catalog, hcatalog⟩ := Option.isSome_iff_exists.mp hcontains
    exact (reload_makes hloader hcatalog).opens
  · intro catalog hcatalog
    exact ⟨0, (reload_makes hloader hcatalog).load 0⟩

end

private theorem eq_ok_of_isOk {ε : Type} {result : Except ε Unit} (h : result.isOk = true) :
    result = .ok () := by
  cases result with
  | ok _ => rfl
  | error fault => cases h

private def greetingDocument (text : String) : FileContent :=
  .document (.dict [(.text "strings".toList, .dict [(.text "greet".toList, .text text.toList)])])

/-- A manager that holds the greetings of files that have since been changed, and whose loader has kept
one of them. -/
def overtaken : Manager where
  loader := .files
    { path := ['d'], useCache := true, cache := .ofList [(.enUS, greetingOf .enUS "Hello")] }
  active := .frFR
  fallback := .enUS
  catalogs := .ofList [(.enUS, greetingOf .enUS "Hello"), (.frFR, greetingOf .frFR "Bonjour")]
where
  greetingOf (locale : Locale) (text : String) : Catalog :=
    { locale, strings := .ofList [("greet".toList, text.toList)] }

/-- A directory in which English greets anew, German has come in, and French leads nowhere. -/
def overhauled : Directory := .ofList
  [("en-US.yml".toList, greetingDocument "Hi"), ("ui.de-DE.yml".toList, greetingDocument "Hallo"),
    ("fr-FR.yml".toList, .dangling)]

theorem reload_shows_overhauled :
    let _ : Globbing := .listing
    let after := ((reload overhauled).run overtaken).state
    ((reload overhauled).run overtaken).value.isOk = true ∧
      after.catalogs.contains .enUS = true ∧ after.catalogs.contains .frFR = false ∧
      after.catalogs.contains .deDE = true ∧
      ∀ catalog, after.catalogs.get? .enUS = some catalog →
        catalog.template? "greet".toList = some "Hi".toList := by
  intro search after
  have hok : ((reload overhauled).run overtaken).value.isOk = true := by
    decide +kernel
  have hshown := fun locale =>
    reload_shows_directory (m := overtaken) rfl rfl (eq_ok_of_isOk hok) locale
  have hopens : ∀ locale, after.catalogs.contains locale = true ↔ overhauled.Opens locale :=
    fun locale => (hshown locale).1.trans (Directory.opens_iff_fits rfl).symm
  refine ⟨hok, (hopens .enUS).mpr (by decide +kernel), ?_, (hopens .deDE).mpr (by decide +kernel), ?_⟩
  · have hfrench : ¬ overhauled.Opens .frFR := by
      decide +kernel
    exact eq_false_of_ne_true (mt (hopens .frFR).mp hfrench)
  · intro catalog hcatalog
    obtain ⟨stamp, hload⟩ := (hshown .enUS).2 catalog hcatalog
    have hgreeting : ((FileLoader.load overhauled .enUS).run
        { path := ['d'], useCache := false }).value.toOption.bind
          (fun c => c.template? "greet".toList) = some "Hi".toList := by
      decide +kernel
    rw [hload] at hgreeting
    exact hgreeting

/-- With a search that passes over the name of a locale alone where that leads nowhere, English comes in
although one of its files cannot be opened. -/
example :
    let disk : Directory := .ofList
      [("en-US.yml".toList, .dangling), ("ui.en-US.yml".toList, greetingDocument "Hello")]
    ((reload disk).run overtaken).state.catalogs.contains .enUS = true := by
  decide +kernel

end Manager

end Phrasebook
