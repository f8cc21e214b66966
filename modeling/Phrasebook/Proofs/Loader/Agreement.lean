import Phrasebook.Proofs.Loader.Discovery

/-!
A load of all and the loads of single locales look for the same files, if a search lists what fits its
pattern. Both go by the names alone, and so find a file that cannot be opened.
-/

set_option autoImplicit false
set_option relaxedAutoImplicit false

namespace Phrasebook

namespace Directory

variable {d : Directory} {locale : Locale} {name : Text}

/-- The directory has an entry whose name fits a locale. -/
def Lists (d : Directory) (locale : Locale) : Prop := ∃ name ∈ d.keys, Fits locale name

private theorem mem_keys_iff : name ∈ d.keys ↔ ∃ content, d.get? name = some content := by
  constructor
  · intro h
    obtain ⟨⟨_, content⟩, hentry, rfl⟩ := List.mem_map.mp h
    exact ⟨content, Dict.mem_entries.mp hentry⟩
  · rintro ⟨content, hcontent⟩
    exact mem_keys_of_get? hcontent

section

variable [Globbing] (hlists : Globbing.ListsAll)

include hlists

private theorem mem_namesFor_iff_fits : name ∈ d.namesFor locale ↔ name ∈ d.keys ∧ Fits locale name := by
  simp only [mem_namesFor, belongsTo_iff_fits hlists, mem_keys_iff, exists_and_right]

private theorem lists_iff : d.Lists locale ↔ d.namesFor locale ≠ [] := by
  constructor
  · rintro ⟨name, hname, hfits⟩
    exact List.ne_nil_of_mem ((mem_namesFor_iff_fits hlists).mpr ⟨hname, hfits⟩)
  · intro hfiles
    obtain ⟨name, hname⟩ := List.exists_mem_of_ne_nil _ hfiles
    exact ⟨name, (mem_namesFor_iff_fits hlists).mp hname⟩

end

private theorem locales_eq_nil_iff : d.locales = [] ↔ ∀ locale, ¬ d.Lists locale := by
  rw [List.eq_nil_iff_forall_not_mem]
  exact forall_congr' fun locale => not_congr mem_locales

end Directory

namespace FileLoader

section

variable [Globbing] {disk : Directory} {locale : Locale} {loader : FileLoader} {fault : Fault}

private theorem answer_ne_noFiles (h : loader.answer disk locale = .error fault) (directory : Text) :
    fault ≠ .noFiles directory := by
  rcases editsOf_error_cases (editsOf_of_answer_error h) with
    ⟨-, rfl⟩ | ⟨name, -, -, rfl⟩ | ⟨path, rfl⟩ | rfl | ⟨cause, rfl⟩
  all_goals exact nofun

private theorem loadAll_noFiles_iff :
    (∃ directory, ((loadAll disk).run loader).value = .error (.noFiles directory)) ↔
      ∀ locale, ¬ disk.Lists locale := by
  rw [← Directory.locales_eq_nil_iff]
  rcases loadAll_cases disk loader with
    ⟨hnone, hvalue⟩ | ⟨hsome, ⟨result, -, hvalue, -⟩ | ⟨locale, fault, hstops, hvalue⟩⟩
  · exact iff_of_true ⟨loader.path, hvalue⟩ hnone
  · refine iff_of_false ?_ hsome
    rintro ⟨directory, h⟩
    rw [h] at hvalue
    cases hvalue
  · refine iff_of_false ?_ hsome
    rintro ⟨directory, h⟩
    rw [h] at hvalue
    exact answer_ne_noFiles hstops.answer directory (Except.error.inj hvalue).symm

private theorem loadAll_error_cases (h : ((loadAll disk).run loader).value = .error fault) :
    fault = .noFiles loader.path ∨
      ∃ locale, disk.Lists locale ∧ loader.answer disk locale = .error fault ∧
        fault.isMissingFile = false := by
  rcases loadAll_cases disk loader with
    ⟨-, hvalue⟩ | ⟨-, ⟨result, -, hvalue, -⟩ | ⟨locale, fault', hstops, hvalue⟩⟩
  · exact Or.inl (Except.error.inj (h.symm.trans hvalue))
  · rw [h] at hvalue
    cases hvalue
  · obtain rfl := Except.error.inj (h.symm.trans hvalue)
    exact Or.inr ⟨locale, Directory.mem_locales.mp hstops.mem, hstops.answer, hstops.present⟩

section

variable {result : Dict Locale Catalog} (h : ((loadAll disk).run loader).value = .ok result)
include h

private theorem loadAll_returns : loader.LoadsEach disk disk.locales ∅ result ∧
    ((loadEach disk disk.locales ∅).run loader).reports ⊆ ((loadAll disk).run loader).reports := by
  rcases loadAll_cases disk loader with
    ⟨-, hvalue⟩ | ⟨-, ⟨result', hreturns, hvalue, hreports⟩ | ⟨_, _, -, hvalue⟩⟩
  · rw [h] at hvalue
    cases hvalue
  · obtain rfl := Except.ok.inj (h.symm.trans hvalue)
    exact ⟨hreturns, hreports⟩
  · rw [h] at hvalue
    cases hvalue

private theorem get?_loadAll (locale : Locale) : (result.get? locale).map Catalog.unstamped =
    loader.found disk disk.locales locale := by
  obtain ⟨hreturns, -⟩ := loadAll_returns h
  rw [hreturns.result]
  exact Option.or_none

private theorem loadAll_gives {catalog : Catalog} (hcatalog : result.get? locale = some catalog) :
    disk.Lists locale ∧
      ∃ stamp, ((load disk locale).run loader).value = .ok { catalog with stamp } := by
  have hfound := get?_loadAll h locale
  rw [hcatalog, found] at hfound
  split_ifs at hfound with hmem
  · refine ⟨Directory.mem_locales.mp hmem, ?_⟩
    cases hvalue : ((load disk locale).run loader).value with
    | error fault =>
      rw [answer, hvalue] at hfound
      cases hfound
    | ok loaded =>
      rw [answer, hvalue] at hfound
      have hsame : loaded.unstamped = catalog.unstamped := (Option.some.inj hfound).symm
      obtain ⟨stamp, rfl⟩ := Catalog.exists_stamp_of_unstamped_eq hsame
      exact ⟨stamp, rfl⟩
  · cases hfound

private theorem loadAll_leaves_out (hlists : Globbing.ListsAll) (hlisted : disk.Lists locale)
    (hout : result.get? locale = none) :
    .couldNotLoadLocale locale ∈ ((loadAll disk).run loader).reports ∧
      ∃ name ∈ disk.namesFor locale, disk.get? name = some .dangling ∧
        ((load disk locale).run loader).value =
          .error (.vanished (Directory.pathOf loader.path name)) := by
  obtain ⟨hreturns, hreports⟩ := loadAll_returns h
  have hmem : locale ∈ disk.locales := Directory.mem_locales.mpr hlisted
  have hfound := get?_loadAll h locale
  rw [hout, found, if_pos hmem] at hfound
  cases hanswer : loader.answer disk locale with
  | ok catalog =>
    rw [hanswer] at hfound
    cases hfound
  | error fault =>
    obtain ⟨hmissing, hreported⟩ := hreturns.missing locale hmem fault hanswer
    refine ⟨hreports hreported, ?_⟩
    rcases answer_missing_cases hanswer hmissing with
      ⟨hnone, -⟩ | ⟨name, hname, hdangling, rfl⟩
    · exact absurd hnone ((Directory.lists_iff hlists).mp hlisted)
    · exact ⟨name, hname, hdangling, answer_eq_error_iff.mp hanswer⟩

end

open Directory (Fits tagPart?)

/-- A name fits a locale exactly if the locale is read from it, and it fits no other. Where a search lists
what fits its pattern, a load opens the files whose names fit its locale. A load of all tries the locales
that have such files, fails for lack of files exactly if no locale has, and gives for each of them what a
load of it gives. One that it leaves out has a file that cannot be opened. -/
theorem discovery_agrees (hlists : Globbing.ListsAll) (disk : Directory) (loader : FileLoader) :
    (∀ locale name, Fits locale name ↔ (tagPart? name).bind Locale.ofTag? = some locale) ∧
    (∀ locale locale' name, Fits locale name → Fits locale' name → locale = locale') ∧
    (∀ locale name, name ∈ disk.namesFor locale ↔ name ∈ disk.keys ∧ Fits locale name) ∧
    (∀ locale, (locale ∈ disk.locales ↔ disk.Lists locale) ∧
      (disk.Lists locale ↔ disk.namesFor locale ≠ [])) ∧
    let all := (loadAll disk).run loader
    let alone := fun locale => ((load disk locale).run loader).value
    ((∃ directory, all.value = .error (.noFiles directory)) ↔ ∀ locale, ¬ disk.Lists locale) ∧
    (∀ fault, all.value = .error fault → fault = .noFiles loader.path ∨
      ∃ locale, disk.Lists locale ∧ alone locale = .error fault ∧ fault.isMissingFile = false) ∧
    ∀ result, all.value = .ok result → ∀ locale,
      (∀ catalog, result.get? locale = some catalog →
        disk.Lists locale ∧ ∃ stamp, alone locale = .ok { catalog with stamp }) ∧
      (disk.Lists locale → result.get? locale = none →
        .couldNotLoadLocale locale ∈ all.reports ∧
          ∃ name ∈ disk.namesFor locale, disk.get? name = some .dangling ∧
            alone locale = .error (.vanished (Directory.pathOf loader.path name))) := by
  refine ⟨fun _ _ => Directory.fits_iff, fun _ _ _ => Fits.unique,
    fun _ _ => Directory.mem_namesFor_iff_fits hlists,
    fun _ => ⟨Directory.mem_locales, Directory.lists_iff hlists⟩, loadAll_noFiles_iff, ?_, ?_⟩
  · intro fault h
    obtain hnone | ⟨locale, hlisted, hanswer, hpresent⟩ := loadAll_error_cases h
    · exact Or.inl hnone
    · exact Or.inr ⟨locale, hlisted, answer_eq_error_iff.mp hanswer, hpresent⟩
  · intro result h locale
    exact ⟨fun catalog => loadAll_gives h, loadAll_leaves_out h hlists⟩

end

/-- A directory in which the only file of Spanish leads nowhere, and so does the name of French alone. -/
def adrift : Directory := .ofList
  [("fr-FR.yml".toList, .dangling), ("ui.es-ES.yml".toList, .dangling),
    ("de-DE.yml".toList, .document (.dict []))]

theorem discovery_agrees_adrift :
    let _ : Globbing := .listing
    let fresh : FileLoader := { path := ['d'], useCache := true }
    let all := (loadAll adrift).run fresh
    ∃ result catalog stamp, all.value = .ok result ∧ result.get? .deDE = some catalog ∧
      ((load adrift .deDE).run fresh).value = .ok { catalog with stamp } ∧
      .couldNotLoadLocale .frFR ∈ all.reports ∧
      ((load adrift .frFR).run fresh).value = .error (.vanished "d/fr-FR.yml".toList) ∧
      ((load adrift .esES).run fresh).value = .error (.vanished "d/ui.es-ES.yml".toList) := by
  intro search fresh all
  obtain ⟨-, -, -, hlisted, -, -, hgives⟩ := discovery_agrees rfl adrift fresh
  have hresult : all.value.toOption.map (fun result =>
      ((result.get? .deDE).isSome, (result.get? .frFR).isNone, (result.get? .esES).isNone)) =
        some (true, true, true) := by
    decide +kernel
  cases hvalue : all.value with
  | error fault =>
    rw [hvalue] at hresult
    cases hresult
  | ok result =>
    rw [hvalue] at hresult
    simp only [Except.toOption, Option.map_some, Option.some.injEq, Prod.mk.injEq,
      Option.isNone_iff_eq_none] at hresult
    obtain ⟨hgerman, hfrench, hspanish⟩ := hresult
    obtain ⟨catalog, hcatalog⟩ := Option.isSome_iff_exists.mp hgerman
    obtain ⟨-, stamp, hload⟩ := (hgives result hvalue .deDE).1 catalog hcatalog
    have hlists : adrift.Lists .frFR ∧ adrift.Lists .esES :=
      ⟨(hlisted .frFR).1.mp (by decide +kernel), (hlisted .esES).1.mp (by decide +kernel)⟩
    obtain ⟨hreported, name, hname, -, hvanished⟩ := (hgives result hvalue .frFR).2 hlists.1 hfrench
    obtain ⟨-, name', hname', -, hvanished'⟩ := (hgives result hvalue .esES).2 hlists.2 hspanish
    have hnames : adrift.namesFor .frFR = ["fr-FR.yml".toList] ∧
        adrift.namesFor .esES = ["ui.es-ES.yml".toList] := by
      decide +kernel
    rw [hnames.1, List.mem_singleton] at hname
    rw [hnames.2, List.mem_singleton] at hname'
    subst hname hname'
    exact ⟨result, catalog, stamp, rfl, hcatalog, hload, hreported, hvanished, hvanished'⟩

/-- A search that passes over the name of a locale alone where that leads nowhere does not find the file
for which a load of all tries the locale. -/
example : .frFR ∈ adrift.locales ∧ adrift.namesFor .frFR = [] := by
  decide +kernel

end FileLoader

end Phrasebook
