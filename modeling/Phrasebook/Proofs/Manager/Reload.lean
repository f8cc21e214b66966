import Phrasebook.Proofs.Manager.Loading

/-!
A reload that fails. It has forgotten all catalogs by then, so it leaves nothing to look up.
-/

set_option autoImplicit false
set_option relaxedAutoImplicit false

namespace Phrasebook.Manager

private theorem lookUp_of_catalogs_eq_empty {α : Type} {m : Manager} (h : m.catalogs = ∅)
    (look : Catalog → Option α) (key : Text) : m.lookUp look key = (none, []) := by
  have hfind : ∀ locale, m.find locale look = none := by
    intro locale
    rw [find, h]
    rfl
  simp [lookUp, hfind]

/-- After a reload that fails there is no catalog left, whatever made it fail, so no template and no
row is found; the catalogs are what they were only if there were none. The locales stay. -/
theorem reload_error [Globbing] {disk : Directory} {m : Manager} {fault : Fault}
    (h : ((reload disk).run m).value = .error fault) :
    let after := ((reload disk).run m).state
    after.active = m.active ∧ after.fallback = m.fallback ∧ after.catalogs = ∅ ∧
      (∀ key, after.template? key = (none, [])) ∧ (∀ lookupKey, after.row? lookupKey = (none, [])) ∧
      (after.catalogs = m.catalogs ↔ m.catalogs = ∅) := by
  obtain ⟨hvalue, hstate⟩ := reload_outcome disk m
  rw [hvalue] at h
  have hleft : ∃ loader, ((reload disk).run m).state = { m with loader, catalogs := ∅ } := by
    rw [hstate]
    cases hload : ((Loader.loadAll disk).run m.emptied.loader).value with
    | error fault =>
      rw [loadAll_run_of_error hload]
      exact ⟨_, rfl⟩
    | ok catalogs =>
      rw [loadAll_run_of_ok hload] at h
      cases h
  obtain ⟨loader, hafter⟩ := hleft
  simp only [hafter]
  refine ⟨trivial, trivial, trivial, fun key => lookUp_of_catalogs_eq_empty rfl _ key,
    fun lookupKey => lookUp_of_catalogs_eq_empty rfl _ lookupKey, eq_comm⟩

/-- A manager with the greeting of a file that has since been spoilt. -/
def greeting : Manager where
  loader := .files { path := ['d'], useCache := true }
  active := .enUS
  fallback := .enUS
  catalogs := .ofList
    [(.enUS, { locale := .enUS, strings := .ofList [("greet".toList, "Hello".toList)] })]

/-- A directory whose only file has a syntax error. -/
def spoilt : Directory := .ofList [("en-US.yml".toList, .bytes "strings: [".toUTF8.toList)]

private theorem exists_reload_spoilt_error :
    ∃ fault, ((reload spoilt).run greeting).value = .error fault := by
  have hfails : ((reload spoilt).run greeting).value.isOk = false := by
    decide +kernel
  cases hvalue : ((reload spoilt).run greeting).value with
  | error fault => exact ⟨fault, rfl⟩
  | ok _ =>
    rw [hvalue] at hfails
    cases hfails

theorem reload_error_spoilt :
    let after := ((reload spoilt).run greeting).state
    ((reload spoilt).run greeting).value.isOk = false ∧ after.catalogs = ∅ ∧
      (greeting.template? "greet".toList).1 = some "Hello".toList ∧
      after.template? "greet".toList = (none, []) := by
  obtain ⟨fault, hfault⟩ := exists_reload_spoilt_error
  obtain ⟨-, -, hcatalogs, htemplate, -⟩ := reload_error hfault
  refine ⟨?_, hcatalogs, by decide +kernel, htemplate _⟩
  rw [hfault]
  rfl

/-- A reload that fails need not leave the catalogs as they were. -/
theorem not_reload_keeps_catalogs :
    ¬ ∀ (disk : Directory) (m : Manager) (fault : Fault),
      ((reload disk).run m).value = .error fault →
        ((reload disk).run m).state.catalogs = m.catalogs := by
  intro h
  obtain ⟨fault, hfault⟩ := exists_reload_spoilt_error
  have hkept : ((reload spoilt).run greeting).state.catalogs.size = 1 := by
    rw [h spoilt greeting fault hfault]
    rfl
  have hlost : ((reload spoilt).run greeting).state.catalogs.size = 0 := by
    decide +kernel
  rw [hlost] at hkept
  cases hkept

end Phrasebook.Manager
