import Phrasebook.Loader.Files
import Phrasebook.Proofs.Loader.Directory

/-!
What loading gives and what it leaves behind. A catalog that is given, or kept for the next load, is
made of all files that its locale has in the directory, of each one as a whole and in the order of
their names.
-/

set_option autoImplicit false
set_option relaxedAutoImplicit false

namespace Phrasebook

/-- Documents merged into a catalog one after the other, each without a fault. -/
inductive Document.Merges (directory : Text) : List (Text × Value) → Catalog → Catalog → Prop
  | nil (c : Catalog) : Merges directory [] c c
  | cons {name : Text} {document : Value} {more : List (Text × Value)} {c c' : Catalog}
      (hadded : ((Document.addTo (Directory.pathOf directory name) document).run c).value = .ok ())
      (hmore : Merges directory more
        ((Document.addTo (Directory.pathOf directory name) document).run c).state c') :
      Merges directory ((name, document) :: more) c c'

/-- A catalog is what all files of a locale make together, merged in the order of their names. The
stamp it has been given does not count. -/
def Directory.Makes [Globbing] (directory : Text) (d : Directory) (locale : Locale) (catalog : Catalog) : Prop :=
  ∃ documents : List (Text × Value),
    documents ≠ [] ∧
    (documents.map Prod.fst).Pairwise (List.Lex (· < ·)) ∧
    (∀ name, name ∈ documents.map Prod.fst ↔
      ∃ content, d.get? name = some content ∧ belongsTo locale name content = true) ∧
    (∀ name document, (name, document) ∈ documents →
      ∃ content, d.get? name = some content ∧
        content.read (pathOf directory name) = .ok document) ∧
    ∃ stamp, Document.Merges directory documents { locale, stamp } catalog

namespace FileLoader

variable {directory : Text} {disk : Directory} {locale : Locale} {loader : FileLoader}

theorem addFile_run_of_error {name : Text} {fault : Fault}
    (h : ((disk.get? name).getD .dangling).read (Directory.pathOf directory name) = .error fault)
    (c : Catalog) : ((addFile directory disk name).run c).value = .error fault := by
  unfold addFile
  simp only [h]
  cases fault <;> rfl

theorem addFile_run_of_ok {name : Text} {document : Value}
    (h : ((disk.get? name).getD .dangling).read (Directory.pathOf directory name) = .ok document)
    (c : Catalog) :
    (addFile directory disk name).run c =
      let added := (Document.addTo (Directory.pathOf directory name) document).run c
      ⟨added.value.mapError .unreadable, added.state, added.reports⟩ := by
  unfold addFile
  simp only [h, ExceptT.run_mk, Effect.bind_apply]
  cases ((Document.addTo (Directory.pathOf directory name) document).run c).value <;>
    simp [Except.mapError]

private theorem addFile_ok {name : Text} {c : Catalog}
    (h : ((addFile directory disk name).run c).value = .ok ()) :
    let path := Directory.pathOf directory name
    ∃ content document, disk.get? name = some content ∧ content.read path = .ok document ∧
      ((Document.addTo path document).run c).value = .ok () ∧
      ((addFile directory disk name).run c).state = ((Document.addTo path document).run c).state := by
  intro path
  cases hread : ((disk.get? name).getD .dangling).read path with
  | error fault =>
    rw [addFile_run_of_error hread] at h
    cases h
  | ok document =>
    rw [addFile_run_of_ok hread] at h ⊢
    cases hcontent : disk.get? name with
    | none =>
      rw [hcontent] at hread
      cases hread
    | some content =>
      rw [hcontent] at hread
      refine ⟨content, document, rfl, hread, ?_, rfl⟩
      cases hadded : ((Document.addTo path document).run c).value with
      | ok _ => rfl
      | error fault =>
        simp only [path] at hadded
        simp [hadded, Except.mapError] at h

private theorem addFiles_ok {names : List Text} {c : Catalog}
    (h : ((addFiles directory disk names).run c).value = .ok ()) :
    ∃ documents : List (Text × Value), documents.map Prod.fst = names ∧
      (∀ name document, (name, document) ∈ documents →
        ∃ content, disk.get? name = some content ∧
          content.read (Directory.pathOf directory name) = .ok document) ∧
      Document.Merges directory documents c ((addFiles directory disk names).run c).state := by
  induction names generalizing c with
  | nil => exact ⟨[], rfl, by simp, .nil c⟩
  | cons name names ih =>
    have hcons : addFiles directory disk (name :: names) =
        (addFile directory disk name >>= fun _ => addFiles directory disk names) := rfl
    rw [hcons] at h ⊢
    cases hfirst : ((addFile directory disk name).run c).value with
    | error fault =>
      rw [Attempt.run_bind_of_error hfirst] at h
      cases h
    | ok _ =>
      rw [Attempt.run_bind_of_ok hfirst] at h ⊢
      obtain ⟨content, document, hcontent, hread, hadded, hstate⟩ := addFile_ok hfirst
      obtain ⟨documents, hnames, hdocuments, hmerges⟩ := ih h
      rw [hstate] at hmerges
      refine ⟨(name, document) :: documents, by simp [hnames], ?_, ?_⟩
      · intro other document' hmem
        rcases List.mem_cons.mp hmem with heq | hmem
        · cases heq
          exact ⟨content, hcontent, hread⟩
        · exact hdocuments other document' hmem
      · rw [hstate]
        exact .cons hadded hmerges

private theorem reporting_outcome {ε σ α : Type} (x : Attempt ε σ α) (about : α → Report) (s : σ) :
    let outcome := (do
      let a ← x
      Attempt.report (about a)
      return a : Attempt ε σ α).run s
    outcome.state = (x.run s).state ∧ outcome.value = (x.run s).value := by
  cases hvalue : (x.run s).value with
  | ok a =>
    rw [Attempt.run_bind_of_ok hvalue]
    exact ⟨rfl, rfl⟩
  | error e =>
    rw [Attempt.run_bind_of_error hvalue]
    exact ⟨rfl, rfl⟩

variable [Globbing]

theorem readFiles_outcome (disk : Directory) (locale : Locale) (loader : FileLoader) :
    let merged :=
      (addFiles loader.path disk (disk.namesFor locale)).run { locale, stamp := loader.loads }
    let outcome := (readFiles disk locale).run loader
    outcome.state = { loader with loads := loader.loads + 1 } ∧
      outcome.value =
        if (disk.namesFor locale).isEmpty then .error (.noFilesFor locale loader.path)
        else merged.value.map fun () => merged.state := by
  intro merged outcome
  have hrun : outcome = (readFiles disk locale).run loader := rfl
  unfold readFiles at hrun
  rw [Attempt.run_read_bind, Attempt.run_change_bind] at hrun
  by_cases hempty : (disk.namesFor locale).isEmpty = true
  · simp only [hempty, if_true] at hrun ⊢
    rw [hrun]
    exact ⟨rfl, rfl⟩
  · simp only [hempty, Bool.false_eq_true, if_false] at hrun ⊢
    rw [hrun]
    exact reporting_outcome _ _ _

private theorem makes_of_readFiles {catalog : Catalog}
    (h : ((readFiles disk locale).run loader).value = .ok catalog) :
    disk.Makes loader.path locale catalog := by
  rw [(readFiles_outcome disk locale loader).2] at h
  by_cases hempty : (disk.namesFor locale).isEmpty = true
  · rw [if_pos hempty] at h
    cases h
  · rw [if_neg hempty] at h
    cases hvalue : ((addFiles loader.path disk (disk.namesFor locale)).run
        { locale, stamp := loader.loads }).value with
    | error fault =>
      rw [hvalue] at h
      cases h
    | ok _ =>
      obtain ⟨documents, hnames, hdocuments, hmerges⟩ := addFiles_ok hvalue
      rw [hvalue] at h
      obtain rfl := Except.ok.inj h
      refine ⟨documents, ?_, ?_, ?_, hdocuments, loader.loads, hmerges⟩
      · rintro rfl
        rw [← hnames] at hempty
        exact hempty rfl
      · rw [hnames]
        exact disk.namesFor_pairwise locale
      · intro name
        rw [hnames]
        exact Directory.mem_namesFor

/-- A load gives what has been kept, or stops and keeps nothing, or gives what it has read from the
directory and keeps that if it may. -/
theorem load_cases (disk : Directory) (locale : Locale) (loader : FileLoader) :
    let outcome := (load disk locale).run loader
    (∃ catalog, loader.useCache = true ∧ loader.cache.get? locale = some catalog ∧
      outcome.value = .ok catalog ∧ outcome.state = loader) ∨
    (∃ fault, outcome.value = .error fault ∧
      outcome.state = { loader with loads := loader.loads + 1 }) ∨
    ∃ catalog, disk.Makes loader.path locale catalog ∧ outcome.value = .ok catalog ∧
      outcome.state = { loader with
        loads := loader.loads + 1
        cache := if loader.useCache then loader.cache.insert locale catalog else loader.cache } := by
  unfold load
  rw [Attempt.run_read_bind]
  cases hkept : if loader.useCache then loader.cache.get? locale else none with
  | some catalog =>
    left
    by_cases huse : loader.useCache = true
    · rw [if_pos huse] at hkept
      exact ⟨catalog, huse, hkept, rfl, rfl⟩
    · rw [if_neg huse] at hkept
      cases hkept
  | none =>
    right
    obtain ⟨hstate, -⟩ := readFiles_outcome disk locale loader
    cases hread : ((readFiles disk locale).run loader).value with
    | error fault =>
      left
      simp only [Attempt.run_bind_of_error hread]
      exact ⟨fault, rfl, hstate⟩
    | ok catalog =>
      right
      refine ⟨catalog, makes_of_readFiles hread, ?_⟩
      simp only [Attempt.run_bind_of_ok hread]
      by_cases huse : loader.useCache = true
      · simp [huse, hstate]
      · simp [huse, hstate]

theorem load_state_of_error {fault : Fault}
    (h : ((load disk locale).run loader).value = .error fault) :
    ((load disk locale).run loader).state = { loader with loads := loader.loads + 1 } := by
  rcases load_cases disk locale loader with
    ⟨catalog, -, -, hvalue, -⟩ | ⟨_, -, hstate⟩ | ⟨catalog, -, hvalue, -⟩
  · rw [hvalue] at h
    cases h
  · exact hstate
  · rw [hvalue] at h
    cases h

/-! ## Several locales

The first locale is given its catalog, is passed over for a missing file, or ends the load.
-/

section

variable {first : Locale}

private theorem outcome_load_run (disk : Directory) (first : Locale) (loader : FileLoader) :
    (Attempt.outcome (load disk first) : Loading _).run loader =
      let loaded := (load disk first).run loader
      ⟨.ok loaded.value, loaded.state, loaded.reports⟩ :=
  Attempt.run_lift _ _

theorem loadEach_run_of_ok {catalog : Catalog}
    (h : ((load disk first).run loader).value = .ok catalog) (locales : List Locale)
    (catalogs : Dict Locale Catalog) :
    (loadEach disk (first :: locales) catalogs).run loader =
      let loaded := (load disk first).run loader
      let more := (loadEach disk locales (catalogs.insert first catalog)).run loaded.state
      ⟨more.value, more.state, loaded.reports ++ more.reports⟩ := by
  rw [loadEach, Attempt.run_bind_of_run_eq (outcome_load_run disk first loader)]
  simp only [h]

theorem loadEach_run_of_missing {fault : Fault}
    (h : ((load disk first).run loader).value = .error fault) (hmissing : fault.isMissingFile = true)
    (locales : List Locale) (catalogs : Dict Locale Catalog) :
    (loadEach disk (first :: locales) catalogs).run loader =
      let loaded := (load disk first).run loader
      let more := (loadEach disk locales catalogs).run loaded.state
      ⟨more.value, more.state, (loaded.reports ++ [.couldNotLoadLocale first]) ++ more.reports⟩ := by
  rw [loadEach, Attempt.run_bind_of_run_eq (outcome_load_run disk first loader)]
  simp only [h, if_pos hmissing]
  rw [Attempt.run_bind_of_run_eq (Attempt.run_report _ _)]
  simp only [List.append_assoc]

theorem loadEach_run_of_error {fault : Fault}
    (h : ((load disk first).run loader).value = .error fault)
    (hmissing : fault.isMissingFile = false) (locales : List Locale)
    (catalogs : Dict Locale Catalog) :
    (loadEach disk (first :: locales) catalogs).run loader =
      let loaded := (load disk first).run loader
      ⟨.error fault, loaded.state, loaded.reports⟩ := by
  rw [loadEach, Attempt.run_bind_of_run_eq (outcome_load_run disk first loader)]
  simp only [h, hmissing, Bool.false_eq_true, if_false]
  exact congrArg (Outcome.mk _ _) (List.append_nil _)

end

omit [Globbing] in
private theorem exists_reports_of_unrecognized (names : List Text) (loader : FileLoader) :
    ∃ reports, (names.forM fun name => do
      Attempt.report (.skippedUnrecognizedFile (Directory.pathOf (← Attempt.read).path name)) :
        Loading PUnit).run loader = ⟨.ok (), loader, reports⟩ := by
  induction names with
  | nil => exact ⟨[], rfl⟩
  | cons name names ih =>
    obtain ⟨reports, hreports⟩ := ih
    refine ⟨.skippedUnrecognizedFile (Directory.pathOf loader.path name) :: reports, ?_⟩
    have hfirst : (do
        Attempt.report (.skippedUnrecognizedFile (Directory.pathOf (← Attempt.read).path name)) :
          Loading Unit).run loader =
        ⟨.ok (), loader, [.skippedUnrecognizedFile (Directory.pathOf loader.path name)]⟩ := rfl
    refine (Attempt.run_bind_of_run_eq hfirst _).trans ?_
    rw [hreports]
    rfl

/-- A load of all locales that takes those for which there are files in a given order. -/
def loadAllInOrder (disk : Directory) (order : List Locale) : Loading (Dict Locale Catalog) := do
  disk.unrecognized.forM fun name =>
    do Attempt.report (.skippedUnrecognizedFile (Directory.pathOf (← Attempt.read).path name))
  if order.isEmpty then throw (.noFiles (← Attempt.read).path)
  loadEach disk order ∅

theorem loadAllInOrder_locales (disk : Directory) :
    loadAllInOrder disk disk.locales = loadAll disk := rfl

theorem exists_loadAllInOrder_run (disk : Directory) (order : List Locale) (loader : FileLoader) :
    ∃ reports, (loadAllInOrder disk order).run loader =
      if order.isEmpty then ⟨.error (.noFiles loader.path), loader, reports⟩
      else
        let each := (loadEach disk order ∅).run loader
        ⟨each.value, each.state, reports ++ each.reports⟩ := by
  unfold loadAllInOrder
  obtain ⟨reports, hreported⟩ := exists_reports_of_unrecognized disk.unrecognized loader
  refine ⟨reports, ?_⟩
  rw [Attempt.run_bind_of_run_eq hreported]
  by_cases hempty : order.isEmpty = true
  · simp only [if_pos hempty]
    exact congrArg (Outcome.mk _ _) (List.append_nil _)
  · simp only [if_neg hempty]

/-- A loader for a directory, all of whose kept catalogs have a property. -/
structure Holds (directory : Text) (P : Locale → Catalog → Prop) (loader : FileLoader) : Prop where
  path : loader.path = directory
  cache : ∀ {locale catalog}, loader.cache.get? locale = some catalog → P locale catalog

namespace Holds

variable {P : Locale → Catalog → Prop}

theorem load (hmakes : ∀ {locale catalog}, disk.Makes directory locale catalog → P locale catalog)
    (h : loader.Holds directory P) (locale : Locale) :
    let outcome := (load disk locale).run loader
    outcome.state.Holds directory P ∧ ∀ {catalog}, outcome.value = .ok catalog → P locale catalog := by
  rcases load_cases disk locale loader with
    ⟨catalog, -, hkept, hvalue, hstate⟩ | ⟨fault, hvalue, hstate⟩ | ⟨catalog, hmade, hvalue, hstate⟩
  · simp only [hvalue, hstate]
    refine ⟨h, ?_⟩
    rintro _ ⟨⟩
    exact h.cache hkept
  · simp only [hvalue, hstate]
    exact ⟨⟨h.path, h.cache⟩, by rintro _ ⟨⟩⟩
  · have hnew : P locale catalog := hmakes (h.path ▸ hmade)
    simp only [hvalue, hstate]
    refine ⟨⟨h.path, ?_⟩, ?_⟩
    · intro other c hc
      split_ifs at hc
      · rcases Dict.get?_insert_eq_some.mp hc with ⟨rfl, rfl⟩ | ⟨-, hc⟩
        · exact hnew
        · exact h.cache hc
      · exact h.cache hc
    · rintro _ ⟨⟩
      exact hnew

private theorem loadEach
    (hmakes : ∀ {locale catalog}, disk.Makes directory locale catalog → P locale catalog)
    (h : loader.Holds directory P) (locales : List Locale) {catalogs : Dict Locale Catalog}
    (hcatalogs : ∀ {locale catalog}, catalogs.get? locale = some catalog → P locale catalog) :
    let outcome := (loadEach disk locales catalogs).run loader
    outcome.state.Holds directory P ∧ ∀ {result}, outcome.value = .ok result →
      ∀ {locale catalog}, result.get? locale = some catalog → P locale catalog := by
  induction locales generalizing loader catalogs with
  | nil =>
    refine ⟨h, ?_⟩
    rintro _ ⟨⟩
    exact hcatalogs
  | cons locale locales ih =>
    obtain ⟨hheld, hloaded⟩ := h.load hmakes locale
    cases hvalue : ((FileLoader.load disk locale).run loader).value with
    | ok catalog =>
      rw [loadEach_run_of_ok hvalue]
      refine ih hheld ?_
      intro other c hc
      rcases Dict.get?_insert_eq_some.mp hc with ⟨rfl, rfl⟩ | ⟨-, hc⟩
      · exact hloaded hvalue
      · exact hcatalogs hc
    | error fault =>
      by_cases hmissing : fault.isMissingFile = true
      · rw [loadEach_run_of_missing hvalue hmissing]
        exact ih hheld hcatalogs
      · rw [loadEach_run_of_error hvalue (eq_false_of_ne_true hmissing)]
        exact ⟨hheld, by rintro _ ⟨⟩⟩

theorem loadAll
    (hmakes : ∀ {locale catalog}, disk.Makes directory locale catalog → P locale catalog)
    (h : loader.Holds directory P) :
    let outcome := (loadAll disk).run loader
    outcome.state.Holds directory P ∧ ∀ {catalogs}, outcome.value = .ok catalogs →
      ∀ {locale catalog}, catalogs.get? locale = some catalog → P locale catalog := by
  obtain ⟨reports, hrun⟩ := exists_loadAllInOrder_run disk disk.locales loader
  rw [← loadAllInOrder_locales, hrun]
  by_cases hempty : disk.locales.isEmpty = true
  · rw [if_pos hempty]
    exact ⟨h, by rintro _ ⟨⟩⟩
  · rw [if_neg hempty]
    exact h.loadEach hmakes disk.locales (by rintro _ _ ⟨⟩)

end Holds

end FileLoader

end Phrasebook
