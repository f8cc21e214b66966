import Phrasebook.Proofs.Loader.Edits

/-!
What a loader answers for a locale, stamps aside. A load of one locale changes no answer, so what comes
of a load of several can be told from what the loader answers before it.
-/

set_option autoImplicit false
set_option relaxedAutoImplicit false

namespace Phrasebook

/-- The catalog without a mark of the load that it came from. -/
def Catalog.unstamped (c : Catalog) : Catalog := { c with stamp := 0 }

theorem Catalog.exists_stamp_of_unstamped_eq {c c' : Catalog} (h : c.unstamped = c'.unstamped) :
    ∃ stamp, c = { c' with stamp } := by
  obtain ⟨locale, strings, tables, stamp⟩ := c
  obtain ⟨rfl, rfl, rfl, -⟩ := Catalog.mk.inj h
  exact ⟨stamp, rfl⟩

namespace FileLoader

variable {disk : Directory} {locale other : Locale} {loader loader' : FileLoader} {fault : Fault}

/-- The catalog that a loader gives without reading the files. -/
def kept? (loader : FileLoader) (locale : Locale) : Option Catalog :=
  if loader.useCache then loader.cache.get? locale else none

theorem hasNone_iff : loader.HasNone locale ↔ loader.kept? locale = none := by
  rw [HasNone, kept?]
  split_ifs with huse
  · exact forall_prop_of_true huse
  · exact iff_of_true (fun h => absurd h huse) rfl

variable [Globbing]

/-- What a load of a locale gives, but for the stamp. -/
def answer (loader : FileLoader) (disk : Directory) (locale : Locale) : Except Fault Catalog :=
  ((load disk locale).run loader).value.map Catalog.unstamped

theorem answer_of_none (h : loader.kept? locale = none) (disk : Directory) :
    loader.answer disk locale =
      (editsOf loader.path disk locale).map (Edit.applyAll { locale }) := by
  rw [answer, load_value (hasNone_iff.mpr h)]
  cases editsOf loader.path disk locale with
  | error fault => rfl
  | ok es =>
    have hstamp : (Edit.applyAll { locale, stamp := loader.loads } es).unstamped =
        Edit.applyAll { locale } es :=
      (Edit.applyAll_stamp { locale, stamp := loader.loads } 0 es).symm
    exact congrArg Except.ok hstamp

private theorem answer_of_some {catalog : Catalog} (h : loader.kept? locale = some catalog)
    (disk : Directory) : loader.answer disk locale = .ok catalog.unstamped := by
  rw [kept?] at h
  unfold answer load
  rw [Attempt.run_read_bind, h]
  rfl

private theorem answer_congr (hpath : loader.path = loader'.path)
    (hkept : loader.kept? locale = loader'.kept? locale) (disk : Directory) :
    loader.answer disk locale = loader'.answer disk locale := by
  cases h : loader'.kept? locale with
  | none => rw [answer_of_none h, answer_of_none (hkept.trans h), hpath]
  | some catalog => rw [answer_of_some h, answer_of_some (hkept.trans h)]

theorem answer_eq_error_iff :
    loader.answer disk locale = .error fault ↔
      ((load disk locale).run loader).value = .error fault := by
  rw [answer]
  cases ((load disk locale).run loader).value with
  | error fault' => exact Iff.rfl
  | ok catalog => exact iff_of_false nofun nofun

theorem kept?_eq_none_of_error (h : loader.answer disk locale = .error fault) :
    loader.kept? locale = none := by
  cases hkept : loader.kept? locale with
  | none => rfl
  | some catalog =>
    rw [answer_of_some hkept] at h
    cases h

private theorem answer_after_load (disk : Directory) (other : Locale) (loader : FileLoader) (locale : Locale) :
    ((load disk other).run loader).state.answer disk locale = loader.answer disk locale := by
  rcases load_cases disk other loader with
    ⟨catalog, -, -, -, hstate⟩ | ⟨fault, -, hstate⟩ | ⟨catalog, -, hvalue, hstate⟩
  · rw [hstate]
  · rw [hstate]
    apply answer_congr
    · rfl
    · rfl
  · by_cases hsame : loader.useCache = true ∧ locale = other
    · obtain ⟨huse, rfl⟩ := hsame
      have hkept : ((load disk locale).run loader).state.kept? locale = some catalog := by
        rw [hstate, kept?, if_pos huse, if_pos huse, Dict.get?_insert_self]
      rw [answer_of_some hkept, answer, hvalue]
      rfl
    · rw [hstate]
      apply answer_congr
      · rfl
      · rw [kept?, kept?]
        dsimp only
        split_ifs with huse
        · rw [Dict.get?_insert, if_neg fun h => hsame ⟨huse, h⟩]
        · rfl

/-- What a loader answers for a locale if it is one of several and there is a catalog of it. -/
def found (loader : FileLoader) (disk : Directory) (locales : List Locale) (locale : Locale) :
    Option Catalog :=
  if locale ∈ locales then (loader.answer disk locale).toOption else none

private theorem found_cons (first : Locale) (locales : List Locale) (locale : Locale) :
    loader.found disk (first :: locales) locale =
      (loader.found disk locales locale).or (loader.found disk [first] locale) := by
  by_cases hfirst : locale = first
  · subst hfirst
    by_cases hmem : locale ∈ locales
    · simp [found, hmem]
    · simp [found, hmem]
  · by_cases hmem : locale ∈ locales
    · simp [found, hmem, hfirst]
    · simp [found, hmem, hfirst]

private theorem found_of_load_error (h : ((load disk other).run loader).value = .error fault)
    (locale : Locale) : loader.found disk [other] locale = none := by
  rw [found]
  split_ifs with hmem
  · obtain rfl := List.mem_singleton.mp hmem
    rw [answer_eq_error_iff.mpr h]
    rfl
  · rfl

private theorem get?_insert_of_load {catalog : Catalog}
    (h : ((load disk other).run loader).value = .ok catalog) (catalogs : Dict Locale Catalog)
    (locale : Locale) :
    ((catalogs.insert other catalog).get? locale).map Catalog.unstamped =
      (loader.found disk [other] locale).or ((catalogs.get? locale).map Catalog.unstamped) := by
  rw [found, Dict.get?_insert]
  by_cases hsame : locale = other
  · subst hsame
    rw [if_pos rfl, if_pos (List.mem_singleton_self locale), answer, h]
    rfl
  · rw [if_neg hsame, if_neg (mt List.mem_singleton.mp hsame), Option.none_or]

private theorem get?_cache_after_load (disk : Directory) (other : Locale) (loader : FileLoader)
    (locale : Locale) :
    ((((load disk other).run loader).state.cache.get? locale).map Catalog.unstamped) =
      (if loader.useCache then loader.found disk [other] locale else none).or
        ((loader.cache.get? locale).map Catalog.unstamped) := by
  rcases load_cases disk other loader with
    ⟨catalog, huse, hkept, hvalue, hstate⟩ | ⟨fault, hvalue, hstate⟩ | ⟨catalog, -, hvalue, hstate⟩
  · -- what is kept stays, and is what the loader answers
    rw [hstate, if_pos huse, ← get?_insert_of_load hvalue, Dict.insert_of_get? hkept]
  · rw [hstate, found_of_load_error hvalue, ite_self, Option.none_or]
  · rw [hstate]
    dsimp only
    split_ifs with huse
    · exact get?_insert_of_load hvalue loader.cache locale
    · rw [Option.none_or]

/-- A load of several locales that returns has added to some catalogs what the loader answered for
each of the locales, and has passed over those that it answered with a missing file. -/
structure LoadsEach (loader : FileLoader) (disk : Directory) (locales : List Locale)
    (catalogs result : Dict Locale Catalog) : Prop where
  value : ((loadEach disk locales catalogs).run loader).value = .ok result
  missing : ∀ locale ∈ locales, ∀ fault, loader.answer disk locale = .error fault →
    fault.isMissingFile = true ∧
      .couldNotLoadLocale locale ∈ ((loadEach disk locales catalogs).run loader).reports
  result : ∀ locale, (result.get? locale).map Catalog.unstamped =
    (loader.found disk locales locale).or ((catalogs.get? locale).map Catalog.unstamped)
  cache : ∀ locale,
    (((loadEach disk locales catalogs).run loader).state.cache.get? locale).map Catalog.unstamped =
      (if loader.useCache then loader.found disk locales locale else none).or
        ((loader.cache.get? locale).map Catalog.unstamped)

private theorem LoadsEach.cons {first : Locale} {locales : List Locale}
    {catalogs catalogs' result : Dict Locale Catalog} {reports : List Report}
    (h : ((load disk first).run loader).state.LoadsEach disk locales catalogs' result)
    (hrun : (loadEach disk (first :: locales) catalogs).run loader =
      let more := (loadEach disk locales catalogs').run ((load disk first).run loader).state
      ⟨more.value, more.state, reports ++ more.reports⟩)
    (hfirst : ∀ fault, loader.answer disk first = .error fault →
      fault.isMissingFile = true ∧ .couldNotLoadLocale first ∈ reports)
    (hadded : ∀ locale, (catalogs'.get? locale).map Catalog.unstamped =
      (loader.found disk [first] locale).or ((catalogs.get? locale).map Catalog.unstamped)) :
    loader.LoadsEach disk (first :: locales) catalogs result := by
  have hanswer : ∀ locale,
      ((load disk first).run loader).state.answer disk locale = loader.answer disk locale :=
    answer_after_load disk first loader
  have hfound : ∀ locale, ((load disk first).run loader).state.found disk locales locale =
      loader.found disk locales locale := by
    intro locale
    rw [found, found, hanswer]
  have huse : ((load disk first).run loader).state.useCache = loader.useCache := by
    rcases load_cases disk first loader with
      ⟨_, -, -, -, hstate⟩ | ⟨_, -, hstate⟩ | ⟨_, -, -, hstate⟩ <;> rw [hstate]
  refine ⟨?_, ?_, ?_, ?_⟩
  · rw [hrun]
    exact h.value
  · intro locale hlocale fault hfault
    rw [hrun]
    rcases List.mem_cons.mp hlocale with rfl | hlocale
    · obtain ⟨hmissing, hreported⟩ := hfirst fault hfault
      exact ⟨hmissing, List.mem_append_left _ hreported⟩
    · obtain ⟨hmissing, hreported⟩ := h.missing locale hlocale fault ((hanswer locale).trans hfault)
      exact ⟨hmissing, List.mem_append_right _ hreported⟩
  · intro locale
    rw [h.result, hfound, hadded, found_cons first locales, Option.or_assoc]
  · intro locale
    rw [hrun, h.cache, huse, hfound, get?_cache_after_load]
    split_ifs
    · rw [found_cons first locales, Option.or_assoc]
    · rfl

/-- A load of several locales stops at one that cannot be loaded for another reason than that a file is
missing. -/
structure StopsAt (loader : FileLoader) (disk : Directory) (locales : List Locale)
    (catalogs : Dict Locale Catalog) (locale : Locale) (fault : Fault) : Prop where
  mem : locale ∈ locales
  answer : loader.answer disk locale = .error fault
  present : fault.isMissingFile = false
  value : ((loadEach disk locales catalogs).run loader).value = .error fault

private theorem StopsAt.cons {first : Locale} {locales : List Locale} {catalogs catalogs' : Dict Locale Catalog}
    (h : ((load disk first).run loader).state.StopsAt disk locales catalogs' locale fault)
    (hvalue : ((loadEach disk (first :: locales) catalogs).run loader).value =
      ((loadEach disk locales catalogs').run ((load disk first).run loader).state).value) :
    loader.StopsAt disk (first :: locales) catalogs locale fault :=
  ⟨List.mem_cons_of_mem _ h.mem, (answer_after_load disk first loader locale).symm.trans h.answer,
    h.present, hvalue.trans h.value⟩

theorem loadEach_cases (disk : Directory) (locales : List Locale) (catalogs : Dict Locale Catalog)
    (loader : FileLoader) :
    (∃ result, loader.LoadsEach disk locales catalogs result) ∨
      ∃ locale fault, loader.StopsAt disk locales catalogs locale fault := by
  induction locales generalizing loader catalogs with
  | nil =>
    left
    refine ⟨catalogs, rfl, nofun, ?_, ?_⟩
    · intro locale
      simp [found]
    · intro locale
      simp [found, loadEach]
  | cons first locales ih =>
    cases hvalue : ((load disk first).run loader).value with
    | ok catalog =>
      have hrun := loadEach_run_of_ok hvalue locales catalogs
      rcases ih (catalogs.insert first catalog) ((load disk first).run loader).state with
        ⟨result, hresult⟩ | ⟨locale, fault, hstops⟩
      · left
        refine ⟨result, hresult.cons hrun ?_ (get?_insert_of_load hvalue catalogs)⟩
        intro fault hfault
        rw [answer_eq_error_iff, hvalue] at hfault
        cases hfault
      · exact Or.inr ⟨locale, fault, hstops.cons (by rw [hrun])⟩
    | error fault =>
      by_cases hmissing : fault.isMissingFile = true
      · have hrun := loadEach_run_of_missing hvalue hmissing locales catalogs
        rcases ih catalogs ((load disk first).run loader).state with
          ⟨result, hresult⟩ | ⟨locale, fault', hstops⟩
        · left
          refine ⟨result, hresult.cons hrun ?_ ?_⟩
          · intro fault' hfault
            rw [answer_eq_error_iff, hvalue] at hfault
            cases hfault
            exact ⟨hmissing, List.mem_append_right _ (List.mem_singleton_self _)⟩
          · intro locale
            rw [found_of_load_error hvalue, Option.none_or]
        · exact Or.inr ⟨locale, fault', hstops.cons (by rw [hrun])⟩
      · have hpresent := eq_false_of_ne_true hmissing
        refine Or.inr ⟨first, fault, List.mem_cons_self, answer_eq_error_iff.mpr hvalue, hpresent, ?_⟩
        rw [loadEach_run_of_error hvalue hpresent]

end FileLoader

end Phrasebook
