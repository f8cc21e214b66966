import Phrasebook.Proofs.Dict.Order
import Phrasebook.Proofs.Loader.Answers

/-!
Loading does not depend on the order in which a directory is listed, nor on the order in which the
locales are taken for which there are files.
-/

set_option autoImplicit false
set_option relaxedAutoImplicit false

namespace Phrasebook

variable {d d' : Directory}

namespace Directory

private theorem namesFor_congr [Globbing] (h : ∀ name, d.get? name = d'.get? name) (locale : Locale) :
    d.namesFor locale = d'.namesFor locale := by
  refine namesFor_eq (d'.namesFor_pairwise locale) fun name => ?_
  rw [mem_namesFor, h]

private theorem mem_locales_congr (h : d.keys.Perm d'.keys) (locale : Locale) :
    locale ∈ d.locales ↔ locale ∈ d'.locales := by
  rw [mem_locales, mem_locales]
  simp only [h.mem_iff]

end Directory

namespace FileLoader

private theorem addFile_congr (h : ∀ name, d.get? name = d'.get? name) (directory : Text) :
    addFile directory d = addFile directory d' := by
  funext name
  unfold addFile
  rw [h]

private theorem load_congr [Globbing] (h : ∀ name, d.get? name = d'.get? name) (locale : Locale) :
    load d locale = load d' locale := by
  have hread : readFiles d locale = readFiles d' locale := by
    unfold readFiles addFiles
    simp only [Directory.namesFor_congr h, addFile_congr h]
  unfold load
  rw [hread]

private theorem answer_congr_disk [Globbing] (h : ∀ name, d.get? name = d'.get? name) (loader : FileLoader)
    (locale : Locale) : loader.answer d locale = loader.answer d' locale := by
  rw [answer, answer, load_congr h]

section

variable [Globbing] {loader : FileLoader} {locales locales' : List Locale} {result result' : Dict Locale Catalog}

private theorem LoadsEach.not_stopsAt (h : loader.LoadsEach d locales ∅ result)
    (hget : ∀ name, d.get? name = d'.get? name) (hmem : ∀ locale, locale ∈ locales ↔ locale ∈ locales')
    {locale : Locale} {fault : Fault} : ¬ loader.StopsAt d' locales' ∅ locale fault := by
  intro hstops
  have hanswer : loader.answer d locale = .error fault :=
    (answer_congr_disk hget loader locale).trans hstops.answer
  obtain ⟨hmissing, -⟩ := h.missing locale ((hmem locale).mpr hstops.mem) fault hanswer
  rw [hstops.present] at hmissing
  cases hmissing

private theorem LoadsEach.agree (h : loader.LoadsEach d locales ∅ result)
    (h' : loader.LoadsEach d' locales' ∅ result') (hget : ∀ name, d.get? name = d'.get? name)
    (hmem : ∀ locale, locale ∈ locales ↔ locale ∈ locales') (locale : Locale) :
    (result.get? locale).map Catalog.unstamped = (result'.get? locale).map Catalog.unstamped ∧
      (((loadEach d locales ∅).run loader).state.cache.get? locale).map Catalog.unstamped =
        (((loadEach d' locales' ∅).run loader).state.cache.get? locale).map Catalog.unstamped := by
  have hfound : loader.found d locales locale = loader.found d' locales' locale := by
    rw [found, found, answer_congr_disk hget loader locale]
    simp only [hmem]
  refine ⟨?_, ?_⟩
  · rw [h.result, h'.result, hfound]
  · rw [h.cache, h'.cache, hfound]

end

/-- However a directory is listed, a load of one locale does the same. And in whatever order the locales
are taken that are found in it, a load of all gives the same catalogs and keeps the same, but for the
stamps, or stops in either order. -/
theorem load_order_irrelevant [Globbing] (hlisted : d.entries.Perm d'.entries) {order order' : List Locale}
    (horder : order.Perm d.locales) (horder' : order'.Perm d'.locales) (loader : FileLoader) :
    loadAllInOrder d d.locales = loadAll d ∧
    (∀ locale, (load d locale).run loader = (load d' locale).run loader) ∧
    let first := (loadAllInOrder d order).run loader
    let second := (loadAllInOrder d' order').run loader
    (∃ result result', first.value = .ok result ∧ second.value = .ok result' ∧
      ∀ locale,
        (result.get? locale).map Catalog.unstamped = (result'.get? locale).map Catalog.unstamped ∧
        (first.state.cache.get? locale).map Catalog.unstamped =
          (second.state.cache.get? locale).map Catalog.unstamped) ∨
    ∃ fault fault', first.value = .error fault ∧ second.value = .error fault' := by
  have hget : ∀ name, d.get? name = d'.get? name := Dict.get?_eq_of_perm hlisted
  have hkeys : d.keys.Perm d'.keys := hlisted.map Prod.fst
  have hmem : ∀ locale, locale ∈ order ↔ locale ∈ order' := by
    intro locale
    rw [horder.mem_iff, horder'.mem_iff, Directory.mem_locales_congr hkeys]
  refine ⟨loadAllInOrder_locales d, fun locale => by rw [load_congr hget], ?_⟩
  intro first second
  obtain ⟨reports, hfirst⟩ := exists_loadAllInOrder_run d order loader
  obtain ⟨reports', hsecond⟩ := exists_loadAllInOrder_run d' order' loader
  have hempty : order.isEmpty = true ↔ order'.isEmpty = true := by
    simp only [List.isEmpty_iff, List.eq_nil_iff_forall_not_mem, hmem]
  simp only [first, second]
  rw [hfirst, hsecond]
  by_cases hnone : order.isEmpty = true
  · rw [if_pos hnone, if_pos (hempty.mp hnone)]
    exact Or.inr ⟨_, _, rfl, rfl⟩
  · rw [if_neg hnone, if_neg (mt hempty.mpr hnone)]
    rcases loadEach_cases d order ∅ loader with ⟨result, hreturns⟩ | ⟨locale, fault, hstops⟩
    · rcases loadEach_cases d' order' ∅ loader with ⟨result', hreturns'⟩ | ⟨_, _, hstops'⟩
      · exact Or.inl ⟨result, result', hreturns.value, hreturns'.value,
          hreturns.agree hreturns' hget hmem⟩
      · exact absurd hstops' (hreturns.not_stopsAt hget hmem)
    · rcases loadEach_cases d' order' ∅ loader with ⟨result', hreturns'⟩ | ⟨_, fault', hstops'⟩
      · exact absurd hstops (hreturns'.not_stopsAt (fun name => (hget name).symm)
          fun locale => (hmem locale).symm)
      · exact Or.inr ⟨fault, fault', hstops.value, hstops'.value⟩

/-- A directory in which English and German greet and French leads nowhere. -/
def threefold : Directory := .ofList
  [("ui.en-US.yml".toList, greeting "Hi"), ("fr-FR.yml".toList, .dangling),
    ("de-DE.yml".toList, greeting "Hallo")]
where
  greeting (text : String) : FileContent :=
    .document (.dict [(.text "strings".toList, .dict [(.text "greet".toList, .text text.toList)])])

def threefoldBackwards : Directory where
  entries := threefold.entries.reverse
  nodup := by
    rw [List.map_reverse]
    exact List.nodup_reverse.mpr threefold.nodup

def keeping : FileLoader where
  path := ['d']
  useCache := true
  cache := .ofList [(.jaJP, { locale := .jaJP, stamp := 7 })]
  loads := 8

theorem load_order_irrelevant_backwards :
    let first := (loadAllInOrder threefold threefold.locales).run keeping
    let second := (loadAllInOrder threefoldBackwards threefoldBackwards.locales).run keeping
    threefold.locales ≠ threefoldBackwards.locales ∧
      ∃ result result', first.value = .ok result ∧ second.value = .ok result' ∧
        (∀ locale,
          (result.get? locale).map Catalog.unstamped = (result'.get? locale).map Catalog.unstamped ∧
          (first.state.cache.get? locale).map Catalog.unstamped =
            (second.state.cache.get? locale).map Catalog.unstamped) ∧
        (result.get? .enUS).bind (Catalog.template? · "greet".toList) = some "Hi".toList := by
  intro first second
  obtain ⟨-, -, hboth⟩ := load_order_irrelevant (List.reverse_perm threefold.entries).symm
    (List.Perm.refl threefold.locales) (List.Perm.refl threefoldBackwards.locales) keeping
  have hgreets : first.value.toOption.bind
      (fun result => (result.get? .enUS).bind (Catalog.template? · "greet".toList)) =
        some "Hi".toList := by
    decide +kernel
  refine ⟨by decide +kernel, ?_⟩
  rcases hboth with ⟨result, result', hfirst, hsecond, hsame⟩ | ⟨fault, fault', hfirst, -⟩
  · refine ⟨result, result', hfirst, hsecond, hsame, ?_⟩
    rw [hfirst] at hgreets
    exact hgreets
  · rw [hfirst] at hgreets
    cases hgreets

end FileLoader

end Phrasebook
