import Phrasebook.Proofs.Loader.Meaning
import Phrasebook.Proofs.Manager.Overlay

/-!
What becomes of texts that the files of the active locale leave untranslated, that is null. A
template all of whose leaves are null comes from the fallback locale. A row all of whose cells are
null does not: it is there, without an entry, and hides the row of the fallback locale.
-/

set_option autoImplicit false
set_option relaxedAutoImplicit false

namespace Phrasebook

namespace Document

/-- All leaves for a key are null, if there are any. -/
def LeavesNull (key : Text) (documents : List Value) : Prop :=
  ∀ leaf ∈ documents.flatMap stringLeaves, Spells leaf.path key → leaf.value.isNone = true

/-- All cells of the rows under a lookup key are null, if there are any. -/
def CellsNull (lookupKey : Text) (documents : List Value) : Prop :=
  ∀ cell ∈ (documents.flatMap (sectionOf .tables)).flatMap cells,
    textOf cell.lookupKey = .ok lookupKey → cell.value.isNone = true

/-- Some document has a row under a lookup key, be there anything in it or not. -/
def Mentions (lookupKey : Text) (documents : List Value) : Prop :=
  ∃ row ∈ documents.flatMap (sectionOf .tables), RowHas lookupKey row

end Document

open Document

namespace Catalog.Means

variable {catalog : Catalog} {documents : List Value}

private theorem template?_of_leavesNull (h : catalog.Means documents) {key : Text}
    (hnull : LeavesNull key documents) : catalog.template? key = none := by
  rw [Option.eq_none_iff_forall_ne_some]
  intro text htext
  obtain ⟨leaf, hlast, -⟩ := (h.template key text).mp htext
  obtain ⟨hwritten, hspells⟩ := hlast.holds
  rw [hnull leaf hlast.mem hspells] at hwritten
  cases hwritten

private theorem row?_of_not_mentions (h : catalog.Means documents) {lookupKey : Text}
    (hnot : ¬ Mentions lookupKey documents) : catalog.row? lookupKey = none := by
  rw [← Option.not_isSome_iff_eq_none, h.hasRow]
  exact hnot

private theorem row?_of_cellsNull (h : catalog.Means documents) {lookupKey : Text}
    (hnull : CellsNull lookupKey documents) (hrow : Mentions lookupKey documents) :
    catalog.row? lookupKey = some ∅ := by
  obtain ⟨row, hrow⟩ := Option.isSome_iff_exists.mp ((h.hasRow lookupKey).mpr hrow)
  rw [hrow, Option.some_inj]
  refine Dict.eq_empty_of_get? fun tag => ?_
  rw [Option.eq_none_iff_forall_ne_some]
  intro text htext
  have hentry : (catalog.row? lookupKey).bind (·.get? tag) = some text := by rw [hrow]; exact htext
  obtain ⟨cell, hlast, -⟩ := (h.entry lookupKey tag text).mp hentry
  obtain ⟨hwritten, hkey, -⟩ := hlast.holds
  rw [hnull cell hlast.mem hkey] at hwritten
  cases hwritten

end Catalog.Means

namespace Manager

variable {α : Type} {m : Manager} {catalog below : Catalog}

private theorem lookUp_fst_of_loaded (hactive : m.catalogs.get? m.active = some catalog)
    (hfallback : m.catalogs.get? m.fallback = some below) (look : Catalog → Option α) (key : Text) :
    (m.lookUp look key).1 = (look catalog).or (look below) := by
  rw [lookUp_fst, find, find, hactive, hfallback]
  rfl

/-- Let the catalog of the active locale be made by files. A template for which they have nothing
but null is that of the fallback locale. A row for which they have nothing but null is that of the
fallback locale exactly if no file has a row under its lookup key at all, or if that of the fallback
locale has no entry either; else an empty row is found. -/
theorem answers_of_null [Globbing] {directory : Text} {disk : Directory}
    {documents : List (Text × Value)}
    (hmade : disk.Makes directory m.active catalog)
    (hreads : disk.Reads directory m.active documents)
    (hactive : m.catalogs.get? m.active = some catalog)
    (hfallback : m.catalogs.get? m.fallback = some below) :
    (∀ key, LeavesNull key (documents.map Prod.snd) →
      (m.template? key).1 = below.template? key) ∧
    ∀ lookupKey, CellsNull lookupKey (documents.map Prod.snd) →
      ((m.row? lookupKey).1 = below.row? lookupKey ↔
        ¬ Mentions lookupKey (documents.map Prod.snd) ∨ below.row? lookupKey = some ∅) ∧
      (Mentions lookupKey (documents.map Prod.snd) → (m.row? lookupKey).1 = some ∅) := by
  have hmeans := hmade.means hreads
  constructor
  · intro key hnull
    rw [template?, lookUp_fst_of_loaded hactive hfallback, hmeans.template?_of_leavesNull hnull,
      Option.none_or]
  · intro lookupKey hnull
    rw [row?, lookUp_fst_of_loaded hactive hfallback]
    by_cases hmentions : Mentions lookupKey (documents.map Prod.snd)
    · rw [hmeans.row?_of_cellsNull hnull hmentions, Option.some_or]
      refine ⟨?_, fun _ => rfl⟩
      rw [eq_comm]
      exact (or_iff_right (not_not.mpr hmentions)).symm
    · rw [hmeans.row?_of_not_mentions hmentions, Option.none_or]
      exact ⟨iff_of_true rfl (Or.inl hmentions), fun h => absurd h hmentions⟩

/-- A French file in which nothing has been translated. -/
def untranslatedDocuments : List (Text × Value) :=
  [("fr-FR.yml".toList, .dict
    [(.text "strings".toList, .dict [(.text "greet".toList, .none)]),
      (.text "tables".toList, .dict
        [(.text "SWORD".toList, .dict [(.text "value".toList, .none)])])])]

def untranslated : Directory :=
  .ofList (untranslatedDocuments.map fun document => (document.1, .document document.2))

def english : Catalog where
  locale := .enUS
  strings := .ofList [("greet".toList, "Hello".toList)]
  tables := .ofList [("SWORD".toList, .ofList [("value".toList, "sword".toList)])]

/-- French is active and has a catalog; English is the fallback. -/
def frenchOverEnglish (catalog : Catalog) : Manager where
  loader := .files { path := ['d'], useCache := false }
  active := .frFR
  fallback := .enUS
  catalogs := .ofList [(.frFR, catalog), (.enUS, english)]

private theorem reads_untranslated : untranslated.Reads ['d'] .frFR untranslatedDocuments where
  sorted := List.pairwise_singleton _ _
  names name := by
    have hentries : untranslated.entries =
        untranslatedDocuments.map fun document => (document.1, .document document.2) := rfl
    constructor
    · intro hname
      obtain rfl : name = "fr-FR.yml".toList := by simpa [untranslatedDocuments] using hname
      exact ⟨_, rfl, by decide⟩
    · rintro ⟨content, hcontent, -⟩
      rw [← Dict.mem_entries, hentries, List.mem_map] at hcontent
      obtain ⟨document, hdocument, heq⟩ := hcontent
      cases heq
      exact List.mem_map_of_mem hdocument
  read name document hdocument := by
    obtain ⟨rfl, rfl⟩ := Prod.mk.inj (List.mem_singleton.mp hdocument)
    exact ⟨_, rfl, rfl⟩

private theorem exists_makes_untranslated : ∃ catalog, untranslated.Makes ['d'] .frFR catalog := by
  have hnone : FileLoader.HasNone { path := ['d'], useCache := false } .frFR := nofun
  have hloads : ((FileLoader.load untranslated .frFR).run
      { path := ['d'], useCache := false }).value.isOk = true := by
    decide +kernel
  cases hvalue : ((FileLoader.load untranslated .frFR).run
      { path := ['d'], useCache := false }).value with
  | error fault =>
    rw [hvalue] at hloads
    cases hloads
  | ok catalog => exact ⟨catalog, FileLoader.makes_of_load hnone hvalue⟩

private theorem leavesNull_untranslated :
    LeavesNull "greet".toList (untranslatedDocuments.map Prod.snd) := by
  rintro leaf hleaf -
  obtain rfl := List.mem_singleton.mp hleaf
  rfl

private theorem cellsNull_untranslated : CellsNull "SWORD".toList (untranslatedDocuments.map Prod.snd) := by
  rintro cell hcell -
  obtain rfl := List.mem_singleton.mp hcell
  rfl

private theorem mentions_untranslated : Mentions "SWORD".toList (untranslatedDocuments.map Prod.snd) :=
  ⟨_, List.mem_singleton_self _, rfl, rfl⟩

theorem answers_of_null_untranslated :
    ∃ catalog, untranslated.Makes ['d'] .frFR catalog ∧
      ((frenchOverEnglish catalog).template? "greet".toList).1 = some "Hello".toList ∧
      ((frenchOverEnglish catalog).row? "SWORD".toList).1 = some ∅ := by
  obtain ⟨catalog, hmade⟩ := exists_makes_untranslated
  have hbelow : (frenchOverEnglish catalog).catalogs.get? .enUS = some english := rfl
  obtain ⟨htemplate, hrow⟩ := answers_of_null (m := frenchOverEnglish catalog) hmade
    reads_untranslated rfl hbelow
  refine ⟨catalog, hmade, ?_, ?_⟩
  · rw [htemplate _ leavesNull_untranslated]
    rfl
  · exact (hrow _ cellsNull_untranslated).2 mentions_untranslated

/-- So it is not always the row of the fallback locale that is found where the files of the active
one have nothing but null. -/
theorem not_answers_of_null_as_absent :
    ¬ ∀ (directory : Text) (disk : Directory) (documents : List (Text × Value)) (m : Manager)
        (catalog below : Catalog),
      disk.Makes directory m.active catalog → disk.Reads directory m.active documents →
        m.catalogs.get? m.active = some catalog → m.catalogs.get? m.fallback = some below →
          m.active ≠ m.fallback →
            (∀ key, LeavesNull key (documents.map Prod.snd) →
              (m.template? key).1 = below.template? key) ∧
            ∀ lookupKey, CellsNull lookupKey (documents.map Prod.snd) →
              (m.row? lookupKey).1 = below.row? lookupKey := by
  intro h
  obtain ⟨catalog, hmade⟩ := exists_makes_untranslated
  have hmeans := hmade.means reads_untranslated
  have hempty := hmeans.row?_of_cellsNull cellsNull_untranslated mentions_untranslated
  obtain ⟨-, hrow⟩ := h ['d'] untranslated untranslatedDocuments (frenchOverEnglish catalog) catalog
    english hmade reads_untranslated rfl rfl nofun
  have hfound := hrow _ cellsNull_untranslated
  rw [row?, lookUp_fst_of_loaded rfl rfl, hempty, Option.some_or] at hfound
  have hsword : (english.row? "SWORD".toList).map Dict.size = some 1 := rfl
  rw [← hfound] at hsword
  cases hsword

end Manager

end Phrasebook
