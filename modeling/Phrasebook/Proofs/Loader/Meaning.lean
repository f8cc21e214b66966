import Phrasebook.Proofs.Loader.Discovery
import Phrasebook.Proofs.Loader.Growth

/-!
What a directory of translation files means. A load without the help of the cache gives a catalog
exactly when every file of the locale can be read, and what that catalog has can be read off the
documents without following the load.
-/

set_option autoImplicit false
set_option relaxedAutoImplicit false

namespace Phrasebook

open Document

/-- A catalog has a template for every leaf and a row for every row of some documents, and of several
with one key it has the text of the last. -/
structure Catalog.Means (catalog : Catalog) (documents : List Value) : Prop where
  hasTemplate : ∀ key, catalog.hasTemplate key = true ↔
    ∃ leaf ∈ documents.flatMap stringLeaves, leaf.Has key
  template : ∀ key text, catalog.template? key = some text ↔
    ∃ leaf, IsLast (Leaf.Has key) (documents.flatMap stringLeaves) leaf ∧ leaf.Gives text
  hasRow : ∀ lookupKey, (catalog.row? lookupKey).isSome = true ↔
    ∃ row ∈ documents.flatMap (sectionOf .tables), RowHas lookupKey row
  entry : ∀ lookupKey tag text, (catalog.row? lookupKey).bind (·.get? tag) = some text ↔
    ∃ cell, IsLast (Cell.Has lookupKey tag)
      ((documents.flatMap (sectionOf .tables)).flatMap cells) cell ∧ cell.Gives text

private theorem Catalog.Grows.means {documents : List Value} {locale : Locale} {stamp : Nat} {catalog : Catalog}
    (h : Grows (documents.flatMap stringLeaves) (documents.flatMap (sectionOf .tables))
      { locale, stamp } catalog) : catalog.Means documents where
  hasTemplate key := by
    obtain ⟨found, hfound, htemplate⟩ := h.template key
    have hblank : ({ locale, stamp } : Catalog).template? key = none := rfl
    rw [hblank, Option.or_none] at htemplate
    rw [← hfound.isSome_iff, ← htemplate]
    rfl
  template key text := by
    obtain ⟨found, hfound, htemplate⟩ := h.template key
    have hblank : ({ locale, stamp } : Catalog).template? key = none := rfl
    rw [hblank, Option.or_none] at htemplate
    rw [htemplate]
    exact hfound.eq_some_iff (fun hgives hgives' => Except.ok.inj (hgives.symm.trans hgives')) text
  hasRow lookupKey := by
    rw [h.row]
    exact or_iff_left nofun
  entry lookupKey tag text := by
    obtain ⟨found, hfound, hentry⟩ := h.entry lookupKey tag
    have hblank : (({ locale, stamp } : Catalog).row? lookupKey).bind (·.get? tag) = none := rfl
    rw [hblank, Option.or_none] at hentry
    rw [hentry]
    exact hfound.eq_some_iff (fun hgives hgives' => Except.ok.inj (hgives.symm.trans hgives')) text

private theorem Document.grows_documents {documents : List (Text × Value)} {es : List Edit}
    (h : editsOfAll (fun document => edits document.2) documents = .ok es) (c : Catalog) :
    c.Grows ((documents.map Prod.snd).flatMap stringLeaves)
      ((documents.map Prod.snd).flatMap (sectionOf .tables)) (Edit.applyAll c es) := by
  rw [List.flatMap_map, List.flatMap_map]
  exact grows_editsOfAll (fun document es c hedits => grows_edits hedits c) h c

/-- A catalog that the files of a locale make means what they say. -/
theorem Directory.Makes.means [Globbing] {directory : Text} {d : Directory} {locale : Locale}
    {catalog : Catalog} {documents : List (Text × Value)} (h : d.Makes directory locale catalog)
    (hreads : d.Reads directory locale documents) : catalog.Means (documents.map Prod.snd) := by
  obtain ⟨documents', -, hsorted, hnames, hread, stamp, hmerges⟩ := h
  obtain rfl := hreads.unique ⟨hsorted, hnames, hread⟩
  obtain ⟨es, hedits, rfl⟩ := hmerges.exists_edits
  exact (grows_documents hedits _).means

namespace FileLoader

section

variable [Globbing] {disk : Directory} {locale : Locale} {loader : FileLoader}

theorem makes_of_load {catalog : Catalog} (hnone : loader.HasNone locale)
    (h : ((load disk locale).run loader).value = .ok catalog) :
    disk.Makes loader.path locale catalog := by
  rcases load_cases disk locale loader with
    ⟨kept, huse, hkept, -, -⟩ | ⟨fault, hvalue, -⟩ | ⟨made, hmade, hvalue, -⟩
  · rw [hnone huse] at hkept
    cases hkept
  · rw [hvalue] at h
    cases h
  · rw [hvalue] at h
    exact Except.ok.inj h ▸ hmade

/-- A load that has no kept catalog gives one exactly when there are files of the locale, all can be
read, and what counts in them has texts; and that catalog means what the documents say, in the order
of the names of the files. -/
theorem load_meaning (hnone : loader.HasNone locale) :
    let loaded := ((load disk locale).run loader).value
    ((∃ catalog, loaded = .ok catalog) ↔
      ∃ documents, documents ≠ [] ∧ disk.Reads loader.path locale documents ∧
        ∀ document ∈ documents, Legible document.2) ∧
    ∀ catalog documents, loaded = .ok catalog → disk.Reads loader.path locale documents →
      catalog.Means (documents.map Prod.snd) := by
  intro loaded
  refine ⟨⟨?_, ?_⟩, ?_⟩
  · rintro ⟨catalog, hloaded⟩
    obtain ⟨documents, hne, hsorted, hnames, hread, stamp, hmerges⟩ := makes_of_load hnone hloaded
    refine ⟨documents, hne, ⟨hsorted, hnames, hread⟩, fun document hdocument => ?_⟩
    obtain ⟨es, hedits, -⟩ := hmerges.exists_edits
    exact (legible_iff document.2).mpr (exists_ok_editsOfAll_iff.mp ⟨es, hedits⟩ document hdocument)
  · rintro ⟨documents, hne, hreads, hlegible⟩
    obtain ⟨es, hedits⟩ := exists_ok_editsOfAll_iff.mpr fun document hdocument =>
      (legible_iff document.2).mp (hlegible document hdocument)
    refine ⟨Edit.applyAll { locale, stamp := loader.loads } es, ?_⟩
    rw [show loaded = _ from load_value hnone disk, editsOf_of_reads hne hreads, hedits]
    rfl
  · intro catalog documents hloaded hreads
    have hne : documents ≠ [] := by
      obtain ⟨name, hname⟩ := (makes_of_load hnone hloaded).opens.found
      rintro rfl
      cases (hreads.names name).mpr hname
    rw [show loaded = _ from load_value hnone disk, editsOf_of_reads hne hreads] at hloaded
    cases hedits : editsOfAll (fun document => edits document.2) documents with
    | error fault =>
      rw [hedits] at hloaded
      cases hloaded
    | ok es =>
      rw [hedits] at hloaded
      obtain rfl := Except.ok.inj hloaded
      exact (grows_documents hedits _).means

end

/-- Two documents of one locale. The first has two leaves that make one key, and the second has nothing
but null for it and for the entry of the first. -/
def collidingDocuments : List (Text × Value) :=
  [("a.en-US.yml".toList, .dict
    [(.text "strings".toList, .dict
        [(.text "menu".toList, .dict [(.text "title".toList, .text "Menu".toList)]),
          (.text "menu.title".toList, .bool true)]),
      (.text "tables".toList, .dict [(.bool true, .text "yes".toList)])]),
    ("b.en-US.yml".toList, .dict
      [(.text "strings".toList, .dict
          [(.text "menu".toList, .dict [(.text "title".toList, .none)])]),
        (.text "tables".toList, .dict
          [(.text "True".toList, .dict [(.text "value".toList, .none)])])])]

def colliding : Directory :=
  .ofList (collidingDocuments.map fun document => (document.1, .document document.2))

private theorem reads_colliding : colliding.Reads ['d'] .enUS collidingDocuments where
  sorted := by
    decide +kernel
  names name := by
    have hentries : colliding.entries =
        collidingDocuments.map fun document => (document.1, .document document.2) := rfl
    constructor
    · intro hname
      simp only [collidingDocuments, List.map_cons, List.map_nil, List.mem_cons, List.not_mem_nil,
        or_false] at hname
      rcases hname with rfl | rfl <;> exact ⟨_, rfl, by decide⟩
    · rintro ⟨content, hcontent, -⟩
      rw [← Dict.mem_entries, hentries, List.mem_map] at hcontent
      obtain ⟨document, hdocument, heq⟩ := hcontent
      cases heq
      exact List.mem_map_of_mem hdocument
  read name document hdocument := by
    simp only [collidingDocuments, List.mem_cons, List.not_mem_nil, or_false, Prod.mk.injEq] at hdocument
    rcases hdocument with ⟨rfl, rfl⟩ | ⟨rfl, rfl⟩ <;> exact ⟨_, rfl, rfl⟩

theorem load_meaning_colliding :
    ∃ catalog, ((load colliding .enUS).run { path := ['d'], useCache := false }).value = .ok catalog ∧
      catalog.template? "menu.title".toList = some "True".toList ∧
      (catalog.row? "True".toList).bind (·.get? "value".toList) = some "yes".toList := by
  have hlegible : ∀ document ∈ collidingDocuments, Legible document.2 := by
    intro document hdocument
    refine (legible_iff _).mpr ?_
    simp only [collidingDocuments, List.mem_cons, List.not_mem_nil, or_false] at hdocument
    rcases hdocument with rfl | rfl
    · exact ⟨_, rfl⟩
    · exact ⟨_, rfl⟩
  have hnone : FileLoader.HasNone { path := ['d'], useCache := false } .enUS := nofun
  obtain ⟨hloads, hmeans⟩ := @load_meaning _ colliding .enUS _ hnone
  obtain ⟨catalog, hcatalog⟩ :=
    hloads.mpr ⟨collidingDocuments, List.cons_ne_nil _ _, reads_colliding, hlegible⟩
  have hmeans := hmeans catalog collidingDocuments hcatalog reads_colliding
  refine ⟨catalog, hcatalog, (hmeans.template _ _).mpr ?_, (hmeans.entry _ _ _).mpr ?_⟩
  · refine ⟨⟨[.text "menu.title".toList], .bool true⟩, ⟨[_], [_], rfl, ?_, ?_⟩, rfl⟩
    · exact ⟨rfl, _, rfl, rfl⟩
    · rintro leaf hleaf ⟨hwritten, -⟩
      rw [List.mem_singleton.mp hleaf] at hwritten
      cases hwritten
  · refine ⟨⟨.bool true, .text "value".toList, .text "yes".toList⟩, ⟨[], [_], rfl, ?_, ?_⟩, rfl⟩
    · exact ⟨rfl, rfl, rfl⟩
    · rintro cell hcell ⟨hwritten, -⟩
      rw [List.mem_singleton.mp hcell] at hwritten
      cases hwritten

end FileLoader

end Phrasebook
