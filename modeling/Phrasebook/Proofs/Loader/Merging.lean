import Phrasebook.Proofs.Catalog.Merging
import Phrasebook.Proofs.Loader.Answers

/-!
Merging documents and merging catalogs. A document writes into a catalog what merging its own catalog
would, so the catalog of a locale is merged from the catalogs of its files.
-/

set_option autoImplicit false
set_option relaxedAutoImplicit false

namespace Phrasebook

open Template (Row)

namespace Catalog

private theorem merge_putString (c d : Catalog) (key text : Text) :
    c.merge (d.putString key text) = (c.merge d).putString key text := by
  simp only [merge_eq, putString, Dict.update_insert]

private theorem merge_mergeRow (c d : Catalog) (lookupKey : Text) (row : Row) :
    c.merge (d.mergeRow lookupKey row) = (c.merge d).mergeRow lookupKey row := by
  simp only [merge_eq, mergeRow_eq, Dict.mergeWith_combineAt associative_mergedRow]

private theorem merge_apply (c d : Catalog) (edit : Edit) :
    c.merge (Edit.apply d edit) = Edit.apply (c.merge d) edit := by
  cases edit with
  | text key text => exact merge_putString c d key text
  | row lookupKey row => exact merge_mergeRow c d lookupKey row

private theorem merge_applyAll (c d : Catalog) (edits : List Edit) :
    c.merge (Edit.applyAll d edits) = Edit.applyAll (c.merge d) edits := by
  induction edits generalizing d with
  | nil => rfl
  | cons edit edits ih =>
    have hrest := ih (Edit.apply d edit)
    rw [merge_apply] at hrest
    exact hrest

private theorem applyAll_eq_merge (c : Catalog) (edits : List Edit) (locale : Locale) (stamp : Nat) :
    Edit.applyAll c edits = c.merge (Edit.applyAll { locale, stamp } edits) := by
  rw [merge_applyAll, merge_blank]

end Catalog

/-- What a computation does to a catalog into which a second one was merged is what it does to the second
one alone, merged into the first. -/
def Attempt.Layers {ε α : Type} (x : Attempt ε Catalog α) : Prop :=
  ∀ c d : Catalog, x.run (c.merge d) =
    let alone := x.run d
    ⟨alone.value, c.merge alone.state, alone.reports⟩

namespace Attempt.Layers

variable {ε α β : Type}

private theorem pure (a : α) : Layers (Pure.pure a : Attempt ε Catalog α) := fun _ _ => rfl

theorem ofExcept (result : Except ε α) : Layers (Attempt.ofExcept result : Attempt ε Catalog α) :=
  fun _ _ => rfl

private theorem report (r : Report) : Layers (Attempt.report r : Attempt ε Catalog Unit) := fun _ _ => rfl

private theorem change {f : Catalog → Catalog} (h : ∀ c d : Catalog, f (c.merge d) = c.merge (f d)) :
    Layers (Attempt.change f : Attempt ε Catalog Unit) := by
  intro c d
  rw [Attempt.run_change, Attempt.run_change, h]

private theorem bind {x : Attempt ε Catalog α} {f : α → Attempt ε Catalog β} (hx : Layers x)
    (hf : ∀ a, Layers (f a)) : Layers (x >>= f) := by
  intro c d
  cases hvalue : (x.run d).value with
  | ok a =>
    have hmerged : (x.run (c.merge d)).value = .ok a := by
      rw [hx c d, hvalue]
    rw [Attempt.run_bind_of_ok hvalue, Attempt.run_bind_of_ok hmerged, hx c d]
    dsimp only
    rw [hf a]
  | error e =>
    have hmerged : (x.run (c.merge d)).value = .error e := by
      rw [hx c d, hvalue]
    rw [Attempt.run_bind_of_error hvalue, Attempt.run_bind_of_error hmerged, hx c d]

theorem forM {f : α → Attempt ε Catalog PUnit} (h : ∀ a, Layers (f a)) (as : List α) :
    Layers (as.forM f) := by
  induction as with
  | nil => exact .pure _
  | cons a as ih => exact (h a).bind fun _ => ih

end Attempt.Layers

namespace Document

open Attempt (Layers)

private theorem layers_addStrings (file : Text) (part : Value) : Layers (addStrings file part) := by
  unfold addStrings
  split
  · refine (Layers.ofExcept _).bind fun written => Layers.forM (fun entry => ?_) written
    exact .change fun c d => (Catalog.merge_putString c d entry.1 entry.2).symm
  · split
    · exact .pure _
    · exact .report _

private theorem layers_addRow (file : Text) (name value : Value) : Layers (addRow file name value) := by
  have hput : ∀ (lookupKey : Text) (row : Row),
      Layers (Attempt.change (·.mergeRow lookupKey row) : Merging Unit) := by
    intro lookupKey row
    exact .change fun c d => (Catalog.merge_mergeRow c d lookupKey row).symm
  unfold addRow
  split
  · refine (Layers.ofExcept _).bind fun row => (Layers.ofExcept _).bind fun lookupKey => ?_
    exact hput lookupKey row
  · refine (Layers.ofExcept _).bind fun lookupKey => ?_
    exact hput lookupKey _
  · exact (Layers.ofExcept _).bind fun lookupKey => .report _

private theorem layers_addTables (file : Text) (part : Value) : Layers (addTables file part) := by
  unfold addTables
  split
  · exact Layers.forM (fun _ => layers_addRow file _ _) _
  · split
    · exact .pure _
    · exact .report _

private theorem layers_addTo (file : Text) (document : Value) : Layers (addTo file document) := by
  unfold addTo
  split
  · exact (layers_addStrings file _).bind fun _ => layers_addTables file _
  · split
    · exact .pure _
    · exact .report _

end Document

def Directory.only (d : Directory) (name : Text) : Directory := d.filter fun entry => entry.1 = name

private theorem Directory.get?_only (d : Directory) (name other : Text) :
    (d.only name).get? other = if other = name then d.get? other else none := by
  rw [only, Dict.get?_filter]
  by_cases h : other = name
  · cases d.get? other <;> simp [Option.filter, h]
  · cases d.get? other <;> simp [Option.filter, h]

private theorem Directory.namesFor_only [Globbing] {d : Directory} {locale : Locale} {name : Text}
    (h : name ∈ d.namesFor locale) : (d.only name).namesFor locale = [name] := by
  refine namesFor_eq (List.pairwise_singleton _ _) fun other => ?_
  rw [List.mem_singleton, get?_only]
  constructor
  · rintro rfl
    rw [if_pos rfl]
    exact mem_namesFor.mp h
  · rintro ⟨content, hcontent, -⟩
    by_contra hother
    rw [if_neg hother] at hcontent
    cases hcontent

namespace FileLoader

variable {disk : Directory} {locale : Locale} {loader : FileLoader}

private theorem answer_only [Globbing] {name : Text} (h : name ∈ disk.namesFor locale) (path : Text) :
    answer { path, useCache := false } (disk.only name) locale =
      (editsOfFile path disk name).map (Edit.applyAll { locale }) := by
  have hfile : editsOfFile path (disk.only name) name = editsOfFile path disk name := by
    rw [editsOfFile, Directory.get?_only, if_pos rfl, editsOfFile]
  rw [answer_of_none rfl, editsOf, Directory.namesFor_only h]
  simp only [List.isEmpty_cons, Bool.false_eq_true, if_false, editsOfAll, hfile]
  cases editsOfFile path disk name with
  | error fault => rfl
  | ok es => exact congrArg (Except.ok ∘ Edit.applyAll _) (List.append_nil es)

section

variable {ε α : Type} {edits : α → Except ε (List Edit)} {a : α}

private theorem mapM_congr_of_mem {β : Type} {f g : α → Except ε β} {as : List α}
    (h : ∀ a ∈ as, f a = g a) : as.mapM f = as.mapM g := by
  induction as with
  | nil => rfl
  | cons a as ih =>
    rw [List.forall_mem_cons] at h
    rw [List.mapM_cons, List.mapM_cons, h.1, ih h.2]

private theorem map_editsOfAll_cons {es : List Edit} (h : edits a = .ok es) (as : List α) (c : Catalog) :
    (editsOfAll edits (a :: as)).map (Edit.applyAll c) =
      (editsOfAll edits as).map (Edit.applyAll (Edit.applyAll c es)) := by
  rw [editsOfAll, h]
  cases editsOfAll edits as with
  | error e => rfl
  | ok es' => exact congrArg Except.ok (Edit.applyAll_append c es es')

private theorem map_editsOfAll (edits : α → Except ε (List Edit)) (as : List α) (c : Catalog)
    (locale : Locale) :
    (editsOfAll edits as).map (Edit.applyAll c) =
      (as.mapM fun a => (edits a).map (Edit.applyAll { locale })).map
        (List.foldl Catalog.merge c) := by
  induction as generalizing c with
  | nil => rfl
  | cons a as ih =>
    cases ha : edits a with
    | error e =>
      rw [editsOfAll, List.mapM_cons, ha]
      rfl
    | ok es =>
      rw [map_editsOfAll_cons ha, ih, List.mapM_cons, ha, Catalog.applyAll_eq_merge c es locale 0]
      generalize (as.mapM fun a => (edits a).map (Edit.applyAll { locale })) = merged
      cases merged <;> rfl

end

/-- What a document does to a catalog is what it does to a blank one, merged into the first. So what is
read for a locale is the catalog of its first file by name with those of the others merged into it one
after the other, or else the first fault that one of them has. -/
theorem load_eq_merge [Globbing] (hnone : loader.HasNone locale) (disk : Directory) :
    (∀ (file : Text) (document : Value) (c : Catalog) (blank : Locale) (stamp : Nat),
      let alone := (Document.addTo file document).run { locale := blank, stamp }
      (Document.addTo file document).run c =
        ⟨alone.value, c.merge alone.state, alone.reports⟩) ∧
    (disk.namesFor locale).Pairwise (List.Lex (· < ·)) ∧
    loader.answer disk locale =
      ((disk.namesFor locale).mapM fun name =>
        answer { path := loader.path, useCache := false } (disk.only name) locale) >>= fun
      | [] => .error (.noFilesFor locale loader.path)
      | first :: more => .ok (more.foldl Catalog.merge first) := by
  refine ⟨?_, disk.namesFor_pairwise locale, ?_⟩
  · intro file document c blank stamp
    exact Document.layers_addTo file document c { locale := blank, stamp }
  · rw [answer_of_none (hasNone_iff.mp hnone), editsOf,
      mapM_congr_of_mem fun name hname => answer_only hname loader.path]
    cases disk.namesFor locale with
    | nil => rfl
    | cons name names =>
      rw [if_neg (by simp), List.mapM_cons]
      cases hname : editsOfFile loader.path disk name with
      | error fault =>
        rw [editsOfAll, hname]
        rfl
      | ok es =>
        rw [map_editsOfAll_cons hname, map_editsOfAll _ names _ locale]
        generalize (names.mapM fun name =>
          (editsOfFile loader.path disk name).map (Edit.applyAll { locale })) = merged
        cases merged <;> rfl

/-- A directory with two files of one locale. The one that is listed first comes later by its name, and
has another plural for the entry of the other one. -/
def layered : Directory := .ofList
  [("ui.en-US.yml".toList, entryOf [(.text "plural".toList, .text "swords".toList)]),
    ("en-US.yml".toList,
      entryOf [(.text "value".toList, .text "sword".toList),
        (.text "plural".toList, .text "sord".toList)])]
where
  entryOf (row : List (Value × Value)) : FileContent :=
    .document (.dict [(.text "tables".toList, .dict [(.text "SWORD".toList, .dict row)])])

private theorem namesFor_layered : layered.namesFor .enUS = ["en-US.yml".toList, "ui.en-US.yml".toList] := by
  refine Directory.namesFor_eq (by decide +kernel) fun name => ?_
  constructor
  · intro hname
    simp only [List.mem_cons, List.not_mem_nil, or_false] at hname
    rcases hname with rfl | rfl
    · exact ⟨_, rfl, by decide⟩
    · exact ⟨_, rfl, by decide⟩
  · rintro ⟨content, hcontent, -⟩
    have hname : name ∈ layered.keys :=
      List.mem_map.mpr ⟨(name, content), Dict.mem_entries.mpr hcontent, rfl⟩
    have hkeys : layered.keys = ["ui.en-US.yml".toList, "en-US.yml".toList] := rfl
    rw [hkeys] at hname
    simp only [List.mem_cons, List.not_mem_nil, or_false] at hname ⊢
    exact hname.symm

theorem load_eq_merge_layered :
    let fresh : FileLoader := { path := ['d'], useCache := false }
    ∃ first second, fresh.answer (layered.only "en-US.yml".toList) .enUS = .ok first ∧
      fresh.answer (layered.only "ui.en-US.yml".toList) .enUS = .ok second ∧
      fresh.answer layered .enUS = .ok (first.merge second) ∧
      ((first.merge second).row? "SWORD".toList).map Dict.entries =
        some [("value".toList, "sword".toList), ("plural".toList, "swords".toList)] := by
  intro fresh
  have hnone : fresh.HasNone .enUS := nofun
  obtain ⟨-, -, hload⟩ := load_eq_merge hnone layered
  rw [namesFor_layered] at hload
  have hrow : ((fresh.answer (layered.only "en-US.yml".toList) .enUS).toOption.bind fun first =>
      (fresh.answer (layered.only "ui.en-US.yml".toList) .enUS).toOption.bind fun second =>
        ((first.merge second).row? "SWORD".toList).map Dict.entries) =
      some [("value".toList, "sword".toList), ("plural".toList, "swords".toList)] := by
    decide +kernel
  cases hfirst : fresh.answer (layered.only "en-US.yml".toList) .enUS with
  | error fault =>
    rw [hfirst] at hrow
    cases hrow
  | ok first =>
    cases hsecond : fresh.answer (layered.only "ui.en-US.yml".toList) .enUS with
    | error fault =>
      rw [hfirst, hsecond] at hrow
      cases hrow
    | ok second =>
      rw [hfirst, hsecond] at hrow
      refine ⟨first, second, rfl, rfl, ?_, hrow⟩
      change fresh.answer layered .enUS =
        (["en-US.yml".toList, "ui.en-US.yml".toList].mapM fun name =>
          fresh.answer (layered.only name) .enUS) >>= _ at hload
      rw [hload, List.mapM_cons, List.mapM_cons, hfirst, hsecond]
      rfl

end FileLoader

end Phrasebook
