import Phrasebook.Proofs.Dict.Merging
import Phrasebook.Proofs.Loader.Contents
import Phrasebook.Proofs.Loader.Latest

/-!
How a catalog grows with the documents that are merged into it: leaf by leaf, and row by row.
-/

set_option autoImplicit false
set_option relaxedAutoImplicit false

namespace Phrasebook

open Template (Row defaultTag)
open Document

/-- One catalog has what another one has, with some leaves and the cells of some rows written over
it. -/
structure Catalog.Grows (leaves : List Leaf) (rows : List (Value × Value)) (c c' : Catalog) : Prop where
  template : ∀ key, ∃ found, Latest (Leaf.Has key) Leaf.Gives leaves found ∧
    c'.template? key = found.or (c.template? key)
  row : ∀ lookupKey, (c'.row? lookupKey).isSome = true ↔
    (∃ row ∈ rows, RowHas lookupKey row) ∨ (c.row? lookupKey).isSome = true
  entry : ∀ lookupKey tag, ∃ found,
    Latest (Cell.Has lookupKey tag) Cell.Gives (rows.flatMap cells) found ∧
      (c'.row? lookupKey).bind (·.get? tag) = found.or ((c.row? lookupKey).bind (·.get? tag))

namespace Catalog.Grows

variable {ls ls' : List Leaf} {rows rows' : List (Value × Value)} {c c' c'' : Catalog}

private theorem refl (c : Catalog) : Grows [] [] c c where
  template _ := ⟨none, .nil, rfl⟩
  row _ := by simp
  entry _ _ := ⟨none, .nil, rfl⟩

private theorem trans (h : Grows ls rows c c') (h' : Grows ls' rows' c' c'') :
    Grows (ls ++ ls') (rows ++ rows') c c'' where
  template key := by
    obtain ⟨found, hfound, hc'⟩ := h.template key
    obtain ⟨later, hlater, hc''⟩ := h'.template key
    exact ⟨_, hfound.append hlater, by rw [hc'', hc', Option.or_assoc]⟩
  row lookupKey := by
    rw [h'.row, h.row]
    constructor
    · rintro (⟨row, hrow, hhas⟩ | ⟨row, hrow, hhas⟩ | hc)
      · exact Or.inl ⟨row, List.mem_append_right _ hrow, hhas⟩
      · exact Or.inl ⟨row, List.mem_append_left _ hrow, hhas⟩
      · exact Or.inr hc
    · rintro (⟨row, hrow, hhas⟩ | hc)
      · rcases List.mem_append.mp hrow with hrow | hrow
        · exact Or.inr (Or.inl ⟨row, hrow, hhas⟩)
        · exact Or.inl ⟨row, hrow, hhas⟩
      · exact Or.inr (Or.inr hc)
  entry lookupKey tag := by
    obtain ⟨found, hfound, hc'⟩ := h.entry lookupKey tag
    obtain ⟨later, hlater, hc''⟩ := h'.entry lookupKey tag
    rw [List.flatMap_append]
    exact ⟨_, hfound.append hlater, by rw [hc'', hc', Option.or_assoc]⟩

private theorem null (path : List Value) (c : Catalog) : Grows [⟨path, .none⟩] [] c c where
  template _ := ⟨none, .singleton_of_not fun h => Bool.noConfusion h.1, rfl⟩
  row _ := by simp
  entry _ _ := ⟨none, .nil, rfl⟩

private theorem noRow {name value : Value} (h : isRow value = false) (c : Catalog) :
    Grows [] [(name, value)] c c where
  template _ := ⟨none, .nil, rfl⟩
  row _ := by simp [RowHas, h]
  entry _ _ := by
    have hcells : cells (name, value) = [] := by
      cases value <;> first | rfl | cases h
    rw [List.flatMap_singleton, hcells]
    exact ⟨none, .nil, rfl⟩

private theorem putString {leaf : Leaf} {key text : Text} (hleaf : leaf.Has key) (htext : leaf.Gives text)
    (c : Catalog) : Grows [leaf] [] c (c.putString key text) where
  template other := by
    have hother : leaf.Has other ↔ other = key := by
      constructor
      · rintro ⟨-, names, hnames, rfl⟩
        obtain ⟨-, names', hnames', rfl⟩ := hleaf
        rw [hnames] at hnames'
        rw [Except.ok.inj hnames']
      · rintro rfl
        exact hleaf
    exact ⟨_, .singleton hother htext, Dict.get?_insert_eq_or c.strings key other text⟩
  row _ := by
    simp [Catalog.putString, row?]
  entry _ _ := ⟨none, .nil, rfl⟩

private theorem mergeRow {name value : Value} {lookupKey : Text} {row : Row} (hrow : isRow value = true)
    (hkey : textOf name = .ok lookupKey)
    (hcells : ∀ tag, Latest (Cell.Has lookupKey tag) Cell.Gives (cells (name, value)) (row.get? tag))
    (c : Catalog) : Grows [] [(name, value)] c (c.mergeRow lookupKey row) where
  template _ := ⟨none, .nil, rfl⟩
  row other := by
    rw [row?, Catalog.mergeRow, Dict.get?_insert]
    by_cases hother : other = lookupKey
    · subst hother
      simp [RowHas, hrow, hkey]
    · simp [RowHas, hkey, hother, Ne.symm hother, row?]
  entry other tag := by
    rw [List.flatMap_singleton]
    by_cases hother : other = lookupKey
    · subst hother
      refine ⟨row.get? tag, hcells tag, ?_⟩
      rw [row?, Catalog.mergeRow, Dict.get?_insert, if_pos rfl, Option.bind_some, Dict.get?_update]
      cases c.row? other <;> rfl
    · -- every cell bears the name of its row
      refine ⟨none, .none fun cell hcell => ?_, ?_⟩
      · have hname : cell.lookupKey = name := by
          cases value with
          | dict entries =>
            obtain ⟨entry, -, rfl⟩ := List.mem_map.mp hcell
            rfl
          | text text => exact congrArg Cell.lookupKey (List.mem_singleton.mp hcell)
          | _ => cases hcell
        rintro ⟨-, hspelt, -⟩
        rw [hname, hkey] at hspelt
        exact hother (Except.ok.inj hspelt).symm
      · rw [row?, Catalog.mergeRow, Dict.get?_insert, if_neg hother]
        rfl

end Catalog.Grows

namespace Document

open Catalog (Grows)

/-- The entry of a mapping has a tag and is not null. -/
def EntryHas (tag : Text) (entry : Value × Value) : Prop :=
  entry.2.isNone = false ∧ textOf entry.1 = .ok tag

def EntryGives (entry : Value × Value) (text : Text) : Prop := textOf entry.2 = .ok text

private theorem latest_rowTexts {entries : List (Value × Value)} {written : List (Text × Text)}
    (h : rowTexts entries = .ok written) (tag : Text) (d : Row) :
    ∃ found, Latest (EntryHas tag) EntryGives entries found ∧
      (written.foldl (fun d entry => d.insert entry.1 entry.2) d).get? tag =
        found.or (d.get? tag) := by
  -- the later entries are written over the first one, so what they give is found before it
  induction entries generalizing written d with
  | nil =>
    obtain rfl := Except.ok.inj h
    exact ⟨none, .nil, rfl⟩
  | cons entry entries ih =>
    by_cases hnull : entry.2.isNone = true
    · rw [rowTexts, List.filter_cons_of_neg (by simp [hnull])] at h
      obtain ⟨found, hfound, hget⟩ := ih h d
      have hfirst : Latest (EntryHas tag) EntryGives [entry] none :=
        .singleton_of_not fun hhas => absurd hnull (ne_true_of_eq_false hhas.1)
      exact ⟨_, hfirst.append hfound, by rw [hget, Option.or_none]⟩
    · rw [rowTexts, List.filter_cons_of_pos (by simp [hnull]), List.mapM_cons] at h
      obtain ⟨first, hentry, h⟩ := exists_ok_of_bind_ok h
      obtain ⟨more, hmore, h⟩ := exists_ok_of_bind_ok h
      obtain rfl := Except.ok.inj h
      obtain ⟨t, ht, hentry⟩ := exists_ok_of_bind_ok hentry
      obtain ⟨text, htext, hentry⟩ := exists_ok_of_bind_ok hentry
      obtain rfl := Except.ok.inj hentry
      obtain ⟨found, hfound, hget⟩ := ih hmore (d.insert t text)
      have hhas : EntryHas tag entry ↔ tag = t := by
        rw [EntryHas, ht, Except.ok.injEq, eq_comm (a := tag)]
        exact and_iff_right (eq_false_of_ne_true hnull)
      refine ⟨_, (Latest.singleton hhas htext).append hfound, ?_⟩
      rw [List.foldl_cons, hget, Dict.get?_insert_eq_or, Option.or_assoc]

private theorem latest_row {entries : List (Value × Value)} {row : Row} (h : Document.row entries = .ok row)
    (tag : Text) : Latest (EntryHas tag) EntryGives entries (row.get? tag) := by
  obtain ⟨written, hwritten, hrow⟩ := exists_ok_of_bind_ok (x := rowTexts entries) h
  obtain rfl := Except.ok.inj hrow
  obtain ⟨found, hfound, hget⟩ := latest_rowTexts hwritten tag ∅
  have hnothing : (∅ : Row).get? tag = none := rfl
  rw [Dict.ofList, hget, hnothing, Option.or_none]
  exact hfound

private theorem intercalate_append_singleton {names : List Text} (hne : names ≠ []) (t : Text) :
    ['.'].intercalate (names ++ [t]) = ['.'].intercalate names ++ ['.'] ++ t := by
  induction names with
  | nil => exact absurd rfl hne
  | cons name names ih =>
    cases names with
    | nil => simp [List.intercalate]
    | cons second names =>
      have hrest := ih (List.cons_ne_nil _ _)
      rw [List.cons_append] at hrest
      rw [List.cons_append, List.cons_append, List.intercalate_cons_cons, hrest,
        List.intercalate_cons_cons]
      simp

def textEdit (written : Text × Text) : Edit := .text written.1 written.2

private theorem grows_plain {path : List Value} {value : Value} {key : Text} {written : List (Text × Text)}
    (hvalue : value.isNone = false) (hkey : Spells path key)
    (h : (textOf value).map (fun text => [(key, text)]) = .ok written) (c : Catalog) :
    Grows [⟨path, value⟩] [] c (Edit.applyAll c (written.map textEdit)) := by
  cases htext : textOf value with
  | error fault =>
    rw [htext] at h
    cases h
  | ok text =>
    rw [htext] at h
    obtain rfl := Except.ok.inj h
    have hhas : Leaf.Has key ⟨path, value⟩ := ⟨hvalue, hkey⟩
    exact .putString hhas htext c

mutual

private theorem grows_templates {path : List Value} {names : List Text} (hnames : path.mapM textOf = .ok names)
    (hne : names ≠ []) {value : Value} {written : List (Text × Text)}
    (h : templates (['.'].intercalate names) value = .ok written) (c : Catalog) :
    Grows (leaves path value) [] c (Edit.applyAll c (written.map textEdit)) := by
  cases value with
  | dict entries =>
    unfold templates at h
    exact grows_templatesUnder hnames (intercalate_append_singleton hne) h c
  | none =>
    unfold templates at h
    obtain rfl := Except.ok.inj h
    exact .null path c
  | again isDict =>
    unfold templates at h
    cases h
  | _ =>
    -- the equation of `leaves` for a value that is no mapping has to be told that it is none
    unfold templates at h
    rw [leaves]
    exact grows_plain rfl ⟨names, hnames, rfl⟩ h c
    all_goals exact nofun

private theorem grows_templatesUnder {path : List Value} {names : List Text} {start : Text}
    (hnames : path.mapM textOf = .ok names)
    (hstart : ∀ t, ['.'].intercalate (names ++ [t]) = start ++ t) {entries : List (Value × Value)}
    {written : List (Text × Text)} (h : templatesUnder start entries = .ok written) (c : Catalog) :
    Grows (leavesUnder path entries) [] c (Edit.applyAll c (written.map textEdit)) := by
  cases entries with
  | nil =>
    unfold templatesUnder at h
    obtain rfl := Except.ok.inj h
    exact .refl c
  | cons entry entries =>
    obtain ⟨name, value⟩ := entry
    unfold templatesUnder at h
    obtain ⟨t, ht, h⟩ := exists_ok_of_bind_ok h
    obtain ⟨here, hhere, h⟩ := exists_ok_of_bind_ok h
    obtain ⟨there, hthere, h⟩ := exists_ok_of_bind_ok h
    obtain rfl := Except.ok.inj h
    have hpath : (path ++ [name]).mapM textOf = .ok (names ++ [t]) := by
      rw [List.mapM_append, hnames, List.mapM_cons, ht]
      rfl
    -- below the entry, the names so far are those of its path, and no longer only a start
    rw [← hstart t] at hhere
    rw [List.map_append, Edit.applyAll_append]
    exact (grows_templates hpath (by simp) hhere c).trans (grows_templatesUnder hnames hstart hthere _)

end

private theorem grows_stringEdits {part : Value} {es : List Edit} (h : stringEdits part = .ok es)
    (c : Catalog) :
    Grows (leavesUnder [] (entriesOf part)) [] c (Edit.applyAll c es) := by
  cases part with
  | dict entries =>
    obtain ⟨written, hwritten, h⟩ := exists_ok_of_bind_ok h
    obtain rfl := Except.ok.inj h
    have hnames : List.mapM textOf [] = .ok [] := rfl
    exact grows_templatesUnder hnames (fun t => by simp [List.intercalate]) hwritten c
  | _ =>
    obtain rfl := Except.ok.inj h
    exact .refl c

private theorem grows_rowEdits {name value : Value} {es : List Edit} (h : rowEdits name value = .ok es)
    (c : Catalog) : Grows [] [(name, value)] c (Edit.applyAll c es) := by
  cases value with
  | dict entries =>
    obtain ⟨row, hrow, h⟩ := exists_ok_of_bind_ok h
    obtain ⟨lookupKey, hkey, h⟩ := exists_ok_of_bind_ok h
    obtain rfl := Except.ok.inj h
    refine .mergeRow rfl hkey (fun tag => ?_) c
    have hhas : ∀ entry : Value × Value,
        Cell.Has lookupKey tag ⟨name, entry.1, entry.2⟩ ↔ EntryHas tag entry := by
      simp [Cell.Has, EntryHas, hkey]
    have hgives : ∀ {entry : Value × Value} {text : Text},
        EntryGives entry text → Cell.Gives ⟨name, entry.1, entry.2⟩ text := id
    exact (latest_row hrow tag).map _ hhas hgives
  | text text =>
    obtain ⟨lookupKey, hkey, h⟩ := exists_ok_of_bind_ok h
    obtain rfl := Except.ok.inj h
    refine .mergeRow rfl hkey (fun tag => ?_) c
    have hhas : Cell.Has lookupKey tag ⟨name, .text defaultTag, .text text⟩ ↔ tag = defaultTag := by
      have htext : textOf (.text defaultTag) = .ok defaultTag := rfl
      rw [Cell.Has, htext, Except.ok.injEq, eq_comm (a := tag)]
      exact ⟨fun h => h.2.2, fun h => ⟨rfl, hkey, h⟩⟩
    rw [Dict.get?_insert]
    exact .singleton hhas rfl
  | _ =>
    obtain ⟨lookupKey, -, h⟩ := exists_ok_of_bind_ok h
    obtain rfl := Except.ok.inj h
    exact .noRow rfl c

theorem grows_editsOfAll {α : Type} {f : α → Except DocumentFault (List Edit)} {ls : α → List Leaf}
    {rows : α → List (Value × Value)}
    (hf : ∀ a es c, f a = .ok es → Grows (ls a) (rows a) c (Edit.applyAll c es)) {as : List α}
    {es : List Edit} (h : editsOfAll f as = .ok es) (c : Catalog) :
    Grows (as.flatMap ls) (as.flatMap rows) c (Edit.applyAll c es) := by
  induction as generalizing es c with
  | nil =>
    obtain rfl := Except.ok.inj h
    exact .refl c
  | cons a as ih =>
    obtain ⟨here, hhere, h⟩ := exists_ok_of_bind_ok h
    obtain ⟨there, hthere, h⟩ := exists_ok_of_bind_ok h
    obtain rfl := Except.ok.inj h
    rw [Edit.applyAll_append, List.flatMap_cons, List.flatMap_cons]
    exact (hf a here c hhere).trans (ih hthere _)

private theorem grows_tableEdits {part : Value} {es : List Edit} (h : tableEdits part = .ok es)
    (c : Catalog) :
    Grows [] (entriesOf part) c (Edit.applyAll c es) := by
  cases part with
  | dict entries =>
    have hrow : ∀ (entry : Value × Value) es c, rowEdits entry.1 entry.2 = .ok es →
        Grows ((fun _ => []) entry) ((fun entry => [entry]) entry) c (Edit.applyAll c es) :=
      fun entry es c hedits => grows_rowEdits hedits c
    have hgrows := grows_editsOfAll hrow h c
    have hleaves : entries.flatMap (fun _ => ([] : List Leaf)) = [] :=
      List.flatMap_eq_nil_iff.mpr fun _ _ => rfl
    have hrows : entries.flatMap (fun entry => [entry]) = entries := List.flatMap_singleton' entries
    rwa [hleaves, hrows] at hgrows
  | _ =>
    obtain rfl := Except.ok.inj h
    exact .refl c

theorem grows_edits {document : Value} {es : List Edit} (h : edits document = .ok es) (c : Catalog) :
    Grows (stringLeaves document) (sectionOf .tables document) c (Edit.applyAll c es) := by
  cases document with
  | dict entries =>
    obtain ⟨strings, hstrings, h⟩ := exists_ok_of_bind_ok h
    obtain ⟨tables, htables, h⟩ := exists_ok_of_bind_ok h
    obtain rfl := Except.ok.inj h
    rw [Edit.applyAll_append]
    have hgrows := (grows_stringEdits hstrings c).trans (grows_tableEdits htables _)
    rwa [List.append_nil, List.nil_append] at hgrows
  | _ =>
    obtain rfl := Except.ok.inj h
    exact .refl c

end Document

end Phrasebook
