import Phrasebook.Proofs.Loader.Files

/-!
What the files of a locale do to a catalog, as a list of edits. The edits do not depend on the catalog
they are made in, so a load makes the same of a directory whenever it reads it.
-/

set_option autoImplicit false
set_option relaxedAutoImplicit false

namespace Phrasebook

open Template (Row defaultTag)

/-- One thing that a document writes into a catalog. -/
inductive Edit
  | text (key text : Text)
  | row (lookupKey : Text) (row : Row)

namespace Edit

def apply (c : Catalog) : Edit → Catalog
  | .text key written => c.putString key written
  | .row lookupKey written => c.mergeRow lookupKey written

def applyAll (c : Catalog) (edits : List Edit) : Catalog := edits.foldl apply c

theorem applyAll_append (c : Catalog) (edits more : List Edit) :
    applyAll c (edits ++ more) = applyAll (applyAll c edits) more := by
  simp [applyAll]

theorem applyAll_stamp (c : Catalog) (stamp : Nat) (edits : List Edit) :
    applyAll { c with stamp } edits = { applyAll c edits with stamp } := by
  induction edits generalizing c with
  | nil => rfl
  | cons edit edits ih =>
    cases edit with
    | text key text => exact ih (c.putString key text)
    | row lookupKey row => exact ih (c.mergeRow lookupKey row)

end Edit

theorem exists_ok_of_bind_ok {ε α β : Type} {x : Except ε α} {f : α → Except ε β} {b : β}
    (h : x >>= f = .ok b) : ∃ a, x = .ok a ∧ f a = .ok b := by
  cases x with
  | error e => cases h
  | ok a => exact ⟨a, rfl, h⟩

section

variable {ε α : Type}

def editsOfAll (f : α → Except ε (List Edit)) : List α → Except ε (List Edit)
  | [] => .ok []
  | a :: as => do return (← f a) ++ (← editsOfAll f as)

/-- A computation over a catalog makes the edits of a list, whatever the catalog, or stops with the
fault that stands in place of the list. -/
def Attempt.Performs (x : Attempt ε Catalog Unit) (edits : Except ε (List Edit)) : Prop :=
  ∀ c, (x.run c).value = edits.map (fun _ => ()) ∧
    ∀ es, edits = .ok es → (x.run c).state = Edit.applyAll c es

namespace Attempt.Performs

private theorem pure : Performs (Pure.pure () : Attempt ε Catalog Unit) (.ok []) := by
  intro c
  refine ⟨rfl, ?_⟩
  rintro es ⟨⟩
  rfl

private theorem report (r : Report) : Performs (Attempt.report r : Attempt ε Catalog Unit) (.ok []) := by
  intro c
  refine ⟨rfl, ?_⟩
  rintro es ⟨⟩
  rfl

private theorem reportUnless (b : Bool) (r : Report) :
    Performs (unless b do Attempt.report r : Attempt ε Catalog Unit) (.ok []) := by
  cases b with
  | true => exact .pure
  | false => exact .report r

private theorem change (edit : Edit) :
    Performs (Attempt.change (Edit.apply · edit) : Attempt ε Catalog Unit) (.ok [edit]) := by
  intro c
  refine ⟨rfl, ?_⟩
  rintro es ⟨⟩
  rfl

private theorem bind {x y : Attempt ε Catalog Unit} {edits more : Except ε (List Edit)}
    (hx : Performs x edits) (hy : Performs y more) :
    Performs (x >>= fun _ => y) (do return (← edits) ++ (← more)) := by
  intro c
  obtain ⟨hvalue, hstate⟩ := hx c
  cases edits with
  | error e =>
    rw [Attempt.run_bind_of_error hvalue]
    refine ⟨rfl, ?_⟩
    rintro es ⟨⟩
  | ok es =>
    rw [Attempt.run_bind_of_ok hvalue, hstate es rfl]
    obtain ⟨hvalue', hstate'⟩ := hy (Edit.applyAll c es)
    cases more with
    | error e =>
      refine ⟨hvalue', ?_⟩
      rintro es' ⟨⟩
    | ok es' =>
      refine ⟨hvalue', ?_⟩
      rintro _ ⟨⟩
      rw [Edit.applyAll_append]
      exact hstate' es' rfl

theorem ofExcept_bind (result : Except ε α) {f : α → Attempt ε Catalog Unit}
    {edits : α → Except ε (List Edit)} (h : ∀ a, Performs (f a) (edits a)) :
    Performs (Attempt.ofExcept result >>= f) (result >>= edits) := by
  cases result with
  | error e =>
    intro c
    have hvalue : ((Attempt.ofExcept (.error e) : Attempt ε Catalog α).run c).value = .error e := rfl
    rw [Attempt.run_bind_of_error hvalue]
    refine ⟨rfl, ?_⟩
    rintro es ⟨⟩
  | ok a =>
    intro c
    rw [Attempt.run_bind_of_run_eq (Attempt.run_ofExcept _ c)]
    exact h a c

theorem forM {f : α → Attempt ε Catalog PUnit} {edits : α → Except ε (List Edit)}
    (h : ∀ a, Performs (f a) (edits a)) (as : List α) :
    Performs (as.forM f) (editsOfAll edits as) := by
  induction as with
  | nil => exact .pure
  | cons a as ih => exact (h a).bind ih

end Attempt.Performs

end

namespace Document

def stringEdits : Value → Except DocumentFault (List Edit)
  | .dict entries => do
    return (← templatesUnder [] entries).map fun written => .text written.1 written.2
  | _ => .ok []

def rowEdits (name : Value) : Value → Except DocumentFault (List Edit)
  | .dict entries => do
    let row ← row entries
    return [.row (← textOf name) row]
  | .text text => do return [.row (← textOf name) (Dict.insert ∅ defaultTag text)]
  | _ => do
    let _ ← textOf name
    return []

def tableEdits : Value → Except DocumentFault (List Edit)
  | .dict entries => editsOfAll (fun entry => rowEdits entry.1 entry.2) entries
  | _ => .ok []

/-- What a document writes into a catalog. -/
def edits : Value → Except DocumentFault (List Edit)
  | .dict entries => do
    return (← stringEdits (entry Section.strings.name entries)) ++
      (← tableEdits (entry Section.tables.name entries))
  | _ => .ok []

open Attempt (Performs)

private theorem editsOfAll_ok {α : Type} (f : α → Edit) (as : List α) :
    editsOfAll (ε := DocumentFault) (fun a => .ok [f a]) as = .ok (as.map f) := by
  induction as with
  | nil => rfl
  | cons a as ih =>
    rw [editsOfAll, ih]
    rfl

private theorem performs_addStrings (file : Text) (part : Value) :
    Performs (addStrings file part) (stringEdits part) := by
  cases part with
  | dict entries =>
    refine Performs.ofExcept_bind _ fun written => ?_
    have hput : Performs
        (written.forM fun entry => Attempt.change (Edit.apply · (.text entry.1 entry.2)) : Merging PUnit)
        (editsOfAll (fun entry => .ok [.text entry.1 entry.2]) written) :=
      Performs.forM (fun entry => .change (.text entry.1 entry.2)) written
    rw [editsOfAll_ok] at hput
    exact hput
  | _ => exact .reportUnless _ _

private theorem performs_addRow (file : Text) (name value : Value) :
    Performs (addRow file name value) (rowEdits name value) := by
  cases value with
  | dict entries =>
    exact Performs.ofExcept_bind _ fun row => Performs.ofExcept_bind _ fun lookupKey =>
      .change (.row lookupKey row)
  | text text =>
    exact Performs.ofExcept_bind _ fun lookupKey => .change (.row lookupKey (Dict.insert ∅ defaultTag text))
  | _ => exact Performs.ofExcept_bind _ fun lookupKey => .report _

private theorem performs_addTables (file : Text) (part : Value) :
    Performs (addTables file part) (tableEdits part) := by
  cases part with
  | dict entries =>
    have hrows : ∀ entry : Value × Value,
        Performs (addRow file entry.1 entry.2) (rowEdits entry.1 entry.2) :=
      fun entry => performs_addRow file entry.1 entry.2
    exact Performs.forM hrows entries
  | _ => exact .reportUnless _ _

private theorem performs_addTo (file : Text) (document : Value) :
    Performs (addTo file document) (edits document) := by
  cases document with
  | dict entries => exact (performs_addStrings file _).bind (performs_addTables file _)
  | _ => exact .reportUnless _ _

/-- Documents that can be merged into a catalog do so by their edits. -/
theorem Merges.exists_edits {directory : Text} {documents : List (Text × Value)} {c c' : Catalog}
    (h : Merges directory documents c c') :
    ∃ es, editsOfAll (fun document => edits document.2) documents = .ok es ∧
      c' = Edit.applyAll c es := by
  induction h with
  | nil c => exact ⟨[], rfl, rfl⟩
  | @cons name document more c c' hadded _ ih =>
    obtain ⟨hvalue, hstate⟩ := performs_addTo (Directory.pathOf directory name) document c
    rw [hadded] at hvalue
    cases hedits : edits document with
    | error fault =>
      rw [hedits] at hvalue
      cases hvalue
    | ok es =>
      obtain ⟨es', hmore, hafter⟩ := ih
      refine ⟨es ++ es', ?_, ?_⟩
      · rw [editsOfAll, hedits, hmore]
        rfl
      · rw [hafter, hstate es hedits, Edit.applyAll_append]

end Document

/-- The documents that the files of a locale hold, in the order of the names of the files. -/
structure Directory.Reads [Globbing] (directory : Text) (d : Directory) (locale : Locale)
    (documents : List (Text × Value)) : Prop where
  sorted : (documents.map Prod.fst).Pairwise (List.Lex (· < ·))
  names : ∀ name, name ∈ documents.map Prod.fst ↔
    ∃ content, d.get? name = some content ∧ belongsTo locale name content = true
  read : ∀ name document, (name, document) ∈ documents →
    ∃ content, d.get? name = some content ∧ content.read (pathOf directory name) = .ok document

namespace Directory.Reads

variable [Globbing] {directory : Text} {d : Directory} {locale : Locale} {documents : List (Text × Value)}

private theorem namesFor_eq (h : d.Reads directory locale documents) :
    d.namesFor locale = documents.map Prod.fst :=
  Directory.namesFor_eq h.sorted h.names

theorem unique {documents' : List (Text × Value)} (h : d.Reads directory locale documents)
    (h' : d.Reads directory locale documents') : documents = documents' := by
  let held (name : Text) : Text × Value :=
    (name, ((((d.get? name).getD .dangling).read (pathOf directory name)).toOption).getD .none)
  have general : ∀ documents, d.Reads directory locale documents →
      documents = (d.namesFor locale).map held := by
    intro documents h
    have hheld : ∀ document ∈ documents, held document.1 = document := by
      intro document hdocument
      obtain ⟨content, hcontent, hread⟩ := h.read document.1 document.2 hdocument
      simp only [held, hcontent, Option.getD_some, hread]
      rfl
    rw [h.namesFor_eq, List.map_map]
    exact (List.map_id documents).symm.trans (List.map_congr_left fun document hdocument =>
      (hheld document hdocument).symm)
  rw [general documents h, general documents' h']

end Directory.Reads

namespace FileLoader

open Attempt (Performs)

def editsOfFile (directory : Text) (disk : Directory) (name : Text) : Except Fault (List Edit) := do
  let document ← ((disk.get? name).getD .dangling).read (Directory.pathOf directory name)
  (Document.edits document).mapError .unreadable

def editsOf [Globbing] (directory : Text) (disk : Directory) (locale : Locale) : Except Fault (List Edit) :=
  if (disk.namesFor locale).isEmpty then .error (.noFilesFor locale directory)
  else editsOfAll (editsOfFile directory disk) (disk.namesFor locale)

variable {directory : Text} {disk : Directory} {locale : Locale} {loader : FileLoader}

private theorem performs_addFile (directory : Text) (disk : Directory) (name : Text) :
    Performs (addFile directory disk name) (editsOfFile directory disk name) := by
  intro c
  unfold editsOfFile
  cases hread : ((disk.get? name).getD .dangling).read (Directory.pathOf directory name) with
  | error fault =>
    refine ⟨addFile_run_of_error hread c, ?_⟩
    rintro es ⟨⟩
  | ok document =>
    obtain ⟨hvalue, hstate⟩ := Document.performs_addTo (Directory.pathOf directory name) document c
    rw [addFile_run_of_ok hread]
    change _ = ((Document.edits document).mapError Fault.unreadable).map (fun _ => ()) ∧
      ∀ es, (Document.edits document).mapError Fault.unreadable = .ok es → _
    simp only [hvalue]
    cases hedits : Document.edits document with
    | error cause =>
      refine ⟨rfl, ?_⟩
      rintro es ⟨⟩
    | ok es =>
      refine ⟨rfl, ?_⟩
      rintro _ ⟨⟩
      exact hstate es hedits

private theorem performs_addFiles (directory : Text) (disk : Directory) (names : List Text) :
    Performs (addFiles directory disk names) (editsOfAll (editsOfFile directory disk) names) :=
  Performs.forM (performs_addFile directory disk) names

private theorem editsOfFile_of_read {name : Text} {document : Value} {content : FileContent}
    (hcontent : disk.get? name = some content)
    (hread : content.read (Directory.pathOf directory name) = .ok document) :
    editsOfFile directory disk name = (Document.edits document).mapError .unreadable := by
  rw [editsOfFile, hcontent, Option.getD_some, hread]
  rfl

variable [Globbing]

theorem editsOf_of_reads {documents : List (Text × Value)} (hne : documents ≠ [])
    (h : disk.Reads directory locale documents) :
    editsOf directory disk locale =
      (editsOfAll (fun document => Document.edits document.2) documents).mapError .unreadable := by
  have hall : ∀ documents' : List (Text × Value), documents' ⊆ documents →
      editsOfAll (editsOfFile directory disk) (documents'.map Prod.fst) =
        (editsOfAll (fun document => Document.edits document.2) documents').mapError
          Fault.unreadable := by
    -- a part of the documents still consists of documents that have been read
    intro documents' hsub
    induction documents' with
    | nil => rfl
    | cons document more ih =>
      obtain ⟨content, hcontent, hread⟩ :=
        h.read document.1 document.2 (hsub List.mem_cons_self)
      rw [List.map_cons, editsOfAll, editsOfAll, editsOfFile_of_read hcontent hread,
        ih fun d hd => hsub (List.mem_cons_of_mem _ hd)]
      cases Document.edits document.2 with
      | error cause => rfl
      | ok es =>
        cases editsOfAll (fun document => Document.edits document.2) more <;> rfl
  rw [editsOf, h.namesFor_eq, hall documents (List.Subset.refl _), if_neg]
  simpa using hne

private theorem readFiles_value (disk : Directory) (locale : Locale) (loader : FileLoader) :
    ((readFiles disk locale).run loader).value =
      (editsOf loader.path disk locale).map (Edit.applyAll { locale, stamp := loader.loads }) := by
  rw [(readFiles_outcome disk locale loader).2, editsOf]
  by_cases hempty : (disk.namesFor locale).isEmpty = true
  · rw [if_pos hempty, if_pos hempty]
    rfl
  · rw [if_neg hempty, if_neg hempty]
    obtain ⟨hvalue, hstate⟩ := performs_addFiles loader.path disk (disk.namesFor locale)
      { locale, stamp := loader.loads }
    rw [hvalue]
    cases hedits : editsOfAll (editsOfFile loader.path disk) (disk.namesFor locale) with
    | error fault => rfl
    | ok es =>
      rw [hstate es hedits]
      rfl

/-- A loader has no catalog of a locale that it could give without reading the files. -/
def HasNone (loader : FileLoader) (locale : Locale) : Prop :=
  loader.useCache = true → loader.cache.get? locale = none

theorem load_value (h : loader.HasNone locale) (disk : Directory) :
    ((load disk locale).run loader).value =
      (editsOf loader.path disk locale).map (Edit.applyAll { locale, stamp := loader.loads }) := by
  have hkept : (if loader.useCache then loader.cache.get? locale else none) = none := by
    split_ifs with huse
    · exact h huse
    · rfl
  rw [← readFiles_value]
  unfold load
  rw [Attempt.run_read_bind, hkept]
  cases hread : ((readFiles disk locale).run loader).value with
  | error fault => simp only [Attempt.run_bind_of_error hread]
  | ok catalog =>
    simp only [Attempt.run_bind_of_ok hread]
    split_ifs <;> rfl

end FileLoader

end Phrasebook
