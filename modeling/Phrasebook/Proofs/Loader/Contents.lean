import Phrasebook.Proofs.Loader.Edits

/-!
What there is to be read in a translation document: the leaves of the section `strings`, the rows of
the section `tables` and the cells of those. A document can be merged into a catalog exactly when all
of this has texts.
-/

set_option autoImplicit false
set_option relaxedAutoImplicit false

namespace Phrasebook

open Template (defaultTag)

namespace Document

/-- A value in a nested mapping that is no mapping itself, and the names on the way to it. -/
structure Leaf where
  path : List Value
  value : Value

/-- An entry of a row of a table, with the names as they are written. -/
structure Cell where
  lookupKey : Value
  tag : Value
  value : Value

mutual

/-- The leaves of a value that is found under some names, in the order of the document. -/
def leaves (path : List Value) : Value → List Leaf
  | .dict entries => leavesUnder path entries
  | value => [⟨path, value⟩]

def leavesUnder (path : List Value) : List (Value × Value) → List Leaf
  | [] => []
  | (name, value) :: entries => leaves (path ++ [name]) value ++ leavesUnder path entries

end

/-- The cells of an entry of a table. A text is a row with one cell, and what is neither a mapping nor
a text is no row. -/
def cells : Value × Value → List Cell
  | (name, .dict entries) => entries.map fun entry => ⟨name, entry.1, entry.2⟩
  | (name, .text text) => [⟨name, .text defaultTag, .text text⟩]
  | _ => []

def isRow : Value → Bool
  | .dict _ | .text _ => true
  | _ => false

def entriesOf : Value → List (Value × Value)
  | .dict entries => entries
  | _ => []

def sectionOf (part : Section) (document : Value) : List (Value × Value) :=
  entriesOf (entry part.name (entriesOf document))

def stringLeaves (document : Value) : List Leaf := leavesUnder [] (sectionOf .strings document)

/-- The names on a path have texts, which make a key with dots between them. -/
def Spells (path : List Value) (key : Text) : Prop :=
  ∃ names, path.mapM textOf = .ok names ∧ ['.'].intercalate names = key

def Leaf.Has (key : Text) (leaf : Leaf) : Prop := leaf.value.isNone = false ∧ Spells leaf.path key

def Cell.Has (lookupKey tag : Text) (cell : Cell) : Prop :=
  cell.value.isNone = false ∧ textOf cell.lookupKey = .ok lookupKey ∧ textOf cell.tag = .ok tag

def Leaf.Gives (leaf : Leaf) (text : Text) : Prop := textOf leaf.value = .ok text

def Cell.Gives (cell : Cell) (text : Text) : Prop := textOf cell.value = .ok text

def RowHas (lookupKey : Text) (row : Value × Value) : Prop :=
  isRow row.2 = true ∧ textOf row.1 = .ok lookupKey

def HasText (value : Value) : Prop := ∃ text, textOf value = .ok text

/-- An entry of a mapping, or of a mapping inside it. -/
inductive Within : List (Value × Value) → Value × Value → Prop
  | here {entries : List (Value × Value)} {entry : Value × Value} (h : entry ∈ entries) :
      Within entries entry
  | inside {entries more : List (Value × Value)} {entry : Value × Value} {name : Value}
      (h : (name, .dict more) ∈ entries) (hmore : Within more entry) : Within entries entry

/-- What stands under a name of the strings is a mapping, is null or has a text, and it is not a mapping
that holds itself. -/
def IsString : Value → Prop
  | .dict _ | .none => True
  | .again _ => False
  | value => HasText value

/-- The name of a row has a text, and so has what is written in the row. -/
def IsReadable (row : Value × Value) : Prop :=
  HasText row.1 ∧ ∀ entries, row.2 = .dict entries →
    ∀ entry ∈ entries, entry.2.isNone = false → HasText entry.1 ∧ HasText entry.2

/-- All that counts in a document has a text. -/
structure Legible (document : Value) : Prop where
  strings : ∀ entry, Within (sectionOf .strings document) entry → HasText entry.1 ∧ IsString entry.2
  rows : ∀ row ∈ sectionOf .tables document, IsReadable row

section

variable {ε α β : Type}

private theorem exists_ok_bind_iff {x : Except ε α} {f : α → Except ε β} :
    (∃ b, x >>= f = .ok b) ↔ ∃ a, x = .ok a ∧ ∃ b, f a = .ok b := by
  constructor
  · rintro ⟨b, h⟩
    obtain ⟨a, ha, hb⟩ := exists_ok_of_bind_ok h
    exact ⟨a, ha, b, hb⟩
  · rintro ⟨a, rfl, h⟩
    exact h

private theorem exists_ok_both_iff {γ : Type} {x : Except ε α} {y : Except ε β} {f : α → β → γ} :
    (∃ c, (x >>= fun a => y >>= fun b => pure (f a b)) = .ok c) ↔
      (∃ a, x = .ok a) ∧ ∃ b, y = .ok b := by
  constructor
  · rintro ⟨c, h⟩
    obtain ⟨a, ha, h⟩ := exists_ok_of_bind_ok h
    obtain ⟨b, hb, -⟩ := exists_ok_of_bind_ok h
    exact ⟨⟨a, ha⟩, b, hb⟩
  · rintro ⟨⟨a, rfl⟩, b, rfl⟩
    exact ⟨f a b, rfl⟩

private theorem exists_ok_mapM_iff {f : α → Except ε β} {as : List α} :
    (∃ bs, as.mapM f = .ok bs) ↔ ∀ a ∈ as, ∃ b, f a = .ok b := by
  induction as with
  | nil => exact iff_of_true ⟨[], rfl⟩ nofun
  | cons a as ih => rw [List.mapM_cons, exists_ok_both_iff, List.forall_mem_cons, ih]

theorem exists_ok_editsOfAll_iff {f : α → Except ε (List Edit)} {as : List α} :
    (∃ es, editsOfAll f as = .ok es) ↔ ∀ a ∈ as, ∃ es, f a = .ok es := by
  induction as with
  | nil => exact iff_of_true ⟨[], rfl⟩ nofun
  | cons a as ih => rw [editsOfAll, exists_ok_both_iff, List.forall_mem_cons, ih]

private theorem exists_ok_map_iff {x : Except ε α} {f : α → β} :
    (∃ b, x.map f = .ok b) ↔ ∃ a, x = .ok a := by
  cases x with
  | error e => exact iff_of_false nofun nofun
  | ok a => exact iff_of_true ⟨f a, rfl⟩ ⟨a, rfl⟩

end

private theorem not_within_nil {entry : Value × Value} : ¬ Within [] entry := by
  rintro (h | h) <;> cases h

private theorem within_cons {name value : Value} {entries : List (Value × Value)} {entry : Value × Value} :
    Within ((name, value) :: entries) entry ↔
      entry = (name, value) ∨ Within (entriesOf value) entry ∨ Within entries entry := by
  constructor
  · rintro (h | ⟨h, hmore⟩)
    · rcases List.mem_cons.mp h with rfl | h
      · exact Or.inl rfl
      · exact Or.inr (Or.inr (.here h))
    · rcases List.mem_cons.mp h with heq | h
      · cases heq
        exact Or.inr (Or.inl hmore)
      · exact Or.inr (Or.inr (.inside h hmore))
  · rintro (rfl | h | (h | ⟨h, hmore⟩))
    · exact .here List.mem_cons_self
    · cases value with
      | dict more => exact .inside List.mem_cons_self h
      | _ => exact absurd h not_within_nil
    · exact .here (List.mem_cons_of_mem _ h)
    · exact .inside (List.mem_cons_of_mem _ h) hmore

mutual

private theorem templates_ok_iff (key : Text) (value : Value) :
    (∃ written, templates key value = .ok written) ↔
      IsString value ∧ ∀ entry, Within (entriesOf value) entry → HasText entry.1 ∧ IsString entry.2 := by
  cases value with
  | dict entries =>
    unfold templates
    rw [templatesUnder_ok_iff]
    exact (and_iff_right trivial).symm
  | none =>
    unfold templates
    exact iff_of_true ⟨[], rfl⟩ ⟨trivial, fun entry h => absurd h not_within_nil⟩
  | again isDict =>
    unfold templates
    exact iff_of_false nofun fun h => h.1
  | _ =>
    unfold templates
    rw [exists_ok_map_iff]
    exact (and_iff_left fun entry h => absurd h not_within_nil).symm

private theorem templatesUnder_ok_iff (start : Text) (entries : List (Value × Value)) :
    (∃ written, templatesUnder start entries = .ok written) ↔
      ∀ entry, Within entries entry → HasText entry.1 ∧ IsString entry.2 := by
  cases entries with
  | nil => exact iff_of_true ⟨[], by unfold templatesUnder; rfl⟩ fun entry h => absurd h not_within_nil
  | cons entry entries =>
    obtain ⟨name, value⟩ := entry
    unfold templatesUnder
    constructor
    · intro h
      obtain ⟨t, ht, h⟩ := exists_ok_bind_iff.mp h
      obtain ⟨here, hhere, h⟩ := exists_ok_bind_iff.mp h
      obtain ⟨there, hthere, -⟩ := exists_ok_bind_iff.mp h
      obtain ⟨hvalue, hinside⟩ := (templates_ok_iff _ value).mp ⟨here, hhere⟩
      intro entry hentry
      rcases within_cons.mp hentry with rfl | hentry | hentry
      · exact ⟨⟨t, ht⟩, hvalue⟩
      · exact hinside entry hentry
      · exact (templatesUnder_ok_iff start entries).mp ⟨there, hthere⟩ entry hentry
    · intro h
      obtain ⟨⟨t, ht⟩, hvalue⟩ := h _ (within_cons.mpr (Or.inl rfl))
      obtain ⟨here, hhere⟩ := (templates_ok_iff (start ++ t) value).mpr
        ⟨hvalue, fun entry hentry => h entry (within_cons.mpr (Or.inr (Or.inl hentry)))⟩
      obtain ⟨there, hthere⟩ := (templatesUnder_ok_iff start entries).mpr fun entry hentry =>
        h entry (within_cons.mpr (Or.inr (Or.inr hentry)))
      refine ⟨here ++ there, ?_⟩
      rw [ht]
      change (templates (start ++ t) value >>= fun here =>
        templatesUnder start entries >>= fun there => pure (here ++ there)) = _
      rw [hhere, hthere]
      rfl

end

private theorem stringEdits_ok_iff (part : Value) : (∃ es, stringEdits part = .ok es) ↔
    ∀ entry, Within (entriesOf part) entry → HasText entry.1 ∧ IsString entry.2 := by
  cases part with
  | dict entries =>
    have hwritten := templatesUnder_ok_iff [] entries
    exact (exists_ok_bind_iff.trans (exists_congr fun written => and_iff_left ⟨_, rfl⟩)).trans hwritten
  | _ => exact iff_of_true ⟨[], rfl⟩ fun entry h => absurd h not_within_nil

def rowTexts (entries : List (Value × Value)) : Except DocumentFault (List (Text × Text)) :=
  (entries.filter fun entry => !entry.2.isNone).mapM fun (tag, text) => do
    let t ← textOf tag
    return (t, ← textOf text)

private theorem rowTexts_ok_iff (entries : List (Value × Value)) : (∃ written, rowTexts entries = .ok written) ↔
    ∀ entry ∈ entries, entry.2.isNone = false → HasText entry.1 ∧ HasText entry.2 := by
  rw [rowTexts, exists_ok_mapM_iff]
  constructor
  · intro h entry hentry hwritten
    exact exists_ok_both_iff.mp (h entry (List.mem_filter.mpr ⟨hentry, by simp [hwritten]⟩))
  · intro h entry hentry
    obtain ⟨hentry, hwritten⟩ := List.mem_filter.mp hentry
    exact exists_ok_both_iff.mpr (h entry hentry (by simpa using hwritten))

private theorem rowEdits_ok_iff (name value : Value) :
    (∃ es, rowEdits name value = .ok es) ↔ IsReadable (name, value) := by
  cases value with
  | dict entries =>
    have hrow : (∃ row, Document.row entries = .ok row) ↔ ∃ written, rowTexts entries = .ok written :=
      exists_ok_bind_iff.trans (exists_congr fun written => and_iff_left ⟨_, rfl⟩)
    refine exists_ok_both_iff.trans ?_
    rw [hrow, rowTexts_ok_iff, and_comm]
    refine and_congr_right fun _ => ⟨?_, fun h => h entries rfl⟩
    rintro h _ ⟨⟩
    exact h
  | _ =>
    refine (exists_ok_bind_iff.trans (exists_congr fun t => and_iff_left ⟨_, rfl⟩)).trans ?_
    exact (and_iff_left nofun).symm

private theorem tableEdits_ok_iff (part : Value) :
    (∃ es, tableEdits part = .ok es) ↔ ∀ row ∈ entriesOf part, IsReadable row := by
  cases part with
  | dict entries =>
    refine exists_ok_editsOfAll_iff.trans ?_
    exact forall₂_congr fun row hrow => rowEdits_ok_iff row.1 row.2
  | _ => exact iff_of_true ⟨[], rfl⟩ nofun

theorem legible_iff (document : Value) : Legible document ↔ ∃ es, edits document = .ok es := by
  cases document with
  | dict entries =>
    refine Iff.trans ?_ exists_ok_both_iff.symm
    rw [stringEdits_ok_iff, tableEdits_ok_iff]
    exact ⟨fun h => ⟨h.strings, h.rows⟩, fun h => ⟨h.1, h.2⟩⟩
  | _ => exact iff_of_true ⟨fun entry h => absurd h not_within_nil, nofun⟩ ⟨[], rfl⟩

end Document

end Phrasebook
