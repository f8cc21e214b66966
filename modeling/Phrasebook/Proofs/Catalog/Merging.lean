import Phrasebook.Catalog
import Phrasebook.Proofs.Dict.Merging

/-!
Merging catalogs. Templates are overridden key by key and rows entry by entry, on two levels of maps of
which each is merged in the same way. So a catalog may be merged in one go or in parts, and what has been
merged once adds nothing when it is merged again; not even the order of the entries can tell.
-/

set_option autoImplicit false
set_option relaxedAutoImplicit false

namespace Phrasebook.Catalog

open Template (Row)

/-- How a row is merged into one that may be there before. -/
def mergedRow (before : Option Row) (row : Row) : Row := (before.getD ∅).update row

theorem associative_mergedRow : Dict.Associative mergedRow := Dict.associative_update

private theorem mergedRow_self (row : Row) : mergedRow (some row) row = row := Dict.update_self row

theorem mergeRow_eq (c : Catalog) (lookupKey : Text) (row : Row) :
    c.mergeRow lookupKey row = { c with tables := c.tables.combineAt mergedRow lookupKey row } := rfl

theorem merge_eq (c d : Catalog) :
    c.merge d = { c with
      strings := c.strings.update d.strings
      tables := c.tables.mergeWith mergedRow d.tables } := by
  have general : ∀ (rows : List (Text × Row)) (c : Catalog),
      rows.foldl (fun c entry => c.mergeRow entry.1 entry.2) c =
        { c with tables := c.tables.combineAll mergedRow rows } := by
    intro rows
    induction rows with
    | nil => exact fun _ => rfl
    | cons entry rows ih => exact fun c => ih (c.mergeRow entry.1 entry.2)
  exact general d.tables.entries { c with strings := c.strings.update d.strings }

theorem merge_blank (c : Catalog) (locale : Locale) (stamp : Nat) :
    c.merge { locale, stamp } = c := rfl

/-! ## What a merged catalog answers -/

private theorem template?_merge (c d : Catalog) (key : Text) :
    (c.merge d).template? key = (d.template? key).or (c.template? key) := by
  rw [merge_eq]
  exact Dict.get?_update c.strings d.strings key

private theorem row?_merge (c d : Catalog) (lookupKey : Text) :
    (c.merge d).row? lookupKey =
      ((d.row? lookupKey).map (mergedRow (c.row? lookupKey))).or (c.row? lookupKey) := by
  rw [merge_eq]
  exact Dict.get?_mergeWith c.tables d.tables lookupKey

private theorem isSome_row?_merge (c d : Catalog) (lookupKey : Text) :
    ((c.merge d).row? lookupKey).isSome =
      ((c.row? lookupKey).isSome || (d.row? lookupKey).isSome) := by
  rw [row?_merge]
  cases c.row? lookupKey <;> cases d.row? lookupKey <;> rfl

/-- The text that a catalog has for a tag of a row, if there is such a row with such a tag. -/
def cell? (c : Catalog) (lookupKey tag : Text) : Option Text := (c.row? lookupKey).bind (·.get? tag)

private theorem cell?_merge (c d : Catalog) (lookupKey tag : Text) :
    (c.merge d).cell? lookupKey tag = (d.cell? lookupKey tag).or (c.cell? lookupKey tag) := by
  unfold cell?
  rw [row?_merge]
  cases hrow : d.row? lookupKey with
  | none => rfl
  | some row =>
    have hcell : (mergedRow (c.row? lookupKey) row).get? tag =
        (row.get? tag).or (((c.row? lookupKey).getD ∅).get? tag) := Dict.get?_update _ _ _
    rw [Option.map_some, Option.some_or, Option.bind_some, Option.bind_some, hcell]
    cases c.row? lookupKey <;> rfl

/-! ## Merging several times -/

private theorem merge_assoc (c d e : Catalog) : (c.merge d).merge e = c.merge (d.merge e) := by
  simp only [merge_eq, Dict.update_assoc, Dict.mergeWith_assoc associative_mergedRow]

private theorem merge_self (c : Catalog) : c.merge c = c := by
  have htables : c.tables.mergeWith mergedRow c.tables = c.tables :=
    Dict.mergeWith_of_absorbed fun _ row hrow => ⟨row, hrow, mergedRow_self row⟩
  rw [merge_eq, Dict.update_self, htables]

/-- A merged catalog has for every key the template of the second, or else of the first; it has a row
where one of them has one, and in it for every tag the text of the second, or else of the first. Merging is
associative, a catalog without entries and the catalog itself add nothing, nor does one that was merged
before; the catalog stays that of its locale. -/
theorem merge_laws (a b c : Catalog) :
    (∀ key, (a.merge b).template? key = (b.template? key).or (a.template? key)) ∧
    (∀ lookupKey, ((a.merge b).row? lookupKey).isSome =
      ((a.row? lookupKey).isSome || (b.row? lookupKey).isSome)) ∧
    (∀ lookupKey tag, (a.merge b).cell? lookupKey tag =
      (b.cell? lookupKey tag).or (a.cell? lookupKey tag)) ∧
    (a.merge b).merge c = a.merge (b.merge c) ∧
    (∀ locale stamp, a.merge { locale, stamp } = a) ∧
    a.merge a = a ∧
    (a.merge b).merge b = a.merge b ∧
    (a.merge b).locale = a.locale ∧ (a.merge b).stamp = a.stamp := by
  have htwice : (a.merge b).merge b = a.merge b := by rw [merge_assoc, merge_self]
  have hlocale : (a.merge b).locale = a.locale := by rw [merge_eq]
  have hstamp : (a.merge b).stamp = a.stamp := by rw [merge_eq]
  exact ⟨template?_merge a b, isSome_row?_merge a b, cell?_merge a b, merge_assoc a b c,
    merge_blank a, merge_self a, htwice, hlocale, hstamp⟩

/-- A row without entries makes the row of the other catalog no shorter, and is there by itself. -/
example :
    let rows (entries : List (Text × Row)) : Catalog := { locale := .enUS, tables := .ofList entries }
    let merged := (rows [(['k'], .ofList [(['t'], ['x'])])]).merge (rows [(['k'], ∅), (['l'], ∅)])
    merged.cell? ['k'] ['t'] = some ['x'] ∧ merged.row? ['l'] = some ∅ := by
  exact ⟨rfl, rfl⟩

end Phrasebook.Catalog
