import Phrasebook.Dict
import Phrasebook.Locale
import Phrasebook.Template.Reference

/-!
Catalogs: the templates and the localization tables of one locale. Rows are merged tag by tag, all
else key by key, and the later text wins.
-/

set_option autoImplicit false
set_option relaxedAutoImplicit false

namespace Phrasebook

open Template (Row)

/-- The templates and the table rows of a locale. The stamp tells apart catalogs that came from
different loads. -/
structure Catalog where
  locale : Locale
  strings : Dict Text Text := ∅
  tables : Dict Text Row := ∅
  stamp : Nat := 0

namespace Catalog

def template? (c : Catalog) (key : Text) : Option Text := c.strings.get? key

def hasTemplate (c : Catalog) (key : Text) : Bool := c.strings.contains key

def row? (c : Catalog) (lookupKey : Text) : Option Row := c.tables.get? lookupKey

def putString (c : Catalog) (key text : Text) : Catalog :=
  { c with strings := c.strings.insert key text }

/-- The catalog with the entries of a row written over those it has for the lookup key. The row is
there afterwards even if it has no entry. -/
def mergeRow (c : Catalog) (lookupKey : Text) (row : Row) : Catalog :=
  { c with tables := c.tables.insert lookupKey (((c.row? lookupKey).getD ∅).update row) }

def putTag (c : Catalog) (lookupKey tag text : Text) : Catalog :=
  c.mergeRow lookupKey (Dict.insert ∅ tag text)

def merge (c d : Catalog) : Catalog :=
  d.tables.entries.foldl (fun c entry => c.mergeRow entry.1 entry.2)
    { c with strings := c.strings.update d.strings }

end Catalog

end Phrasebook
