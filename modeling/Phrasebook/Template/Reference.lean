import Phrasebook.Dict
import Phrasebook.Effect
import Phrasebook.Template.Splice

/-!
The second stage: references are filled from localization tables. A reference names an identifier,
for which the caller gives a lookup key, and an entry of the row found under that key. A row is
fetched once for an identifier, and every distinct reference is resolved once.
-/

set_option autoImplicit false
set_option relaxedAutoImplicit false

namespace Phrasebook.Template

/-- A row of a localization table: texts by tag. -/
abbrev Row := Dict Text Text

/-- Lookup keys by identifier; an identifier may be given without a key. -/
abbrev LookupKeys := Dict Text (Option Text)

/-- The answer of a table to a lookup key: a row, nothing, or a failure with a message. -/
abbrev RowAnswer := Except Text (Option Row)

/-- The tag of the entry that a reference without a tag stands for. -/
def defaultTag : Text := ['v', 'a', 'l', 'u', 'e']

/-- Identifier and tag of a reference: everything after the first dot is the tag. -/
def splitReference (content : Text) : Text × Text :=
  let (identifier, tag) := content.breakAt '.'
  (identifier, tag.getD [])

/-- The entry of a row that a tag names, or the report that it is missing. -/
def entryOf (key lookupKey tag : Text) (row : Row) : Except Report Text :=
  if tag.isEmpty then (row.get? defaultTag).elim (.error (.missingDictionaryValue key lookupKey)) .ok
  else (row.get? tag).elim (.error (.missingDictionaryTag key lookupKey tag)) .ok

/-- The rows fetched so far by identifier; a failed fetch counts as no row. -/
abbrev FetchedRows := List (Text × Option Row)

variable {σ : Type}

/-- The row of an identifier, fetched under its lookup key unless that was done before. -/
def rowOf (fetch : Text → Effect σ RowAnswer) (key identifier lookupKey : Text)
    (rows : FetchedRows) : Effect σ (Option Row × FetchedRows) :=
  match rows.lookup identifier with
  | some row => pure (row, rows)
  | none => do
    match ← fetch lookupKey with
    | .ok row => return (row, (identifier, row) :: rows)
    | .error error =>
      Effect.report (.dictionaryFetchFailed key lookupKey error)
      return (none, (identifier, none) :: rows)

def resolveReference (fetch : Text → Effect σ RowAnswer) (key : Text) (ids : LookupKeys)
    (content : Text) (rows : FetchedRows) : Effect σ (Option Text × FetchedRows) :=
  let (identifier, tag) := splitReference content
  match (ids.get? identifier).join with
  | none => do
    Effect.report (.missingLocalizedArgumentId key identifier)
    return (none, rows)
  | some lookupKey => do
    let (row, rows) ← rowOf fetch key identifier lookupKey rows
    match row.map (entryOf key lookupKey tag) with
    | none => return (none, rows)
    | some (.ok text) => return (some text, rows)
    | some (.error report) =>
      Effect.report report
      return (none, rows)

def resolveReferences (fetch : Text → Effect σ RowAnswer) (key : Text) (ids : LookupKeys) :
    List Text → FetchedRows → Effect σ (List (Text × Option Text))
  | [], _ => return []
  | content :: more, rows => do
    let (text, rows) ← resolveReference fetch key ids content rows
    return (content, text) :: (← resolveReferences fetch key ids more rows)

/-- A text with its references filled. Without lookup keys a text that has references is left as it
is, with one report on all of them. -/
def fillReferences (fetch : Text → Effect σ RowAnswer) (key : Text) (ids : Option LookupKeys)
    (text : Text) : Effect σ Text :=
  let tokens := references text
  match ids with
  | none => do
    unless tokens.isEmpty do
      Effect.report
        (.missingLocalizedArguments key (Text.sortedDistinct (tokens.map Token.content)))
    return text
  | some ids => do
    let resolved ← resolveReferences fetch key ids (contents tokens) []
    return splice text tokens fun token => (resolved.lookup token.content).join

end Phrasebook.Template
