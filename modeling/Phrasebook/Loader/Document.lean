import Phrasebook.Catalog
import Phrasebook.Effect
import Phrasebook.Fault
import Phrasebook.Value.Text
import Phrasebook.Yaml.Graph

/-!
What a translation document adds to a catalog. The names on the way to a text of the section
`strings`, joined by dots, are the key of a template; an entry of the section `tables` is a row, or a
text that stands for a row with the default entry only. What has another shape is reported and
skipped; what is null counts as not written at all.
-/

set_option autoImplicit false
set_option relaxedAutoImplicit false

namespace Phrasebook

open Template (Row defaultTag)

namespace Document

/-- The value of a document of which only the two sections count: the first is read mapping by mapping,
the second row by row. -/
def ofGraph (g : Yaml.Graph) : Value :=
  match g.entries? g.root with
  | none => g.value g.root
  | some entries => .dict (entries.filterMap fun (key, part) =>
      match g.value key with
      | .text name =>
        if name = Section.strings.name then some (.text name, g.branch part)
        else if name = Section.tables.name then some (.text name, g.dictOf (g.dictOf g.value) part)
        else none
      | _ => none)

def textOf (value : Value) : Except DocumentFault Text := value.toText.mapError .badValue

def endless : DocumentFault :=
  .tooDeep "maximum recursion depth exceeded while calling a Python object"

def entry (name : Text) : List (Value × Value) → Value
  | [] => .none
  | (.text t, value) :: entries => if t = name then value else entry name entries
  | _ :: entries => entry name entries

mutual

/-- The templates that a part of a document holds, given the key of that part. -/
def templates (key : Text) : Value → Except DocumentFault (List (Text × Text))
  | .dict entries => templatesUnder (key ++ ['.']) entries
  | .again _ => .error endless
  | .none => .ok []
  | value => (textOf value).map fun text => [(key, text)]

def templatesUnder (start : Text) : List (Value × Value) → Except DocumentFault (List (Text × Text))
  | [] => .ok []
  | (name, value) :: entries => do
    let key := start ++ (← textOf name)
    let here ← templates key value
    let there ← templatesUnder start entries
    return here ++ there

end

def row : List (Value × Value) → Except DocumentFault Row
  | entries => do
    let present := entries.filter fun entry => !entry.2.isNone
    let written ← present.mapM fun (tag, text) => do
      let t ← textOf tag
      return (t, ← textOf text)
    return Dict.ofList written

/-- A computation over a catalog that stops where a value has no text. -/
abbrev Merging := Attempt DocumentFault Catalog

def addStrings (file : Text) (part : Value) : Merging Unit :=
  match part with
  | .dict entries => do
    let written ← Attempt.ofExcept (templatesUnder [] entries)
    written.forM fun (key, text) => Attempt.change (·.putString key text)
  | part => unless part.isEmpty do Attempt.report (.invalidSection file .strings)

def addRow (file : Text) (name : Value) : Value → Merging Unit
  | .dict entries => do
    let row ← Attempt.ofExcept (row entries)
    let lookupKey ← Attempt.ofExcept (textOf name)
    Attempt.change (·.mergeRow lookupKey row)
  | .text text => do
    let lookupKey ← Attempt.ofExcept (textOf name)
    Attempt.change (·.putTag lookupKey defaultTag text)
  | _ => do
    let lookupKey ← Attempt.ofExcept (textOf name)
    Attempt.report (.invalidTableRow file lookupKey)

def addTables (file : Text) (part : Value) : Merging Unit :=
  match part with
  | .dict entries => entries.forM fun (name, value) => addRow file name value
  | part => unless part.isEmpty do Attempt.report (.invalidSection file .tables)

def addTo (file : Text) (document : Value) : Merging Unit :=
  match document with
  | .dict entries => do
    addStrings file (entry Section.strings.name entries)
    addTables file (entry Section.tables.name entries)
  | document => unless document.isEmpty do Attempt.report (.invalidDocument file)

end Document

end Phrasebook
