import Phrasebook.Value.Equality

/-!
The values of a document, in which one collection may stand in several places, also within itself. Such
a graph becomes a value as soon as one says from where it is looked at: a collection that is met again
inside itself is not followed.
-/

set_option autoImplicit false
set_option relaxedAutoImplicit false

namespace Phrasebook.Yaml

abbrev CollectionId := Nat

/-- A part of a document. -/
inductive Item where
  /-- A value without parts. Values that equal nothing are told apart by marks. -/
  | scalar (value : Value) (mark : Option Nat)
  | collection (id : CollectionId)
  | pair (key value : Item)

/-- What a collection holds. -/
inductive Collection where
  | list (items : List Item)
  | set (items : List Item)
  | dict (entries : List (Item × Item))

/-- A document: its collections by number, and what it is as a whole. -/
structure Graph where
  collections : Array Collection
  root : Item

namespace Graph

def collection (g : Graph) (id : CollectionId) : Collection := g.collections.getD id (.list [])

def isDict (g : Graph) (id : CollectionId) : Bool :=
  match g.collection id with
  | .dict _ => true
  | _ => false

def entries? (g : Graph) : Item → Option (List (Item × Item))
  | .collection id =>
    match g.collection id with
    | .dict entries => some entries
    | _ => none
  | _ => none

/-- How many steps down a value goes at most: every other one leads to a collection not met before. -/
def depth (g : Graph) : Nat := 2 * g.collections.size + 2

/-- The value of an item inside the collections of a path, with the given number of steps to go down. -/
def valueWithin (g : Graph) : Nat → List CollectionId → Item → Value
  | _, _, .scalar value _ => value
  | 0, _, _ => .none
  | fuel + 1, path, .pair key value => .tuple [valueWithin g fuel path key, valueWithin g fuel path value]
  | fuel + 1, path, .collection id =>
    let part := valueWithin g fuel (id :: path)
    if path.contains id then .again (g.isDict id)
    else
      match g.collection id with
      | .list items => .list (items.map part)
      | .set items => .set (items.map part)
      | .dict entries => .dict (entries.map fun (key, value) => (part key, part value))

def value (g : Graph) (item : Item) : Value := g.valueWithin g.depth [] item

/-- The value of a mapping whose values are looked at in a given way, and of anything else by itself. -/
def dictOf (g : Graph) (look : Item → Value) (item : Item) : Value :=
  match g.entries? item with
  | some entries => .dict (entries.map fun (key, value) => (g.value key, look value))
  | none => g.value item

/-- The value of an item inside the mappings of a path, of which only the mappings that lead to it count
as met before. -/
def branchWithin (g : Graph) : Nat → List CollectionId → Item → Value
  | fuel + 1, path, .collection id =>
    if path.contains id then .again true
    else g.dictOf (branchWithin g fuel (id :: path)) (.collection id)
  | _, _, item => g.value item

/-- The value of an item that is read mapping by mapping: what is no mapping is a value by itself. -/
def branch (g : Graph) (item : Item) : Value := g.branchWithin g.depth [] item

end Graph

end Phrasebook.Yaml
