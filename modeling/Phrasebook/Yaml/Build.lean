import Phrasebook.Yaml.Graph
import Phrasebook.Yaml.Grammar
import Phrasebook.Yaml.Scalar.Meaning

/-!
From nodes to values. A scalar is read as soon as it is met, a collection is begun empty and completed
later, those that are met first coming first; so of several parts that stand for no value the one
nearest to the root counts. The entries of merged mappings come before the entries of the mapping
itself, so that the latter win.
-/

set_option autoImplicit false
set_option relaxedAutoImplicit false

namespace Phrasebook.Yaml

/-- What has been made of the nodes of a document. -/
structure Builder where
  /-- The nodes. Merging changes the entries of mappings and the tags of keys. -/
  nodes : Nodes
  /-- The items of the nodes met so far, by node. -/
  items : Array (Option Item)
  collections : Array Collection := #[]
  /-- The collections to be completed with their nodes, the latest first. -/
  waiting : List (NodeId × CollectionId) := []

abbrev Build := StateT Builder (Except Problem)

namespace Build

def fail {α : Type} : Build α := throw .malformed

def nodeOf (id : NodeId) : Build Node := do return (← get).nodes.node id

def entriesOf (id : NodeId) : Build (List (NodeId × NodeId)) := do
  match (← nodeOf id).shape with
  | .mapping entries => return entries
  | _ => fail

def itemsOf (id : NodeId) : Build (List NodeId) := do
  match (← nodeOf id).shape with
  | .sequence items => return items
  | _ => fail

def setEntries (id : NodeId) (entries : List (NodeId × NodeId)) : Build Unit :=
  modify fun b => { b with nodes := b.nodes.setShape id (.mapping entries) }

/-- Makes a text of a key that has the tag for a value. -/
def nameKey (key : NodeId) : Build Unit :=
  modify fun b => if b.nodes.tag key = .value then { b with nodes := b.nodes.setTag key .str } else b

/-- Puts the entries that a mapping merges in front of its own. -/
def prepend (merged : NodeId → Build (List (NodeId × NodeId))) (id : NodeId) : Build Unit := do
  let before ← merged id
  setEntries id (before ++ (← entriesOf id))

/-- Takes the entries for merging, from a position on, out of a mapping, and gives the entries that they
contribute; those of several mappings in one entry come in reverse order. The steps to go are as many as
there are entries for merging, and one more. -/
def mergedFrom : Nat → Nat → NodeId → Build (List (NodeId × NodeId))
  | 0, _, _ => fail
  | fuel + 1, position, id => do
    let nodes := (← get).nodes
    let entries ← entriesOf id
    let isOwn (entry : NodeId × NodeId) : Bool := nodes.tag entry.1 ≠ .merge
    let own := (entries.drop position).takeWhile isOwn
    own.forM fun entry => nameKey entry.1
    match (entries.drop position).dropWhile isOwn with
    | [] => return []
    | (_, source) :: rest =>
      let before := entries.take position ++ own
      setEntries id (before ++ rest)
      let contribution (id : NodeId) : Build (List (NodeId × NodeId)) := do
        let _ ← entriesOf id
        prepend (mergedFrom fuel 0) id
        entriesOf id
      let here ←
        match (nodes.node source).shape with
        | .sequence items => do pure (← items.mapM contribution).reverse.flatten
        | _ => contribution source
      return here ++ (← mergedFrom fuel before.length id)

def mergeCount (nodes : Nodes) : Nat :=
  nodes.foldl (fun count node =>
    match node.shape with
    | .mapping entries => count + (entries.filter fun entry => nodes.tag entry.1 = .merge).length
    | _ => count) 0

def mergedEntries (id : NodeId) : Build (List (NodeId × NodeId)) := do
  let _ ← entriesOf id
  prepend (mergedFrom (mergeCount (← get).nodes + 1) 0) id
  entriesOf id

/-- The text of a scalar, or of the scalar that a mapping names as its value. -/
def scalarText (nodes : Nodes) : Nat → NodeId → Except Problem Text
  | 0, _ => .error (.unreadable (.tooDeep "maximum recursion depth exceeded"))
  | fuel + 1, id =>
    match (nodes.node id).shape with
    | .scalar text => .ok text
    | .sequence _ => .error .malformed
    | .mapping entries =>
      match entries.find? fun entry => nodes.tag entry.1 = .value with
      | some (_, value) => scalarText nodes fuel value
      | none => .error .malformed

/-- The mark of a value: the values that are no number differ from each other unless they are written as
such. -/
def markOf (id : NodeId) (text : Text) (value : Value) : Option Nat :=
  if isUndefined value && !isNamedNan text then some id else none

/-- The item of a node whose tag is one for scalars. A time must be a scalar itself. -/
def scalarItem (id : NodeId) : Build Item := do
  let nodes := (← get).nodes
  let text ← scalarText nodes (nodes.size + 1) id
  if nodes.tag id = .timestamp ∧ nodes.isMapping id then
    throw (.unreadable (.badType "expected string or bytes-like object, got 'list'"))
  let value ← scalarValue text (nodes.tag id)
  return .scalar value (markOf id text value)

/-- Begins a collection that will be completed later. -/
def beginCollection (id : NodeId) (blank : Collection) : Build Item := do
  let b ← get
  let collection := b.collections.size
  set { b with collections := b.collections.push blank, waiting := (id, collection) :: b.waiting }
  return .collection collection

def newItem (id : NodeId) : Build Item := do
  match (← nodeOf id).tag with
  | .seq | .omap | .pairs => beginCollection id (.list [])
  | .set => beginCollection id (.set [])
  | .map => beginCollection id (.dict [])
  | .merge | .value | .unknown => fail
  | _ => scalarItem id

def item (id : NodeId) : Build Item := do
  match ((← get).items.getD id none) with
  | some item => return item
  | none =>
    let item ← newItem id
    modify fun b => { b with items := b.items.setIfInBounds id (some item) }
    return item

def key (id : NodeId) : Build Item := do
  match ← item id with
  | .scalar value mark => return .scalar value mark
  | _ => fail

def sameKey : Item → Item → Bool
  | .scalar v m, .scalar w n => if isUndefined v && isUndefined w then m = n else v.equal w
  | _, _ => false

def setEntry (key value : Item) : List (Item × Item) → List (Item × Item)
  | [] => [(key, value)]
  | (k, v) :: entries =>
    if sameKey k key then (k, value) :: entries else (k, v) :: setEntry key value entries

/-- The entries of a mapping; the last value of a key counts, in the place of the first. -/
def distinct (entries : List (Item × Item)) : List (Item × Item) :=
  entries.foldl (fun entries entry => setEntry entry.1 entry.2 entries) []

def entryItems (id : NodeId) : Build (List (Item × Item)) := do
  let entries ← (← mergedEntries id).mapM fun entry => do return (← key entry.1, ← item entry.2)
  return distinct entries

def pairItem (id : NodeId) : Build Item := do
  match ← entriesOf id with
  | [entry] => return .pair (← item entry.1) (← item entry.2)
  | _ => fail

def contents (id : NodeId) : Build Collection := do
  match (← nodeOf id).tag with
  | .map => return .dict (← entryItems id)
  | .set => return .set ((← entryItems id).map Prod.fst)
  | .omap | .pairs => return .list (← (← itemsOf id).mapM pairItem)
  | _ => return .list (← (← itemsOf id).mapM item)

def completeOne (task : NodeId × CollectionId) : Build Unit := do
  let collection ← contents task.1
  modify fun b => { b with collections := b.collections.setIfInBounds task.2 collection }

/-- Completes all collections, level by level. -/
def completeAll : Nat → Build Unit
  | 0 => return ()
  | fuel + 1 => do
    let tasks := (← get).waiting.reverse
    if tasks.isEmpty then return ()
    modify fun b => { b with waiting := [] }
    tasks.forM completeOne
    completeAll fuel

end Build

def Outline.graph (outline : Outline) : Except Problem Graph := do
  let build : Build Item := do
    let root ← Build.item outline.root
    Build.completeAll (outline.nodes.size + 1)
    return root
  let (root, builder) ← build.run
    { nodes := outline.nodes, items := Array.replicate outline.nodes.size none }
  return { collections := builder.collections, root }

end Phrasebook.Yaml
