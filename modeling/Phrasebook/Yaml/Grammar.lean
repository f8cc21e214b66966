import Phrasebook.Yaml.Layout
import Phrasebook.Yaml.Node

/-!
From tokens to nodes. A text holds at most one document. An alias stands for the node that carries its
anchor, which must have been begun before; a collection may thus hold itself.
-/

set_option autoImplicit false
set_option relaxedAutoImplicit false

namespace Phrasebook.Yaml

/-- The text still to be read, and what has been met so far. -/
structure Reader where
  layout : Layout
  nodes : Nodes := #[]
  anchors : List (Text × NodeId) := []
  handles : List (Text × Text) := []

abbrev Read := StateT Reader (Except Problem)

namespace Read

def peek : Read (Option Token) := do
  let reader ← get
  let layout ← reader.layout.ready
  set { reader with layout }
  return layout.tokens.head?

def pass : Read Unit := modify fun reader => { reader with layout := reader.layout.pass }

def passIf (token : Token) : Read Bool := do
  if (← peek) = some token then
    pass
    return true
  else return false

def comes (tokens : List Token) : Read Bool := do
  return (← peek).any fun token => tokens.contains token

def create (node : Node) : Read NodeId := do
  let reader ← get
  set { reader with nodes := reader.nodes.push node }
  return reader.nodes.size

/-- A new node with an anchor, if it has one; the anchor must be new. -/
def anchored (anchor : Option Text) (node : Node) : Read NodeId := do
  let id ← create node
  if let some name := anchor then
    if ((← get).anchors.lookup name).isSome then throw .malformed
    modify fun reader => { reader with anchors := (name, id) :: reader.anchors }
  return id

def complete (id : NodeId) (shape : Shape) : Read NodeId := do
  modify fun reader => { reader with nodes := reader.nodes.setShape id shape }
  return id

def absent : Read NodeId := create .absent

def aliased (name : Text) : Read NodeId := do
  match (← get).anchors.lookup name with
  | some id => return id
  | none => throw .malformed

def tagName (handle : Option Text) (suffix : Text) : Read Text := do
  match handle with
  | none => return suffix
  | some handle =>
    match (← get).handles.lookup handle with
    | some meaning => return meaning ++ suffix
    | none => throw .malformed

def anchor? : Read (Option Text) := do
  match ← peek with
  | some (.anchor name) =>
    pass
    return some name
  | _ => return none

def tag? : Read (Option (Option Text × Text)) := do
  match ← peek with
  | some (.tag handle suffix) =>
    pass
    return some (handle, suffix)
  | _ => return none

/-- An anchor and the full name of a tag, in either order. -/
def properties : Read (Option Text × Option Text) := do
  let (anchor, tag) ←
    match ← anchor? with
    | some name => pure (some name, ← tag?)
    | none =>
      match ← tag? with
      | some tag => pure (← anchor?, some tag)
      | none => pure (none, none)
  return (anchor, ← tag.mapM fun (handle, suffix) => tagName handle suffix)

def usualTag : Text := ['!']

/-- The tag of a scalar: a plain one without a tag gets it from its form. -/
def scalarTag (tag : Option Text) (text : Text) (plain : Bool) : Tag :=
  match tag with
  | none => if plain then .ofPlain text else .str
  | some name => if name = usualTag then .ofPlain text else .ofName name

def collectionTag (tag : Option Text) (usual : Tag) : Tag :=
  match tag with
  | none => usual
  | some name => if name = usualTag then usual else .ofName name

/-- Where a node stands: within brackets, in a block, or in a block after a key, where a sequence need
not be indented. -/
inductive Place
  | flow | block | afterKey
  deriving DecidableEq

mutual

def node (place : Place) : Nat → Read NodeId
  | 0 => throw .malformed
  | fuel + 1 => do
    if let some (.alias name) ← peek then
      pass
      return ← aliased name
    let (anchor, tag) ← properties
    let newSequence : Read NodeId := anchored anchor ⟨collectionTag tag .seq, .sequence []⟩
    let newMapping : Read NodeId := anchored anchor ⟨collectionTag tag .map, .mapping []⟩
    let next ← peek
    if place = .afterKey ∧ next = some .blockEntry then
      let id ← newSequence
      complete id (.sequence (← looseSequence fuel))
    else
      match next with
      | some (.scalar text plain) =>
        pass
        anchored anchor ⟨scalarTag tag text plain, .scalar text⟩
      | some .flowSequence =>
        let id ← newSequence
        pass
        complete id (.sequence (← flowSequence true fuel))
      | some .flowMapping =>
        let id ← newMapping
        pass
        complete id (.mapping (← flowMapping true fuel))
      | _ =>
        if place ≠ .flow ∧ next = some .blockSequence then
          let id ← newSequence
          pass
          complete id (.sequence (← blockSequence fuel))
        else if place ≠ .flow ∧ next = some .blockMapping then
          let id ← newMapping
          pass
          complete id (.mapping (← blockMapping fuel))
        else if anchor.isSome ∨ tag.isSome then
          anchored anchor ⟨scalarTag tag [] true, .scalar []⟩
        else throw .malformed

def nodeUnless (place : Place) (tokens : List Token) : Nat → Read NodeId
  | 0 => throw .malformed
  | fuel + 1 => do
    if ← comes tokens then absent else node place fuel

def blockSequence : Nat → Read (List NodeId)
  | 0 => throw .malformed
  | fuel + 1 => do
    if ← passIf .blockEntry then
      let item ← nodeUnless .block [.blockEntry, .blockEnd] fuel
      return item :: (← blockSequence fuel)
    else if ← passIf .blockEnd then return []
    else throw .malformed

def looseSequence : Nat → Read (List NodeId)
  | 0 => throw .malformed
  | fuel + 1 => do
    if ← passIf .blockEntry then
      let item ← nodeUnless .block [.blockEntry, .key, .value, .blockEnd] fuel
      return item :: (← looseSequence fuel)
    else return []

def blockMapping : Nat → Read (List (NodeId × NodeId))
  | 0 => throw .malformed
  | fuel + 1 => do
    if ← passIf .key then
      let key ← nodeUnless .afterKey [.key, .value, .blockEnd] fuel
      let value ←
        if ← passIf .value then nodeUnless .afterKey [.key, .value, .blockEnd] fuel
        else absent
      return (key, value) :: (← blockMapping fuel)
    else if ← passIf .blockEnd then return []
    else throw .malformed

/-- The rest of a sequence in brackets; a key makes an entry a mapping with one entry. -/
def flowSequence (first : Bool) : Nat → Read (List NodeId)
  | 0 => throw .malformed
  | fuel + 1 => do
    if ← passIf .flowSequenceEnd then return []
    unless first do
      unless ← passIf .flowEntry do throw .malformed
    if ← passIf .key then
      let id ← create ⟨.map, .mapping []⟩
      let key ← nodeUnless .flow [.value, .flowEntry, .flowSequenceEnd] fuel
      let value ←
        if ← passIf .value then nodeUnless .flow [.flowEntry, .flowSequenceEnd] fuel
        else absent
      let item ← complete id (.mapping [(key, value)])
      return item :: (← flowSequence false fuel)
    else if ← passIf .flowSequenceEnd then return []
    else
      let item ← node .flow fuel
      return item :: (← flowSequence false fuel)

/-- The rest of a mapping in braces; an entry without a colon has no value. -/
def flowMapping (first : Bool) : Nat → Read (List (NodeId × NodeId))
  | 0 => throw .malformed
  | fuel + 1 => do
    if ← passIf .flowMappingEnd then return []
    unless first do
      unless ← passIf .flowEntry do throw .malformed
    if ← passIf .key then
      let key ← nodeUnless .flow [.value, .flowEntry, .flowMappingEnd] fuel
      let value ←
        if ← passIf .value then nodeUnless .flow [.flowEntry, .flowMappingEnd] fuel
        else absent
      return (key, value) :: (← flowMapping false fuel)
    else if ← passIf .flowMappingEnd then return []
    else
      let key ← node .flow fuel
      let value ← absent
      return (key, value) :: (← flowMapping false fuel)

end

/-- Passes directives and keeps what they say; neither a version nor a handle is given twice. -/
def directives (versioned : Bool) (given : List (Text × Text)) :
    Nat → Read (List (Text × Text))
  | 0 => throw .malformed
  | fuel + 1 => do
    match ← peek with
    | some (.version major) =>
      if versioned ∨ major ≠ 1 then throw .malformed
      pass
      directives true given fuel
    | some (.tagHandle handle meaning) =>
      if (given.lookup handle).isSome then throw .malformed
      pass
      directives versioned (given ++ [(handle, meaning)]) fuel
    | some .otherDirective =>
      pass
      directives versioned given fuel
    | _ => return given

def usualHandles : List (Text × Text) := [(['!'], ['!']), (['!', '!'], Tag.space)]

/-- The node of a document that is announced by directives or by a mark. -/
def announcedDocument (fuel : Nat) : Read NodeId := do
  let given ← directives false [] fuel
  modify fun reader => { reader with handles := given ++ usualHandles }
  unless ← passIf .documentStart do throw .malformed
  match ← peek with
  | none | some .documentStart | some .documentEnd | some (.version _) | some (.tagHandle _ _)
  | some .otherDirective => absent
  | _ => node .block fuel

/-- The node of the only document, none if there is no document. -/
def document (fuel : Nat) : Read (Option NodeId) := do
  match ← peek with
  | none => return none
  | some .documentStart | some (.version _) | some (.tagHandle _ _) | some .otherDirective =>
    return some (← announcedDocument fuel)
  | _ =>
    modify fun reader => { reader with handles := usualHandles }
    return some (← node .block fuel)

/-- Passes the marks at the end of a document, after which nothing may come. The directives of a second
document are read before it is rejected. -/
def ending : Nat → Read Unit
  | 0 => throw .malformed
  | fuel + 1 => do
    if ← passIf .documentEnd then ending fuel
    else if (← peek).isSome then
      let _ ← directives false [] fuel
      throw .malformed

end Read

/-- The document that a text holds, none if it holds no document. -/
def Outline.ofExcerpt (excerpt : Excerpt) : Except Problem (Option Outline) := do
  let fuel := 16 * excerpt.text.length + 32
  let read : Read (Option NodeId) := do
    let root ← Read.document fuel
    Read.ending fuel
    return root
  let (root, reader) ← read.run { layout := .ofExcerpt excerpt }
  return root.map fun root => { nodes := reader.nodes, root }

end Phrasebook.Yaml
