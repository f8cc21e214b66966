import Phrasebook.Yaml.Numeral
import Phrasebook.Yaml.Timestamp

/-!
Nodes: a document as scalars, sequences and mappings, each with a tag that says what it stands for. A
plain scalar without a tag gets its tag from its form. A node may stand in several places, also within
itself, and so the parts of a node are numbers of nodes.
-/

set_option autoImplicit false
set_option relaxedAutoImplicit false

namespace Phrasebook.Yaml

/-- What a node stands for. -/
inductive Tag
  | null | bool | int | float | binary | timestamp | omap | pairs | set | str | seq | map | merge | value
  | unknown
  deriving DecidableEq, Repr

namespace Tag

def space : Text := "tag:yaml.org,2002:".toList

def known : List (Text × Tag) :=
  [("null", null), ("bool", bool), ("int", int), ("float", float), ("binary", binary),
    ("timestamp", timestamp), ("omap", omap), ("pairs", pairs), ("set", set), ("str", str),
    ("seq", seq), ("map", map), ("merge", merge), ("value", value)]

def ofName (name : Text) : Tag :=
  (((Text.dropStart? space name).bind fun short => known.lookup short)).getD unknown

def spellings (word : Text) : List Text :=
  [word, match word with | [] => [] | c :: rest => c.toUpper :: rest, word.upper]

def boolWords : List (Text × Bool) :=
  [("yes", true), ("no", false), ("true", true), ("false", false), ("on", true), ("off", false)]

/-- The tag of a plain scalar. A line break at its end does not count. The marks of properties stand
for nothing by themselves. -/
def ofPlain (text : Text) : Tag :=
  if text = ['\n'] then str
  else
    let t := (Text.dropEnd? ['\n'] text).getD text
    if t.isEmpty ∨ t = ['~'] ∨ (spellings "null").contains t then null
    else if (boolWords.flatMap fun word => spellings word.1).contains t then bool
    else if isReal t then float
    else if isInteger t then int
    else if isTimestamp t then timestamp
    else if t = ['<', '<'] then merge
    else if t = ['='] then value
    else if t = ['!'] ∨ t = ['&'] ∨ t = ['*'] then unknown
    else str

end Tag

abbrev NodeId := Nat

inductive Shape where
  | scalar (text : Text)
  | sequence (items : List NodeId)
  | mapping (entries : List (NodeId × NodeId))

structure Node where
  tag : Tag
  shape : Shape

namespace Node

def absent : Node := ⟨.null, .scalar []⟩

end Node

abbrev Nodes := Array Node

namespace Nodes

def node (nodes : Nodes) (id : NodeId) : Node := nodes.getD id Node.absent

def tag (nodes : Nodes) (id : NodeId) : Tag := (nodes.node id).tag

def entries (nodes : Nodes) (id : NodeId) : List (NodeId × NodeId) :=
  match (nodes.node id).shape with
  | .mapping entries => entries
  | _ => []

def isMapping (nodes : Nodes) (id : NodeId) : Bool :=
  match (nodes.node id).shape with
  | .mapping _ => true
  | _ => false

def setShape (nodes : Nodes) (id : NodeId) (shape : Shape) : Nodes :=
  nodes.modify id fun node => { node with shape }

def setTag (nodes : Nodes) (id : NodeId) (tag : Tag) : Nodes :=
  nodes.modify id fun node => { node with tag }

end Nodes

/-- A document: its nodes, and the one that all others are parts of. -/
structure Outline where
  nodes : Nodes
  root : NodeId

end Phrasebook.Yaml
