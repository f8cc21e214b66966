import Phrasebook.Yaml.Build

/-!
Reading a document: from its bytes to a text, from there to its nodes and on to its values.
-/

set_option autoImplicit false
set_option relaxedAutoImplicit false

namespace Phrasebook.Yaml

/-- The document that bytes hold, none if they hold no document. -/
def load (content : List UInt8) : Except Problem (Option Graph) := do
  match ← Outline.ofExcerpt (.ofBytes content) with
  | some outline => some <$> outline.graph
  | none => return none

end Phrasebook.Yaml
