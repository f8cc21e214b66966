import Phrasebook.Yaml.Base64
import Phrasebook.Yaml.Node

/-!
What scalars stand for: the value of a text under a tag.
-/

set_option autoImplicit false
set_option relaxedAutoImplicit false

namespace Phrasebook.Yaml

def boolValue (text : Text) : Except Problem Bool :=
  match Tag.boolWords.lookup text.lowercase with
  | some b => .ok b
  | none => .error (.unreadable (.badKey text.lowercase.quoted))

/-- The value of a text under a tag for scalars. -/
def scalarValue (text : Text) : Tag → Except Problem Value
  | .null => .ok .none
  | .bool => (boolValue text).map .bool
  | .int => (integerValue text).map .int
  | .float => (realValue text).map .float
  | .binary => (base64? text).elim (.error .malformed) fun bytes => .ok (.bytes bytes)
  | .timestamp => timestampValue text
  | .str => .ok (.text text)
  | _ => .error .malformed

/-- Whether a value equals nothing, not even itself, unless it is the same one. -/
def isUndefined : Value → Bool
  | .float .nan => true
  | _ => false

end Phrasebook.Yaml
