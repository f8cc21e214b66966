import Phrasebook.Number.Integer
import Phrasebook.Rule.Basic
import Phrasebook.Rule.Call

/-!
Choosing a form by its position, counted from zero: `index:1|left|right` gives `right`.
-/

set_option autoImplicit false
set_option relaxedAutoImplicit false

namespace Phrasebook.Rule.Index

def callName : Text := ['i', 'n', 'd', 'e', 'x']

/-- The form at the position that an argument names. -/
def choose? (call : Call) : Option Text :=
  match Number.readInteger? call.argument with
  | some (.ofNat position) => call.forms[position]?
  | _ => none

/-- The form that a content calls for, or the content if it calls for none. -/
def apply (content : Text) : Text :=
  ((Call.parse? callName content).bind choose?).getD content

def rule {σ : Type} : Rule σ := .ofFunction "IndexRule" apply

end Phrasebook.Rule.Index
