import Phrasebook.Text.Blank

/-!
Rule calls: the notation `name:argument|form|form` inside a bare token.
-/

set_option autoImplicit false
set_option relaxedAutoImplicit false

namespace Phrasebook.Rule

/-- An argument and the forms to choose from; there is at least one form. -/
structure Call where
  argument : Text
  first : Text
  more : List Text
  deriving DecidableEq, Repr

namespace Call

def forms (call : Call) : List Text := call.first :: call.more

def lastForm (call : Call) : Text := call.more.getLastD call.first

/-- The call of the rule with the given name that a content holds. The argument loses the white
space around it, the forms are kept as they are; a content without forms is no call. -/
def parse? (name content : Text) : Option Call :=
  match Text.dropStart? (name ++ [':']) content with
  | none => none
  | some written =>
    match written.pieces '|' with
    | (_, []) => none
    | (argument, first :: more) => some ⟨argument.strip, first, more⟩

def write (name argument first : Text) (more : List Text) : Text :=
  name ++ ':' :: Text.join '|' argument (first :: more)

end Call

end Phrasebook.Rule
