import Phrasebook.Text.Basic

/-!
Normal forms of paths: empty steps and steps to the same directory are dropped, steps upwards stay.
-/

set_option autoImplicit false
set_option relaxedAutoImplicit false

namespace Phrasebook.Settings.Path

def steps (t : Text) : List Text := (t.split '/').filter fun step => step ≠ [] && step ≠ ['.']

/-- The beginning of an absolute path: one slash, or two if there are exactly two. -/
def root (t : Text) : Text :=
  match (t.takeWhile (· = '/')).length with
  | 0 => []
  | 2 => ['/', '/']
  | _ => ['/']

def normalize (t : Text) : Text :=
  match root t, steps t with
  | [], [] => ['.']
  | root, [] => root
  | root, first :: more => root ++ Text.join '/' first more

/-- Whether a path leads nowhere but up, so that its directory is always there. -/
def isAncestor (t : Text) : Bool := (steps t).all (· = ['.', '.'])

end Phrasebook.Settings.Path
