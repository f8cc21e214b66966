import Phrasebook.Number.Binary64
import Phrasebook.Number.Integer

/-!
Real numbers in decimal notation: which texts are read as one, and as which floating point number.
-/

set_option autoImplicit false
set_option relaxedAutoImplicit false

namespace Phrasebook.Number

def optionalRun? : Text → Option (List Nat)
  | [] => some []
  | t => digitRun? t

/-- The digits before and after the point of an unsigned decimal fraction, of which one side may be
missing. -/
def fraction? (t : Text) : Option (List Nat × List Nat) :=
  match t.breakAt '.' with
  | (whole, none) => (digitRun? whole).map (·, [])
  | (whole, some decimals) =>
    match optionalRun? whole, optionalRun? decimals with
    | some w, some d => if w.isEmpty && d.isEmpty then none else some (w, d)
    | _, _ => none

def exponent? (t : Text) : Option Int :=
  let (negative, numeral) := takeSign t
  (digitRun? numeral).map fun digits =>
    if negative then -(ofDigits digits : Int) else ofDigits digits

/-- The names of the values that no digits stand for. -/
def named? (negative : Bool) (t : Text) : Option Binary64 :=
  let name := t.lower
  if name = ['i', 'n', 'f'] ∨ name = ['i', 'n', 'f', 'i', 'n', 'i', 't', 'y'] then
    some (.infinite negative)
  else if name = ['n', 'a', 'n'] then some .nan
  else none

def unsigned? (negative : Bool) (t : Text) : Option Binary64 :=
  let (coefficient, power) := Text.breakAt 'e' (t.map fun c => if c = 'E' then 'e' else c)
  match fraction? coefficient, power.elim (some 0) exponent? with
  | some (whole, decimals), some e =>
    some (.ofDecimal negative (ofDigits (whole ++ decimals)) (e - decimals.length))
  | _, _ => none

def readReal? (t : Text) : Option Binary64 :=
  let (negative, numeral) := takeSign t.stripNumeral
  (named? negative numeral).orElse fun _ => unsigned? negative numeral

end Phrasebook.Number
