import Phrasebook.Text.Blank
import Phrasebook.Text.DecimalDigit

/-!
Whole numbers in decimal notation: how they are written, and which texts are read as one. Numerals
of more than `digitLimit` digits are neither written nor read.
-/

set_option autoImplicit false
set_option relaxedAutoImplicit false

namespace Phrasebook.Number

/-- The greatest number of decimal digits of a numeral. -/
def digitLimit : Nat := 4300

def decimal : Int → Text
  | .ofNat n => Nat.toDigits 10 n
  | .negSucc n => '-' :: Nat.toDigits 10 (n + 1)

def tooLongToWrite : Text :=
  "Exceeds the limit (4300 digits) for integer string conversion; ".toList ++
    "use sys.set_int_max_str_digits() to increase the limit".toList

/-- The decimal numeral of an integer within the limit. -/
def writeInteger (n : Int) : Except Text Text :=
  if n.natAbs < Nat.pow 10 digitLimit then .ok (decimal n) else .error tooLongToWrite

/-- The values of one or more digits of any script, with at most one underscore between
neighbours. -/
def digitRun? : Text → Option (List Nat)
  | [] => none
  | [c] => (Text.digitValue? c).map ([·])
  | c :: '_' :: rest =>
    match Text.digitValue? c with
    | some d => (digitRun? rest).map (d :: ·)
    | none => none
  | c :: next :: rest =>
    match Text.digitValue? c with
    | some d => (digitRun? (next :: rest)).map (d :: ·)
    | none => none

def ofDigits (digits : List Nat) : Nat := digits.foldl (fun n d => 10 * n + d) 0

def takeSign : Text → Bool × Text
  | '-' :: rest => (true, rest)
  | '+' :: rest => (false, rest)
  | t => (false, t)

/-- The integer a text stands for: an optional sign and a run of digits within the limit, with white
space around it. -/
def readInteger? (t : Text) : Option Int :=
  let (negative, numeral) := takeSign t.stripNumeral
  match digitRun? numeral with
  | some digits =>
    if digits.length ≤ digitLimit then
      some (if negative then -(ofDigits digits : Int) else ofDigits digits)
    else none
  | none => none

end Phrasebook.Number
