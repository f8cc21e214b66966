import Phrasebook.Number.Real
import Phrasebook.Text.Lowercase
import Phrasebook.Yaml.Cursor

/-!
Numbers in documents: which plain scalars are integers or floating point numbers, and the number that
a scalar stands for. Underscores may stand between digits and mean nothing; parts separated by colons
count sixty to one.
-/

set_option autoImplicit false
set_option relaxedAutoImplicit false

namespace Phrasebook.Yaml

def isRun (accept : Char → Bool) (t : Text) : Bool := !t.isEmpty && t.all accept

def isSpacedDigit (base : Nat) (c : Char) : Bool :=
  c = '_' || (c.isDigit && c.toNat - '0'.toNat < base)

def isSpacedNumeral (t : Text) : Bool :=
  t.head?.any Char.isDigit && t.all (isSpacedDigit 10)

def withoutSign (t : Text) : Text := (Number.takeSign t).2

def isSixtieth : Text → Bool
  | [c] => c.isDigit
  | [c, d] => '0' ≤ c && c ≤ '5' && d.isDigit
  | _ => false

/-- Whether a text is a numeral followed by at least one part that counts sixtieths. -/
def isSexagesimal (t : Text) : Bool :=
  let (first, more) := t.pieces ':'
  isSpacedNumeral first && !more.isEmpty && more.all isSixtieth

/-- Whether a plain scalar is an integer: binary, octal, decimal, hexadecimal or sexagesimal. -/
def isInteger (t : Text) : Bool :=
  match withoutSign t with
  | '0' :: 'b' :: digits => isRun (isSpacedDigit 2) digits
  | '0' :: 'x' :: digits => isRun (fun c => c = '_' || (Text.hexDigitValue? c).isSome) digits
  | ['0'] => true
  | '0' :: digits => isRun (isSpacedDigit 8) digits
  | t => isSpacedNumeral t || isSexagesimal t

def isExponent : Text → Bool
  | [] => true
  | [_] => false
  | _ :: sign :: digits => (sign = '-' || sign = '+') && isRun Char.isDigit digits

def isFraction (t : Text) : Bool :=
  let isLetter (c : Char) : Bool := c = 'e' || c = 'E'
  (t.takeWhile fun c => !isLetter c).all (isSpacedDigit 10) &&
    isExponent (t.dropWhile fun c => !isLetter c)

def infinityNames : List Text := [['i', 'n', 'f'], ['I', 'n', 'f'], ['I', 'N', 'F']]

def nanNames : List Text := [['n', 'a', 'n'], ['N', 'a', 'N'], ['N', 'A', 'N']]

/-- Whether a plain scalar is a floating point number. -/
def isReal (t : Text) : Bool :=
  match t, withoutSign t with
  | '.' :: rest, _ =>
    (rest.head?.any Char.isDigit && isFraction rest) || (infinityNames ++ nanNames).contains rest
  | _, '.' :: rest => infinityNames.contains rest
  | _, t =>
    match t.breakAt '.' with
    | (whole, some rest) =>
      (isSpacedNumeral whole && isFraction rest) ||
        (isSexagesimal whole && rest.all (isSpacedDigit 10))
    | (_, none) => false

/-- The complaint about a scalar of which a character is asked that it does not have. -/
def tooShort : Problem := .unreadable (.badIndex "string index out of range")

def digitIn? (base : Nat) (c : Char) : Option Nat :=
  ((Text.digitValue? c).orElse fun _ => Text.hexDigitValue? c).filter (· < base)

def withoutBase (base : Nat) (t : Text) : Text :=
  let announced (c : Char) : Bool :=
    (base = 2 && (c = 'b' || c = 'B')) || (base = 8 && (c = 'o' || c = 'O')) ||
      (base = 16 && (c = 'x' || c = 'X'))
  match t with
  | zero :: c :: rest => if Text.digitValue? zero = some 0 && announced c then rest else t
  | _ => t

/-- How much of a text a complaint about an integer shows. -/
def shownLength : Nat := 200

def badNumeral (base : Nat) (t : Text) : Problem :=
  .unreadable (.badValue ("invalid literal for int() with base ".toList ++ Number.decimal base ++
    ": ".toList ++ t.quoted.take shownLength))

def tooManyDigits (count : Nat) : Problem :=
  .unreadable (.badValue ("Exceeds the limit (4300 digits) for integer string conversion: ".toList ++
    "value has ".toList ++ Number.decimal count ++
    " digits; use sys.set_int_max_str_digits() to increase the limit".toList))

/-- The integer that a numeral of a base stands for. Too many decimal digits are told whatever follows
them. -/
def readNumeral (base : Nat) (t : Text) : Except Problem Int :=
  let (negative, unsigned) := Number.takeSign t.stripNumeral
  let digits := withoutBase base unsigned
  let count := (digits.takeWhile fun c => (digitIn? base c).isSome).length
  if base = 10 ∧ Number.digitLimit < count then .error (tooManyDigits count)
  else
    match digits.mapM (digitIn? base) with
    | none | some [] => .error (badNumeral base t)
    | some values => .ok (Number.Binary64.signed negative (values.foldl (fun n d => base * n + d) 0))

def withoutUnderscores (t : Text) : Text := t.filter (· != '_')

def integerValue (t : Text) : Except Problem Int :=
  match withoutUnderscores t with
  | [] => .error tooShort
  | numeral =>
    let (negative, numeral) := Number.takeSign numeral
    let magnitude : Except Problem Int :=
      match numeral with
      | [] => .error tooShort
      | '0' :: 'b' :: digits => readNumeral 2 digits
      | '0' :: 'x' :: digits => readNumeral 16 digits
      | '0' :: digits => readNumeral 8 ('0' :: digits)
      | numeral =>
        if numeral.contains ':' then do
          let parts ← (numeral.split ':').mapM (readNumeral 10)
          return parts.foldl (fun n part => 60 * n + part) 0
        else readNumeral 10 numeral
    magnitude.map fun n => if negative then -n else n

def readPart (t : Text) : Except Problem Number.Binary64 :=
  match Number.readReal? t with
  | some x => .ok x
  | none => .error (.unreadable (.badValue ("could not convert string to float: ".toList ++ t.quoted)))

/-- The sum of parts, the last one counting one and every other sixty times the next, from the last
one on. A part must not count more than every floating point number. -/
def sexagesimalSum : Nat → Number.Binary64 → List Number.Binary64 → Except Problem Number.Binary64
  | _, sum, [] => .ok sum
  | base, sum, part :: parts =>
    match Number.Binary64.ofInt base with
    | .infinite _ => .error (.unreadable (.overflow "int too large to convert to float"))
    | weight => sexagesimalSum (60 * base) (sum.add (part.mul weight)) parts

def nanName : Text := ['.', 'n', 'a', 'n']

def isNamedNan (t : Text) : Bool := withoutSign (withoutUnderscores t).lowercase = nanName

def realValue (t : Text) : Except Problem Number.Binary64 :=
  match (withoutUnderscores t).lowercase with
  | [] => .error tooShort
  | numeral =>
    let (negative, numeral) := Number.takeSign numeral
    let magnitude : Except Problem Number.Binary64 :=
      if numeral = ['.', 'i', 'n', 'f'] then .ok (.infinite false)
      else if numeral = nanName then .ok .nan
      else if numeral.contains ':' then do
        let parts ← (numeral.split ':').mapM readPart
        sexagesimalSum 1 (.zeroOf false) parts.reverse
      else readPart numeral
    magnitude.map fun x => if negative then x.negate else x

end Phrasebook.Yaml
