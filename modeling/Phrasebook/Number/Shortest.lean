import Phrasebook.Number.Binary64
import Phrasebook.Number.Integer

/-!
The shortest decimal notation of a floating point number: the fewest significant digits that are
read back as the same number, and of those the nearest to it. The layout of the notation is one
record value.
-/

set_option autoImplicit false
set_option relaxedAutoImplicit false

namespace Phrasebook.Number

/-- A positive decimal number `significand · 10 ^ scale`. -/
structure Scientific where
  significand : Nat
  scale : Int
  deriving DecidableEq, Repr

namespace Scientific

def exponent (s : Scientific) : Int := s.scale + ((Nat.toDigits 10 s.significand).length - 1 : Int)

def toBinary64 (s : Scientific) : Binary64 := .ofDecimal false s.significand s.scale

/-- The same number without zeros at the end of the significand. -/
def trim : Nat → Scientific → Scientific
  | 0, s => s
  | fuel + 1, s =>
    if s.significand ≠ 0 ∧ s.significand % 10 = 0 then
      trim fuel ⟨s.significand / 10, s.scale + 1⟩
    else s

end Scientific

namespace Binary64

/-- The exponent of the first decimal digit of a positive quotient, which is at least `10 ^ -fuel`. -/
def decimalExponent : Nat → Nat → Nat → Int
  | 0, num, den => ((Nat.toDigits 10 (num / den)).length : Int) - 1
  | fuel + 1, num, den =>
    if den ≤ num then ((Nat.toDigits 10 (num / den)).length : Int) - 1
    else decimalExponent fuel (10 * num) den - 1

def onGrid (num den : Nat) (scale : Int) : Nat × Nat × Nat :=
  let (n, d) :=
    if scale < 0 then (num * Nat.pow 10 (-scale).toNat, den)
    else (num, den * Nat.pow 10 scale.toNat)
  (n / d, n % d, d)

/-- The neighbours of a quotient on a decimal grid that are read back as `target`, the nearer one
first; at equal distance the even one is first. -/
def readBack (target : Binary64) (num den : Nat) (scale : Int) : List Scientific :=
  let (below, rest, d) := onGrid num den scale
  let lower : Scientific := ⟨below, scale⟩
  let upper : Scientific := ⟨below + 1, scale⟩
  let ordered :=
    if 2 * rest < d ∨ (2 * rest = d ∧ below % 2 = 0) then [lower, upper] else [upper, lower]
  ordered.filter fun s => s.toBinary64 = target

/-- The first notation that is read back, trying grids of ever more digits. -/
def searchGrid (target : Binary64) (num den : Nat) : Nat → Int → Scientific
  | 0, scale => ⟨(onGrid num den scale).1, scale⟩
  | fuel + 1, scale =>
    match readBack target num den scale with
    | s :: _ => s
    | [] => searchGrid target num den fuel (scale - 1)

/-- The shortest notation of the positive number `mantissa · 2 ^ exponent`; seventeen digits always
suffice. -/
def shortest (mantissa : Nat) (exponent : Int) : Scientific :=
  let (num, den) := ratio mantissa exponent
  (searchGrid (.finite false mantissa exponent) num den 17 (decimalExponent 330 num den)).trim 20

end Binary64

/-- How a floating point number is laid out. -/
structure FloatLayout where
  leastPositional : Int
  /-- The first exponent that is too great for a positional notation. -/
  firstExponential : Int
  exponentWidth : Nat
  infinity : Text
  nan : Text

namespace FloatLayout

/-- Digits with a point after the first `whole` of them, at least one digit on either side. -/
def positional (digits : Text) (exponent : Int) : Text :=
  if exponent < 0 then
    '0' :: '.' :: List.replicate (-exponent - 1).toNat '0' ++ digits
  else
    let whole := exponent.toNat + 1
    if digits.length ≤ whole then
      digits ++ List.replicate (whole - digits.length) '0' ++ ['.', '0']
    else digits.take whole ++ '.' :: digits.drop whole

/-- Digits with a point after the first one, and the exponent with its sign. -/
def exponential (width : Nat) (digits : Text) (exponent : Int) : Text :=
  let fraction := if digits.length ≤ 1 then [] else '.' :: digits.drop 1
  let power := Nat.toDigits 10 exponent.natAbs
  digits.take 1 ++ fraction ++ 'e' :: (if exponent < 0 then '-' else '+') ::
    List.replicate (width - power.length) '0' ++ power

def write (layout : FloatLayout) : Binary64 → Text
  | .nan => layout.nan
  | .infinite negative => (if negative then ['-'] else []) ++ layout.infinity
  | .finite negative m e =>
    let sign := if negative then ['-'] else []
    if m = 0 then sign ++ ['0', '.', '0']
    else
      let s := Binary64.shortest m e
      let digits := Nat.toDigits 10 s.significand
      let exponent := s.exponent
      sign ++
        if layout.leastPositional ≤ exponent ∧ exponent < layout.firstExponential then
          positional digits exponent
        else exponential layout.exponentWidth digits exponent

end FloatLayout

/-- Floating point numbers in texts: positional from 0.0001 up to but not including 10 ^ 16, with at
least one decimal; beyond that an exponent of at least two digits. -/
def floatLayout : FloatLayout where
  leastPositional := -4
  firstExponential := 16
  exponentWidth := 2
  infinity := ['i', 'n', 'f']
  nan := ['n', 'a', 'n']

end Phrasebook.Number
