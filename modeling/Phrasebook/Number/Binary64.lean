/-!
Floating point numbers with 53 binary digits and an exponent from -1074 to 971, and the rounding of
an exact quotient to the nearest of them, a tie to the even one. Sums and products are rounded
exactly once.
-/

set_option autoImplicit false
set_option relaxedAutoImplicit false

namespace Phrasebook.Number

/-- A number `± mantissa · 2 ^ exponent`, an infinity, or the value that is no number. The finite
values that `Binary64.ofRatio` builds have a mantissa of 53 binary digits, or fewer and the least
exponent. -/
inductive Binary64 where
  | finite (negative : Bool) (mantissa : Nat) (exponent : Int)
  | infinite (negative : Bool)
  | nan
  deriving DecidableEq, Repr

namespace Binary64

def leastExponent : Int := -1074

def greatestExponent : Int := 971

def zeroOf (negative : Bool) : Binary64 := .finite negative 0 leastExponent

/-- The whole number nearest to a quotient, a half going to the even one. -/
def nearest (num den : Nat) : Nat :=
  let q := num / den
  let twice := 2 * (num % den)
  if twice < den then q
  else if twice = den then (if q % 2 = 0 then q else q + 1)
  else q + 1

/-- Numerator and denominator of a quotient in units of `2 ^ exponent`. -/
def inUnits (num den : Nat) (exponent : Int) : Nat × Nat :=
  if exponent < 0 then (num * Nat.pow 2 (-exponent).toNat, den)
  else (num, den * Nat.pow 2 exponent.toNat)

/-- The exponent of the grid on which a positive quotient has 53 binary digits, or the least one. -/
def gridExponent (num den : Nat) : Int :=
  let e := max ((num.log2 : Int) - den.log2 - 53) leastExponent
  let (n, d) := inUnits num den e
  if Nat.pow 2 53 ≤ n / d then e + 1 else e

def ofRatio (negative : Bool) (num den : Nat) : Binary64 :=
  if num = 0 ∨ den = 0 then zeroOf negative
  else
    let e := gridExponent num den
    let (n, d) := inUnits num den e
    let m := nearest n d
    let (m, e) := if m = Nat.pow 2 53 then (Nat.pow 2 52, e + 1) else (m, e)
    if greatestExponent < e then .infinite negative else .finite negative m e

/-- The number nearest to `mantissa · 10 ^ exponent`. Exponents beyond every finite number are
decided without computing the power. -/
def ofDecimal (negative : Bool) (mantissa : Nat) (exponent : Int) : Binary64 :=
  if mantissa = 0 then zeroOf negative
  else if 400 < exponent then .infinite negative
  else if exponent + mantissa.log2 < -1500 then zeroOf negative
  else if exponent < 0 then ofRatio negative mantissa (Nat.pow 10 (-exponent).toNat)
  else ofRatio negative (mantissa * Nat.pow 10 exponent.toNat) 1

def ofInt (n : Int) : Binary64 := ofRatio (n < 0) n.natAbs 1

def ratio (mantissa : Nat) (exponent : Int) : Nat × Nat :=
  if exponent < 0 then (mantissa, Nat.pow 2 (-exponent).toNat)
  else (mantissa * Nat.pow 2 exponent.toNat, 1)

def negate : Binary64 → Binary64
  | .finite negative m e => .finite (!negative) m e
  | .infinite negative => .infinite (!negative)
  | .nan => .nan

def signed (negative : Bool) (size : Nat) : Int := if negative then -(size : Int) else size

/-- The sum of two numbers. A sum of zero is negative only if both are. -/
def add : Binary64 → Binary64 → Binary64
  | .finite s m e, .finite s' m' e' =>
    let (n, d) := ratio m e
    let (n', d') := ratio m' e'
    let sum := signed s (n * d') + signed s' (n' * d)
    if sum = 0 then zeroOf (s && s') else ofRatio (sum < 0) sum.natAbs (d * d')
  | .nan, _ => .nan
  | _, .nan => .nan
  | .infinite s, .infinite s' => if s = s' then .infinite s else .nan
  | .infinite s, _ => .infinite s
  | _, .infinite s => .infinite s

/-- The product of two numbers. That of zero and an infinity is no number. -/
def mul : Binary64 → Binary64 → Binary64
  | .finite s m e, .finite s' m' e' =>
    let (n, d) := ratio m e
    let (n', d') := ratio m' e'
    ofRatio (s != s') (n * n') (d * d')
  | .nan, _ => .nan
  | _, .nan => .nan
  | .infinite s, .infinite s' => .infinite (s != s')
  | .infinite s, .finite s' m _ => if m = 0 then .nan else .infinite (s != s')
  | .finite s m _, .infinite s' => if m = 0 then .nan else .infinite (s != s')

def toInt? : Binary64 → Option Int
  | .finite negative m e =>
    let (n, d) := ratio m e
    if n % d = 0 then
      some (if negative then -((n / d : Nat) : Int) else ((n / d : Nat) : Int))
    else none
  | _ => none

/-- Equality of numbers: the two zeros are equal, and the value that is no number equals nothing. -/
def numericallyEqual : Binary64 → Binary64 → Bool
  | .finite s m e, .finite s' m' e' =>
    let (n, d) := ratio m e
    let (n', d') := ratio m' e'
    n * d' == n' * d && (n == 0 || s == s')
  | .infinite s, .infinite s' => s == s'
  | _, _ => false

end Binary64

end Phrasebook.Number
