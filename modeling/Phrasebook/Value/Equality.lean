import Phrasebook.Number.Shortest
import Phrasebook.Value.Basic

/-!
Equality of values across kinds: truth values and floating point numbers equal the integers they
stand for, and a locale equals its tag.
-/

set_option autoImplicit false
set_option relaxedAutoImplicit false

namespace Phrasebook

namespace Value

/-- What two scalar values are compared by. -/
inductive Measure where
  | none
  | number (x : Number.Binary64 ⊕ Int)
  | text (t : Text)
  | bytes (bytes : List UInt8)
  | date (d : Date)
  | moment (m : Moment)

def numbersEqual : Number.Binary64 ⊕ Int → Number.Binary64 ⊕ Int → Bool
  | .inr m, .inr n => m = n
  | .inl x, .inl y => x.numericallyEqual y
  | .inl x, .inr n => x.toInt? = some n
  | .inr n, .inl x => x.toInt? = some n

/-- Two moments are equal if they are the same instant; one without a time zone equals no other
with one. -/
def momentsEqual (m m' : Moment) : Bool :=
  match m.offset, m'.offset with
  | some o, some o' =>
    if o = o' then decide (m = m')
    else
      let seconds (m : Moment) (o : Int) : Int :=
        86400 * dayNumber m.date + 3600 * m.hour + 60 * (m.minute - o) + m.second
      seconds m o = seconds m' o' && m.microsecond = m'.microsecond
  | Option.none, Option.none => decide (m = m')
  | _, _ => false
where
  /-- Days of the calendar counted from a fixed day in the year zero. -/
  dayNumber (d : Date) : Int :=
    let y : Int := if d.month ≤ 2 then d.year - 1 else d.year
    let m : Int := (d.month + 9) % 12
    365 * y + y.fdiv 4 - y.fdiv 100 + y.fdiv 400 + (153 * m + 2).fdiv 5 + d.day

def measure? : Value → Option Measure
  | none => some .none
  | bool b => some (.number (.inr (if b then 1 else 0)))
  | int n => some (.number (.inr n))
  | float x => some (.number (.inl x))
  | text t => some (.text t)
  | bytes b => some (.bytes b)
  | date d => some (.date d)
  | moment m => some (.moment m)
  | locale l => some (.text l.tag)
  | _ => Option.none

def scalarsEqual (v w : Value) : Bool :=
  match measure? v, measure? w with
  | some .none, some .none => true
  | some (.number x), some (.number y) => numbersEqual x y
  | some (.text s), some (.text t) => s = t
  | some (.bytes a), some (.bytes b) => a = b
  | some (.date d), some (.date d') => decide (d = d')
  | some (.moment m), some (.moment m') => momentsEqual m m'
  | _, _ => false

mutual

/-- Equality of values: lists and tuples item by item, mappings entry by entry in any order. -/
def equal : Value → Value → Bool
  | list xs, list ys => listsEqual xs ys
  | tuple xs, tuple ys => listsEqual xs ys
  | set xs, set ys => decide (xs.length = ys.length) && allAmong xs ys
  | dict xs, dict ys => decide (xs.length = ys.length) && entriesAmong xs ys
  | v, w => scalarsEqual v w

def listsEqual : List Value → List Value → Bool
  | [], [] => true
  | x :: xs, y :: ys => equal x y && listsEqual xs ys
  | _, _ => false

def allAmong : List Value → List Value → Bool
  | [], _ => true
  | x :: xs, ys => ys.any (fun y => equal x y) && allAmong xs ys

def entriesAmong : List (Value × Value) → List (Value × Value) → Bool
  | [], _ => true
  | (k, v) :: xs, ys => ys.any (fun e => equal k e.1 && equal v e.2) && entriesAmong xs ys

end

end Value

end Phrasebook
