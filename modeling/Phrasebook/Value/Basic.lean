import Phrasebook.Locale
import Phrasebook.Number.Binary64

/-!
The values that callers pass as arguments and that translation documents hold.
-/

set_option autoImplicit false
set_option relaxedAutoImplicit false

namespace Phrasebook

structure Date where
  year : Nat
  month : Nat
  day : Nat
  deriving DecidableEq, Repr

/-- A date with a time of day and, if the time zone is known, its offset from universal time in
minutes. -/
structure Moment where
  date : Date
  hour : Nat
  minute : Nat
  second : Nat
  microsecond : Nat
  offset : Option Int
  deriving DecidableEq, Repr

/-- An argument or a part of a document. -/
inductive Value where
  | none
  | bool (b : Bool)
  | int (n : Int)
  | float (x : Number.Binary64)
  | text (t : Text)
  | bytes (bytes : List UInt8)
  | date (d : Date)
  | moment (m : Moment)
  | locale (l : Locale)
  | list (items : List Value)
  | tuple (items : List Value)
  | set (items : List Value)
  | dict (entries : List (Value × Value))
  /-- A value that has no text: asking for it fails with a message. -/
  | unwritable (message : Text)
  /-- A mapping or a list that is met again inside itself. -/
  | again (isDict : Bool)
  deriving Inhabited

namespace Value

instance : Coe Text Value := ⟨Value.text⟩

/-- Whether a value counts as absent where a document may leave something out. -/
def isEmpty : Value → Bool
  | none => true
  | bool b => !b
  | int n => n = 0
  | float (.finite _ m _) => m = 0
  | text t => t.isEmpty
  | bytes b => b.isEmpty
  | list items => items.isEmpty
  | tuple items => items.isEmpty
  | set items => items.isEmpty
  | dict entries => entries.isEmpty
  | _ => false

def isNone : Value → Bool
  | none => true
  | _ => false

def kind : Value → Text
  | none => "NoneType".toList
  | bool _ => "bool".toList
  | int _ => "int".toList
  | float _ => "float".toList
  | text _ => "str".toList
  | bytes _ => "bytes".toList
  | date _ => "datetime.date".toList
  | moment _ => "datetime.datetime".toList
  | locale _ => "Locale".toList
  | list _ => "list".toList
  | tuple _ => "tuple".toList
  | set _ => "set".toList
  | dict _ => "dict".toList
  | unwritable _ => "object".toList
  | again isDict => if isDict then "dict".toList else "list".toList

/-- The locale that a value is or whose tag it is. -/
def locale? : Value → Option Locale
  | locale l => some l
  | text t => Locale.ofTag? t
  | _ => Option.none

end Value

end Phrasebook
