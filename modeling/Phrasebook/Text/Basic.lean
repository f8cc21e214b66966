/-!
Texts as lists of characters, so that positions count code points, and the operations on them that
know nothing about templates: cutting at a separator, joining, comparing.
-/

set_option autoImplicit false
set_option relaxedAutoImplicit false

namespace Phrasebook

/-- A text is the list of its characters. -/
abbrev Text := List Char

instance : Coe String Text := ⟨String.toList⟩

namespace Text

def byteOrderMark : Char := '\ufeff'

def breakAt (separator : Char) : Text → Text × Option Text
  | [] => ([], none)
  | c :: rest =>
    if c = separator then ([], some rest)
    else
      let (before, after) := breakAt separator rest
      (c :: before, after)

/-- The piece before the first separator and the pieces after it, one for every separator. -/
def pieces (separator : Char) : Text → Text × List Text
  | [] => ([], [])
  | c :: rest =>
    let (first, more) := pieces separator rest
    if c = separator then ([], first :: more) else (c :: first, more)

def join (separator : Char) : Text → List Text → Text
  | first, [] => first
  | first, second :: more => first ++ separator :: join separator second more

def split (separator : Char) (t : Text) : List Text :=
  let (first, more) := pieces separator t
  first :: more

def lastPiece (separator : Char) (t : Text) : Text :=
  let (first, more) := pieces separator t
  more.getLastD first

def dropStart? : Text → Text → Option Text
  | [], t => some t
  | _ :: _, [] => none
  | e :: expected, c :: rest => if e = c then dropStart? expected rest else none

def dropEnd? (expected t : Text) : Option Text :=
  (dropStart? expected.reverse t.reverse).map List.reverse

def replace (old : Char) (new : Text) (t : Text) : Text :=
  t.flatMap fun c => if c = old then new else [c]

/-- A text with the line breaks of every system written as a single character. -/
def uniformBreaks : Text → Text
  | [] => []
  | '\r' :: '\n' :: rest => '\n' :: uniformBreaks rest
  | '\r' :: rest => '\n' :: uniformBreaks rest
  | c :: rest => c :: uniformBreaks rest

/-- The characters from position `start` up to but not including position `stop`. -/
def slice (t : Text) (start stop : Nat) : Text :=
  (t.take stop).drop start

def le : Text → Text → Bool
  | [], _ => true
  | _ :: _, [] => false
  | a :: s, b :: t => if a = b then le s t else decide (a < b)

def sortedDistinct (texts : List Text) : List Text :=
  texts.eraseDups.mergeSort le

/-- Capital letters of the Latin alphabet made small; every other character is kept. -/
def lower (t : Text) : Text := t.map Char.toLower

def upper (t : Text) : Text := t.map Char.toUpper

def hexDigitValue? (c : Char) : Option Nat :=
  if '0' ≤ c ∧ c ≤ '9' then some (c.toNat - '0'.toNat)
  else if 'a' ≤ c.toLower ∧ c.toLower ≤ 'f' then some (c.toLower.toNat - 'a'.toNat + 10)
  else none

end Text

end Phrasebook
