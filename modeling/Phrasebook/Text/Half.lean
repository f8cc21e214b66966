import Phrasebook.Text.Basic

/-!
Halves of code points. A code point beyond the first plane may be written in two halves, which by
themselves are no characters; in a text they stand as code points of a plane without characters.
-/

set_option autoImplicit false
set_option relaxedAutoImplicit false

namespace Phrasebook.Text

/-- The number of the least half. -/
def firstHalf : Nat := 0xD800

def halfCount : Nat := 0x800

def halfShift : Nat := 0xD0000

def isHalf (n : Nat) : Bool := firstHalf ≤ n && n < firstHalf + halfCount

def ofHalf (n : Nat) : Char := Char.ofNat (n + halfShift)

def half? (c : Char) : Option Nat :=
  if isHalf (c.toNat - halfShift) then some (c.toNat - halfShift) else none

/-- The character with a given number, which may be a half. -/
def ofCode (n : Nat) : Char := if isHalf n then ofHalf n else Char.ofNat n

end Phrasebook.Text
