import Phrasebook.Text.Half
import Phrasebook.Text.Printable

/-!
Quoted texts: between two quotes, with every unprintable character, the backslash and the quote in
use written as an escape.
-/

set_option autoImplicit false
set_option relaxedAutoImplicit false

namespace Phrasebook.Text

def hexadecimal (width n : Nat) : Text :=
  let digits := Nat.toDigits 16 n
  List.replicate (width - digits.length) '0' ++ digits

/-- The apostrophe is the quote, unless a text holds apostrophes and no double quote. -/
def quoteOf (t : Text) : Char :=
  if t.contains '\'' && !t.contains '"' then '"' else '\''

def numbered (n : Nat) : Text :=
  if n < 0x100 then '\\' :: 'x' :: hexadecimal 2 n
  else if n < 0x10000 then '\\' :: 'u' :: hexadecimal 4 n
  else '\\' :: 'U' :: hexadecimal 8 n

/-- One character between two quotes: named escapes for the usual controls, then numbered escapes for
whatever cannot be printed. -/
def escape (quote c : Char) : Text :=
  if c = quote ∨ c = '\\' then ['\\', c]
  else if c = '\n' then ['\\', 'n']
  else if c = '\r' then ['\\', 'r']
  else if c = '\t' then ['\\', 't']
  else if isPrintable c then [c]
  else numbered ((half? c).getD c.toNat)

def quoted (t : Text) : Text :=
  let quote := quoteOf t
  quote :: t.flatMap (escape quote) ++ [quote]

/-- One byte between two quotes: as a character, but nothing above the ASCII range is printable. -/
def escapeByte (quote : Char) (b : UInt8) : Text :=
  if b < 127 then escape quote (Char.ofNat b.toNat) else '\\' :: 'x' :: hexadecimal 2 b.toNat

def quotedBytes (bytes : List UInt8) : Text :=
  let quote := quoteOf (bytes.map fun b => Char.ofNat b.toNat)
  'b' :: quote :: bytes.flatMap (escapeByte quote) ++ [quote]

end Phrasebook.Text
