import Phrasebook.Text.Basic

/-!
Bytes written with 64 characters, four characters for three bytes. Characters outside the alphabet are
passed over, and nothing is read after the padding that completes a group.
-/

set_option autoImplicit false
set_option relaxedAutoImplicit false

namespace Phrasebook.Yaml

def sextet? (c : Char) : Option Nat :=
  if 'A' ≤ c ∧ c ≤ 'Z' then some (c.toNat - 'A'.toNat)
  else if 'a' ≤ c ∧ c ≤ 'z' then some (c.toNat - 'a'.toNat + 26)
  else if '0' ≤ c ∧ c ≤ '9' then some (c.toNat - '0'.toNat + 52)
  else if c = '+' then some 62
  else if c = '/' then some 63
  else none

/-- The bytes of the rest of a text, given how many characters of the current group have been read,
the bits left over from them, and how many padding characters have just been met. -/
def decodeGroups : Nat → Nat → Nat → Text → Option (List UInt8)
  | position, _, _, [] => if position = 0 then some [] else none
  | position, left, pads, c :: rest =>
    if c = '=' then
      if 2 ≤ position then
        if 4 ≤ position + pads + 1 then some [] else decodeGroups position left (pads + 1) rest
      else decodeGroups position left pads rest
    else
      match sextet? c with
      | none => decodeGroups position left pads rest
      | some v =>
        let byte (n : Nat) : UInt8 := UInt8.ofNat n
        match position with
        | 0 => decodeGroups 1 v 0 rest
        | 1 => (decodeGroups 2 (v % 16) 0 rest).map (byte (4 * left + v / 16) :: ·)
        | 2 => (decodeGroups 3 (v % 4) 0 rest).map (byte (16 * left + v / 4) :: ·)
        | _ => (decodeGroups 0 0 0 rest).map (byte (64 * left + v) :: ·)

def base64? (t : Text) : Option (List UInt8) :=
  if t.all fun c => c.toNat < 128 then decodeGroups 0 0 0 t else none

end Phrasebook.Yaml
