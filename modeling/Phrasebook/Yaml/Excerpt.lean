import Phrasebook.Yaml.Cursor

/-!
How much of a text can be read before something in it stops the reading. A text is decoded in blocks of
bytes and examined in portions of characters, each as a whole and before any of it is used: what is
wrong in a later portion does not count when the text turns out to be wrong before.
-/

set_option autoImplicit false
set_option relaxedAutoImplicit false

namespace Phrasebook.Yaml

/-- The beginning of a text, as far as it can be read. -/
structure Excerpt where
  text : Text
  /-- What stops the reading, none if this is the whole text. -/
  obstacle : Option Problem := none

namespace Excerpt

def blockSize : Nat := 8192

def portionSize : Nat := 4096

/-- The number of characters before the portion that holds a place. The first two portions are examined
together. -/
def portionStart (place : Nat) : Nat :=
  let start := portionSize * (place / portionSize)
  if start < 2 * portionSize then 0 else start

def isAllowed (c : Char) : Bool :=
  c = '\t' || c = '\n' || c = '\r' || c = '\x85' ||
    (' ' ≤ c && c ≤ '~') || ('\xa0' ≤ c && c != '\ufffe' && c != '\uffff')

/-- A text up to the portion that holds a character which is not allowed. -/
def ofText (text : Text) : Excerpt :=
  match text.findIdx? fun c => !isAllowed c with
  | some place => { text := text.take (portionStart place), obstacle := some .malformed }
  | none => { text }

/-- The characters that bytes stand for from an offset on, each with the offset after it, up to the first
byte that belongs to no character. -/
def decodedFrom (bytes : ByteArray) : Nat → Nat → List (Char × Nat)
  | 0, _ => []
  | fuel + 1, offset =>
    match bytes.utf8DecodeChar? offset with
    | some c => (c, offset + c.utf8Size) :: decodedFrom bytes fuel (offset + c.utf8Size)
    | none => []

/-- Whether bytes are the beginning of a character of which more bytes are missing. No character needs
more than three further bytes, each of which may be the least or the greatest of its kind. -/
def isUnfinished (content : List UInt8) : Bool :=
  [1, 2, 3].any fun count => [0x80, 0xBF].any fun byte =>
    (ByteArray.utf8DecodeChar? ⟨(content ++ List.replicate count byte).toArray⟩ 0).isSome

/-- The characters of the blocks before the one that holds a byte which belongs to no character. A
character that the bytes end in is missed only after the last block. -/
def wholeBlocks (content : List UInt8) : Text :=
  let decoded := decodedFrom ⟨content.toArray⟩ content.length 0
  let offset := (decoded.getLast?.map Prod.snd).getD 0
  let stop :=
    if isUnfinished (content.drop offset) then offset else blockSize * (offset / blockSize)
  (decoded.takeWhile fun entry => entry.2 ≤ stop).map Prod.fst

/-- The text that bytes stand for, up to the portion that cannot be decoded or holds a character which is
not allowed. -/
def ofBytes (content : List UInt8) : Excerpt :=
  match String.fromUTF8? ⟨content.toArray⟩ with
  | some text => ofText (Text.uniformBreaks text.toList)
  | none =>
    let text := (wholeBlocks content).uniformBreaks
    let before := ofText (text.take (portionStart text.length))
    { before with obstacle := before.obstacle.or (some .undecodable) }

end Excerpt

end Phrasebook.Yaml
