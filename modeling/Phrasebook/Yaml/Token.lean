import Phrasebook.Yaml.Numeral

/-!
The tokens of a document, and how those that are words by themselves are read: anchors, aliases, tags
and directives.
-/

set_option autoImplicit false
set_option relaxedAutoImplicit false

namespace Phrasebook.Yaml

/-- The tokens of a document. The tokens that open and close a block stand for changes of the
indentation. -/
inductive Token where
  /-- A directive on the version, with its major number. -/
  | version (major : Nat)
  /-- A directive that gives a tag handle its meaning. -/
  | tagHandle (handle meaning : Text)
  | otherDirective
  | documentStart
  | documentEnd
  | blockSequence
  | blockMapping
  | blockEnd
  | flowSequence
  | flowSequenceEnd
  | flowMapping
  | flowMappingEnd
  | blockEntry
  | flowEntry
  | key
  | value
  | alias (name : Text)
  | anchor (name : Text)
  /-- A tag, whose handle is missing if the tag is given in full. -/
  | tag (handle : Option Text) (suffix : Text)
  | scalar (text : Text) (plain : Bool)
  deriving DecidableEq

def require (condition : Bool) : Except Problem Unit :=
  if condition then .ok () else .error .malformed

def anchorName (cursor : Cursor) : Except Problem (Text × Cursor) := do
  let (name, cursor) := cursor.next.span isNameChar
  require (!name.isEmpty)
  require (cursor.gapAt 0 || cursor.peek.any fun c =>
    ['?', ':', ',', ']', '\x7d', '%', '@', '\x60'].contains c)
  return (name, cursor)

def isTagChar (c : Char) : Bool :=
  c.isAlphanum || ['-', ';', '/', '?', ':', '@', '&', '=', '+', '$', ',', '_', '.', '!', '~', '*', '\'',
    '(', ')', '[', ']', '%'].contains c

def percentBytes : Nat → Cursor → Except Problem (List UInt8 × Cursor)
  | 0, cursor => .ok ([], cursor)
  | fuel + 1, cursor =>
    match cursor.rest with
    | '%' :: high :: low :: _ => do
      match Text.hexDigitValue? high, Text.hexDigitValue? low with
      | some h, some l =>
        let (bytes, cursor) ← percentBytes fuel (cursor.skip 3)
        return (UInt8.ofNat (16 * h + l) :: bytes, cursor)
      | _, _ => throw .malformed
    | '%' :: _ => .error .malformed
    | _ => .ok ([], cursor)

def tagSuffixFrom : Nat → Text → Cursor → Except Problem (Text × Cursor)
  | 0, read, cursor => .ok (read, cursor)
  | fuel + 1, read, cursor =>
    if cursor.peek = some '%' then do
      let (bytes, cursor) ← percentBytes cursor.rest.length cursor
      match String.fromUTF8? ⟨bytes.toArray⟩ with
      | some decoded => tagSuffixFrom fuel (read ++ decoded.toList) cursor
      | none => throw .malformed
    else if cursor.peek.any isTagChar then
      let (run, cursor) := cursor.span fun c => isTagChar c && c != '%'
      tagSuffixFrom fuel (read ++ run) cursor
    else .ok (read, cursor)

def tagSuffix (cursor : Cursor) : Except Problem (Text × Cursor) := do
  require (cursor.peek.any isTagChar)
  tagSuffixFrom (cursor.rest.length + 1) [] cursor

def tagHandle (cursor : Cursor) : Except Problem (Text × Cursor) := do
  require (cursor.peek = some '!')
  if cursor.peekAt 1 = some ' ' then return (['!'], cursor.next)
  let (name, after) := cursor.next.span isNameChar
  require (after.peek = some '!')
  return ('!' :: name ++ ['!'], after.next)

def tagAt (cursor : Cursor) : Except Problem (Token × Cursor) := do
  let (token, cursor) ←
    if cursor.peekAt 1 = some '<' then do
      let (suffix, cursor) ← tagSuffix (cursor.skip 2)
      require (cursor.peek = some '>')
      pure (Token.tag none suffix, cursor.next)
    else if cursor.gapAt 1 then pure (Token.tag none ['!'], cursor.next)
    else do
      let word := cursor.next.rest.takeWhile fun c => c != ' ' && !isBreak c
      let (handle, cursor) ←
        if word.contains '!' then tagHandle cursor else pure (['!'], cursor.next)
      let (suffix, cursor) ← tagSuffix cursor
      pure (Token.tag (some handle) suffix, cursor)
  require cursor.atSpaceOrLineEnd
  return (token, cursor)

def directiveNumber (cursor : Cursor) : Except Problem (Nat × Cursor) := do
  let (digits, cursor) := cursor.span Char.isDigit
  require (!digits.isEmpty)
  if Number.digitLimit < digits.length then throw (tooManyDigits digits.length)
  return (digits.foldl (fun n c => 10 * n + (c.toNat - '0'.toNat)) 0, cursor)

def directiveValue (name : Text) (cursor : Cursor) : Except Problem (Token × Cursor) := do
  if name = ['Y', 'A', 'M', 'L'] then
    let (major, cursor) ← directiveNumber cursor.pastSpaces
    require (cursor.peek = some '.')
    let (_, cursor) ← directiveNumber cursor.next
    require cursor.atSpaceOrLineEnd
    return (.version major, cursor)
  else if name = ['T', 'A', 'G'] then
    let (handle, cursor) ← tagHandle cursor.pastSpaces
    require (cursor.peek = some ' ')
    let (meaning, cursor) ← tagSuffix cursor.pastSpaces
    require cursor.atSpaceOrLineEnd
    return (.tagHandle handle meaning, cursor)
  else return (.otherDirective, (cursor.span fun c => !isBreak c).2)

def directiveAt (cursor : Cursor) : Except Problem (Token × Cursor) := do
  let (name, cursor) := cursor.next.span isNameChar
  require (!name.isEmpty)
  require cursor.atSpaceOrLineEnd
  let (token, cursor) ← directiveValue name cursor
  let cursor := cursor.pastSpaces.pastComment
  require cursor.atLineEnd
  return (token, cursor.lineBreak.2)

end Phrasebook.Yaml
