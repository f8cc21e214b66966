import Phrasebook.Yaml.Cursor

/-!
Scalars that fill the lines after a bar or an angle bracket, as long as these are indented. After a
bar the lines are kept; after an angle bracket neighbouring lines are joined by spaces.
-/

set_option autoImplicit false
set_option relaxedAutoImplicit false

namespace Phrasebook.Yaml

/-- What becomes of the line breaks at the end: all go but one, all go, or all stay. -/
inductive Chomping
  | clip | strip | keep
  deriving DecidableEq, Repr

def Chomping.ofSign? (c : Char) : Option Chomping :=
  if c = '+' then some keep else if c = '-' then some strip else none

def indentDigit? (c : Char) : Option Nat :=
  if '1' ≤ c ∧ c ≤ '9' then some (c.toNat - '0'.toNat) else none

/-- The chomping and the indentation that the header of a block scalar gives in either order, and the
place after them. -/
def blockHeader (cursor : Cursor) : Except Problem (Chomping × Option Nat × Cursor) := do
  let digit (cursor : Cursor) : Except Problem (Option Nat × Cursor) :=
    match cursor.peek with
    | some '0' => .error .malformed
    | some c =>
      match indentDigit? c with
      | some n => .ok (some n, cursor.next)
      | none => .ok (none, cursor)
    | none => .ok (none, cursor)
  let (chomping, increment, cursor) ←
    match cursor.peek.bind Chomping.ofSign? with
    | some chomping => do
      let (increment, cursor) ← digit cursor.next
      pure (chomping, increment, cursor)
    | none => do
      let (increment, cursor) ← digit cursor
      match increment, cursor.peek.bind Chomping.ofSign? with
      | some n, some chomping => pure (chomping, some n, cursor.next)
      | increment, _ => pure (.clip, increment, cursor)
  if !cursor.atSpaceOrLineEnd then throw .malformed
  let cursor := cursor.pastSpaces.pastComment
  if !cursor.atLineEnd then throw .malformed
  return (chomping, increment, cursor.lineBreak.2)

/-- The empty lines before the first line with content, the widest indentation met so far, and the
place reached. -/
def blockIndentation : Nat → Text → Nat → Cursor → Text × Nat × Cursor
  | 0, breaks, widest, cursor => (breaks, widest, cursor)
  | fuel + 1, breaks, widest, cursor =>
    if cursor.peek = some ' ' then
      blockIndentation fuel breaks (max widest cursor.next.column) cursor.next
    else if cursor.atBreak then
      let (lineBreak, cursor) := cursor.lineBreak
      blockIndentation fuel (breaks ++ lineBreak) widest cursor
    else (breaks, widest, cursor)

def indentTo (indent : Nat) : Nat → Cursor → Cursor
  | 0, cursor => cursor
  | fuel + 1, cursor =>
    if cursor.column < indent ∧ cursor.peek = some ' ' then indentTo indent fuel cursor.next
    else cursor

/-- The empty lines before the next line of a block scalar, and the place where that begins. -/
def blockBreaks (indent : Nat) : Nat → Text → Cursor → Text × Cursor
  | 0, breaks, cursor => (breaks, cursor)
  | fuel + 1, breaks, cursor =>
    let cursor := indentTo indent indent cursor
    if cursor.atBreak then
      let (lineBreak, cursor) := cursor.lineBreak
      blockBreaks indent fuel (breaks ++ lineBreak) cursor
    else (breaks, cursor)

def inBlock (indent : Nat) (cursor : Cursor) : Bool :=
  cursor.column = indent && cursor.peek.isSome

/-- Whether a line begins with a space or a tab, so that it is not joined to its neighbours. -/
def isIndentedMore (cursor : Cursor) : Bool := cursor.peek.any fun c => c = ' ' || c = '\t'

/-- The lines of a block scalar from the first one on; then the last line break, the empty lines
after it, and the place reached. -/
def blockLines (folded : Bool) (indent : Nat) :
    Nat → Text → Text → Text → Cursor → Text × Text × Text × Cursor
  | 0, read, lastBreak, breaks, cursor => (read, lastBreak, breaks, cursor)
  | fuel + 1, read, lastBreak, breaks, cursor =>
    if inBlock indent cursor then
      let indented := isIndentedMore cursor
      let (line, cursor) := cursor.span fun c => !isBreak c
      let read := read ++ breaks ++ line
      let (lineBreak, cursor) := cursor.lineBreak
      let (breaks, cursor) := blockBreaks indent (cursor.rest.length + 1) [] cursor
      if inBlock indent cursor then
        let joined :=
          if folded ∧ lineBreak = ['\n'] ∧ !indented ∧ !isIndentedMore cursor then
            if breaks.isEmpty then [' '] else []
          else lineBreak
        blockLines folded indent fuel (read ++ joined) lineBreak breaks cursor
      else (read, lineBreak, breaks, cursor)
    else (read, lastBreak, breaks, cursor)

/-- The block scalar whose indicator comes here, within the given indentation, and the place after
it. -/
def blockScalar (folded : Bool) (parentIndent : Int) (cursor : Cursor) :
    Except Problem (Text × Cursor) := do
  let (chomping, increment, cursor) ← blockHeader cursor.next
  let least := max 1 (parentIndent + 1).toNat
  let (indent, breaks, cursor) :=
    match increment with
    | some n =>
      let indent := least + n - 1
      let (breaks, cursor) := blockBreaks indent (cursor.rest.length + 1) [] cursor
      (indent, breaks, cursor)
    | none =>
      let (breaks, widest, cursor) := blockIndentation cursor.rest.length [] 0 cursor
      (max least widest, breaks, cursor)
  let (read, lastBreak, breaks, cursor) :=
    blockLines folded indent (cursor.rest.length + 1) [] [] breaks cursor
  return (read ++ (if chomping = .strip then [] else lastBreak) ++
    (if chomping = .keep then breaks else []), cursor)

end Phrasebook.Yaml
