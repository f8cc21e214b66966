import Phrasebook.Yaml.Cursor

/-!
Scalars without quotes. They end at a comment, at a colon before a gap, where the indentation falls
back, and within brackets at the characters that structure a collection.
-/

set_option autoImplicit false
set_option relaxedAutoImplicit false

namespace Phrasebook.Yaml

/-- Whether a character that follows a colon makes the colon end a plain scalar. -/
def endsPlainKey (inFlow : Bool) : Option Char → Bool
  | none => true
  | some c => isGap c || (inFlow && [',', '[', ']', '\x7b', '\x7d'].contains c)

def plainRun (inFlow : Bool) : Text → Text
  | [] => []
  | c :: rest =>
    if isGap c || (c = ':' && endsPlainKey inFlow rest.head?) ||
        (inFlow && [',', '?', '[', ']', '\x7b', '\x7d'].contains c) then []
    else c :: plainRun inFlow rest

/-- The further line breaks of a gap and the place after it, unless a mark between documents comes
first. -/
def plainBreaks : Nat → Text → Cursor → Option Text × Cursor
  | 0, breaks, cursor => (some breaks, cursor)
  | fuel + 1, breaks, cursor =>
    if cursor.peek = some ' ' then plainBreaks fuel breaks cursor.next
    else if cursor.atBreak then
      let (lineBreak, cursor) := cursor.lineBreak
      if cursor.atSeparator then (none, cursor)
      else plainBreaks fuel (breaks ++ lineBreak) cursor
    else (some breaks, cursor)

/-- What a gap inside a plain scalar stands for, empty if the scalar ends before it, with the place
after the gap, and whether the gap holds a line break. -/
def plainGap (cursor : Cursor) : Text × Cursor × Bool :=
  let (spaces, cursor) := cursor.span (· = ' ')
  if !cursor.atBreak then (spaces, cursor, false)
  else
    let (lineBreak, cursor) := cursor.lineBreak
    if cursor.atSeparator then ([], cursor, true)
    else
      match plainBreaks cursor.rest.length [] cursor with
      | (none, cursor) => ([], cursor, true)
      | (some breaks, cursor) => (foldedBreak lineBreak breaks, cursor, true)

/-- The rest of a plain scalar after a part and a gap. -/
def plainFrom (inFlow : Bool) (indent : Int) :
    Nat → Text → Text → Bool → Cursor → Text × Cursor × Bool
  | 0, read, _, broken, cursor => (read, cursor, broken)
  | fuel + 1, read, gap, broken, cursor =>
    if cursor.peek = some '#' then (read, cursor, broken)
    else
      let run := plainRun inFlow cursor.rest
      if run.isEmpty then (read, cursor, broken)
      else
        let read := read ++ gap ++ run
        let (gap, cursor, broken) := plainGap (cursor.skip run.length)
        if gap.isEmpty || cursor.peek = some '#' || (!inFlow && decide ((cursor.column : Int) < indent)) then
          (read, cursor, broken)
        else plainFrom inFlow indent fuel read gap broken cursor

/-- The plain scalar that begins here, the place after it, and whether that is in a later line. -/
def plainScalar (inFlow : Bool) (indent : Int) (cursor : Cursor) : Text × Cursor × Bool :=
  plainFrom inFlow indent cursor.rest.length [] [] false cursor

end Phrasebook.Yaml
