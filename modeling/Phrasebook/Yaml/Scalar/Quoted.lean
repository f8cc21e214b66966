import Phrasebook.Yaml.Cursor

/-!
Scalars in quotes. Between apostrophes an apostrophe is written twice and all else stands for itself;
between double quotes a backslash begins an escape. Line breaks are folded in both.
-/

set_option autoImplicit false
set_option relaxedAutoImplicit false

namespace Phrasebook.Yaml

inductive Quote
  | single | double
  deriving DecidableEq, Repr

def Quote.char : Quote → Char
  | .single => '\''
  | .double => '"'

def namedEscape? (c : Char) : Option Char :=
  [('0', '\x00'), ('a', '\x07'), ('b', '\x08'), ('t', '\t'), ('\t', '\t'), ('n', '\n'), ('v', '\x0b'),
    ('f', '\x0c'), ('r', '\r'), ('e', '\x1b'), (' ', ' '), ('"', '"'), ('\\', '\\'), ('/', '/'),
    ('N', '\x85'), ('_', '\xa0'), ('L', '\u2028'), ('P', '\u2029')].lookup c

def codeWidth? (c : Char) : Option Nat := [('x', 2), ('u', 4), ('U', 8)].lookup c

def hexNumber? (width : Nat) (t : Text) : Option Nat :=
  let digits := (t.take width).map Text.hexDigitValue?
  if digits.length = width then
    (digits.mapM id).map fun values => values.foldl (fun n d => 16 * n + d) 0
  else none

def beyondCodePoints (n : Nat) : Problem :=
  if n ≤ 0x7FFFFFFF then .unreadable (.badValue "chr() arg not in range(0x110000)")
  else .unreadable (.overflow "Python int too large to convert to C int")

/-- The character that an escape with digits gives, and the place after it. The two halves of a code
point that stand in two escapes stay apart. -/
def numberedEscape (width : Nat) (cursor : Cursor) : Except Problem (Char × Cursor) :=
  match hexNumber? width cursor.rest with
  | none => .error .malformed
  | some n =>
    if 0x110000 ≤ n then .error (beyondCodePoints n) else .ok (Text.ofCode n, cursor.skip width)

/-- The line breaks of a gap inside a quoted scalar and the place after it; a mark between documents
may not come there. -/
def quotedBreaks : Nat → Text → Cursor → Except Problem (Text × Cursor)
  | 0, breaks, cursor => .ok (breaks, cursor)
  | fuel + 1, breaks, cursor =>
    if cursor.atSeparator then .error .malformed
    else
      let cursor := (cursor.span fun c => c = ' ' || c = '\t').2
      if cursor.atBreak then
        let (lineBreak, cursor) := cursor.lineBreak
        quotedBreaks fuel (breaks ++ lineBreak) cursor
      else .ok (breaks, cursor)

/-- What an escape stands for, given the place after the backslash, and the place after the escape. -/
def escapeAt (cursor : Cursor) : Except Problem (Text × Cursor) :=
  match cursor.peek with
  | none => .error .unclosed
  | some c =>
    match namedEscape? c with
    | some named => .ok ([named], cursor.next)
    | none =>
      match codeWidth? c with
      | some width => (numberedEscape width cursor.next).map fun (c, cursor) => ([c], cursor)
      | none =>
        if isBreak c then quotedBreaks (cursor.rest.length + 1) [] cursor.lineBreak.2
        else .error .malformed

def isOrdinary (quote : Quote) (c : Char) : Bool :=
  !isGap c && c != quote.char && !(quote = .double && c = '\\')

def quotedRun (quote : Quote) : Nat → Text → Cursor → Except Problem (Text × Cursor)
  | 0, read, cursor => .ok (read, cursor)
  | fuel + 1, read, cursor =>
    let (run, cursor) := cursor.span (isOrdinary quote)
    let read := read ++ run
    match quote, cursor.rest with
    | .single, '\'' :: '\'' :: _ => quotedRun quote fuel (read ++ ['\'']) (cursor.skip 2)
    | .double, '\\' :: _ => do
      let (escaped, cursor) ← escapeAt cursor.next
      quotedRun quote fuel (read ++ escaped) cursor
    | _, _ => .ok (read, cursor)

def quotedGap (cursor : Cursor) : Except Problem (Text × Cursor) :=
  let (blanks, cursor) := cursor.span fun c => c = ' ' || c = '\t'
  if cursor.peek.isNone then .error .unclosed
  else if cursor.atBreak then do
    let (lineBreak, cursor) := cursor.lineBreak
    let (breaks, cursor) ← quotedBreaks (cursor.rest.length + 1) [] cursor
    return (foldedBreak lineBreak breaks, cursor)
  else .ok (blanks, cursor)

/-- The rest of a quoted scalar and the place after its closing quote. -/
def quotedFrom (quote : Quote) : Nat → Text → Cursor → Except Problem (Text × Cursor)
  | 0, _, _ => .error .malformed
  | fuel + 1, read, cursor => do
    let (run, cursor) ← quotedRun quote (cursor.rest.length + 1) [] cursor
    if cursor.peek = some quote.char then return (read ++ run, cursor.next)
    let (gap, cursor) ← quotedGap cursor
    quotedFrom quote fuel (read ++ run ++ gap) cursor

def quotedScalar (quote : Quote) (cursor : Cursor) : Except Problem (Text × Cursor) :=
  quotedFrom quote (cursor.rest.length + 1) [] cursor.next

end Phrasebook.Yaml
