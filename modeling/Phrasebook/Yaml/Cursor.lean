import Phrasebook.Fault

/-!
A position in a text that is being read, with the line and column reached so far, and the classes of
characters on which the layout of a document rests. Line breaks are single characters here.
-/

set_option autoImplicit false
set_option relaxedAutoImplicit false

namespace Phrasebook.Yaml

/-- Why a text gives no document. -/
inductive Problem where
  /-- The text is not well formed. -/
  | malformed
  /-- The text ends between two quotes. -/
  | unclosed
  /-- The text is written in bytes that stand for no characters. -/
  | undecodable
  /-- A part of the text stands for no value. -/
  | unreadable (cause : DocumentFault)
  deriving DecidableEq, Repr

def isBreak (c : Char) : Bool := c = '\n' || c = '\x85' || c = '\u2028' || c = '\u2029'

def isGap (c : Char) : Bool := c = ' ' || c = '\t' || isBreak c

/-- Whether a character may stand in a name: a letter or digit of the Latin alphabet, a hyphen or an
underscore. -/
def isNameChar (c : Char) : Bool := c.isAlphanum || c = '-' || c = '_'

/-- What is still to be read, and the place where it begins. -/
structure Cursor where
  rest : Text
  index : Nat := 0
  line : Nat := 0
  column : Nat := 0

namespace Cursor

def peek (cursor : Cursor) : Option Char := cursor.rest.head?

def peekAt (cursor : Cursor) (distance : Nat) : Option Char := cursor.rest[distance]?

/-- The place after the next character. A byte order mark takes no room in its line. -/
def next (cursor : Cursor) : Cursor :=
  match cursor.rest with
  | [] => cursor
  | c :: rest =>
    if isBreak c then ⟨rest, cursor.index + 1, cursor.line + 1, 0⟩
    else
      ⟨rest, cursor.index + 1, cursor.line,
        if c = Text.byteOrderMark then cursor.column else cursor.column + 1⟩

def skip : Nat → Cursor → Cursor
  | 0, cursor => cursor
  | n + 1, cursor => skip n cursor.next

def span (accept : Char → Bool) (cursor : Cursor) : Text × Cursor :=
  let run := cursor.rest.takeWhile accept
  (run, cursor.skip run.length)

def pastSpaces (cursor : Cursor) : Cursor := (cursor.span (· = ' ')).2

/-- The place at the end of the line if a comment begins here, else this place. -/
def pastComment (cursor : Cursor) : Cursor :=
  if cursor.peek = some '#' then (cursor.span fun c => !isBreak c).2 else cursor

def atBreak (cursor : Cursor) : Bool := cursor.peek.any isBreak

def atLineEnd (cursor : Cursor) : Bool := cursor.peek.all isBreak

def atSpaceOrLineEnd (cursor : Cursor) : Bool := cursor.peek.all fun c => c = ' ' || isBreak c

def gapAt (cursor : Cursor) (distance : Nat) : Bool := (cursor.peekAt distance).all isGap

/-- What a line break stands for, empty if there is none, and the place after it. The breaks that
separate lines and paragraphs stand for themselves, every other one for a new line. -/
def lineBreak (cursor : Cursor) : Text × Cursor :=
  match cursor.peek with
  | none => ([], cursor)
  | some c =>
    if c = '\u2028' ∨ c = '\u2029' then ([c], cursor.next)
    else if isBreak c then (['\n'], cursor.next)
    else ([], cursor)

def atTriple (c : Char) (cursor : Cursor) : Bool :=
  cursor.rest.take 3 = [c, c, c] && cursor.gapAt 3

def atSeparator (cursor : Cursor) : Bool := cursor.atTriple '-' || cursor.atTriple '.'

end Cursor

/-- What a line break inside a folded scalar stands for: a space, unless further breaks follow or it
separates more than lines. -/
def foldedBreak (lineBreak breaks : Text) : Text :=
  (if lineBreak ≠ ['\n'] then lineBreak else if breaks.isEmpty then [' '] else []) ++ breaks

end Phrasebook.Yaml
