import Phrasebook.Yaml.Excerpt
import Phrasebook.Yaml.Scalar.Block
import Phrasebook.Yaml.Scalar.Plain
import Phrasebook.Yaml.Scalar.Quoted
import Phrasebook.Yaml.Token

/-!
From a text to its tokens. The layout turns indentation into tokens that open and close blocks, and
marks the key of a mapping when the colon after it is met: until then the beginning of the key is kept
as a pending key, which must be followed by its colon in the same line and within 1024 characters. The
text is read only as far as it takes to know the next token.
-/

set_option autoImplicit false
set_option relaxedAutoImplicit false

namespace Phrasebook.Yaml

/-- A place where a key may have begun. -/
structure PendingKey where
  /-- The number of the token with which the key begins. -/
  token : Nat
  /-- Whether nothing but a key can begin here. -/
  required : Bool
  index : Nat
  line : Nat
  column : Nat

/-- The state between two tokens. -/
structure Layout where
  cursor : Cursor
  size : Nat
  /-- What stops the reading after the text, none if the text ends there. -/
  obstacle : Option Problem
  tokens : List Token := []
  taken : Nat := 0
  /-- Whether the end of the text has been reached. -/
  done : Bool := false
  depth : Nat := 0
  /-- The column of the innermost open block, -1 outside of all blocks. -/
  indent : Int := -1
  outer : List Int := []
  /-- Whether a key may begin here. -/
  allowKey : Bool := true
  /-- The pending keys by depth. -/
  pending : List (Nat × PendingKey) := []

namespace Layout

/-- The greatest distance between the beginning of a key and its colon. -/
def keyLimit : Nat := 1024

abbrev Step := Layout → Except Problem Layout

def inFlow (l : Layout) : Bool := l.depth ≠ 0

def push (l : Layout) (token : Token) : Layout := { l with tokens := l.tokens ++ [token] }

def nextToken (l : Layout) : Nat := l.taken + l.tokens.length

def insertAt (l : Layout) (number : Nat) (token : Token) : Layout :=
  { l with tokens := l.tokens.insertIdx (number - l.taken) token }

def take (l : Layout) (length : Nat) (token : Token) : Layout :=
  { l.push token with cursor := l.cursor.skip length }

/-- The state without the pending keys that can no longer be followed by their colon. -/
def dropStale : Step := fun l => do
  let (kept, stale) := l.pending.partition fun entry =>
    entry.2.line = l.cursor.line && l.cursor.index ≤ entry.2.index + keyLimit
  require (stale.all fun entry => !entry.2.required)
  return { l with pending := kept }

def dropPending : Step := fun l => do
  let (here, kept) := l.pending.partition fun entry => entry.1 = l.depth
  require (here.all fun entry => !entry.2.required)
  return { l with pending := kept }

/-- The state with a pending key at this place, if a key may begin here. -/
def savePending : Step := fun l => do
  if !l.allowKey then return l
  let l ← dropPending l
  let key : PendingKey :=
    { token := l.nextToken
      required := !l.inFlow && l.indent = l.cursor.column
      index := l.cursor.index
      line := l.cursor.line
      column := l.cursor.column }
  return { l with pending := (l.depth, key) :: l.pending }

def closeBlocks (column : Int) : List Int → Layout → Layout
  | [], l => l
  | around :: outer, l =>
    if l.inFlow || l.indent ≤ column then l
    else closeBlocks column outer { l.push .blockEnd with indent := around, outer }

/-- Closes the blocks that end before a column. -/
def unwind (column : Int) (l : Layout) : Layout := closeBlocks column l.outer l

/-- Opens a block at a column if it is indented more than the innermost one, with its token in front of
the one with a number. -/
def openBlock (column number : Nat) (token : Token) (l : Layout) : Layout :=
  if l.indent < column then
    { l.insertAt number token with indent := column, outer := l.indent :: l.outer }
  else l

def openBlockHere (token : Token) (l : Layout) : Layout :=
  openBlock l.cursor.column l.nextToken token l

/-- Passes spaces, comments and line breaks; after a line break a key may begin. -/
def passGaps : Nat → Layout → Layout
  | 0, l => l
  | fuel + 1, l =>
    let cursor := l.cursor.pastSpaces.pastComment
    if cursor.atBreak then
      passGaps fuel { l with cursor := cursor.next, allowKey := l.allowKey || !l.inFlow }
    else { l with cursor }

def passMark (l : Layout) : Layout :=
  if l.cursor.index = 0 ∧ l.cursor.peek = some Text.byteOrderMark then { l with cursor := l.cursor.next }
  else l

/-- A directive, or one of the marks between documents. All blocks are closed before it. -/
def betweenDocuments (read : Cursor → Except Problem (Token × Cursor)) : Step := fun l => do
  let l ← dropPending (unwind (-1) l)
  let (token, cursor) ← read l.cursor
  return { l.push token with cursor, allowKey := false }

def openFlow (token : Token) : Step := fun l => do
  let l ← savePending l
  return { l.take 1 token with depth := l.depth + 1, allowKey := true }

def closeFlow (token : Token) : Step := fun l => do
  let l ← dropPending l
  require l.inFlow
  return { l.take 1 token with depth := l.depth - 1, allowKey := false }

def flowEntry : Step := fun l => do
  let l ← dropPending { l with allowKey := true }
  return l.take 1 .flowEntry

def blockEntry : Step := fun l => do
  require (l.inFlow || l.allowKey)
  let l := if l.inFlow then l else openBlockHere .blockSequence l
  let l ← dropPending { l with allowKey := true }
  return l.take 1 .blockEntry

def explicitKey : Step := fun l => do
  require (l.inFlow || l.allowKey)
  let l := if l.inFlow then l else openBlockHere .blockMapping l
  let l ← dropPending { l with allowKey := !l.inFlow }
  return l.take 1 .key

/-- A colon after the pending key. -/
def colonAfter (key : PendingKey) : Step := fun l => do
  let l := { l with pending := l.pending.filter fun entry => entry.1 ≠ l.depth }
  let l := l.insertAt key.token .key
  let l := if l.inFlow then l else openBlock key.column key.token .blockMapping l
  return { l.take 1 .value with allowKey := false }

/-- A colon after a key that a question mark announced, or after no key at all. -/
def colonAlone : Step := fun l => do
  require (l.inFlow || l.allowKey)
  let l := if l.inFlow then l else openBlockHere .blockMapping l
  let l ← dropPending { l with allowKey := !l.inFlow }
  return l.take 1 .value

def colon : Step := fun l =>
  match l.pending.lookup l.depth with
  | some key => colonAfter key l
  | none => colonAlone l

def keyPart (read : Cursor → Except Problem (Token × Cursor)) : Step := fun l => do
  let l ← savePending l
  let (token, cursor) ← read l.cursor
  return { l.push token with cursor, allowKey := false }

/-- A plain scalar. If it goes on to a later line a key may begin after it. -/
def plain : Step := fun l => do
  let l ← savePending l
  let (text, cursor, broken) := plainScalar l.inFlow (l.indent + 1) l.cursor
  return { l.push (.scalar text true) with cursor, allowKey := broken }

def block (folded : Bool) : Step := fun l => do
  let l ← dropPending { l with allowKey := true }
  let (text, cursor) ← blockScalar folded l.indent l.cursor
  return { l.push (.scalar text false) with cursor }

def quoted (quote : Quote) (cursor : Cursor) : Except Problem (Token × Cursor) :=
  (quotedScalar quote cursor).map fun (text, cursor) => (.scalar text false, cursor)

def separator (token : Token) (cursor : Cursor) : Except Problem (Token × Cursor) :=
  .ok (token, cursor.skip 3)

/-- The characters that cannot begin a plain scalar unless something else than a gap follows one of
the first three. -/
def indicators : List Char :=
  ['-', '?', ':', ',', '[', ']', '\x7b', '\x7d', '#', '&', '*', '!', '|', '>', '\'', '"', '%', '@', '\x60']

def beginsPlain (l : Layout) (c : Char) : Bool :=
  (!isGap c && !indicators.contains c) ||
    (!l.cursor.gapAt 1 && (c = '-' || (!l.inFlow && (c = '?' || c = ':'))))

def tokenAt (c : Char) : Step := fun l =>
  let first := l.cursor.column = 0
  let spaced := l.inFlow || l.cursor.gapAt 1
  if c = '%' ∧ first then betweenDocuments directiveAt l
  else if first ∧ l.cursor.atTriple '-' then betweenDocuments (separator .documentStart) l
  else if first ∧ l.cursor.atTriple '.' then betweenDocuments (separator .documentEnd) l
  else if c = '[' then openFlow .flowSequence l
  else if c = '\x7b' then openFlow .flowMapping l
  else if c = ']' then closeFlow .flowSequenceEnd l
  else if c = '\x7d' then closeFlow .flowMappingEnd l
  else if c = ',' then flowEntry l
  else if c = '-' ∧ l.cursor.gapAt 1 then blockEntry l
  else if c = '?' ∧ spaced then explicitKey l
  else if c = ':' ∧ spaced then colon l
  else if c = '*' then
    keyPart (fun cursor => (anchorName cursor).map fun (name, cursor) => (.alias name, cursor)) l
  else if c = '&' then
    keyPart (fun cursor => (anchorName cursor).map fun (name, cursor) => (.anchor name, cursor)) l
  else if c = '!' then keyPart tagAt l
  else if c = '|' ∧ !l.inFlow then block false l
  else if c = '>' ∧ !l.inFlow then block true l
  else if c = '\'' then keyPart (quoted .single) l
  else if c = '"' then keyPart (quoted .double) l
  else if beginsPlain l c then plain l
  else .error .malformed

def finish : Step := fun l => do
  let l ← dropPending (unwind (-1) l)
  return { l with pending := [], allowKey := false, done := true }

/-- Fails at the end of the text if the reading is stopped there. -/
def passObstacle : Step := fun l =>
  match l.cursor.rest, l.obstacle with
  | [], some problem => .error problem
  | _, _ => .ok l

/-- The problem with a token. What is not closed where the reading is stopped may be closed later. -/
def tokenProblem (l : Layout) : Problem → Problem
  | .unclosed => l.obstacle.getD .unclosed
  | problem => problem

/-- Reads one more token, after the tokens for the blocks that end before it. -/
def fetch : Step := fun l => do
  let l ← dropStale (← passObstacle (passGaps (l.size + 1) (passMark l)))
  let l := unwind l.cursor.column l
  match l.cursor.peek with
  | some c => passObstacle (← (tokenAt c l).mapError l.tokenProblem)
  | none => finish l

/-- Reads tokens until the first one that has not been taken cannot be that of a key any more. -/
def fill : Nat → Step
  | 0, _ => .error .malformed
  | fuel + 1, l =>
    if l.done then .ok l
    else if l.tokens.isEmpty then do fill fuel (← fetch l)
    else do
      let l ← dropStale l
      if l.pending.any fun entry => entry.2.token = l.taken then fill fuel (← fetch l) else return l

/-- The state in which the next token, if there is one, is the first of those that have been read. -/
def ready : Step := fun l => fill (l.size + 2) l

def pass (l : Layout) : Layout := { l with tokens := l.tokens.tail, taken := l.taken + 1 }

def ofExcerpt (excerpt : Excerpt) : Layout :=
  { cursor := { rest := excerpt.text }
    size := excerpt.text.length
    obstacle := excerpt.obstacle }

end Layout

end Phrasebook.Yaml
