import Phrasebook.Text.Basic

/-!
Tokens of a template: the innermost spans between an opening and a closing brace. A token whose
opening brace follows an `@` is a reference and begins with that marker; every other token is bare.
-/

set_option autoImplicit false
set_option relaxedAutoImplicit false

namespace Phrasebook.Template

def openBrace : Char := '\x7b'

def closeBrace : Char := '\x7d'

/-- The character that turns the token after it into a reference. -/
def referenceMark : Char := '@'

/-- A span of a template, from `start` up to but not including `stop`, with the text between its
braces. -/
structure Token where
  start : Nat
  stop : Nat
  content : Text
  deriving DecidableEq, Repr

/-- The span of a template that a token covers. -/
def Token.literal (token : Token) (text : Text) : Text := text.slice token.start token.stop

inductive Kind
  | bare | reference
  deriving DecidableEq, Repr

/-- An open brace that may yet become a token: its kind, where the token will start, and the
characters met since, the latest first. -/
structure Opening where
  kind : Kind
  start : Nat
  reversed : Text := []

namespace Opening

def after (previous : Option Char) (position : Nat) : Opening :=
  if previous = some referenceMark then ⟨.reference, position - 1, []⟩ else ⟨.bare, position, []⟩

def push (o : Opening) (c : Char) : Opening := { o with reversed := c :: o.reversed }

def close (o : Opening) (position : Nat) : Kind × Token :=
  (o.kind, ⟨o.start, position + 1, o.reversed.reverse⟩)

end Opening

/-- The tokens of the rest of a template, given its position, the character before it and the brace
that is still open. An opening brace replaces the one before it; a closing brace without an open one
is text. -/
def scanFrom (position : Nat) (previous : Option Char) (opening : Option Opening) :
    Text → List (Kind × Token)
  | [] => []
  | c :: rest =>
    if c = openBrace then
      scanFrom (position + 1) (some c) (some (Opening.after previous position)) rest
    else if c = closeBrace then
      (opening.map (·.close position)).toList ++ scanFrom (position + 1) (some c) none rest
    else scanFrom (position + 1) (some c) (opening.map (·.push c)) rest

/-- The tokens of a template with their kinds, in order. -/
def scan (text : Text) : List (Kind × Token) := scanFrom 0 none none text

def tokensOf (kind : Kind) (text : Text) : List Token :=
  ((scan text).filter fun found => found.1 = kind).map Prod.snd

def bareTokens (text : Text) : List Token := tokensOf .bare text

def references (text : Text) : List Token := tokensOf .reference text

end Phrasebook.Template
