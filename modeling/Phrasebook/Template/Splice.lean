import Phrasebook.Template.Token

/-!
Replacing tokens by position: the gaps between the tokens are copied, and a token without a
replacement keeps its literal text.
-/

set_option autoImplicit false
set_option relaxedAutoImplicit false

namespace Phrasebook.Template

def spliceFrom (text : Text) (replacement : Token → Option Text) : Nat → List Token → Text
  | cursor, [] => text.drop cursor
  | cursor, token :: tokens =>
    match replacement token with
    | some new =>
      text.slice cursor token.start ++ new ++ spliceFrom text replacement token.stop tokens
    | none => spliceFrom text replacement cursor tokens

/-- A text with every token that has a replacement replaced by it. -/
def splice (text : Text) (tokens : List Token) (replacement : Token → Option Text) : Text :=
  spliceFrom text replacement 0 tokens

/-- The distinct contents of tokens in order of first occurrence. -/
def contents (tokens : List Token) : List Text := (tokens.map Token.content).eraseDups

end Phrasebook.Template
