import Phrasebook.Number.Integer
import Phrasebook.Text.Basic

/-!
The notation for values with a structure in a variable: texts in quotation marks, numbers, a few words,
and lists and members in brackets. Only whether a text follows it matters, not the value.
-/

set_option autoImplicit false
set_option relaxedAutoImplicit false

namespace Phrasebook.Settings.Json

def isGap (c : Char) : Bool := c == ' ' || c == '\t' || c == '\n' || c == '\r'

def pastGap (t : Text) : Text := t.dropWhile isGap

/-- The characters that a backslash may stand before, but for the one before four digits. -/
def escaped : List Char := ['"', '\\', '/', 'b', 'f', 'n', 'r', 't']

def pastString? : Text → Option Text
  | '"' :: rest => some rest
  | '\\' :: 'u' :: a :: b :: c :: d :: rest =>
    if [a, b, c, d].all fun digit => (Text.hexDigitValue? digit).isSome then pastString? rest else none
  | '\\' :: c :: rest => if escaped.contains c then pastString? rest else none
  | c :: rest => if c.toNat < 32 then none else pastString? rest
  | [] => none

def pastFraction (t : Text) : Text :=
  match t with
  | '.' :: rest => if (rest.head?.any Char.isDigit) then rest.dropWhile Char.isDigit else t
  | _ => t

def pastExponent (t : Text) : Text :=
  let pastSign : Text → Text
    | '+' :: rest | '-' :: rest => rest
    | rest => rest
  match t with
  | 'e' :: rest | 'E' :: rest =>
    let digits := pastSign rest
    if digits.head?.any Char.isDigit then digits.dropWhile Char.isDigit else t
  | _ => t

/-- What follows a number without a sign. An integer has no more digits than one may read. -/
def pastNumber? (t : Text) : Option Text :=
  let digits := if t.head? = some '0' then ['0'] else t.takeWhile Char.isDigit
  let whole := t.drop digits.length
  let rest := pastExponent (pastFraction whole)
  if digits.isEmpty then none
  else if rest.length = whole.length && digits.length > Number.digitLimit then none
  else some rest

def words : List Text :=
  ["null".toList, "true".toList, "false".toList, "NaN".toList, "Infinity".toList, "-Infinity".toList]

def pastAtom? (t : Text) : Option Text :=
  (words.findSome? fun word => Text.dropStart? word t).orElse fun _ =>
    match t with
    | '-' :: rest => pastNumber? rest
    | rest => pastNumber? rest

mutual

/-- What follows a value, at most so many levels and places deep. -/
def pastValue? : Nat → Text → Option Text
  | 0, _ => none
  | fuel + 1, t =>
    match t with
    | '"' :: rest => pastString? rest
    | '[' :: rest =>
      match pastGap rest with
      | ']' :: rest => some rest
      | rest => pastItems? fuel rest
    | '\x7b' :: rest =>
      match pastGap rest with
      | '\x7d' :: rest => some rest
      | rest => pastMembers? fuel rest
    | t => pastAtom? t

def pastItems? : Nat → Text → Option Text
  | 0, _ => none
  | fuel + 1, t => do
    match pastGap (← pastValue? fuel t) with
    | ']' :: rest => some rest
    | ',' :: rest => pastItems? fuel (pastGap rest)
    | _ => none

def pastMembers? : Nat → Text → Option Text
  | 0, _ => none
  | fuel + 1, t => do
    let '"' :: name := t | none
    let ':' :: value := pastGap (← pastString? name) | none
    match pastGap (← pastValue? fuel (pastGap value)) with
    | '\x7d' :: rest => some rest
    | ',' :: rest => pastMembers? fuel (pastGap rest)
    | _ => none

end

def isValue (t : Text) : Bool :=
  match pastValue? (2 * t.length + 2) (pastGap t) with
  | some rest => (pastGap rest).isEmpty
  | none => false

end Phrasebook.Settings.Json
