import Phrasebook.Dict
import Phrasebook.Text.Blank

/-!
Files of environment variables: lines of the form `NAME=value`, with comments, quoted values, and
references to variables given before. A line of another form is passed over.
-/

set_option autoImplicit false
set_option relaxedAutoImplicit false

namespace Phrasebook.Settings.Dotenv

def isInner (c : Char) : Bool := Text.isBlank c && c != '\n'

/-- A text without the white space at its beginning that does not end a line. -/
def pastInner (t : Text) : Text := t.dropWhile isInner

def nextLine (t : Text) : Text := (t.dropWhile (· != '\n')).drop 1

/-- What follows the word that may announce a variable. -/
def pastExport (t : Text) : Text :=
  match Text.dropStart? "export" t with
  | some rest => if rest.head?.any isInner then pastInner rest else t
  | none => t

def readName? (t : Text) : Option (Text × Text) :=
  match t with
  | '\'' :: rest =>
    match Text.breakAt '\'' rest with
    | (name, some rest) => if name.isEmpty then none else some (name, rest)
    | (_, none) => none
  | t =>
    let isNamePart (c : Char) : Bool := c != '=' && c != '#' && !Text.isBlank c
    let name := t.takeWhile isNamePart
    if name.isEmpty then none else some (name, t.drop name.length)

/-- What stands before the closing quote, and what follows it. A backslash and the character after it
belong together, so that a quote after a backslash does not close. -/
def quotedValue? (quote : Char) : Text → Option (Text × Text)
  | [] => none
  | '\\' :: c :: rest =>
    (quotedValue? quote rest).map fun (value, after) => ('\\' :: c :: value, after)
  | c :: rest =>
    if c = quote then some ([], rest)
    else (quotedValue? quote rest).map fun (value, after) => (c :: value, after)

def escapes : List (Char × Char) :=
  [('\\', '\\'), ('\'', '\''), ('"', '"'), ('a', '\x07'), ('b', '\x08'), ('f', '\x0c'), ('n', '\n'),
    ('r', '\r'), ('t', '\t'), ('v', '\x0b')]

def unescape (known : List (Char × Char)) : Text → Text
  | '\\' :: c :: rest =>
    match known.lookup c with
    | some decoded => decoded :: unescape known rest
    | none => '\\' :: unescape known (c :: rest)
  | c :: rest => c :: unescape known rest
  | [] => []

/-- A bare value up to a comment that white space sets off. -/
def beforeComment : Text → Text
  | [] => []
  | c :: rest =>
    if Text.isBlank c && (rest.dropWhile Text.isBlank).head? = some '#' then []
    else c :: beforeComment rest

/-- The value after an equals sign, and what follows. White space after the sign is not part of a bare
value, but may set off a comment. -/
def readValue? (t : Text) : Option (Text × Text) :=
  match pastInner t with
  | '\'' :: rest =>
    (quotedValue? '\'' rest).map fun (value, after) =>
      (unescape [('\\', '\\'), ('\'', '\'')] value, after)
  | '"' :: rest => (quotedValue? '"' rest).map fun (value, after) => (unescape escapes value, after)
  | _ =>
    let line := t.takeWhile (· != '\n')
    some (Text.strip (beforeComment line), t.drop line.length)

def pastLineEnd? (t : Text) : Option Text :=
  let t := match pastInner t with
    | '#' :: rest => rest.dropWhile (· != '\n')
    | _ => t
  match pastInner t with
  | [] => some []
  | '\n' :: rest => some rest
  | _ => none

/-- The binding at the beginning of a text, if it has one, and what follows its line. A name without
an equals sign has no value. -/
def readBinding (t : Text) : Option (Text × Option Text) × Text :=
  let t := pastExport t
  if t.head? = some '#' then (none, nextLine t)
  else
    match readName? t with
    | none => (none, nextLine t)
    | some (name, rest) =>
      match pastInner rest with
      | '=' :: rest =>
        match readValue? rest with
        | none => (none, nextLine (pastInner rest))
        | some (value, rest) =>
          match pastLineEnd? rest with
          | some rest => (some (name, some value), rest)
          | none => (none, nextLine rest)
      | rest =>
        match pastLineEnd? rest with
        | some rest => (some (name, none), rest)
        | none => (none, nextLine rest)

def bindings : Nat → Text → List (Text × Option Text)
  | 0, _ => []
  | fuel + 1, t =>
    match t.dropWhile Text.isBlank with
    | [] => []
    | t =>
      let (binding, rest) := readBinding t
      binding.toList ++ bindings fuel rest

/-- The end of a reference that begins with a dollar sign and a brace: its name, the text for a
missing variable, and what follows. -/
def readReference? (t : Text) : Option (Text × Text × Text) :=
  let name := t.takeWhile fun c => c != '\x7d' && c != ':'
  match t.drop name.length with
  | '\x7d' :: rest => some (name, [], rest)
  | ':' :: '-' :: rest =>
    match Text.breakAt '\x7d' rest with
    | (default, some rest) => some (name, default, rest)
    | (_, none) => none
  | _ => none

def interpolate (valueOf : Text → Option (Option Text)) : Nat → Text → Text
  | 0, t => t
  | _, [] => []
  | fuel + 1, c :: rest =>
    match c, rest with
    | '$', '\x7b' :: body =>
      match readReference? body with
      | some (name, default, rest) =>
        ((valueOf name).getD (some default)).getD [] ++ interpolate valueOf fuel rest
      | none => c :: interpolate valueOf fuel rest
    | _, _ => c :: interpolate valueOf fuel rest

def pastMark : Text → Text
  | c :: rest => if c = Text.byteOrderMark then rest else c :: rest
  | [] => []

/-- The variables of a file, where the values may refer to variables given before and to those of the
environment. -/
def read (environment : Dict Text Text) (t : Text) : Dict Text (Option Text) :=
  let t := (pastMark t).uniformBreaks
  (bindings (t.length + 1) t).foldl (fun known (name, value) =>
    let look (name : Text) : Option (Option Text) :=
      (known.get? name).orElse fun _ => (environment.get? name).map some
    known.insert name (value.map fun v => interpolate look (v.length + 1) v)) ∅

end Phrasebook.Settings.Dotenv
