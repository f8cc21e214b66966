import Phrasebook.Dict
import Phrasebook.Locale
import Phrasebook.Value.Basic

/-!
Directories of translation files. The name of a file says which locale it belongs to: the part before
the ending `.yml` and after the dot before that, if there is one.
-/

set_option autoImplicit false
set_option relaxedAutoImplicit false

namespace Phrasebook

/-- What a file holds. -/
inductive FileContent where
  | bytes (bytes : List UInt8)
  | document (value : Value)
  /-- Nothing: the file is listed, but it cannot be opened. -/
  | dangling

/-- How a directory is searched. A pattern with a wildcard lists every name that fits it; whether one
without lists its name also where that leads nowhere is left to the search. -/
class Globbing where
  listsDangling : Bool

namespace Globbing

/-- The search lists what fits its pattern, whatever the pattern is. -/
def ListsAll [Globbing] : Prop := listsDangling = true

/-- The search that lists what fits its pattern, wherever it leads. -/
@[reducible] def listing : Globbing where
  listsDangling := true

/-- The search that asks whether a file is there when it is given its whole name. -/
instance asking : Globbing where
  listsDangling := false

end Globbing

/-- The files of a directory by name. -/
abbrev Directory := Dict Text FileContent

namespace Directory

def ending : Text := ['.', 'y', 'm', 'l']

/-- The part of a file name that should be a locale tag, if it is the name of a translation file. -/
def tagPart? (name : Text) : Option Text := (Text.dropEnd? ending name).map (Text.lastPiece '.')

def isThere : FileContent → Bool
  | .dangling => false
  | _ => true

def isPartOf (locale : Locale) (name : Text) : Bool :=
  (Text.dropEnd? ('.' :: locale.tag ++ ending) name).isSome

/-- Whether a search for the files of a locale lists a file. That which is named for the locale alone is
searched for by its whole name. -/
def belongsTo [Globbing] (locale : Locale) (name : Text) (content : FileContent) : Bool :=
  name = locale.tag ++ ending && (Globbing.listsDangling || isThere content) || isPartOf locale name

/-- The names of the files of a locale in dictionary order. -/
def namesFor [Globbing] (d : Directory) (locale : Locale) : List Text :=
  ((d.entries.filter fun (name, content) => belongsTo locale name content).map (·.1)).mergeSort Text.le

/-- The locales that the translation files are for, in order of discovery. -/
def locales (d : Directory) : List Locale :=
  ((d.keys.filterMap tagPart?).filterMap Locale.ofTag?).eraseDups

def unrecognized (d : Directory) : List Text :=
  d.keys.filter fun name => (tagPart? name).any fun tag => (Locale.ofTag? tag).isNone

def pathOf (directory name : Text) : Text := directory ++ '/' :: name

/-- The directory after several files were written or, where no content is given, deleted. -/
def change (d : Directory) (changes : List (Text × Option FileContent)) : Directory :=
  changes.foldl (fun d (name, content) =>
    match content with
    | some content => d.insert name content
    | none => d.erase name) d

end Directory

end Phrasebook
