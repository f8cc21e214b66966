import Phrasebook.Settings.Problem
import Phrasebook.Value.Text

/-!
Faults: why an operation gives no result. Every fault has one message.
-/

set_option autoImplicit false
set_option relaxedAutoImplicit false

namespace Phrasebook

/-- Why a part of a well-formed document stands for no value. -/
inductive DocumentFault where
  | badValue (message : Text)
  | badKey (message : Text)
  | badIndex (message : Text)
  | badAttribute (message : Text)
  | badType (message : Text)
  | overflow (message : Text)
  /-- A part that holds itself is followed without an end. -/
  | tooDeep (message : Text)
  deriving DecidableEq, Repr

def DocumentFault.message : DocumentFault → Text
  | badValue m | badKey m | badIndex m | badAttribute m | badType m | overflow m | tooDeep m => m

/-- Why an operation gives no result. -/
inductive Fault where
  | unsupportedLocale (given : Value)
  | templateNotFound (key : Text) (locale : Option Text)
  | noDirectory (directory : Text)
  | noFiles (directory : Text)
  | noFilesFor (locale : Locale) (directory : Text)
  /-- A file is listed but cannot be opened. -/
  | vanished (path : Text)
  | unparsable (path : Text)
  | undecodable
  | unreadable (cause : DocumentFault)
  | noCatalog (locale : Locale)
  | sinkFailed
  /-- A value that is to be named has no text. -/
  | noText (message : Text)
  /-- A failure made on purpose. -/
  | raised (message : Text)
  | invalidSettings (refusal : Settings.Refusal)
  /-- A script uses a name that it has not made. -/
  | unknownName (name : Text)
  /-- Callbacks call each other without an end. -/
  | tooDeep

namespace Fault

def message : Fault → Text
  | unsupportedLocale given => "Unsupported locale: ".toList ++ given.toText.toOption.getD []
  | templateNotFound key locale =>
    "No template for key ".toList ++ key.quoted ++
      match locale with
      | none | some [] => []
      | some locale => " in ".toList ++ locale
  | noDirectory directory => "Translations directory not found: ".toList ++ directory
  | noFiles directory => "No translation files found in ".toList ++ directory
  | noFilesFor locale directory =>
    "No translation files found for locale ".toList ++ locale.tag ++ " in ".toList ++ directory
  | vanished path => path
  | unparsable path => "Failed to parse ".toList ++ path
  | undecodable => []
  | unreadable cause => cause.message
  | noCatalog locale => "No catalog for ".toList ++ locale.tag
  | sinkFailed => "sink failed".toList
  | noText message | raised message => message
  | invalidSettings refusal => refusal.message
  | unknownName name => name.quoted
  | tooDeep => "maximum recursion depth exceeded".toList

def isMissingFile : Fault → Bool
  | noFilesFor _ _ | vanished _ | noCatalog _ => true
  | _ => false

end Fault

/-- The locale that a value is or names. The complaint about any other value names it, which fails
where the value has no text. -/
def Value.asLocale (given : Value) : Except Fault Locale :=
  match given.locale?, given.toText with
  | .some l, _ => .ok l
  | .none, .ok _ => .error (.unsupportedLocale given)
  | .none, .error message => .error (.noText message)

end Phrasebook
