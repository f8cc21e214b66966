import Phrasebook.Fault
import Phrasebook.Settings.Dotenv
import Phrasebook.Settings.Json
import Phrasebook.Settings.Path
import Phrasebook.Template.Render

/-!
Settings: what the caller gives wins over the environment, the environment over the file of variables,
and that over the defaults. A setting may be given under its own name or under the name of its
variable, of which the latter wins.
-/

set_option autoImplicit false
set_option relaxedAutoImplicit false

namespace Phrasebook.Settings

/-- Where settings come from. -/
structure Sources where
  given : Dict Text Value := ∅
  environment : Dict Text Text := ∅
  dotenv : Dict Text (Option Text) := ∅

namespace Sources

/-- The value of a variable in the environment, or else in the file. -/
def valueOf? (s : Sources) (name : Text) : Option Value :=
  ((s.environment.get? name).orElse fun _ => (s.dotenv.get? name).join).map .text

/-- The value of the first of several names that has one, with that name. -/
def firstOf (look : Text → Option Value) (names : List Text) : Option (Text × Value) :=
  names.findSome? fun name => (look name).map (name, ·)

def find (s : Sources) (names : List Text) : Option (Text × Value) :=
  (firstOf s.given.get? names).orElse fun _ => firstOf s.valueOf? names

end Sources

/-- What reading a setting gives: its value, or what is wrong. -/
abbrev Field (α : Type) := Except Problem α

def field {α : Type} (s : Sources) (names : List Text) (default : α) (read : Value → Except Misfit α) :
    Field α :=
  match s.find names with
  | none => .ok default
  | some (name, value) => (read value).mapError fun misfit => ⟨name, misfit⟩

def readText : Value → Except Misfit Text
  | .text t => .ok t
  | _ => .error .notText

def readPath : Value → Except Misfit Text
  | .text t => .ok (Path.normalize t)
  | _ => .error .notPath

def falseWords : List Text :=
  ["0".toList, "f".toList, "n".toList, "no".toList, "off".toList, "false".toList]

def trueWords : List Text :=
  ["1".toList, "t".toList, "y".toList, "yes".toList, "on".toList, "true".toList]

/-- The least integer too large for a setting. -/
def integerBound : Int := Int.pow 2 63

def readBoolInteger (n : Int) : Except Misfit Bool :=
  if n < -integerBound ∨ integerBound ≤ n then .error .notBool
  else if n = 0 then .ok false
  else if n = 1 then .ok true
  else .error .noTruthValue

/-- The truth value of a number that may have a fraction; the least integer is none of these. -/
def readBoolReal (x : Number.Binary64) : Except Misfit Bool :=
  match x.toInt? with
  | some n => if n = -integerBound then .error .notBool else readBoolInteger n
  | none => .error .notBool

/-- The truth value that a value stands for: words in any case, and the numbers one and zero. -/
def readBool : Value → Except Misfit Bool
  | .bool b => .ok b
  | .int n => readBoolInteger n
  | .float x => readBoolReal x
  | .text t =>
    if falseWords.contains t.lower then .ok false
    else if trueWords.contains t.lower then .ok true
    else .error .noTruthValue
  | _ => .error .notBool

def policies : List Text := [keyPolicy, "empty".toList]

def readPolicy (v : Value) : Except Misfit Text := do
  let t ← readText v
  if policies.contains t then return t else throw (.noPolicy t)

def problemOf {α : Type} : Field α → List Problem
  | .ok _ => []
  | .error p => [p]

end Phrasebook.Settings

namespace Phrasebook

structure LocalizationSettings where
  directory : Text
  defaultLocale : Text
  fallbackLocale : Text
  useCache : Bool
  policy : Text
  deriving DecidableEq, Repr

namespace LocalizationSettings

open Settings

def bundled : Text := "<bundled>".toList

/-- The names of a setting: that of its variable, and its own. -/
def names (forVariable own : String) : List Text := [forVariable.toList, own.toList]

def ofSources (s : Sources) : Except (List Problem) LocalizationSettings :=
  let directory := field s (names "I18N_TRANSLATIONS_DIR" "translations_dir") bundled readPath
  let defaultLocale :=
    field s (names "I18N_DEFAULT_LOCALE" "default_locale") Locale.enUS.tag readText
  let fallbackLocale :=
    field s (names "I18N_FALLBACK_LOCALE" "fallback_locale") Locale.enUS.tag readText
  let useCache := field s (names "I18N_USE_CACHE" "use_cache") true readBool
  let policy :=
    field s (names "I18N_MISSING_TEMPLATE_FALLBACK" "missing_template_fallback") keyPolicy readPolicy
  match directory, defaultLocale, fallbackLocale, useCache, policy with
  | .ok directory, .ok defaultLocale, .ok fallbackLocale, .ok useCache, .ok policy =>
    .ok { directory, defaultLocale, fallbackLocale, useCache, policy }
  | _, _, _, _, _ =>
    .error (problemOf directory ++ problemOf defaultLocale ++ problemOf fallbackLocale ++
      problemOf useCache ++ problemOf policy)

end LocalizationSettings

structure ApplicationSettings where
  /-- What the names of things begin with outside of production. -/
  stage : Text
  logLevel : Text
  localization : LocalizationSettings
  deriving DecidableEq, Repr

namespace ApplicationSettings

open Settings

def isProduction (s : ApplicationSettings) : Bool := s.stage.isEmpty

def localizationName : Text := "i18n".toList

/-- The first source in which the variable for the localization is not written as a value. That the
variable gives no setting, however it is written, is because the localization is read before. -/
def unreadable? (s : Sources) : Option Settings.Source :=
  let isBad (value : Option Text) : Bool := value.any fun value => !Json.isValue value
  if isBad (s.environment.get? localizationName) then some .environment
  else if isBad (s.dotenv.get? localizationName).join then some .file
  else none

/-- The settings that the sources give. Problems of the localization are told by themselves, and so is
a variable for it that cannot be read. -/
def ofSources (s : Sources) (localization : Dict Text Value) :
    Except Refusal ApplicationSettings := do
  let localization ←
    (LocalizationSettings.ofSources { s with given := localization }).mapError Refusal.misfits
  if let some source := unreadable? s then throw (.unreadable localizationName source)
  let stage := field s ["PREFIX".toList] [] readText
  let logLevel := field s ["LOG_LEVEL".toList] "INFO".toList readText
  match stage, logLevel with
  | .ok stage, .ok logLevel => return { stage, logLevel, localization }
  | _, _ => throw (.misfits (problemOf stage ++ problemOf logLevel))

end ApplicationSettings

end Phrasebook
