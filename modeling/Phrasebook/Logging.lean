import Phrasebook.Report
import Phrasebook.Settings.Basic

/-!
Logging: which messages are written, and in which form. In production every message becomes a record,
elsewhere a line for the console; while tests are running nothing is written.
-/

set_option autoImplicit false
set_option relaxedAutoImplicit false

namespace Phrasebook

/-- A stage that a message passes on its way. -/
inductive Stage
  | addContext | addLevel | addTime | addPlace | addStack | addException
  | writeRecord | writeConsole
  /-- Leaves the writing to whoever listens. -/
  | handOver
  deriving DecidableEq, Repr

def Stage.name : Stage → Text
  | addContext => "merge_contextvars".toList
  | addLevel => "add_log_level".toList
  | addTime => "TimeStamper".toList
  | addPlace => "CallsiteParameterAdder".toList
  | addStack => "StackInfoRenderer".toList
  | addException => "ExceptionRenderer".toList
  | writeRecord => "JSONRenderer".toList
  | writeConsole => "ConsoleRenderer".toList
  | handOver => "wrap_for_formatter".toList

/-- The least weight of what is written, and the stages that it passes. -/
structure Logging where
  threshold : Nat
  stages : List Stage
  deriving DecidableEq, Repr

/-- Why logging is not set up, or a message not taken. -/
inductive LoggingFault where
  /-- The name of the threshold stands for a text that is none. -/
  | unknownThreshold (written : Text)
  /-- The name of the threshold stands for something else than a threshold, written in source form. -/
  | noThreshold (written : Text)
  /-- What is given for the name of the threshold is of a kind that has no capitals. -/
  | noName (kind : Text)
  /-- An operation takes a field of a message for one of its own arguments. -/
  | repeatedArgument (operation name : Text)
  deriving DecidableEq, Repr

def LoggingFault.message : LoggingFault → Text
  | unknownThreshold written => "Unknown level: ".toList ++ written.quoted
  | noThreshold written => "Level not an integer or a valid string: ".toList ++ written
  | noName kind => '\'' :: kind ++ "' object has no attribute 'upper'".toList
  | repeatedArgument operation name =>
    "BoundLogger.".toList ++ operation ++ "() got multiple values for argument '".toList ++ name ++ ['\'']

/-- A written message. -/
inductive Line where
  /-- A record, of which the time and the place of the call are left out. -/
  | record (fields : Dict Text Value)
  | console

namespace Logging

def thresholds : List (Text × Nat) :=
  [("NOTSET".toList, 0), ("DEBUG".toList, Level.debug.weight), ("INFO".toList, Level.info.weight),
    ("WARN".toList, Level.warning.weight), ("WARNING".toList, Level.warning.weight),
    ("ERROR".toList, Level.error.weight), ("CRITICAL".toList, Level.critical.weight),
    ("FATAL".toList, Level.critical.weight)]

/-- The capitals of a letter, as far as those are letters of names of thresholds. -/
def capitals (c : Char) : Text :=
  if c = 'ı' then ['I']
  else if c = 'ſ' then ['S']
  else if c = 'ﬅ' ∨ c = 'ﬆ' then ['S', 'T']
  else [c.toUpper]

/-- The form of plain lines; it is named like a threshold. -/
def plainForm : Text := "%(levelname)s:%(name)s:%(message)s".toList

/-- The forms of lines by the character that marks a field, each with its class. -/
def forms : List (Char × Text × Text) :=
  [('%', "logging.PercentStyle".toList, plainForm),
    ('\x7b', "logging.StrFormatStyle".toList, "\x7blevelname\x7d:\x7bname\x7d:\x7bmessage\x7d".toList),
    ('$', "logging.StringTemplateStyle".toList,
      "$\x7blevelname\x7d:$\x7bname\x7d:$\x7bmessage\x7d".toList)]

def formsSource : Text :=
  let entry : Char × Text × Text → Text := fun (mark, kind, form) =>
    Text.quoted [mark] ++ ": (<class '".toList ++ kind ++ "'>, ".toList ++ form.quoted ++ [')']
  '\x7b' :: Value.commaSeparated (forms.map entry) ++ ['\x7d']

/-- The threshold of a name in any case. Two names stand for the forms of lines, and every other one
for the threshold of information. -/
def thresholdOf (name : Text) : Except LoggingFault Nat :=
  let name := name.flatMap capitals
  match thresholds.lookup name with
  | some threshold => .ok threshold
  | none =>
    if name = "BASIC_FORMAT".toList then .error (.unknownThreshold plainForm)
    else if name = "_STYLES".toList then .error (.noThreshold formsSource)
    else .ok Level.info.weight

def preparation : List Stage := [.addContext, .addLevel, .addTime, .addPlace, .addStack, .addException]

def silence : Nat := Level.critical.weight + 1

def silent : Logging where
  threshold := silence
  stages := [.addLevel, .handOver]

/-- What a caller asks for in place of the settings. -/
structure Options where
  /-- The name of the threshold; an empty value counts as none. -/
  threshold : Value := .none
  production : Option Bool := none

def thresholdName (settings : ApplicationSettings) (asked : Value) : Except LoggingFault Text :=
  if asked.isEmpty then .ok settings.logLevel
  else
    match asked with
    | .text name => .ok name
    | asked => .error (.noName asked.kind)

def configure (settings : ApplicationSettings) (options : Options) : Except LoggingFault Logging := do
  return {
    threshold := ← thresholdOf (← thresholdName settings options.threshold)
    stages :=
      preparation ++
        [if options.production.getD settings.isProduction then .writeRecord else .writeConsole] }

def stageFields : List Text :=
  ["timestamp".toList, "filename".toList, "lineno".toList, "func_name".toList,
    "exc_info".toList, "stack_info".toList]

def record (level : Level) (event : Text) (fields : Dict Text Value) : Dict Text Value :=
  ((fields.filter fun field => !stageFields.contains field.1).insert "event".toList
    (.text event)).insert "level".toList (.text level.name)

/-- The arguments that a message itself has, and one that it is handed on with; a field must not be
named like one of them. -/
def messageArguments (level : Level) : List (Text × Text) :=
  [("event".toList, level.name), ("self".toList, level.name),
    ("method_name".toList, "_proxy_to_logger".toList)]

def clash? (level : Level) (fields : Dict Text Value) : Option LoggingFault :=
  let named (name : Text) : Bool := fields.entries.any fun field => field.1 = name
  (messageArguments level).findSome? fun (name, operation) =>
    if named name then some (.repeatedArgument operation name) else none

/-- What is written for a message, if it is heavy enough to be written at all. -/
def write (l : Logging) (level : Level) (event : Text) (fields : Dict Text Value) :
    Except LoggingFault (Option Line) :=
  match clash? level fields with
  | some fault => .error fault
  | none =>
    if level.weight < l.threshold then .ok none
    else if l.stages.contains .writeRecord then .ok (some (.record (record level event fields)))
    else if l.stages.contains .writeConsole then .ok (some .console)
    else .ok none

/-- The fields that every message of a module has: the last part of the module's name, and the whole
name. A caller of which no module is known has no name to tell. -/
def moduleFields : Option Text → Dict Text Text
  | none => .ofList [("component".toList, "unknown".toList)]
  | some path =>
    .ofList [("component".toList, path.lastPiece '.'), ("module_path".toList, path)]

end Logging

end Phrasebook
