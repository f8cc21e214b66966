import Phrasebook.Dict
import Phrasebook.Report
import Phrasebook.Template.Splice
import Phrasebook.Value.Text

/-!
The first stage: bare tokens are filled from the caller's arguments, all at once. Values are never
scanned again, and every unresolved identifier is reported once.
-/

set_option autoImplicit false
set_option relaxedAutoImplicit false

namespace Phrasebook.Template

abbrev Arguments := Dict Text Value

/-- The text for one placeholder, or the report on why there is none. -/
def fill (key : Text) (args : Arguments) (identifier : Text) : Except Report Text :=
  match args.get? identifier with
  | none => .error (.missingArgument key identifier)
  | some value =>
    match value.toText with
    | .ok t => .ok t
    | .error error => .error (.argumentFormatFailed key identifier error)

/-- A template with its placeholders filled, and the reports in order of first occurrence. Without
arguments a template that has placeholders is left as it is, with one report on all of them. -/
def fillPlaceholders (key : Text) (args : Option Arguments) (text : Text) : Text × List Report :=
  let tokens := bareTokens text
  match args with
  | none =>
    (text, if tokens.isEmpty then []
      else [.missingArguments key (Text.sortedDistinct (tokens.map Token.content))])
  | some args =>
    (splice text tokens fun token => (fill key args token.content).toOption,
      (contents tokens).filterMap fun identifier =>
        match fill key args identifier with
        | .ok _ => none
        | .error report => some report)

end Phrasebook.Template
