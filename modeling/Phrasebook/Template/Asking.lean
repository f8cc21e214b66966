import Phrasebook.Failure
import Phrasebook.Template.Render

/-!
Rendering that asks every failure for its text before it reports it. The stages are those of a rendering
in which all failures have texts, but a failure that comes of asking is not contained: it ends the
rendering, and there is no text.
-/

set_option autoImplicit false
set_option relaxedAutoImplicit false

namespace Phrasebook.Asking

open Template

variable {σ : Type} [FailureTexts]

/-! ## The first stage -/

def fill (key : Text) (args : Arguments) (identifier : Text) : Attempt Text σ (Option Text) :=
  match args.get? identifier with
  | none => do
    Attempt.report (.missingArgument key identifier)
    return none
  | some value =>
    match value.toText with
    | .ok text => return some text
    | .error failure => do
      Attempt.complain (.argumentFormatFailed key identifier) failure
      return none

def fillAll (key : Text) (args : Arguments) : List Text → Attempt Text σ (List (Text × Option Text))
  | [] => return []
  | identifier :: more => do
    let text ← fill key args identifier
    return (identifier, text) :: (← fillAll key args more)

def fillPlaceholders (key : Text) (args : Option Arguments) (text : Text) : Attempt Text σ Text :=
  let tokens := bareTokens text
  match args with
  | none => do
    unless tokens.isEmpty do
      Attempt.report (.missingArguments key (Text.sortedDistinct (tokens.map Token.content)))
    return text
  | some args => do
    let filled ← fillAll key args (contents tokens)
    return splice text tokens fun token => (filled.lookup token.content).join

/-! ## The second stage -/

def rowOf (fetch : Text → Effect σ RowAnswer) (key identifier lookupKey : Text)
    (rows : FetchedRows) : Attempt Text σ (Option Row × FetchedRows) :=
  match rows.lookup identifier with
  | some row => return (row, rows)
  | none => do
    match ← ExceptT.lift (fetch lookupKey) with
    | .ok row => return (row, (identifier, row) :: rows)
    | .error failure =>
      Attempt.complain (.dictionaryFetchFailed key lookupKey) failure
      return (none, (identifier, none) :: rows)

def resolveReference (fetch : Text → Effect σ RowAnswer) (key : Text) (ids : LookupKeys)
    (content : Text) (rows : FetchedRows) : Attempt Text σ (Option Text × FetchedRows) :=
  let (identifier, tag) := splitReference content
  match (ids.get? identifier).join with
  | none => do
    Attempt.report (.missingLocalizedArgumentId key identifier)
    return (none, rows)
  | some lookupKey => do
    let (row, rows) ← rowOf fetch key identifier lookupKey rows
    match row.map (entryOf key lookupKey tag) with
    | none => return (none, rows)
    | some (.ok text) => return (some text, rows)
    | some (.error report) =>
      Attempt.report report
      return (none, rows)

def resolveReferences (fetch : Text → Effect σ RowAnswer) (key : Text) (ids : LookupKeys) :
    List Text → FetchedRows → Attempt Text σ (List (Text × Option Text))
  | [], _ => return []
  | content :: more, rows => do
    let (text, rows) ← resolveReference fetch key ids content rows
    return (content, text) :: (← resolveReferences fetch key ids more rows)

def fillReferences (fetch : Text → Effect σ RowAnswer) (key : Text) (ids : Option LookupKeys)
    (text : Text) : Attempt Text σ Text :=
  let tokens := references text
  match ids with
  | none => do
    unless tokens.isEmpty do
      Attempt.report
        (.missingLocalizedArguments key (Text.sortedDistinct (tokens.map Token.content)))
    return text
  | some ids => do
    let resolved ← resolveReferences fetch key ids (contents tokens) []
    return splice text tokens fun token => (resolved.lookup token.content).join

/-! ## The third stage -/

/-- What a rule makes of a content; nobody is asked yet. -/
def attempt (rule : Rule σ) (content : Text) : Effect σ RuleResult := fun s =>
  let (result, s) := rule.apply content s
  ⟨result, s, []⟩

def apply (content : Text) : Chain σ → Attempt Text σ (Option Text)
  | [] => return none
  | rule :: rules => do
    match ← ExceptT.lift (attempt rule content) with
    | .text output => if output = content then apply content rules else return some output
    | .notText type =>
      Attempt.report (.ruleFailed rule.name content ("expected str, got ".toList ++ type))
      apply content rules
    | .failed failure | .noTag failure =>
      Attempt.complain (.ruleFailed rule.name content) failure
      apply content rules

def applyAll (chain : Chain σ) : List Text → Attempt Text σ (List (Text × Option Text))
  | [] => return []
  | content :: more => do
    let output ← apply content chain
    return (content, output) :: (← applyAll chain more)

def resolve (chain : Chain σ) (text : Text) : Attempt Text σ Text := do
  let tokens := bareTokens text
  let outputs ← applyAll chain (contents tokens)
  return splice text tokens fun token => (outputs.lookup token.content).join

/-! ## All stages -/

def fetch (source : Source σ) (policy key : Text) : Attempt Text σ Text := do
  match ← ExceptT.lift (source.template key) with
  | .ok template => return template
  | .error (.notFound locale) =>
    Attempt.report (.templateNotFound key locale policy)
    return substitute policy key
  | .error (.failed failure) =>
    Attempt.complain (.templateFetchFailed key · policy) failure
    return substitute policy key

/-- The text of a request, unless a failure has none. -/
def render (source : Source σ) (chain : Chain σ) (policy : Text) (request : Request) :
    Attempt Text σ Text := do
  let template ← fetch source policy request.key
  let filled ← fillPlaceholders request.key request.args template
  let resolved ← fillReferences source.row request.key request.ids filled
  resolve chain resolved

end Phrasebook.Asking
