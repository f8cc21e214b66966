import Phrasebook.Rule.Chain
import Phrasebook.Template.Placeholder
import Phrasebook.Template.Reference

/-!
Rendering: a request names a template and gives arguments and lookup keys; the template is fetched
and goes through the three stages. Whatever fails is reported and contained, so that there always is
a text.
-/

set_option autoImplicit false
set_option relaxedAutoImplicit false

namespace Phrasebook

open Template (Arguments LookupKeys RowAnswer)

/-- What is to be rendered. -/
structure Request where
  key : Text
  args : Option Arguments := none
  ids : Option LookupKeys := none

inductive TemplateFault where
  /-- There is none, in a locale that may be named. -/
  | notFound (locale : Option Text)
  | failed (message : Text)
  deriving DecidableEq, Repr

/-- Templates by key and table rows by lookup key, over a state. -/
structure Source (σ : Type) where
  template : Text → Effect σ (Except TemplateFault Text)
  row : Text → Effect σ RowAnswer

/-- A source beside a state in which it has no part. -/
def Source.beside {σ τ : Type} (source : Source σ) : Source (τ × σ) where
  template key := (source.template key).beside
  row lookupKey := (source.row lookupKey).beside

def keyPolicy : Text := ['k', 'e', 'y']

namespace Template

variable {σ : Type}

/-- The text in place of a missing template: its key under the key policy, else nothing. -/
def substitute (policy key : Text) : Text := if policy = keyPolicy then key else []

def fetch (source : Source σ) (policy key : Text) : Effect σ Text := do
  match ← source.template key with
  | .ok template => return template
  | .error (.notFound locale) =>
    Effect.report (.templateNotFound key locale policy)
    return substitute policy key
  | .error (.failed message) =>
    Effect.report (.templateFetchFailed key message policy)
    return substitute policy key

def render (source : Source σ) (chain : Chain σ) (policy : Text) (request : Request) :
    Effect σ Text := do
  let template ← fetch source policy request.key
  let (filled, reports) := fillPlaceholders request.key request.args template
  Effect.tell reports
  let resolved ← fillReferences source.row request.key request.ids filled
  chain.resolve resolved

end Template

end Phrasebook
