import Phrasebook.Effect
import Phrasebook.Rule.Basic
import Phrasebook.Rule.Index
import Phrasebook.Rule.Plural
import Phrasebook.Template.Splice

/-!
The third stage: the bare tokens left over are offered to rules in order, and the first rule that
changes a content gives its replacement. Every distinct content is offered once.
-/

set_option autoImplicit false
set_option relaxedAutoImplicit false

namespace Phrasebook

abbrev Chain (σ : Type) := List (Rule σ)

namespace Chain

variable {σ : Type}

/-- A chain with one more rule, which comes after all others. -/
def register (chain : Chain σ) (rule : Rule σ) : Chain σ := chain ++ [rule]

/-- What a rule makes of a content, or the message of its failure. -/
def attempt (rule : Rule σ) (content : Text) : Effect σ (Except Text Text) := fun s =>
  match rule.apply content s with
  | (.text t, s) => ⟨.ok t, s, []⟩
  | (.notText type, s) => ⟨.error ("expected str, got ".toList ++ type), s, []⟩
  | (.failed message, s) | (.noTag message, s) => ⟨.error message, s, []⟩

/-- The output of the first rule that changes a content. A rule that fails is reported and passed
over. -/
def apply (content : Text) : Chain σ → Effect σ (Option Text)
  | [] => return none
  | rule :: rules => do
    match ← attempt rule content with
    | .error error =>
      Effect.report (.ruleFailed rule.name content error)
      apply content rules
    | .ok output => if output = content then apply content rules else return some output

def applyAll (chain : Chain σ) : List Text → Effect σ (List (Text × Option Text))
  | [] => return []
  | content :: more => do
    let output ← chain.apply content
    return (content, output) :: (← applyAll chain more)

/-- A text with every bare token replaced to which some rule applies. -/
def resolve (chain : Chain σ) (text : Text) : Effect σ Text := do
  let tokens := Template.bareTokens text
  let outputs ← chain.applyAll (Template.contents tokens)
  return Template.splice text tokens fun token => (outputs.lookup token.content).join

def builtIn (tag : σ → Except Text Text) : Chain σ := [Rule.Index.rule, Rule.Plural.rule tag]

end Chain

end Phrasebook
