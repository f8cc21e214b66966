import Phrasebook.Text.Basic

/-!
Rules: named transformations of the content of a bare token. A rule that does not recognise a content
gives it back.
-/

set_option autoImplicit false
set_option relaxedAutoImplicit false

namespace Phrasebook

/-- What a rule makes of a content. -/
inductive RuleResult where
  | text (t : Text)
  /-- The rule gave something that is no text; its type is named. -/
  | notText (type : Text)
  | failed (message : Text)
  /-- The rule needs the tag of the locale in force, of which there is only a complaint. -/
  | noTag (message : Text)
  deriving DecidableEq, Repr

/-- The result of a rule that needs a tag: its text, or the complaint for want of one. -/
def RuleResult.ofTagged : Except Text Text → RuleResult
  | .ok t => .text t
  | .error message => .noTag message

/-- A rule over a state it may read and change. -/
structure Rule (σ : Type) where
  name : Text
  apply : Text → σ → RuleResult × σ

namespace Rule

variable {σ : Type}

/-- A rule that depends on nothing but the content. -/
def ofFunction (name : Text) (f : Text → Text) : Rule σ := ⟨name, fun content s => (.text (f content), s)⟩

end Rule

end Phrasebook
