import Phrasebook.Effect

/-!
Failures that are reported. A failure is known by a text. Whoever reports it asks it for its text, and
that may fail in turn; what it fails with is contained by nobody there.
-/

set_option autoImplicit false
set_option relaxedAutoImplicit false

namespace Phrasebook

/-- What a failure says when it is asked for its text: a text, or it raises another failure. A failure
that nobody is meant to contain raises itself. -/
class FailureTexts where
  ask (failure : Text) : Except Text Text

namespace FailureTexts

/-- Every failure has a text, as is to be expected of a failure. -/
def AllGiven [FailureTexts] : Prop := ∀ failure, ∃ text, ask failure = .ok text

/-- The usual failures say what they are known by. -/
instance usual : FailureTexts where
  ask := .ok

end FailureTexts

def Attempt.complain [FailureTexts] {σ : Type} (report : Text → Report) (failure : Text) :
    Attempt Text σ Unit := do
  Attempt.report (report (← Attempt.ofExcept (FailureTexts.ask failure)))

end Phrasebook
