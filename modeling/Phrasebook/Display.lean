import Phrasebook.Template.Asking

/-!
Displays: a display keeps a request and shows the text rendered for it. Refreshing it renders the
request again, keeps the text and hands it to a sink.
-/

set_option autoImplicit false
set_option relaxedAutoImplicit false

namespace Phrasebook

/-- What a display keeps: its request, and the text rendered for it last. -/
structure Display where
  request : Option Request := none
  text : Option Text := none

namespace Display

/-- What a display works with: where templates and rows come from, the rules, what stands for a
missing template, and the sink that is given every text. -/
structure Outlet (ε σ : Type) where
  source : Source σ
  chain : Chain σ
  policy : Text
  sink : Text → Attempt ε σ Unit
  /-- The fault that stands for a failure which is not contained. -/
  escape : Text → ε

variable {ε σ α : Type}

def outside (x : Attempt ε σ α) : Attempt ε (Display × σ) α :=
  x.within Prod.snd fun s (display, _) => (display, s)

/-- Renders the request of the display again, if it has one. Without a text, because a failure has none,
the display is left as it is. -/
def refresh [FailureTexts] (outlet : Outlet ε σ) : Attempt ε (Display × σ) Unit := do
  match (← Attempt.read).1.request with
  | none => return ()
  | some request =>
    let text ← outside
      ((Asking.render outlet.source outlet.chain outlet.policy request).mapFault outlet.escape)
    Attempt.change fun (display, s) => ({ display with text := some text }, s)
    outside (outlet.sink text)

def setString [FailureTexts] (outlet : Outlet ε σ) (request : Request) :
    Attempt ε (Display × σ) Unit := do
  Attempt.change fun (display, s) => ({ display with request := some request }, s)
  refresh outlet

end Display

end Phrasebook
