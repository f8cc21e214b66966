import Phrasebook.Failure
import Phrasebook.Notifier.Registry

/-!
Delivering an event to the subscribers of its type. A delivery serves the subscriptions that were
there when it began, in their order, and passes over those that have gone when their turn comes. What
a subscriber does, and whether it fails, is open: it may change the registry or publish by itself.
-/

set_option autoImplicit false
set_option relaxedAutoImplicit false

namespace Phrasebook

/-- Something that happened: its type, and further data by name. -/
structure Event where
  eventType : Text
  metadata : Dict Text Value := ∅

/-- How a state holds a registry, and what its subscribers do. -/
structure Channel (σ κ : Type) where
  registry : σ → Registry κ
  name : κ → Text
  /-- What a subscriber does with an event; a failure is known by a text. -/
  call : κ → Event → Effect σ (Except Text Unit)

namespace Channel

variable {σ κ : Type}

/-- Hands an event to one subscriber and reports its failure. -/
def serve (channel : Channel σ κ) (event : Event) (subscriber : κ) : Effect σ Unit := do
  match ← channel.call subscriber event with
  | .ok () => return ()
  | .error message =>
    Effect.report (.eventHandlerFailed (channel.name subscriber) event.eventType message)

/-- Hands an event to those of several subscribers that are registered when their turn comes, and
counts them. -/
def deliver (channel : Channel σ κ) (event : Event) : List (Subscription κ) → Effect σ Nat
  | [] => return 0
  | subscription :: more => do
    if (channel.registry (← Effect.read)).isRegistered subscription.handle then
      channel.serve event subscription.subscriber
      return (← deliver channel event more) + 1
    else deliver channel event more

/-- Delivers an event to its subscribers, and counts those that were called. -/
def publish (channel : Channel σ κ) (event : Event) : Effect σ Nat := do
  let subscriptions := (channel.registry (← Effect.read)).of event.eventType
  Effect.report (.publishingEvent event.eventType subscriptions.length)
  channel.deliver event subscriptions

end Channel

/-! ## Asking failures for their texts

The failure of a subscriber is asked for its text when it is reported. What it fails with in turn is not
contained: it ends the delivery, and nobody is counted. -/

namespace Asking

variable {σ κ : Type} [FailureTexts]

def serve (channel : Channel σ κ) (event : Event) (subscriber : κ) : Attempt Text σ Unit := do
  match ← ExceptT.lift (channel.call subscriber event) with
  | .ok () => return ()
  | .error failure =>
    Attempt.complain (.eventHandlerFailed (channel.name subscriber) event.eventType) failure

def deliver (channel : Channel σ κ) (event : Event) : List (Subscription κ) → Attempt Text σ Nat
  | [] => return 0
  | subscription :: more => do
    if (channel.registry (← Attempt.read)).isRegistered subscription.handle then
      serve channel event subscription.subscriber
      return (← deliver channel event more) + 1
    else deliver channel event more

def publish (channel : Channel σ κ) (event : Event) : Attempt Text σ Nat := do
  let subscriptions := (channel.registry (← Attempt.read)).of event.eventType
  Attempt.report (.publishingEvent event.eventType subscriptions.length)
  deliver channel event subscriptions

end Asking

end Phrasebook
