import Phrasebook.Dict

/-!
Registries of subscriptions. Every subscription has a handle of its own, so one subscriber may be
registered several times; a handle is good for one removal, in the registry that gave it out.
-/

set_option autoImplicit false
set_option relaxedAutoImplicit false

namespace Phrasebook

/-- The name of a subscription: the registry that gave it out, its number there, and the type of the
events it is for. -/
structure Handle where
  registry : Nat
  serial : Nat
  eventType : Text
  deriving DecidableEq, Repr

structure Subscription (κ : Type) where
  handle : Handle
  subscriber : κ

/-- The subscriptions by event type, each list in the order of subscription. -/
structure Registry (κ : Type) where
  id : Nat
  /-- The number of handles given out so far. -/
  next : Nat := 0
  subscriptions : Dict Text (List (Subscription κ)) := ∅

namespace Registry

variable {κ : Type}

def of (r : Registry κ) (eventType : Text) : List (Subscription κ) :=
  (r.subscriptions.get? eventType).getD []

def count (r : Registry κ) (eventType : Text) : Nat := (r.of eventType).length

def isRegistered (r : Registry κ) (handle : Handle) : Bool :=
  (r.of handle.eventType).any fun s => s.handle = handle

def subscribe (r : Registry κ) (eventType : Text) (subscriber : κ) : Handle × Registry κ :=
  let handle : Handle := ⟨r.id, r.next, eventType⟩
  (handle,
    { r with
      next := r.next + 1
      subscriptions := r.subscriptions.insert eventType (r.of eventType ++ [⟨handle, subscriber⟩]) })

def remove (handle : Handle) (subscriptions : List (Subscription κ)) : List (Subscription κ) :=
  subscriptions.filter fun s => s.handle ≠ handle

/-- The registry without the subscription of a handle. An event type without subscriptions is
forgotten. -/
def unsubscribe (r : Registry κ) (handle : Handle) : Registry κ :=
  match remove handle (r.of handle.eventType) with
  | [] => { r with subscriptions := r.subscriptions.erase handle.eventType }
  | kept => { r with subscriptions := r.subscriptions.insert handle.eventType kept }

def clear (r : Registry κ) : Registry κ := { r with subscriptions := ∅ }

end Registry

end Phrasebook
