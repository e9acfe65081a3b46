import DeviceBus.Table

/-! # Subscriptions on one topic

At most one subscription for each client. A subscription has no handle while
the backend has not granted it; its ticket tells it from a later one of the
same client.
-/

namespace DeviceBus

structure Subscription (H : Type) where
  ticket : Nat
  handle : Option Nat := none
  handler : H

namespace Subscription

variable {H : Type}

def describe (s : Subscription H) : String :=
  let handle := match s.handle with
    | some n => "Some(SubscriptionHandle(" ++ toString n ++ "))"
    | none => "None"
  "Subscription \x7b ticket: " ++ toString s.ticket ++ ", handle: " ++ handle ++ " \x7d"

end Subscription

structure Topic (H : Type) where
  name : String
  subscribers : Table String (Subscription H) := {}

namespace Topic

variable {H : Type}

/-- Adds a client; there is no answer when it is already subscribed. -/
def subscribe? (t : Topic H) (client : String) (s : Subscription H) : Option (Topic H) :=
  if t.subscribers.contains client then none
  else some { t with subscribers := t.subscribers.insert client s }

def unsubscribe (t : Topic H) (client : String) : Topic H :=
  { t with subscribers := t.subscribers.erase client }

def isEmpty (t : Topic H) : Bool :=
  t.subscribers.isEmpty

end Topic

end DeviceBus
