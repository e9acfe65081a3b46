import DeviceBus.Envelope
import DeviceBus.Failure
import DeviceBus.Registry
import DeviceBus.Subject
import DeviceBus.Text.Quoted

/-! # The publish/subscribe facade

The facade keeps the registry and knows which tickets may still be dispatched.
Each function here is one step that nothing can interrupt: claiming a pair,
attaching a handle, taking a pair out and stopping its dispatch, taking all out.
What happens between the steps, and what the backend answers, is left to the
calls that string them together.
-/

namespace DeviceBus

/-- What the facade needs to know of a handler: how it answers. -/
class Handler (H : Type) where
  onCancel : H → Except HandlerError Unit
  onMessage : H → Envelope → Except HandlerError Unit := fun _ _ => .ok ()

structure Facade (H : Type) where
  group : Option String := none
  registry : Registry H := {}
  /-- The tickets whose messages are dispatched. -/
  active : List Nat := []

namespace Facade

variable {H : Type}

/-- A facade without subscriptions. An empty group name is no group. -/
def opened (group : Option String) : Facade H :=
  { group := group.filter fun g => g ≠ "" }

def checkNames (client topic : String) : Except FacadeError Unit :=
  if topic = "" then .error .emptyTopic
  else if client = "" then .error .emptyId
  else .ok ()

/-- The subject to publish on: both the channel that is named and the one in
the envelope have to be set. -/
def subjectOf (channel : String) (message : Envelope) : Except FacadeError String :=
  if channel = "" ∨ message.channel = "" then .error .emptyTopic
  else .ok (Subject.topicName channel message.subtopic)

/-- Claims a pair; from then on its ticket may be dispatched. -/
def reserve (f : Facade H) (client topic : String) (handler : H) :
    Except FacadeError (Nat × Facade H) :=
  match checkNames client topic with
  | .error e => .error e
  | .ok () =>
      match f.registry.reserve? topic client handler with
      | none => .error .alreadySubscribed
      | some (ticket, registry) =>
          .ok (ticket, { f with registry, active := ticket :: f.active })

def deactivate (f : Facade H) (ticket : Nat) : Facade H :=
  { f with active := f.active.filter fun t => t ≠ ticket }

/-- Stores the handle that the backend granted. The answer is false, and the
ticket is no longer dispatched, when the reservation is gone. -/
def attach (f : Facade H) (client topic : String) (ticket handle : Nat) : Bool × Facade H :=
  match f.registry.attach? topic client ticket handle with
  | some registry => (true, { f with registry })
  | none => (false, f.deactivate ticket)

def discard (f : Facade H) (client topic : String) (ticket : Nat) : Facade H :=
  { f with registry := f.registry.discard topic client ticket }

def remove (f : Facade H) (client topic : String) :
    Except FacadeError (Subscription H × Facade H) :=
  match checkNames client topic with
  | .error e => .error e
  | .ok () =>
      match f.registry.remove? topic client with
      | none => .error .notSubscribed
      | some (s, registry) => .ok (s, { f with registry }.deactivate s.ticket)

def drain (f : Facade H) : List (Subscription H) × Facade H :=
  let (subs, registry) := f.registry.drain
  (subs, subs.foldl (fun f s => f.deactivate s.ticket) { f with registry })

def isSubscribed (f : Facade H) (client topic : String) : Bool :=
  f.registry.contains topic client

def subscriptionCount (f : Facade H) : Nat :=
  f.registry.size

/-- What a ticket's handler is given for some octets off the backend: nothing
when the ticket is no longer dispatched or the octets are no envelope. -/
def receive? (f : Facade H) (ticket : Nat) (data : Bytes) : Option Envelope :=
  if ticket ∈ f.active then Envelope.ofBytes? data else none

def describe (f : Facade H) (backend : String) : String :=
  let group := match f.group with
    | some g => "Some(" ++ Text.quoted g ++ ")"
    | none => "None"
  "PubSub \x7b driver: " ++ Text.quoted backend ++ ", queue: " ++ group ++ " \x7d"

end Facade

end DeviceBus
