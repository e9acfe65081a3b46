import DeviceBus.Envelope
import DeviceBus.Failure

/-! # The way from a handler to its delivery

Messages queue up in a feed until the delivery takes them. The handler ends the
feed when it is cancelled, the delivery when it is over; a message that is
handed over after either is refused.
-/

namespace DeviceBus.Observe

structure Feed where
  queue : List Envelope := []
  /-- The handler has not been cancelled. -/
  sending : Bool := true
  /-- The delivery still takes messages. -/
  receiving : Bool := true

inductive Taken where
  | message (m : Envelope)
  | empty
  /-- The feed is empty and the handler has been cancelled. -/
  | ended
  | dropped

namespace Feed

def handle (f : Feed) (m : Envelope) : Except HandlerError Feed :=
  if f.sending && f.receiving then .ok { f with queue := f.queue ++ [m] } else .error .closed

def cancel (f : Feed) : Feed :=
  { f with sending := false }

def dropReceiver (f : Feed) : Feed :=
  { f with queue := [], receiving := false }

def take (f : Feed) : Taken × Feed :=
  if f.receiving then
    match f.queue with
    | m :: rest => (.message m, { f with queue := rest })
    | [] => (if f.sending then .empty else .ended, f)
  else (.dropped, f)

end Feed

end DeviceBus.Observe
