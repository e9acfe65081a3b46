import DeviceBus.Registry.Topic

/-! # The subscription registry

Subscriptions by topic and client. Subscribing takes two steps, so that the
backend can be asked in between: `reserve?` claims the pair and draws a ticket,
then `attach?` stores the backend's handle or `discard` gives the pair up. Both
act only while the pair still carries that ticket. A topic without clients is
dropped.
-/

namespace DeviceBus

structure Registry (H : Type) where
  topics : Table String (Topic H) := {}
  nextTicket : Nat := 0

namespace Registry

variable {H : Type}

def get? (r : Registry H) (topic client : String) : Option (Subscription H) :=
  (r.topics.get? topic).bind fun t => t.subscribers.get? client

/-- Claims the pair and draws the next ticket, unless the pair is taken. -/
def reserve? (r : Registry H) (topic client : String) (handler : H) : Option (Nat × Registry H) :=
  let t := (r.topics.get? topic).getD { name := topic }
  match t.subscribe? client { ticket := r.nextTicket, handler } with
  | none => none
  | some t =>
      some (r.nextTicket, { topics := r.topics.insert topic t, nextTicket := r.nextTicket + 1 })

/-- Stores the handle of a reservation, unless the reservation is gone. -/
def attach? (r : Registry H) (topic client : String) (ticket handle : Nat) : Option (Registry H) :=
  match r.topics.get? topic with
  | none => none
  | some t =>
      match t.subscribers.get? client with
      | none => none
      | some s =>
          if s.ticket = ticket then
            let t := { t with
              subscribers := t.subscribers.insert client { s with handle := some handle } }
            some { r with topics := r.topics.insert topic t }
          else none

/-- Takes the pair out, and the topic too when no client is left on it. -/
def remove? (r : Registry H) (topic client : String) : Option (Subscription H × Registry H) :=
  match r.topics.get? topic with
  | none => none
  | some t =>
      match t.subscribers.get? client with
      | none => none
      | some s =>
          let t := t.unsubscribe client
          let topics := if t.isEmpty then r.topics.erase topic else r.topics.insert topic t
          some (s, { r with topics })

/-- Gives a reservation up, unless it is gone already. -/
def discard (r : Registry H) (topic client : String) (ticket : Nat) : Registry H :=
  match r.get? topic client with
  | some s =>
      if s.ticket = ticket then ((r.remove? topic client).map Prod.snd).getD r else r
  | none => r

def contains (r : Registry H) (topic client : String) : Bool :=
  (r.get? topic client).isSome

def containsTopic (r : Registry H) (topic : String) : Bool :=
  r.topics.contains topic

def subscriptions (r : Registry H) : List (Subscription H) :=
  r.topics.values.flatMap fun t => t.subscribers.values

def size (r : Registry H) : Nat :=
  (r.topics.values.flatMap fun t => t.subscribers.entries).length

def isEmpty (r : Registry H) : Bool :=
  r.topics.isEmpty

/-- Takes every subscription out; the ticket counter goes on. -/
def drain (r : Registry H) : List (Subscription H) × Registry H :=
  (r.subscriptions, { r with topics := {} })

end Registry

end DeviceBus
