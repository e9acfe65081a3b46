import DeviceBus.Broker

/-! # Runs of the broker

A run is any order of calls of connections, messages from elsewhere and
dispatches. Its journal notes which routes were opened, which messages came and
what was handed over.
-/

namespace DeviceBus.Broker

variable {T : Type}

inductive Act (T : Type) where
  | connect
  | subscribe (connection : Nat) (pattern : String) (group : Option String) (tap : T)
  | unsubscribe (connection handle : Nat)
  | publish (connection : Nat) (subject : String) (data : Bytes)
  | route (subject : String) (data : Bytes)
  | close (connection : Nat)
  | dispatch (route : Nat)

/-- A message, with the broker as it was when the message came. -/
structure Posting (T : Type) where
  number : Nat
  broker : Broker T
  subject : String
  data : Bytes

structure Handover (T : Type) where
  route : Nat
  tap : T
  data : Bytes

structure Journal (T : Type) where
  broker : Broker T := {}
  opened : List (Route T) := []
  postings : List (Posting T) := []
  handovers : List (Handover T) := []

/-- What was answered to whoever sent the message. -/
def Posting.answer (m : Posting T) : Nat :=
  (m.broker.route m.subject m.data).1

namespace Journal

/-- Notes a message that leaves the broker in the state given. -/
def posted (j : Journal T) (subject : String) (data : Bytes) (broker : Broker T) : Journal T :=
  { j with
    broker
    postings := j.postings ++
      [{ number := j.postings.length, broker := j.broker, subject, data }] }

def step (j : Journal T) : Act T → Journal T
  | .connect => { j with broker := j.broker.connect.2 }
  | .subscribe connection pattern group tap =>
      match j.broker.subscribe connection pattern group tap with
      | .error _ => j
      | .ok (id, broker) =>
          { j with broker, opened := j.opened ++ [{ id, connection, pattern, group, tap }] }
  | .unsubscribe connection handle =>
      match j.broker.unsubscribe connection handle with
      | .error _ => j
      | .ok broker => { j with broker }
  | .publish connection subject data =>
      match j.broker.publish connection subject data with
      | .error _ => j
      | .ok broker => j.posted subject data broker
  | .route subject data => j.posted subject data (j.broker.route subject data).2
  | .close connection => { j with broker := j.broker.close connection }
  | .dispatch route =>
      match j.broker.takeFrom? route with
      | none => j
      | some (tap, data, broker) =>
          { j with broker, handovers := j.handovers ++ [{ route, tap, data }] }

def run (j : Journal T) (acts : List (Act T)) : Journal T :=
  acts.foldl step j

end Journal

end DeviceBus.Broker
