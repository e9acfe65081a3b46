import DeviceBus.Broker
import DeviceBus.Facade

/-! # Facades at work on one broker

Each facade has a connection of its own. Subscribing, unsubscribing and closing
are calls that take several steps; the steps of different calls may come in any
order. The backend of a facade carries a request out on the facade's connection
or fails it, and which of the two is part of the step. A run is thus a list of
steps, and every order of the steps of any number of calls is one.
-/

namespace DeviceBus

/-- Where the messages of a route go: to one subscription of one facade. -/
structure Tap (H : Type) where
  facade : Nat
  ticket : Nat
  handler : H

inductive Answer where
  | carried
  | failed (reason : String)
  deriving DecidableEq

/-- How far a subscribe call has come since it claimed its pair. -/
inductive Stage where
  | reserved
  | asked
  | granted (handle : Nat)
  | refused (error : BackendError)
  /-- The reservation is gone, and the handle has to be given back. -/
  | surplus (handle : Nat)
  deriving DecidableEq

/-- A call that has begun and has not returned. -/
inductive Call (H : Type) where
  | subscribing (client topic : String) (ticket : Nat) (handler : H) (stage : Stage)
  /-- The pair is out of the registry; its handle is still to be given back. -/
  | releasing (subscription : Subscription H)
  /-- The backend has answered; the handler is still to be cancelled. -/
  | cancelling (subscription : Subscription H) (released : Except BackendError Unit)
  /-- All pairs are out and cancelled; the connection is still to be closed. -/
  | closing

structure Pending (H : Type) where
  number : Nat
  facade : Nat
  call : Call H

structure Hub (H : Type) where
  broker : Broker (Tap H) := {}
  /-- The facade at a position uses the connection at that position. -/
  facades : List (Facade H) := []
  calls : List (Pending H) := []
  nextCall : Nat := 0

/-- What a step lets its surroundings know. -/
inductive Report (H : Type) where
  | handled (facade ticket : Nat) (handler : H) (message : Envelope)
  | cancelled (facade ticket : Nat) (handler : H)
  | returned (call : Nat) (result : Except FacadeError Unit)

inductive Step (H : Type) where
  | subscribe (facade : Nat) (client topic : String) (handler : H)
  | unsubscribe (facade : Nat) (client topic : String)
  | close (facade : Nat)
  | publish (facade : Nat) (channel : String) (message : Envelope) (answer : Answer)
  /-- A call goes on to its next stage. -/
  | proceed (call : Nat) (answer : Answer)
  /-- Octets come straight to the broker. -/
  | route (subject : String) (data : Bytes)
  | dispatch (route : Nat)

namespace Hub

variable {H : Type}

def join (h : Hub H) (group : Option String) : Hub H :=
  { h with broker := h.broker.connect.2, facades := h.facades ++ [Facade.opened group] }

def facade (h : Hub H) (i : Nat) : Facade H :=
  h.facades.getD i {}

def setFacade (h : Hub H) (i : Nat) (f : Facade H) : Hub H :=
  { h with facades := h.facades.set i f }

def call? (h : Hub H) (number : Nat) : Option (Pending H) :=
  h.calls.find? fun c => c.number = number

/-- Notes a new call under the next number. -/
def begin (h : Hub H) (i : Nat) (call : Call H) : Hub H :=
  { h with
    calls := h.calls ++ [{ number := h.nextCall, facade := i, call }]
    nextCall := h.nextCall + 1 }

/-- A call that returns as soon as it is made. -/
def immediate (h : Hub H) (result : Except FacadeError Unit) : Hub H × List (Report H) :=
  ({ h with nextCall := h.nextCall + 1 }, [.returned h.nextCall result])

def setCall (h : Hub H) (number : Nat) (call : Call H) : Hub H :=
  { h with calls := h.calls.map fun c => if c.number = number then { c with call } else c }

def finish (h : Hub H) (number : Nat) (result : Except FacadeError Unit) :
    Hub H × List (Report H) :=
  ({ h with calls := h.calls.filter fun c => c.number ≠ number }, [.returned number result])

/-! ## Beginning a call -/

def beginSubscribe (h : Hub H) (i : Nat) (client topic : String) (handler : H) :
    Hub H × List (Report H) :=
  match (h.facade i).reserve client topic handler with
  | .error e => h.immediate (.error e)
  | .ok (ticket, f) =>
      ((h.setFacade i f).begin i (.subscribing client topic ticket handler .reserved), [])

def beginUnsubscribe (h : Hub H) (i : Nat) (client topic : String) : Hub H × List (Report H) :=
  match (h.facade i).remove client topic with
  | .error e => h.immediate (.error e)
  | .ok (s, f) => ((h.setFacade i f).begin i (.releasing s), [])

/-- Takes all pairs out and cancels their handlers, whatever these answer. -/
def beginClose (h : Hub H) (i : Nat) : Hub H × List (Report H) :=
  let (subs, f) := (h.facade i).drain
  ((h.setFacade i f).begin i .closing, subs.map fun s => .cancelled i s.ticket s.handler)

def publish (h : Hub H) (i : Nat) (channel : String) (message : Envelope) (answer : Answer) :
    Hub H × List (Report H) :=
  match Facade.subjectOf channel message with
  | .error e => h.immediate (.error e)
  | .ok subject =>
      match answer with
      | .failed reason => h.immediate (.error (.backend (.publish subject reason)))
      | .carried =>
          match h.broker.publish i subject message.toBytes with
          | .error e => h.immediate (.error (.backend e))
          | .ok broker => { h with broker }.immediate (.ok ())

/-! ## Going on with a call -/

def release (h : Hub H) (i handle : Nat) : Answer → Except BackendError Unit × Hub H
  | .failed reason => (.error (.unsubscribe reason), h)
  | .carried =>
      match h.broker.unsubscribe i handle with
      | .error e => (.error e, h)
      | .ok broker => (.ok (), { h with broker })

def grant (h : Hub H) (i : Nat) (topic : String) (ticket : Nat) (handler : H) :
    Answer → Stage × Hub H
  | .failed reason => (.refused (.subscribe topic reason), h)
  | .carried =>
      let tap : Tap H := { facade := i, ticket, handler }
      match h.broker.subscribe i topic (h.facade i).group tap with
      | .error e => (.refused e, h)
      | .ok (handle, broker) => (.granted handle, { h with broker })

def backendResult : Except BackendError Unit → Except FacadeError Unit
  | .ok () => .ok ()
  | .error e => .error (.backend e)

/-- What an unsubscribe call returns: the backend's error goes before the
handler's. -/
def cancelResult : Except BackendError Unit → Except HandlerError Unit → Except FacadeError Unit
  | .error e, _ => .error (.backend e)
  | .ok (), .error e => .error (.handler e)
  | .ok (), .ok () => .ok ()

def proceedSubscribe (h : Hub H) (number i : Nat) (client topic : String) (ticket : Nat)
    (handler : H) (stage : Stage) (answer : Answer) : Hub H × List (Report H) :=
  match stage with
  | .reserved => (h.setCall number (.subscribing client topic ticket handler .asked), [])
  | .asked =>
      let (stage, h) := h.grant i topic ticket handler answer
      (h.setCall number (.subscribing client topic ticket handler stage), [])
  | .refused e =>
      (h.setFacade i ((h.facade i).discard client topic ticket)).finish number
        (.error (.backend e))
  | .granted handle =>
      match (h.facade i).attach client topic ticket handle with
      | (true, f) => (h.setFacade i f).finish number (.ok ())
      | (false, f) =>
          ((h.setFacade i f).setCall number
            (.subscribing client topic ticket handler (.surplus handle)), [])
  | .surplus handle =>
      let (released, h) := h.release i handle answer
      h.finish number (backendResult released)

def proceed [Handler H] (h : Hub H) (number : Nat) (answer : Answer) : Hub H × List (Report H) :=
  match h.call? number with
  | none => (h, [])
  | some p =>
      let i := p.facade
      match p.call with
      | .subscribing client topic ticket handler stage =>
          h.proceedSubscribe number i client topic ticket handler stage answer
      | .releasing s =>
          match s.handle with
          | none => (h.setCall number (.cancelling s (.ok ())), [])
          | some handle =>
              let (released, h) := h.release i handle answer
              (h.setCall number (.cancelling s released), [])
      | .cancelling s released =>
          let (h, reports) := h.finish number (cancelResult released (Handler.onCancel s.handler))
          (h, .cancelled i s.ticket s.handler :: reports)
      | .closing => { h with broker := h.broker.close i }.finish number (.ok ())

/-! ## Dispatch -/

/-- Hands a message to its handler. An error that the handler answers with is dropped. -/
def handed [Handler H] (tap : Tap H) (message : Envelope) : Report H :=
  match Handler.onMessage tap.handler message with
  | .ok () => .handled tap.facade tap.ticket tap.handler message
  | .error _ => .handled tap.facade tap.ticket tap.handler message

def dispatch [Handler H] (h : Hub H) (route : Nat) : Hub H × List (Report H) :=
  match h.broker.takeFrom? route with
  | none => (h, [])
  | some (tap, data, broker) =>
      let h := { h with broker }
      match (h.facade tap.facade).receive? tap.ticket data with
      | none => (h, [])
      | some message => (h, [handed tap message])

def step [Handler H] (h : Hub H) : Step H → Hub H × List (Report H)
  | .subscribe i client topic handler => h.beginSubscribe i client topic handler
  | .unsubscribe i client topic => h.beginUnsubscribe i client topic
  | .close i => h.beginClose i
  | .publish i channel message answer => h.publish i channel message answer
  | .proceed number answer => h.proceed number answer
  | .route subject data => ({ h with broker := (h.broker.route subject data).2 }, [])
  | .dispatch route => h.dispatch route

def run [Handler H] (h : Hub H) : List (Step H) → Hub H × List (Report H)
  | [] => (h, [])
  | s :: rest =>
      let (h, first) := h.step s
      let (h, others) := h.run rest
      (h, first ++ others)

end Hub

end DeviceBus
