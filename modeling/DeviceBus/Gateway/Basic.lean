import DeviceBus.Access
import DeviceBus.Coap.Packet
import DeviceBus.Hub.Call
import DeviceBus.Observe.Acks
import DeviceBus.Observe.Feed
import DeviceBus.Observe.Retry
import DeviceBus.Observe.Sequence
import DeviceBus.Observe.State

/-! # The CoAP gateway

The gateway serves one facade to CoAP peers. Every observation has a delivery,
which sends what its feed brings, and a confirmable message when nothing has
come for a while. All that leaves the gateway is noted in its log.
-/

namespace DeviceBus.Gateway

open Coap Observe

/-- A subscriber of the facade: the delivery behind a feed, or a listener with
a name of its own. -/
inductive Consumer where
  | listener (name : String) (onCancel : Except HandlerError Unit)
  | feed (index : Nat)

instance : Handler Consumer where
  onCancel
    | .listener _ onCancel => onCancel
    | .feed _ => .ok ()

structure Settings where
  keepAlive : Duration := Duration.ofSeconds 3600
  retry : RetryPolicy := {}
  deriving DecidableEq

structure Observation where
  client : String
  topic : String
  peer : Peer
  token : Bytes
  deriving DecidableEq

/-- What a delivery waits for. -/
inductive Phase where
  /-- A message, or the time at which to ask whether the peer is there. -/
  | watching (due : Nat)
  /-- The answer to a confirmable message, in a slot, up to a time. -/
  | confirming (packet : Packet) (slot attempt due : Nat)
  | ended

structure Delivery where
  observation : Observation
  feed : Nat
  sequence : Sequence
  state : State := .idle
  phase : Phase

inductive Output where
  | sent (peer : Peer) (packet : Packet)
  | heard (listener : String) (message : Envelope)
  | cancelled (listener : String)

end Gateway

structure Gateway where
  hub : Hub Gateway.Consumer
  authorizer : Authorizer
  settings : Gateway.Settings := {}
  /-- Milliseconds on the clock of the timers. -/
  now : Nat := 0
  nextId : UInt16
  acks : Observe.Acks := {}
  feeds : List Observe.Feed := []
  deliveries : List Gateway.Delivery := []
  log : List Gateway.Output := []
  /-- What the transport makes of a packet. -/
  transport : Peer → Coap.Packet → Except String Unit := fun _ _ => .ok ()

namespace Gateway

open Coap Observe

/-- A gateway whose facade joins a queue group, on a broker of its own. -/
def opened (group : Option String) (authorizer : Authorizer) (settings : Settings)
    (firstId : UInt16) : Gateway :=
  { hub := Hub.join {} group, authorizer, settings, nextId := firstId }

def emit (g : Gateway) (o : Output) : Gateway :=
  { g with log := g.log ++ [o] }

/-- Hands a packet to the transport, which may fail. -/
def send (g : Gateway) (peer : Peer) (packet : Packet) : Except String Unit × Gateway :=
  (g.transport peer packet, g.emit (.sent peer packet))

def drawId (g : Gateway) : UInt16 × Gateway :=
  (g.nextId, { g with nextId := g.nextId + 1 })

def facade (g : Gateway) : Facade Consumer :=
  g.hub.facade 0

def feed (g : Gateway) (index : Nat) : Feed :=
  g.feeds.getD index { sending := false, receiving := false }

def setFeed (g : Gateway) (index : Nat) (f : Feed) : Gateway :=
  { g with feeds := g.feeds.set index f }

/-! ## Consumers -/

/-- What a consumer does with a report of the hub. A feed that refuses a message
loses it. -/
def absorbOne (g : Gateway) : Report Consumer → Gateway
  | .handled _ _ (.listener name _) message => g.emit (.heard name message)
  | .handled _ _ (.feed index) message =>
      match (g.feed index).handle message with
      | .ok f => g.setFeed index f
      | .error _ => g
  | .cancelled _ _ (.listener name _) => g.emit (.cancelled name)
  | .cancelled _ _ (.feed index) => g.setFeed index (g.feed index).cancel
  | .returned _ _ => g

def absorb (g : Gateway) (reports : List (Report Consumer)) : Gateway :=
  reports.foldl absorbOne g

def perform (g : Gateway) (step : Step Consumer) : Gateway × Except FacadeError Unit :=
  let (hub, reports, result) := g.hub.perform {} step
  ({ g with hub }.absorb reports, result.getD (.ok ()))

def subscribe (g : Gateway) (client topic : String) (consumer : Consumer) :
    Gateway × Except FacadeError Unit :=
  g.perform (.subscribe 0 client topic consumer)

def unsubscribe (g : Gateway) (client topic : String) : Gateway × Except FacadeError Unit :=
  g.perform (.unsubscribe 0 client topic)

def publish (g : Gateway) (channel : String) (message : Envelope) :
    Gateway × Except FacadeError Unit :=
  g.perform (.publish 0 channel message .carried)

def close (g : Gateway) : Gateway :=
  (g.perform (.close 0)).1

def dispatch (g : Gateway) (route : Nat) : Gateway :=
  let (hub, reports) := g.hub.dispatch route
  { g with hub }.absorb reports

def pendingAcks (g : Gateway) : Nat :=
  g.acks.size

def describe (g : Gateway) : String :=
  "CoapAdapter \x7b pubsub: " ++ g.facade.describe "memory" ++ ", keep_alive: " ++
    g.settings.keepAlive.text ++ ", retry: " ++ g.settings.retry.describe ++ " \x7d"

end Gateway

end DeviceBus
