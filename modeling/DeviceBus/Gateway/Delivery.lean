import DeviceBus.Gateway.Basic

/-! # Deliveries

A delivery watches its feed. Each message goes out as a notification that needs
no answer. When the feed has been silent for the keep-alive interval, a
confirmable notification without payload goes out and is sent again, with ever
longer waits, until an answer comes or no transmission is left; meanwhile the
feed is not watched. Whether the transport fails makes no difference to it. A
delivery ends when its feed does, when the peer rejects the confirmable message
or when no answer came; in the latter two cases it removes its subscription,
which it names by client and topic.
-/

namespace DeviceBus.Gateway

open Coap Observe

namespace Delivery

/-- Whether the delivery can go on without the clock. -/
def isReady (d : Delivery) (g : Gateway) : Bool :=
  match d.phase with
  | .watching due =>
      let f := g.feed d.feed
      !f.queue.isEmpty || !f.sending || due ≤ g.now
  | .confirming _ slot _ due => g.acks.slot slot ≠ .waiting || due ≤ g.now
  | .ended => false

def due? (d : Delivery) : Option Nat :=
  match d.phase with
  | .watching due => some due
  | .confirming _ _ _ due => some due
  | .ended => none

end Delivery

def setDelivery (g : Gateway) (index : Nat) (d : Delivery) : Gateway :=
  { g with deliveries := g.deliveries.set index d }

def notification (g : Gateway) (d : Delivery) (kind : Kind) (payload : Bytes) :
    Packet × Delivery × Gateway :=
  let (messageId, g) := g.drawId
  let (value, sequence) := d.sequence.next g.now
  let packet : Packet :=
    { kind, code := Code.content, messageId, token := d.observation.token, payload }
  (packet.setObserve value, { d with sequence }, g)

def watch (g : Gateway) (index : Nat) (d : Delivery) : Gateway :=
  g.setDelivery index { d with phase := .watching (g.settings.keepAlive.due g.now) }

/-- The delivery is over, and its feed with it. -/
def finish (g : Gateway) (index : Nat) (d : Delivery) : Gateway :=
  (g.setDelivery index { d with phase := .ended }).setFeed d.feed (g.feed d.feed).dropReceiver

/-- Goes on after an exchange: back to the feed, or to the end if the peer is
gone. -/
def conclude (g : Gateway) (index : Nat) (d : Delivery) : Gateway :=
  if d.state.isTerminal then
    (g.unsubscribe d.observation.client d.observation.topic).1.finish index d
  else g.watch index d

/-- Sends the confirmable message of an exchange, or gives the exchange up when
no transmission is left. -/
def transmit (g : Gateway) (index : Nat) (d : Delivery) (packet : Packet)
    (slot attempt : Nat) : Gateway :=
  let peer := d.observation.peer
  if attempt < g.settings.retry.maxAttempts then
    (g.send peer packet).2.setDelivery index
      { d with
        state := d.state.on .confirmableSent
        phase := .confirming packet slot attempt ((g.settings.retry.delay attempt).due g.now) }
  else
    { g with acks := (g.acks.forget peer packet.messageId).drop slot }.conclude index
      { d with state := d.state.on .retriesExhausted }

def keepAlive (g : Gateway) (index : Nat) (d : Delivery) : Gateway :=
  let (packet, d, g) := g.notification d .confirmable []
  let (slot, acks) := g.acks.register d.observation.peer packet.messageId
  { g with acks }.transmit index d packet slot 0

def notify (g : Gateway) (index : Nat) (d : Delivery) (message : Envelope) : Gateway :=
  let (packet, d, g) := g.notification d .nonConfirmable message.payload
  (g.send d.observation.peer packet).2.watch index
    { d with state := d.state.on .nonConfirmableSent }

/-- The next action of a delivery, if it can go on. -/
def poll (g : Gateway) (index : Nat) : Gateway :=
  match g.deliveries[index]? with
  | none => g
  | some d =>
      match d.phase with
      | .ended => g
      | .watching due =>
          match (g.feed d.feed).take with
          | (.message m, f) => (g.setFeed d.feed f).notify index d m
          | (.empty, _) => if due ≤ g.now then g.keepAlive index d else g
          | _ => g.finish index { d with state := d.state.on .cancel }
      | .confirming packet slot attempt due =>
          let late : Delivery := { d with state := d.state.on .ackTimedOut }
          match g.acks.poll slot with
          | (.answered kind, acks) =>
              let event := match kind with
                | .ack => Event.ackReceived
                | .reset => Event.resetReceived
              { g with acks := acks.drop slot }.conclude index { d with state := d.state.on event }
          | (.waiting, _) =>
              if due ≤ g.now then g.transmit index late packet slot (attempt + 1) else g
          | _ => g.transmit index late packet slot (attempt + 1)

/-- The timer of a delivery that watches its feed may go before what the feed
has. -/
def alarm (g : Gateway) (index : Nat) : Gateway :=
  match g.deliveries[index]? with
  | none => g
  | some d =>
      match d.phase with
      | .watching due => if due ≤ g.now then g.keepAlive index d else g
      | _ => g

/-- Begins the delivery of an observation whose feed is new. -/
def spawn (g : Gateway) (observation : Observation) (feed : Nat) (sequence : Sequence) : Gateway :=
  let d : Delivery :=
    { observation, feed, sequence, phase := .watching (g.settings.keepAlive.due g.now) }
  { g with deliveries := g.deliveries ++ [d] }

end DeviceBus.Gateway
