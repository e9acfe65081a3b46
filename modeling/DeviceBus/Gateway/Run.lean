import DeviceBus.Gateway.Request

/-! # Runs of the gateway

A run is any order of packets, calls of the facade, dispatched messages, actions
of deliveries and the passing of time. Calls from elsewhere subscribe listeners;
only a registration makes a feed.

A packet is handled whole, and a call of the facade is made whole. The authorizer
answers before anything else has happened, and nothing after it waits where the
facade has the memory broker, so no other task of the same thread comes in
between. Tasks of other threads can; the steps of calls that overlap are those of
`Hub.run`, and a whole call is one run of them.

One order is the calm one: whatever can go on does so before the clock moves, and
the clock stops at every timer.
-/

namespace DeviceBus.Gateway

inductive Event where
  | packet (wall : Int64) (peer : Peer) (packet : Coap.Packet)
  | publish (channel : String) (message : Envelope)
  | subscribe (client topic listener : String) (onCancel : Except HandlerError Unit)
  | unsubscribe (client topic : String)
  | close
  | route (subject : String) (data : Bytes)
  | dispatch (route : Nat)
  /-- A delivery takes its next action, if it can. -/
  | poll (delivery : Nat)
  /-- A delivery acts on its timer although its feed may have something. -/
  | alarm (delivery : Nat)
  | elapse (millis : Nat)
  /-- From now on the transport does with packets as `outcome` says. -/
  | transport (outcome : Peer → Coap.Packet → Except String Unit)

def step (g : Gateway) : Event → Gateway
  | .packet wall peer packet => g.receive wall peer packet
  | .publish channel message => (g.publish channel message).1
  | .subscribe client topic listener onCancel =>
      (g.subscribe client topic (.listener listener onCancel)).1
  | .unsubscribe client topic => (g.unsubscribe client topic).1
  | .close => g.close
  | .route subject data =>
      { g with hub := { g.hub with broker := (g.hub.broker.route subject data).2 } }
  | .dispatch route => g.dispatch route
  | .poll delivery => g.poll delivery
  | .alarm delivery => g.alarm delivery
  | .elapse millis => { g with now := g.now + millis }
  | .transport outcome => { g with transport := outcome }

def run (g : Gateway) (events : List Event) : Gateway :=
  events.foldl step g

/-! ## The calm order -/

def dispatchAll (g : Gateway) : Gateway :=
  let (hub, reports) := g.hub.dispatchAll g.hub.broker.backlog
  { g with hub }.absorb reports

/-- Lets the first delivery that can go on do so, up to `count` times. -/
def pollAll (g : Gateway) : Nat → Gateway
  | 0 => g
  | count + 1 =>
      match g.deliveries.findIdx? fun d => d.isReady g with
      | none => g
      | some index => (g.poll index).pollAll count

/-- Enough actions for all that can happen at one time: every message in the
feeds and every transmission of every delivery. -/
def enough (g : Gateway) : Nat :=
  (g.feeds.flatMap fun f => f.queue).length +
    (g.deliveries.length + 1) * (g.settings.retry.maxAttempts + 4)

/-- Lets all go on that can go on without the clock. -/
def settle (g : Gateway) : Gateway :=
  let g := g.dispatchAll
  g.pollAll g.enough

def nextDue? (g : Gateway) : Option Nat :=
  (g.deliveries.filterMap Delivery.due?).min?

/-- Moves the clock to `target`, and lets all go on at the time of each timer on
the way. -/
def advanceTo (g : Gateway) (target : Nat) : Gateway :=
  let start := g.now
  let g := g.settle
  match g.nextDue? with
  | none => { g with now := target }
  | some due =>
      if _h : start < due ∧ due ≤ target then advanceTo { g with now := due } target
      else { g with now := target }
termination_by target - g.now
decreasing_by omega

def advance (g : Gateway) (millis : Nat) : Gateway :=
  (g.advanceTo (g.now + millis)).settle

end DeviceBus.Gateway
