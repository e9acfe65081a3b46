import DeviceBus.Failure
import DeviceBus.Bytes
import DeviceBus.Subject
import DeviceBus.Table

/-! # The in-process subject broker

Connections share one route table. A message goes to every plain route whose
pattern selects its subject, and for each queue group and pattern to one member
in turn. What is sent to a route waits in a mailbox until it is dispatched, also
after the route is gone. A tap says where a route's messages go in the end.
-/

namespace DeviceBus

structure Route (T : Type) where
  id : Nat
  connection : Nat
  pattern : String
  group : Option String := none
  tap : T

structure Connection where
  closed : Bool := false
  /-- The routes that this connection may take back. -/
  owned : List Nat := []

/-- Messages on their way to one route, the oldest first. -/
structure Mailbox (T : Type) where
  route : Nat
  tap : T
  waiting : List Bytes

structure Broker (T : Type) where
  nextRoute : Nat := 0
  /-- In the order in which they were opened. -/
  routes : List (Route T) := []
  /-- The turn of each queue group and pattern. -/
  cursors : Table (String × String) UInt64 := {}
  connections : List Connection := []
  /-- Mailboxes that are not empty, in the order in which they filled. -/
  mailboxes : List (Mailbox T) := []

namespace Broker

variable {T : Type}

/-- Opens a connection; connections are known by their position. -/
def connect (b : Broker T) : Nat × Broker T :=
  (b.connections.length, { b with connections := b.connections ++ [{}] })

def connection (b : Broker T) (c : Nat) : Connection :=
  b.connections.getD c { closed := true }

def setConnection (b : Broker T) (c : Nat) (conn : Connection) : Broker T :=
  { b with connections := b.connections.set c conn }

/-! ## Routing -/

def matching (b : Broker T) (subject : String) : List (Route T) :=
  b.routes.filter fun r => Subject.selects r.pattern subject

/-- The groups and patterns among some routes, each once. -/
def groupKeys (routes : List (Route T)) : List (String × String) :=
  (routes.filterMap fun r => r.group.map fun g => (g, r.pattern)).eraseDups

def members (routes : List (Route T)) (key : String × String) : List (Route T) :=
  routes.filter fun r => r.group = some key.1 && r.pattern = key.2

/-- The turn of a group: the first turn is zero, and turns wrap around. -/
def turn (b : Broker T) (key : String × String) : UInt64 :=
  (b.cursors.get? key).getD 0

def pick (b : Broker T) (routes : List (Route T)) (key : String × String) : Option (Route T) :=
  let group := members routes key
  group[(b.turn key).toNat % group.length]?

def recipients (b : Broker T) (subject : String) : List (Route T) :=
  let routes := b.matching subject
  routes.filter (fun r => r.group.isNone) ++ (groupKeys routes).filterMap (b.pick routes)

/-- Gives the turn of every group with a matching member to the next. -/
def advance (b : Broker T) (subject : String) : Broker T :=
  { b with
    cursors := (groupKeys (b.matching subject)).foldl
      (fun cursors key => cursors.insert key (b.turn key + 1)) b.cursors }

def post (mailboxes : List (Mailbox T)) (route : Route T) (data : Bytes) : List (Mailbox T) :=
  if mailboxes.any fun m => m.route = route.id then
    mailboxes.map fun m =>
      if m.route = route.id then { m with waiting := m.waiting ++ [data] } else m
  else mailboxes ++ [{ route := route.id, tap := route.tap, waiting := [data] }]

/-- Sends a message; the answer counts the routes that it was handed to. -/
def route (b : Broker T) (subject : String) (data : Bytes) : Nat × Broker T :=
  let targets := b.recipients subject
  let b := b.advance subject
  let mailboxes := targets.foldl (fun ms r => post ms r data) b.mailboxes
  (targets.length, { b with mailboxes })

/-! ## What a connection can do -/

def publish (b : Broker T) (c : Nat) (subject : String) (data : Bytes) :
    Except BackendError (Broker T) :=
  if (b.connection c).closed then .error .closed else .ok (b.route subject data).2

/-- Opens a route; the answer is its handle. -/
def subscribe (b : Broker T) (c : Nat) (pattern : String) (group : Option String) (tap : T) :
    Except BackendError (Nat × Broker T) :=
  let conn := b.connection c
  if conn.closed then .error .closed
  else
    let id := b.nextRoute
    let opened : Broker T := { b with
      nextRoute := id + 1
      routes := b.routes ++ [{ id, connection := c, pattern, group, tap }] }
    .ok (id, opened.setConnection c { conn with owned := conn.owned ++ [id] })

def dropRoute (b : Broker T) (c id : Nat) : Broker T :=
  { b with routes := b.routes.filter fun r => !(r.id = id && r.connection = c) }

/-- Takes a route back, which works only for one of the connection's own. -/
def unsubscribe (b : Broker T) (c id : Nat) : Except BackendError (Broker T) :=
  let conn := b.connection c
  if id ∈ conn.owned then
    .ok ((b.setConnection c { conn with owned := conn.owned.erase id }).dropRoute c id)
  else .error (.unknownSubscription id)

/-- Takes all routes of a connection back; a second time nothing happens. -/
def close (b : Broker T) (c : Nat) : Broker T :=
  let conn := b.connection c
  if conn.closed then b
  else conn.owned.foldl (fun b id => b.dropRoute c id) (b.setConnection c { closed := true })

/-! ## Dispatch -/

def takeFrom? (b : Broker T) (route : Nat) : Option (T × Bytes × Broker T) :=
  match b.mailboxes.find? fun m => m.route = route with
  | none => none
  | some m =>
      match m.waiting with
      | [] => none
      | data :: rest =>
          let mailboxes :=
            if rest.isEmpty then b.mailboxes.filter fun m => m.route ≠ route
            else b.mailboxes.map fun m => if m.route = route then { m with waiting := rest } else m
          some (m.tap, data, { b with mailboxes })

def nextMailbox? (b : Broker T) : Option Nat :=
  b.mailboxes.head?.map Mailbox.route

def backlog (b : Broker T) : Nat :=
  (b.mailboxes.flatMap fun m => m.waiting).length

def describe (b : Broker T) : String :=
  "MemoryBroker \x7b routes: " ++ toString b.routes.length ++ " \x7d"

def describeConnection (b : Broker T) (c : Nat) : String :=
  "MemoryDriver \x7b conn: " ++ toString c ++ ", closed: " ++
    toString (b.connection c).closed ++ " \x7d"

end Broker

end DeviceBus
