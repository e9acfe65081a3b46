import DeviceBus.Bytes
import DeviceBus.Mqtt.Filter
import DeviceBus.Table

/-! # Local handlers behind MQTT filters

All subscriptions with one filter share a lane. What comes in on a plain lane
goes to each of its handlers, what comes in on a shared lane to one in turn. A
filter whose last subscription goes loses its lane; the filter gets a new lane
when it is subscribed again, and the old lane stays as it was for those who
still hold it.
-/

namespace DeviceBus.Mqtt

structure Lane (H : Type) where
  filter : String
  shared : Bool
  /-- By ascending subscription number. -/
  handlers : Table Nat H := {}
  cursor : UInt64 := 0

namespace Lane

variable {H : Type}

def size (lane : Lane H) : Nat :=
  lane.handlers.size

/-- The handlers that are owed the next message. -/
def targets (lane : Lane H) : List H :=
  if lane.shared then
    (lane.handlers.values[lane.cursor.toNat % lane.size]?).toList
  else lane.handlers.values

/-- Gives the turn to the next handler; turns wrap around. -/
def advance (lane : Lane H) : Lane H :=
  if lane.shared && !lane.handlers.isEmpty then { lane with cursor := lane.cursor + 1 } else lane

end Lane

/-- The lanes of a connection. Lanes are known by their position among all
that were ever opened, and a released lane keeps its position. -/
structure Lanes (H : Type) where
  nextId : Nat := 0
  opened : List (Lane H) := []
  /-- The lane that a filter uses now. -/
  current : Table String Nat := {}
  /-- The filter of each subscription. -/
  owners : Table Nat String := {}

/-- What becomes of a filter when one of its subscriptions is released. -/
inductive Released where
  | unknown
  | kept
  | dropped (filter : String)
  deriving DecidableEq

structure Added where
  id : Nat
  lane : Nat
  /-- No other subscription of the connection used the filter. -/
  first : Bool

namespace Lanes

variable {H : Type}

def size (l : Lanes H) : Nat :=
  l.owners.size

def lane? (l : Lanes H) (index : Nat) : Option (Lane H) :=
  l.opened[index]?

def setLane (l : Lanes H) (index : Nat) (lane : Lane H) : Lanes H :=
  { l with opened := l.opened.set index lane }

/-- The lane that a filter uses, a new one if it uses none. -/
def laneFor (l : Lanes H) (filter : String) : Bool × Nat × Lanes H :=
  match l.current.get? filter with
  | some index => (false, index, l)
  | none =>
      let index := l.opened.length
      (true, index,
        { l with
          opened := l.opened ++ [{ filter, shared := isShared filter }]
          current := l.current.insert filter index })

def add (l : Lanes H) (filter : String) (handler : H) : Added × Lanes H :=
  let id := l.nextId
  let (first, index, l) := l.laneFor filter
  let opened := l.opened.modify index fun lane =>
    { lane with handlers := lane.handlers.insert id handler }
  ({ id, lane := index, first },
    { l with nextId := id + 1, opened, owners := l.owners.insert id filter })

def release (l : Lanes H) (id : Nat) : Released × Lanes H :=
  match l.owners.get? id with
  | none => (.unknown, l)
  | some filter =>
      let l : Lanes H := { l with owners := l.owners.erase id }
      match l.current.get? filter with
      | none => (.dropped filter, l)
      | some index =>
          let opened := l.opened.modify index fun lane =>
            { lane with handlers := lane.handlers.erase id }
          let l : Lanes H := { l with opened }
          if (opened[index]?.map Lane.size).getD 0 = 0 then
            (.dropped filter, { l with current := l.current.erase filter })
          else (.kept, l)

/-- Hands one message to a lane; the answer lists the handlers in the order in
which they are called. -/
def dispatch (l : Lanes H) (index : Nat) : List H × Lanes H :=
  match l.lane? index with
  | none => ([], l)
  | some lane => (lane.targets, l.setLane index lane.advance)

end Lanes

end DeviceBus.Mqtt
