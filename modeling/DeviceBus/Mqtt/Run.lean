import DeviceBus.Mqtt.Lanes

/-! # Runs of a connection's lanes

A run is any order of subscriptions, releases and messages. Its journal notes
who was added, who of them has not been released since, and when a filter came
into use and fell out of it.
-/

namespace DeviceBus.Mqtt

inductive Request (H : Type) where
  | add (filter : String) (handler : H)
  | release (id : Nat)
  | dispatch (lane : Nat)

/-- A subscription as it was added, with the lane that was handed out for it. -/
structure Member (H : Type) where
  id : Nat
  filter : String
  lane : Nat
  handler : H

/-- What a request was told about a filter. -/
inductive Notice where
  | first (filter : String)
  | dropped (filter : String)
  deriving DecidableEq

def Notice.filter : Notice → String
  | .first filter => filter
  | .dropped filter => filter

structure Journal (H : Type) where
  lanes : Lanes H := {}
  added : List (Member H) := []
  /-- Those who were added and have not been released. -/
  live : List (Member H) := []
  notices : List Notice := []

namespace Journal

variable {H : Type}

def step (j : Journal H) : Request H → Journal H
  | .add filter handler =>
      let (a, lanes) := j.lanes.add filter handler
      let m : Member H := { id := a.id, filter, lane := a.lane, handler }
      { lanes
        added := j.added ++ [m]
        live := j.live ++ [m]
        notices := j.notices ++ if a.first then [.first filter] else [] }
  | .release id =>
      let (r, lanes) := j.lanes.release id
      { lanes
        added := j.added
        live := j.live.filter fun m => m.id ≠ id
        notices := j.notices ++ match r with
          | .dropped filter => [.dropped filter]
          | _ => [] }
  | .dispatch lane => { j with lanes := (j.lanes.dispatch lane).2 }

def run (j : Journal H) (requests : List (Request H)) : Journal H :=
  requests.foldl step j

/-- The live members of a lane. -/
def users (j : Journal H) (lane : Nat) : List (Member H) :=
  j.live.filter fun m => m.lane = lane

/-- What requests were told about one filter. -/
def noticesOf (j : Journal H) (filter : String) : List Notice :=
  j.notices.filter fun n => n.filter = filter

end Journal

end DeviceBus.Mqtt
