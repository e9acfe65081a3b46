import DeviceBus.Registry

/-! # Runs of the registry

A run is any order of requests, and each request is told what the operation answers.
-/

namespace DeviceBus.Registry

variable {H S : Type}

inductive Request (H : Type) where
  | reserve (topic client : String) (handler : H)
  | attach (topic client : String) (ticket handle : Nat)
  | discard (topic client : String) (ticket : Nat)
  | remove (topic client : String)
  | drain

inductive Reply (H : Type) where
  | reserved (ticket : Option Nat)
  | attached (stored : Bool)
  | discarded
  | removed (subscription : Option (Subscription H))
  | drained (subscriptions : List (Subscription H))

def serve (r : Registry H) : Request H → Reply H × Registry H
  | .reserve topic client handler =>
      match r.reserve? topic client handler with
      | some (ticket, r) => (.reserved (some ticket), r)
      | none => (.reserved none, r)
  | .attach topic client ticket handle =>
      match r.attach? topic client ticket handle with
      | some r => (.attached true, r)
      | none => (.attached false, r)
  | .discard topic client ticket => (.discarded, r.discard topic client ticket)
  | .remove topic client =>
      match r.remove? topic client with
      | some (s, r) => (.removed (some s), r)
      | none => (.removed none, r)
  | .drain => (.drained r.drain.1, r.drain.2)

/-- Serves requests one after the other and lists the replies. -/
def serveAll (serve : S → Request H → Reply H × S) (s : S) : List (Request H) → List (Reply H) × S
  | [] => ([], s)
  | request :: rest =>
      let (reply, s) := serve s request
      let (replies, s) := serveAll serve s rest
      (reply :: replies, s)

/-- The tickets that were handed out, in the order of the replies. -/
def tickets (replies : List (Reply H)) : List Nat :=
  replies.filterMap fun reply =>
    match reply with
    | .reserved ticket => ticket
    | _ => none

end DeviceBus.Registry
