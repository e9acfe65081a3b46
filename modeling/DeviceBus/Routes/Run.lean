import DeviceBus.Routes

/-! # Runs of route maps

A map is opened on one tree of a store, and all maps of that tree share what it
holds. A run is any order of calls on maps, with what each of them is answered.
Others may write to a tree as well, and nothing says that they write records.
-/

namespace DeviceBus.Routes

variable {M : Type}

inductive Call (M : Type) where
  | save (map : M) (key value : String) (now : Int64)
  | remove (map : M) (key : String)
  | get (map : M) (key : String)
  | record (map : M) (key : String)
  | size (map : M)
  /-- Octets that come to the tree of the map from elsewhere. -/
  | put (map : M) (key : String) (written : Bytes)

def Call.map : Call M → M
  | .save map _ _ _ | .remove map _ | .get map _ | .record map _ | .size map | .put map _ _ => map

inductive Answer where
  | done
  | value (found : Except RouteError (Option String))
  | record (found : Except RouteError (Option RouteRecord))
  | size (n : Nat)

/-- Serves a call; `tree` says which tree each map was opened on. -/
def serve (tree : M → String) (r : Routes) : Call M → Answer × Routes
  | .save map key value now => (.done, r.save (tree map) key value now)
  | .remove map key => (.done, r.remove (tree map) key)
  | .get map key => (.value (r.value (tree map) key), r)
  | .record map key => (.record (r.record (tree map) key), r)
  | .size map => (.size (r.size (tree map)), r)
  | .put map key written => (.done, r.put (tree map) key written)

/-- Serves calls one after the other and lists the answers. -/
def serveAll (tree : M → String) (r : Routes) : List (Call M) → List Answer × Routes
  | [] => ([], r)
  | call :: rest =>
      let (answer, r) := serve tree r call
      let (answers, r) := serveAll tree r rest
      (answer :: answers, r)

end DeviceBus.Routes
