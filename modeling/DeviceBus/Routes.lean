import DeviceBus.Json.Reader
import DeviceBus.Json.Writer
import DeviceBus.Table

/-! # Stored routes

A store holds named trees, and a tree keeps one record for each of its keys: a
value and the time at which it was saved, in milliseconds since the epoch.
Names, keys and records are kept as the octets that they are written as, so that
what comes from elsewhere is read when it is asked for.
-/

namespace DeviceBus

structure RouteRecord where
  value : String
  savedAt : Int64
  deriving DecidableEq

namespace RouteRecord

open Json

def write (r : RouteRecord) : Bytes :=
  ofMembers [("value", ofText r.value), ("saved_at", ofInt r.savedAt.toInt)]

def read? (written : Bytes) : Option RouteRecord := do
  let v ← Value.ofBytes? written
  let [some value, some savedAt] ← v.fields? ["value", "saved_at"] | none
  some { value := ← value.text?, savedAt := ← savedAt.int64? }

end RouteRecord

/-- What is stored cannot be read as a record. -/
inductive RouteError where
  | malformed
  deriving DecidableEq

structure Routes where
  trees : Table Bytes (Table Bytes Bytes) := {}

namespace Routes

/-- The tree that is used when none is named. -/
def defaultTree : String := "routes"

/-- The records of a tree; a tree that was never written to is empty. -/
def tree (r : Routes) (name : String) : Table Bytes Bytes :=
  (r.trees.get? (Utf8.encode name)).getD {}

def setTree (r : Routes) (name : String) (records : Table Bytes Bytes) : Routes :=
  ⟨r.trees.insert (Utf8.encode name) records⟩

/-- Stores a record as it is written. -/
def put (r : Routes) (name key : String) (written : Bytes) : Routes :=
  r.setTree name ((r.tree name).insert (Utf8.encode key) written)

def save (r : Routes) (name key value : String) (now : Int64) : Routes :=
  r.put name key (RouteRecord.write { value, savedAt := now })

def remove (r : Routes) (name key : String) : Routes :=
  r.setTree name ((r.tree name).erase (Utf8.encode key))

def record (r : Routes) (name key : String) : Except RouteError (Option RouteRecord) :=
  match (r.tree name).get? (Utf8.encode key) with
  | none => .ok none
  | some written =>
      match RouteRecord.read? written with
      | some record => .ok (some record)
      | none => .error .malformed

def value (r : Routes) (name key : String) : Except RouteError (Option String) :=
  (r.record name key).map fun found => found.map RouteRecord.value

def size (r : Routes) (name : String) : Nat :=
  (r.tree name).size

def describe (r : Routes) (name : String) : String :=
  "SledRouteMap \x7b db: \"sled::Db\", routes: " ++ toString (r.size name) ++ " \x7d"

end Routes

end DeviceBus
