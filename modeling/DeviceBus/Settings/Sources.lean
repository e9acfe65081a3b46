import DeviceBus.Settings.Reader
import DeviceBus.Text.Case
import DeviceBus.Text.Numeral
import DeviceBus.Toml.Document

/-! # Where settings come from

Settings are read from a document, over which variables of the environment are
laid. Both are lenient about types: numbers, truth values and texts stand for
one another where that makes sense.
-/

namespace DeviceBus.Settings

open Toml

/-! ## Lenient values -/

/-- The text of a value that has no parts. -/
def lenientText? : Toml.Value → Option String
  | .bool b => some (if b then "true" else "false")
  | .int n => some (toString n)
  | .real x => some x.text
  | .text s => some s
  | .list _ _ | .table _ _ => none

/-- The whole number that a text stands for, as a numeral or as a word. -/
def wordNumber? (s : String) : Option Nat :=
  let word := Text.lower s
  if word ∈ ["true", "on", "yes"] then some 1
  else if word ∈ ["false", "off", "no"] then some 0
  else Text.nat? s.toList

/-- The whole number that a value without parts stands for. Numbers of double
precision are brought into the range of 64 bits. -/
def wholeNumber? : Toml.Value → Option Nat
  | .bool b => some b.toNat
  | .int n => if 0 ≤ n then some n.toNat else none
  | .real x => some (x.wholeBelow UInt64.size)
  | .text s => wordNumber? s
  | .list _ _ | .table _ _ => none

/-- Overrides in a tree of values. A list stands for a record if it has enough
items. -/
def lenientReader : Reader Toml.Value where
  fields? names
    | .table _ ms => some (names.map fun name => ms.lookup name)
    | .list _ items =>
        if names.length ≤ items.length then some ((items.take names.length).map some) else none
    | _ => none
  text? := lenientText?
  below? bound v := (wholeNumber? v).filter (· < bound)

/-! ## Paths -/

/-- The path that a key with dots writes. A key that has other characters in it
than those of bare names, or nothing between dots, is one name. -/
def pathOf (key : String) : List String × String :=
  let names := key.toList.splitOn '.'
  if names.all fun n => !n.isEmpty && n.all isBare then
    let names := names.map String.ofList
    (names.dropLast, names.getLastD "")
  else ([], key)

/-- Puts a value where a key with dots says. -/
def lay (ms : Members) (key : String) (v : Toml.Value) : Members :=
  let (path, name) := pathOf key
  Members.put path name v ms

/-- The members of a document, with those whose names are paths in their
places. -/
def placed (ms : Members) : Members :=
  let (plain, paths) := ms.partition fun m => (pathOf m.1).1.isEmpty
  paths.foldl (fun ms m => lay ms m.1 m.2) plain

/-! ## The environment -/

/-- How the names of variables that hold settings start, in lower case. -/
def variableStart : String := "chanbus_"

/-- The name of a variable with a dot for every two underscores. -/
def dotted : List Char → List Char
  | '_' :: '_' :: rest => '.' :: dotted rest
  | c :: rest => c :: dotted rest
  | [] => []

/-- The key that a variable sets, if it sets one. -/
def keyOf? (name : String) : Option String :=
  (strip? variableStart (Text.lower name).toList).map fun rest => String.ofList (dotted rest)

/-- What the text of a variable stands for: a truth value or a number if it is
one. -/
def variableValue (s : String) : Toml.Value :=
  let word := Text.lower s
  if word = "true" then .bool true
  else if word = "false" then .bool false
  else
    match Text.int64? s.toList with
    | some n => .int n
    | none =>
        match Text.real? s.toList with
        | some x => .real x
        | none => .text s

def withEnvironment (ms : Members) (environment : List (String × String)) : Members :=
  environment.foldl (fun ms (name, s) =>
    match keyOf? name with
    | some key => lay ms key (variableValue s)
    | none => ms) ms

def load? (text : String) (environment : List (String × String)) : Option Settings := do
  let ms ← document? text
  let tree : Toml.Value := .table .header (withEnvironment (placed ms) environment)
  let overrides ← lenientReader.overrides? tree
  some overrides.apply

end DeviceBus.Settings
