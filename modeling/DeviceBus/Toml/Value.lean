import DeviceBus.Binary64

/-! # Trees of values

A document is a table of named values, which may be tables themselves. A table
remembers how it came about, because that decides what may still be added to it.
-/

namespace DeviceBus.Toml

/-- How a table came about. -/
inductive Origin where
  /-- Written as one value, to which nothing is added. -/
  | closed
  /-- On the way to the table of a header. -/
  | implied
  | header
  /-- On the way of a dotted key. -/
  | dotted
  deriving DecidableEq

inductive Value where
  | bool (b : Bool)
  | int (n : Int)
  | real (x : Binary64)
  | text (s : String)
  /-- Items; those of a list of headers may become more. -/
  | list (growing : Bool) (items : List Value)
  | table (origin : Origin) (members : List (String × Value))

abbrev Members := List (String × Value)

namespace Members

/-- Replaces the value of a name, or adds the name at the end. -/
def set (ms : Members) (name : String) (v : Value) : Members :=
  if (ms.lookup name).isSome then ms.map fun m => if m.1 = name then (name, v) else m
  else ms ++ [(name, v)]

/-- Adds a name that is new. -/
def add? (ms : Members) (name : String) (v : Value) : Option Members :=
  if (ms.lookup name).isSome then none else some (ms ++ [(name, v)])

/-- Changes the table at the end of a path, where `dotted` says whether the path
belongs to a key. Tables on the way that do not exist come to be; values, closed
tables and, for keys, tables with a header are no way. -/
def within? (dotted : Bool) : List String → (Origin → Members → Option Value) → Origin →
    Members → Option Value
  | [], change, origin, ms => change origin ms
  | name :: path, change, origin, ms => do
      let inner ← match ms.lookup name with
        | none => within? dotted path change (if dotted then .dotted else .implied) []
        | some (.table inner members) =>
            if inner = .closed ∨ dotted ∧ inner = .header then none
            else within? dotted path change inner members
        | some (.list true items) => do
            let .table inner members ← items.getLast? | none
            let last ← within? dotted path change inner members
            some (.list true (items.dropLast ++ [last]))
        | some _ => none
      some (.table origin (set ms name inner))

def of? : Value → Option Members
  | .table _ ms => some ms
  | _ => none

/-- Gives a key its value. The key is new, and so is its table, or it came about
by dotted keys. -/
def assign? (ms : Members) (path : List String) (name : String) (v : Value) : Option Members := do
  let change (origin : Origin) (ms : Members) : Option Value :=
    if path ≠ [] ∧ origin ≠ .dotted then none
    else (add? ms name v).map (Value.table origin)
  of? (← within? true path change .header ms)

/-- Opens the table of a header, which may so far only be implied. -/
def openTable? (ms : Members) (path : List String) (name : String) : Option Members := do
  let change (origin : Origin) (ms : Members) : Option Value :=
    match ms.lookup name with
    | none => some (.table origin (ms ++ [(name, .table .header [])]))
    | some (.table .implied inner) => some (.table origin (set ms name (.table .header inner)))
    | some _ => none
  of? (← within? false path change .header ms)

/-- Adds an empty table to the list of a header. -/
def openItem? (ms : Members) (path : List String) (name : String) : Option Members := do
  let item : Value := .table .header []
  let change (origin : Origin) (ms : Members) : Option Value :=
    match ms.lookup name with
    | none => some (.table origin (ms ++ [(name, .list true [item])]))
    | some (.list true items) => some (.table origin (set ms name (.list true (items ++ [item]))))
    | some _ => none
  of? (← within? false path change .header ms)

/-- Puts a value at the end of a path, in place of all that is in the way. -/
def put : List String → String → Value → Members → Members
  | [], name, v, ms => set ms name v
  | step :: path, name, v, ms =>
      let inner := match ms.lookup step with
        | some (.table _ inner) => inner
        | _ => []
      set ms step (.table .header (put path name v inner))

end Members

end DeviceBus.Toml
