import DeviceBus.Toml.Scalar

/-! # Documents

A document is a series of lines. A header opens a table, or adds one to a list,
and a key gives a value to a name in the table that was opened last.
-/

namespace DeviceBus.Toml

mutual

/-- Reads a value. The steps bound how deep and how long it may be. -/
def readValue? : Nat → List Char → Option (Value × List Char)
  | 0, _ => none
  | steps + 1, cs =>
      match cs with
      | '"' :: _ => (readString? '"' cs).map fun (s, rest) => (.text s, rest)
      | '\'' :: _ => (readString? '\'' cs).map fun (s, rest) => (.text s, rest)
      | '[' :: rest => readItems? [] steps rest
      | '\x7b' :: rest =>
          match strip? "\x7d" (skipSpaces rest) with
          | some rest => some (.table .closed [], rest)
          | none => readMembers? [] steps rest
      | _ => readScalar? cs

/-- Reads the items of a list up to its end, with a comma after the last one or
without; those read so far come reversed in `seen`. -/
def readItems? (seen : List Value) : Nat → List Char → Option (Value × List Char)
  | 0, _ => none
  | steps + 1, cs =>
      let cs := skipBlanks cs
      match strip? "]" cs with
      | some rest => some (.list false seen.reverse, rest)
      | none =>
          match readValue? steps cs with
          | none => none
          | some (v, rest) =>
              let rest := skipBlanks rest
              match strip? "," rest with
              | some rest => readItems? (v :: seen) steps rest
              | none => (strip? "]" rest).map (Value.list false (v :: seen).reverse, ·)

/-- Reads the members of a table that is written as one value. -/
def readMembers? (seen : Members) : Nat → List Char → Option (Value × List Char)
  | 0, _ => none
  | steps + 1, cs =>
      match readKey? cs with
      | none => none
      | some ((path, name), rest) =>
          match (strip? "=" rest).bind fun rest => readValue? steps (skipSpaces rest) with
          | none => none
          | some (v, rest) =>
              match Members.assign? seen path name v with
              | none => none
              | some seen =>
                  let rest := skipSpaces rest
                  match strip? "," rest with
                  | some rest => readMembers? seen steps rest
                  | none => (strip? "\x7d" rest).map (Value.table .closed seen, ·)

end

/-- What has been read: all members, and the path of the table that was opened
last. -/
structure Draft where
  members : Members := []
  opened : List String := []

namespace Draft

/-- Gives a key its value, in the table that was opened last. -/
def assign? (d : Draft) (path : List String) (name : String) (v : Value) : Option Draft := do
  let change (origin : Origin) (ms : Members) : Option Value :=
    (Members.assign? ms path name v).map (Value.table origin)
  let members ← Members.of? (← Members.within? false d.opened change .header d.members)
  some { d with members }

/-- Reads a header, a key with its value, or nothing. -/
def readLine? (d : Draft) (cs : List Char) : Option (Draft × List Char) :=
  match strip? "[[" cs, strip? "[" cs with
  | some rest, _ => do
      let ((path, name), rest) ← readKey? rest
      let members ← d.members.openItem? path name
      some ({ members, opened := path ++ [name] }, ← strip? "]]" rest)
  | none, some rest => do
      let ((path, name), rest) ← readKey? rest
      let members ← d.members.openTable? path name
      some ({ members, opened := path ++ [name] }, ← strip? "]" rest)
  | none, none => do
      let ((path, name), rest) ← readKey? cs
      let rest := skipSpaces (← strip? "=" rest)
      let (v, rest) ← readValue? (2 * rest.length + 1) rest
      some (← d.assign? path name v, rest)

/-- Reads lines up to the end of a document, of which there are fewer than
steps. -/
def readLines? : Nat → Draft → List Char → Option Draft
  | 0, _, _ => none
  | steps + 1, d, cs =>
      match skipBlanks cs with
      | [] => some d
      | cs => do
          let (d, rest) ← d.readLine? cs
          let rest := skipComment rest
          match lineEnd? rest with
          | some rest => readLines? steps d rest
          | none => if rest.isEmpty then some d else none

end Draft

/-- Reads a document; a byte order mark in front of it is no part of it. -/
def document? (text : String) : Option Members :=
  let cs := (strip? "\uFEFF" text.toList).getD text.toList
  (Draft.readLines? (cs.length + 1) {} cs).map Draft.members

end DeviceBus.Toml
