import DeviceBus.Json.Value

/-! # Reading JSON

The reader takes one value and blanks around it. Strings may hold any octets
but controls, and any escapes that have the right form.
-/

namespace DeviceBus.Json

def ascii (c : Char) : UInt8 :=
  UInt8.ofNat c.toNat

def isBlank (b : UInt8) : Bool :=
  b == ascii ' ' || b == ascii '\n' || b == ascii '\t' || b == ascii '\r'

def skipBlanks (bs : Bytes) : Bytes :=
  bs.dropWhile isBlank

/-- What follows the octets of `word`. -/
def strip? (word : String) (bs : Bytes) : Option Bytes :=
  let expected := Utf8.encode word
  if expected.isPrefixOf bs then some (bs.drop expected.length) else none

/-! ## Strings -/

/-- The octet that a letter after a backslash stands for. -/
def escaped? (letter : UInt8) : Option UInt8 :=
  if letter == ascii '"' || letter == ascii '\\' || letter == ascii '/' then some letter
  else if letter == ascii 'b' then some 0x08
  else if letter == ascii 'f' then some 0x0C
  else if letter == ascii 'n' then some 0x0A
  else if letter == ascii 'r' then some 0x0D
  else if letter == ascii 't' then some 0x09
  else none

/-- The code unit that four hexadecimal digits write. -/
def unit? (digits : Bytes) : Option UInt16 :=
  digits.foldlM (fun (n : UInt16) d => do
    let v ← Bytes.hexValue? (Char.ofNat d.toNat)
    some (n * 16 + v.toUInt16)) 0

/-- Reads up to the closing quote; the pieces read so far come reversed in
`seen`. -/
def readPieces? (seen : List Piece) : Bytes → Option (List Piece × Bytes)
  | [] => none
  | b :: rest =>
      if b = ascii '"' then some (seen.reverse, rest)
      else if b < 0x20 then none
      else if b = ascii '\\' then
        match rest with
        | [] => none
        | letter :: rest =>
            if letter = ascii 'u' then
              match rest with
              | h :: i :: j :: k :: rest =>
                  match unit? [h, i, j, k] with
                  | some n => readPieces? (.unit n :: seen) rest
                  | none => none
              | _ => none
            else
              match escaped? letter with
              | some c => readPieces? (.octet c :: seen) rest
              | none => none
      else readPieces? (.octet b :: seen) rest

/-! ## Numbers -/

def isDigit (b : UInt8) : Bool :=
  ascii '0' ≤ b && b ≤ ascii '9'

/-- The number that decimal digits write. -/
def ofDigits (digits : Bytes) : Nat :=
  digits.foldl (fun n d => n * 10 + (d - ascii '0').toNat) 0

/-- What follows one digit or more. -/
def skipDigits? (bs : Bytes) : Option Bytes :=
  if bs.head?.any isDigit then some (bs.dropWhile isDigit) else none

/-- What follows a fraction, if there is one. -/
def skipFraction? (bs : Bytes) : Option Bytes :=
  match strip? "." bs with
  | some rest => skipDigits? rest
  | none => some bs

/-- What follows an exponent, if there is one. -/
def skipExponent? (bs : Bytes) : Option Bytes :=
  match (strip? "e" bs).or (strip? "E" bs) with
  | some rest => skipDigits? (((strip? "+" rest).or (strip? "-" rest)).getD rest)
  | none => some bs

/-- Reads a number. Its first digit is a zero only if no other follows. -/
def readNumeral? (bs : Bytes) : Option (Numeral × Bytes) := do
  let negative := (strip? "-" bs).isSome
  let bs := (strip? "-" bs).getD bs
  let digits := bs.takeWhile isDigit
  if digits = [] ∨ digits.head? = some (ascii '0') ∧ digits ≠ [ascii '0'] then none
  else
    let rest := bs.dropWhile isDigit
    let after ← skipFraction? rest
    let after ← skipExponent? after
    some ({ negative, whole := ofDigits digits, integral := after.length == rest.length }, after)

/-! ## Values -/

mutual

/-- Reads a value. The steps bound how deep and how long it may be. -/
def readValue? : Nat → Bytes → Option (Value × Bytes)
  | 0, _ => none
  | steps + 1, bs =>
      match skipBlanks bs with
      | [] => none
      | b :: rest =>
          if b = ascii '"' then (readPieces? [] rest).map fun (s, rest) => (.string s, rest)
          else if b = ascii '[' then
            match strip? "]" (skipBlanks rest) with
            | some rest => some (.array [], rest)
            | none => readItems? [] steps rest
          else if b = ascii '\x7b' then
            match strip? "\x7d" (skipBlanks rest) with
            | some rest => some (.object [], rest)
            | none => readMembers? [] steps rest
          else
            match strip? "null" (b :: rest) with
            | some rest => some (.null, rest)
            | none =>
                match strip? "true" (b :: rest) with
                | some rest => some (.bool true, rest)
                | none =>
                    match strip? "false" (b :: rest) with
                    | some rest => some (.bool false, rest)
                    | none => (readNumeral? (b :: rest)).map fun (n, rest) => (.number n, rest)

/-- Reads the items of an array up to its end; those read so far come reversed
in `seen`. -/
def readItems? (seen : List Value) : Nat → Bytes → Option (Value × Bytes)
  | 0, _ => none
  | steps + 1, bs =>
      match readValue? steps bs with
      | none => none
      | some (v, rest) =>
          let rest := skipBlanks rest
          match strip? "," rest with
          | some rest => readItems? (v :: seen) steps rest
          | none => (strip? "]" rest).map (Value.array (v :: seen).reverse, ·)

/-- Reads the members of an object up to its end; those read so far come
reversed in `seen`. -/
def readMembers? (seen : List (List Piece × Value)) : Nat → Bytes → Option (Value × Bytes)
  | 0, _ => none
  | steps + 1, bs =>
      match (strip? "\"" (skipBlanks bs)).bind (readPieces? []) with
      | none => none
      | some (name, rest) =>
          match (strip? ":" (skipBlanks rest)).bind (readValue? steps) with
          | none => none
          | some (v, rest) =>
              let rest := skipBlanks rest
              match strip? "," rest with
              | some rest => readMembers? ((name, v) :: seen) steps rest
              | none => (strip? "\x7d" rest).map (Value.object ((name, v) :: seen).reverse, ·)

end

/-- Reads a value and nothing after it. Every step that is no array or object
takes an octet, and so does every second step. -/
def Value.ofBytes? (bs : Bytes) : Option Value := do
  let (v, rest) ← readValue? (2 * bs.length + 1) bs
  if skipBlanks rest = [] then some v else none

end DeviceBus.Json
