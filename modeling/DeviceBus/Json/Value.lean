import DeviceBus.Text.Utf8

/-! # JSON values

A string is kept as it is written, so that only the strings that somebody asks
for need to be text. Of a number its integer part is kept, and whether there is
more to it.
-/

namespace DeviceBus.Json

/-- A part of a written string: an octet of it, or a code unit given by
number. -/
inductive Piece where
  | octet (b : UInt8)
  | unit (n : UInt16)
  deriving DecidableEq

structure Numeral where
  negative : Bool
  whole : Nat
  /-- Written without fraction and exponent. -/
  integral : Bool
  deriving DecidableEq

inductive Value where
  | null
  | bool (b : Bool)
  | number (n : Numeral)
  | string (pieces : List Piece)
  | array (items : List Value)
  | object (members : List (List Piece × Value))

def isHighSurrogate (n : UInt16) : Bool :=
  0xD800 ≤ n && n < 0xDC00

def isLowSurrogate (n : UInt16) : Bool :=
  0xDC00 ≤ n && n < 0xE000

/-- The scalar value that a pair of surrogates stands for. -/
def ofSurrogates (high low : UInt16) : Char :=
  Char.ofNat (0x10000 + (high.toNat - 0xD800) * 0x400 + (low.toNat - 0xDC00))

/-- The octets of a string. Surrogates must come in pairs. -/
def octets? : List Piece → Option Bytes
  | [] => some []
  | .octet b :: rest => (octets? rest).map (b :: ·)
  | .unit n :: rest =>
      if isHighSurrogate n then
        match rest with
        | .unit m :: rest =>
            if isLowSurrogate m then
              (octets? rest).map (Utf8.encode (String.singleton (ofSurrogates n m)) ++ ·)
            else none
        | _ => none
      else if isLowSurrogate n then none
      else (octets? rest).map (Utf8.encode (String.singleton (Char.ofNat n.toNat)) ++ ·)

def text? (pieces : List Piece) : Option String :=
  (octets? pieces).bind Utf8.decode?

namespace Value

def text? : Value → Option String
  | .string pieces => Json.text? pieces
  | _ => none

/-- An integer without fraction and exponent. Minus zero is none. -/
def int? : Value → Option Int
  | .number n =>
      if !n.integral || n.negative && n.whole == 0 then none
      else some (if n.negative then -n.whole else n.whole)
  | _ => none

/-- An integer from zero up to, but without, `bound`. -/
def below? (bound : Nat) (v : Value) : Option Nat := do
  let n ← v.int?
  if 0 ≤ n ∧ n < bound then some n.toNat else none

/-- An integer of 64 bits, the first of them its sign. -/
def int64? (v : Value) : Option Int64 := do
  let n ← v.int?
  if Int64.minValue.toInt ≤ n ∧ n ≤ Int64.maxValue.toInt then some (Int64.ofInt n) else none

def texts? : Value → Option (List String)
  | .array items => items.mapM text?
  | _ => none

/-- A value in the place of which null may stand. -/
def optional? {A : Type} (read : Value → Option A) : Option Value → Option (Option A)
  | none | some .null => some none
  | some v => (read v).map some

/-- Members with their names as text; every name has to be one. -/
def named? (members : List (List Piece × Value)) : Option (List (String × Value)) :=
  members.mapM fun (name, v) => (Json.text? name).map (·, v)

/-- The value of a member, of which there must not be two. -/
def single? (members : List (String × Value)) (name : String) : Option (Option Value) :=
  match members.filter fun m => m.1 == name with
  | [] => some none
  | [(_, v)] => some (some v)
  | _ => none

/-- The members of an object that have the given names, in that order. -/
def members? (names : List String) : Value → Option (List (Option Value))
  | .object members => (named? members).bind fun members => names.mapM (single? members)
  | _ => none

/-- The fields of a record: the members of these names, or the items of an array
that has one for each of them. -/
def fields? (names : List String) : Value → Option (List (Option Value))
  | .array items => if items.length = names.length then some (items.map some) else none
  | v => v.members? names

end Value

end DeviceBus.Json
