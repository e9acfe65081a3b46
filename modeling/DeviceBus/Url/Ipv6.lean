import DeviceBus.Url.Ipv4

/-! # Addresses of 128 bits

An address has eight pieces with colons between them, the last two of which may
be written as an address of 32 bits. One run of zero pieces may be left out
between two colons.
-/

namespace DeviceBus.Url.Ipv6

/-- A piece of at most four hexadecimal digits. -/
def piece? (cs : List Char) : Option Nat :=
  if cs.isEmpty || 4 < cs.length then none else Text.basedFrom? 16 0 cs

/-- The pieces of the last part of an address. -/
def lastPieces? (cs : List Char) : Option (List Nat) :=
  if cs.contains '.' then
    (Ipv4.strict? cs).map fun n => [n / 0x10000, n % 0x10000]
  else (piece? cs).map ([·])

/-- Pieces with colons between them, if there are any, where `ends` says whether
the address ends with them. -/
def pieces? (ends : Bool) (cs : List Char) : Option (List Nat) :=
  if cs.isEmpty then some []
  else do
    let parts := cs.splitOn ':'
    let first ← parts.dropLast.mapM piece?
    let last := parts.getLastD []
    let last ← if ends then lastPieces? last else (piece? last).map ([·])
    some (first ++ last)

/-- The characters before and after the first two colons. -/
def cutGap? : List Char → Option (List Char × List Char)
  | ':' :: ':' :: rest => some ([], rest)
  | c :: rest => (cutGap? rest).map fun (before, after) => (c :: before, after)
  | [] => none

def address? (cs : List Char) : Option (List Nat) :=
  match cutGap? cs with
  | none => (pieces? true cs).filter fun pieces => pieces.length = 8
  | some (before, after) => do
      let before ← pieces? false before
      let after ← pieces? true after
      let known := before.length + after.length
      if known ≤ 7 then some (before ++ List.replicate (8 - known) 0 ++ after) else none

/-- The start and the length of the longest run of zeros; of two the first one.
`at` is the position of the first piece. -/
def longestRun (start : Nat) : List Nat → Nat × Nat
  | [] => (start, 0)
  | p :: ps =>
      let here := ((p :: ps).takeWhile (· == 0)).length
      let later := longestRun (start + 1) ps
      if later.2 ≤ here then (start, here) else later

def joined (pieces : List Nat) : List Char :=
  [':'].intercalate (pieces.map (Nat.toDigits 16))

/-- The longest run of two zero pieces or more is left out. -/
def text (pieces : List Nat) : String :=
  let (start, count) := longestRun 0 pieces
  String.ofList
    (if count < 2 then joined pieces
    else joined (pieces.take start) ++ ':' :: ':' :: joined (pieces.drop (start + count)))

end DeviceBus.Url.Ipv6
