import DeviceBus.Text.Numeral

/-! # Addresses of 32 bits

An address has up to four numbers with dots between them, to the base ten,
sixteen or eight. The last one fills all octets that are left.
-/

namespace DeviceBus.Url.Ipv4

/-- A number, whose first digits tell its base. -/
def number? : List Char → Option Nat
  | [] => none
  | '0' :: 'x' :: rest | '0' :: 'X' :: rest => Text.basedFrom? 16 0 rest
  | '0' :: c :: rest => Text.basedFrom? 8 0 (c :: rest)
  | cs => Text.basedFrom? 10 0 cs

/-- The parts of a name; a dot at its end starts none. -/
def parts (cs : List Char) : List (List Char) :=
  let parts := cs.splitOn '.'
  if 1 < parts.length ∧ parts.getLast? = some [] then parts.dropLast else parts

/-- Whether the last part of a name is a number, so that the name has to be an
address. -/
def endsInNumber (cs : List Char) : Bool :=
  (parts cs).getLast?.any fun last => Text.isDigits last || (number? last).isSome

def ofNumbers? : List Nat → Option Nat
  | [] => none
  | numbers =>
      let last := numbers.getLastD 0
      let first := numbers.dropLast
      let room := Nat.pow 256 (4 - first.length)
      if 4 < numbers.length ∨ room ≤ last ∨ first.any (256 ≤ ·) then none
      else some (first.foldl (fun address n => address * 256 + n) 0 * room + last)

def address? (cs : List Char) : Option Nat :=
  ((parts cs).mapM number?).bind ofNumbers?

def octets (address : Nat) : List Nat :=
  [address / 0x1000000, address / 0x10000 % 256, address / 0x100 % 256, address % 256]

def text (address : Nat) : String :=
  ".".intercalate ((octets address).map toString)

/-- Four decimal numbers without leading zeros. -/
def strict? (cs : List Char) : Option Nat :=
  let parts := cs.splitOn '.'
  if parts.length = 4 ∧ parts.all fun p =>
      Text.isDigits p && (p.length == 1 || p.head? != some '0') then
    ofNumbers? (parts.map (Text.digitsFrom 0))
  else none

end DeviceBus.Url.Ipv4
