/-! # Octet strings

Every wire format of the library reads and writes plain lists of octets. This
module fixes their lower-case hexadecimal text and the two-octet big-endian
number that message headers use.
-/

namespace DeviceBus

abbrev Bytes := List UInt8

namespace Bytes

/-- The lower-case hexadecimal digit of a value below sixteen. -/
def hexDigit (n : UInt8) : Char :=
  if n < 10 then Char.ofNat (48 + n.toNat) else Char.ofNat (87 + n.toNat)

/-- Two digits for every octet, the high half first. -/
def hexDigits (bs : Bytes) : List Char :=
  bs.flatMap fun (b : UInt8) => [hexDigit (b >>> 4), hexDigit (b &&& 0x0F)]

def hex (bs : Bytes) : String :=
  String.ofList bs.hexDigits

/-- The value of a hexadecimal digit in either case. -/
def hexValue? (c : Char) : Option UInt8 :=
  if '0' ≤ c ∧ c ≤ '9' then some (UInt8.ofNat (c.toNat - 48))
  else if 'a' ≤ c ∧ c ≤ 'f' then some (UInt8.ofNat (c.toNat - 87))
  else if 'A' ≤ c ∧ c ≤ 'F' then some (UInt8.ofNat (c.toNat - 55))
  else none

/-- Reads pairs of digits; the octets read so far come reversed in `seen`. -/
def ofHexDigits? (seen : Bytes) : List Char → Option Bytes
  | [] => some seen.reverse
  | [_] => none
  | hi :: lo :: rest => do
      let h ← hexValue? hi
      let l ← hexValue? lo
      ofHexDigits? ((h <<< 4 ||| l) :: seen) rest

def ofHex? (text : String) : Option Bytes :=
  ofHexDigits? [] text.toList

/-- The two octets of a number, the more significant one first. -/
def ofUInt16 (n : UInt16) : Bytes :=
  [(n >>> 8).toUInt8, n.toUInt8]

/-- The number that two octets write, the more significant one first. -/
def toUInt16 (hi lo : UInt8) : UInt16 :=
  hi.toUInt16 <<< 8 ||| lo.toUInt16

end Bytes

end DeviceBus
