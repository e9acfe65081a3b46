import DeviceBus.Bytes

/-! # Base64 in the alphabet of URLs

Three octets make four digits; one or two octets at the end make two or three.
There is no padding, and the bits of the last digit that belong to no octet are
zero, so that octets have one written form only.
-/

namespace DeviceBus.Base64Url

/-- The digit of a value below 64. -/
def digit (n : UInt8) : Char :=
  if n < 26 then Char.ofNat (65 + n.toNat)
  else if n < 52 then Char.ofNat (71 + n.toNat)
  else if n < 62 then Char.ofNat (n.toNat - 4)
  else if n = 62 then '-'
  else '_'

def value? (c : Char) : Option UInt8 :=
  if 'A' ≤ c ∧ c ≤ 'Z' then some (UInt8.ofNat (c.toNat - 65))
  else if 'a' ≤ c ∧ c ≤ 'z' then some (UInt8.ofNat (c.toNat - 71))
  else if '0' ≤ c ∧ c ≤ '9' then some (UInt8.ofNat (c.toNat + 4))
  else if c = '-' then some 62
  else if c = '_' then some 63
  else none

def digits : Bytes → List Char
  | [] => []
  | [a] => [digit (a >>> 2), digit ((a &&& 3) <<< 4)]
  | [a, b] => [digit (a >>> 2), digit ((a &&& 3) <<< 4 ||| b >>> 4), digit ((b &&& 15) <<< 2)]
  | a :: b :: c :: rest =>
      digit (a >>> 2) :: digit ((a &&& 3) <<< 4 ||| b >>> 4) ::
        digit ((b &&& 15) <<< 2 ||| c >>> 6) :: digit (c &&& 63) :: digits rest

def octets? : List UInt8 → Option Bytes
  | [] => some []
  | [_] => none
  | [i, j] => if j &&& 15 = 0 then some [i <<< 2 ||| j >>> 4] else none
  | [i, j, k] =>
      if k &&& 3 = 0 then some [i <<< 2 ||| j >>> 4, (j &&& 15) <<< 4 ||| k >>> 2] else none
  | i :: j :: k :: l :: rest =>
      (octets? rest).map fun bs =>
        (i <<< 2 ||| j >>> 4) :: ((j &&& 15) <<< 4 ||| k >>> 2) :: ((k &&& 3) <<< 6 ||| l) :: bs

def decode? (text : List Char) : Option Bytes :=
  (text.mapM value?).bind octets?

end DeviceBus.Base64Url
