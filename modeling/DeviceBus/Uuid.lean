import DeviceBus.Bytes

/-! # Random identifiers

Sixteen random octets, six bits of which tell their kind, written in five groups
of hexadecimal digits.
-/

namespace DeviceBus.Uuid

/-- Marks octets as random. -/
def mark (random : Bytes) : Bytes :=
  (random.modify 6 fun b => b &&& 0x0F ||| 0x40).modify 8 fun b => b &&& 0x3F ||| 0x80

def groups : List Nat → List Char → List (List Char)
  | [], _ => []
  | size :: sizes, digits => digits.take size :: groups sizes (digits.drop size)

def text (random : Bytes) : String :=
  String.ofList (['-'].intercalate (groups [8, 4, 4, 4, 12] (mark random).hexDigits))

end DeviceBus.Uuid
