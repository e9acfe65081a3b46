import DeviceBus.Text.Utf8

/-! # Percent signs in URLs

An octet that may not stand for itself is written as a percent sign and two
capital hexadecimal digits.
-/

namespace DeviceBus.Url

def encodedOctet (b : UInt8) : List Char :=
  '%' :: (Bytes.hexDigits [b]).map Char.toUpper

/-- Controls, and what lies beyond ASCII. -/
def isOutside (c : Char) : Bool :=
  c < ' ' || '\x7E' < c

/-- Characters that a user name or a password cannot hold as they are. -/
def isReserved (c : Char) : Bool :=
  isOutside c || " \"#<>?`\x7b\x7d/:;=@[\\]^|".toList.contains c

/-- The octets of those characters that `special` selects, percent-encoded. -/
def encoded (special : Char → Bool) (cs : List Char) : List Char :=
  cs.flatMap fun c =>
    if special c then (Utf8.encode (String.singleton c)).flatMap encodedOctet else [c]

/-- The octet that a percent sign and two digits write. -/
def escape? (sign high low : UInt8) : Option UInt8 :=
  if sign = 0x25 then
    match Bytes.ofHexDigits? [] [Char.ofNat high.toNat, Char.ofNat low.toNat] with
    | some [b] => some b
    | _ => none
  else none

/-- Reads octets. A percent sign without two digits after it stands for
itself. -/
def decodedOctets : Bytes → Bytes
  | b :: h :: l :: rest =>
      match escape? b h l with
      | some d => d :: decodedOctets rest
      | none => b :: decodedOctets (h :: l :: rest)
  | bs => bs

end DeviceBus.Url
