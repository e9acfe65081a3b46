import DeviceBus.Text.Utf8

/-! # Writing JSON

Values are written without blanks. In strings only quotes, backslashes and
controls are escaped.
-/

namespace DeviceBus.Json

def writtenOctet (b : UInt8) : Bytes :=
  if b = 0x22 ∨ b = 0x5C then [0x5C, b]
  else if b = 0x08 then Utf8.encode "\\b"
  else if b = 0x09 then Utf8.encode "\\t"
  else if b = 0x0A then Utf8.encode "\\n"
  else if b = 0x0C then Utf8.encode "\\f"
  else if b = 0x0D then Utf8.encode "\\r"
  else if b < 0x20 then Utf8.encode ("\\u00" ++ Bytes.hex [b])
  else [b]

def ofText (text : String) : Bytes :=
  Utf8.encode "\"" ++ (Utf8.encode text).flatMap writtenOctet ++ Utf8.encode "\""

def ofInt (n : Int) : Bytes :=
  Utf8.encode (toString n)

/-- Items with commas between them. -/
def separated (items : List Bytes) : Bytes :=
  (Utf8.encode ",").intercalate items

def ofItems (items : List Bytes) : Bytes :=
  Utf8.encode "[" ++ separated items ++ Utf8.encode "]"

/-- An object with the given members, written in this order. -/
def ofMembers (members : List (String × Bytes)) : Bytes :=
  Utf8.encode "\x7b" ++
    separated (members.map fun (name, v) => ofText name ++ Utf8.encode ":" ++ v) ++
    Utf8.encode "\x7d"

end DeviceBus.Json
