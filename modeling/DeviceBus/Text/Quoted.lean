import DeviceBus.Bytes
import DeviceBus.Text.Hidden

/-! # Quoted text

Text between double quotes, with a backslash before quotes, backslashes and the
letters of the common controls. Characters that do not show on their own are
given by their code point in hexadecimal.
-/

namespace DeviceBus.Text

/-- A number in lower-case hexadecimal without leading zeros. -/
def hexNumber (n : Nat) : List Char :=
  Nat.toDigits 16 n

def quotedChar (c : Char) : List Char :=
  if c = '\x00' then ['\\', '0']
  else if c = '\t' then ['\\', 't']
  else if c = '\r' then ['\\', 'r']
  else if c = '\n' then ['\\', 'n']
  else if c = '"' ∨ c = '\\' then ['\\', c]
  else if isHidden c then ['\\', 'u', '\x7b'] ++ hexNumber c.toNat ++ ['\x7d']
  else [c]

def quoted (text : String) : String :=
  String.ofList ('"' :: text.toList.flatMap quotedChar ++ ['"'])

end DeviceBus.Text
