/-! # Letters without case -/

namespace DeviceBus.Text

/-- The lower case of a character, where that is an ASCII letter. The Kelvin sign
is the one character beyond ASCII that has such a lower case. -/
def lowerChar (c : Char) : Char :=
  if c = '\u212A' then 'k' else c.toLower

/-- Text that is equal to an ASCII text without capitals exactly if its lower
case is. -/
def lower (text : String) : String :=
  String.ofList (text.toList.map lowerChar)

end DeviceBus.Text
