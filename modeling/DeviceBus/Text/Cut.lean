/-! # Cutting text at a separator -/

namespace DeviceBus.Text

/-- The characters before and after the first `sep`, if there is one. -/
def cutChars (sep : Char) : List Char → Option (List Char × List Char)
  | [] => none
  | c :: cs =>
      if c = sep then some ([], cs)
      else (cutChars sep cs).map fun (before, after) => (c :: before, after)

/-- The text before and after the first `sep`, if there is one. -/
def cut (sep : Char) (text : String) : Option (String × String) :=
  (cutChars sep text.toList).map fun (before, after) =>
    (String.ofList before, String.ofList after)

end DeviceBus.Text
