import DeviceBus.Text.Blank
import DeviceBus.Toml.Text

/-! # Files of variables

A file may add variables to the environment, one on a line. Values can be
quoted, with single quotes as they are and with double quotes for escapes and
substitutions, and may then go on over several lines. The file is read up to the
first line that is wrong, and never changes a variable that is there.
-/

namespace DeviceBus.Settings.Variables

/-- Variables with their values; the first one of a name counts. -/
abbrev Environment := List (String × String)

/-! ## Lines -/

/-- Where in a line a reader is. -/
inductive Place where
  | word
  | blank
  | comment
  | escape
  | single
  | singleEscape
  | double
  | doubleEscape
  deriving DecidableEq

/-- The place after a character outside of quotes. -/
def Place.outside (c : Char) : Place :=
  if c = '\\' then .escape
  else if c = '"' then .double
  else if c = '\'' then .single
  else .word

def Place.after (c : Char) : Place → Place
  | .word => if Text.isBlank c && c != '\n' && c != '\r' then .blank else .outside c
  | .blank => if c = '#' then .comment else .outside c
  | .comment => .comment
  | .escape => .word
  | .single => if c = '\\' then .singleEscape else if c = '\'' then .word else .single
  | .singleEscape => .single
  | .double => if c = '\\' then .doubleEscape else if c = '"' then .word else .double
  | .doubleEscape => .double

/-- The place at the end of a line, and the characters before its comment. -/
def scan (place : Place) : List Char → Place × List Char
  | [] => (place, [])
  | c :: cs =>
      let next := place.after c
      if next = .comment then (.comment, [])
      else
        let (last, kept) := scan next cs
        (last, c :: kept)

/-- The characters up to each end of a line, with it. -/
def physicalLines (seen : List Char) : List Char → List (List Char)
  | [] => if seen.isEmpty then [] else [seen.reverse]
  | c :: cs =>
      if c = '\n' then (c :: seen).reverse :: physicalLines [] cs
      else physicalLines (c :: seen) cs

/-- Joins the lines over which quotes go on. Quotes that are not closed are no
line. -/
def joinedLines (before : List Char) (place : Place) :
    List (List Char) → List (Option (List Char))
  | [] => if before.isEmpty then [] else [none]
  | line :: lines =>
      if ((before ++ line).dropWhile Text.isBlank).head? = some '#' then
        some [] :: joinedLines [] .word lines
      else
        match scan place line with
        | (.word, kept) | (.comment, kept) => some (before ++ kept) :: joinedLines [] .word lines
        | (place, kept) => joinedLines (before ++ kept) place lines

/-! ## Values -/

/-- What a reader of values has in hand. -/
structure Draft where
  /-- The value so far, its last character first. -/
  value : List Char := []
  single : Bool := false
  double : Bool := false
  escaped : Bool := false
  /-- Only a comment may follow. -/
  ended : Bool := false
  /-- The name of a variable so far, and whether it stands in braces. -/
  variableName : Option (Bool × List Char) := none

def lookup (environment file : Environment) (name : List Char) : List Char :=
  let name := String.ofList name
  (((environment.lookup name).or (file.lookup name)).getD "").toList

/-- Puts the value of the variable at hand in its place. -/
def Draft.substitute (d : Draft) (environment file : Environment) : Draft :=
  match d.variableName with
  | some (_, name) =>
      let value := lookup environment file name.reverse
      { d with value := value.reverse ++ d.value, variableName := none }
  | none => d

def Draft.push (d : Draft) (c : Char) : Draft :=
  { d with value := c :: d.value }

/-- Letters and digits. Beyond ASCII every character that is no blank counts. -/
def isNameChar (c : Char) : Bool :=
  c.isAlphanum || '\x7F' < c && !Text.isBlank c

def Draft.take? (environment file : Environment) (d : Draft) (c : Char) : Option Draft :=
  if d.ended then if c = ' ' ∨ c = '\t' then some d else none
  else if d.escaped then
    let d := { d with escaped := false }
    if c = 'n' then some (d.push '\n')
    else if c = '\\' ∨ c = '\'' ∨ c = '"' ∨ c = '$' ∨ c = ' ' then some (d.push c)
    else none
  else if d.single then some (if c = '\'' then { d with single := false } else d.push c)
  else
    match d.variableName with
    | some (true, name) =>
        some (if c = '\x7d' then d.substitute environment file
          else { d with variableName := some (true, c :: name) })
    | some (false, name) =>
        some (if isNameChar c then { d with variableName := some (false, c :: name) }
          else if c = '\x7b' ∧ name = [] then { d with variableName := some (true, []) }
          else if c = '$' then
            { d.substitute environment file with variableName := some (false, []) }
          else (d.substitute environment file).push c)
    | none =>
        some (if c = '$' then { d with variableName := some (false, []) }
          else if c = '\\' then { d with escaped := true }
          else if c = '"' then { d with double := !d.double }
          else if d.double then d.push c
          else if c = '\'' then { d with single := true }
          else if c = ' ' ∨ c = '\t' then { d with ended := true }
          else d.push c)

/-- Reads a value up to a comment after blanks. -/
def readValue? (environment file : Environment) (d : Draft) : List Char → Option String
  | [] =>
      let open? := d.single || d.double || d.variableName.any Prod.fst
      if open? then none else some (String.ofList (d.substitute environment file).value.reverse)
  | c :: cs =>
      if d.ended ∧ c = '#' then some (String.ofList d.value.reverse)
      else
        match d.take? environment file c with
        | some d => readValue? environment file d cs
        | none => none

/-! ## Files -/

def skipBlanks (cs : List Char) : List Char :=
  cs.dropWhile Text.isBlank

def readName? (cs : List Char) : Option (String × List Char) :=
  let isNamePart (c : Char) : Bool := c.isAlphanum || c == '_' || c == '.'
  if cs.head?.any fun c => c.isAlpha || c == '_' then
    some (String.ofList (cs.takeWhile isNamePart), skipBlanks (cs.dropWhile isNamePart))
  else none

/-- The name of a variable, and what follows the equals sign after it. The word
`export` may stand in front. -/
def readAssigned? (cs : List Char) : Option (String × List Char) := do
  let (name, rest) ← readName? cs
  match Toml.strip? "=" rest with
  | some rest => some (name, skipBlanks rest)
  | none =>
      if name = "export" then
        let (name, rest) ← readName? rest
        some (name, skipBlanks (← Toml.strip? "=" rest))
      else none

/-- The variable that a line sets, if it sets one; the outer answer is missing if
the line is wrong. -/
def readLine? (environment file : Environment) (line : List Char) :
    Option (Option (String × String)) :=
  match Text.trim line with
  | [] | '#' :: _ => some none
  | cs => do
      let (name, rest) ← readAssigned? cs
      let value ← if rest.isEmpty || rest.head? == some '#' then some ""
        else readValue? environment file {} rest
      some (some (name, value))

/-- Adds the variables of lines to an environment, up to the first line that is
wrong. -/
def addLines (environment file : Environment) : List (Option (List Char)) → Environment
  | [] | none :: _ => environment
  | some line :: lines =>
      match readLine? environment file line with
      | none => environment
      | some none => addLines environment file lines
      | some (some (name, value)) =>
          let known := (environment.lookup name).isSome
          addLines (if known then environment else environment ++ [(name, value)])
            ((name, value) :: file) lines

def add (environment : Environment) (text : String) : Environment :=
  let cs := (Toml.strip? "\uFEFF" text.toList).getD text.toList
  addLines environment [] (joinedLines [] .word (physicalLines [] cs))

end DeviceBus.Settings.Variables
