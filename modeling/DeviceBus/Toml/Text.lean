import DeviceBus.Text.Numeral

/-! # Characters, blanks and strings of a document

Strings stand between quotes or apostrophes, single ones on one line and triple
ones on several. Backslashes mean something between quotes only.
-/

namespace DeviceBus.Toml

/-- Characters that may stand in a comment or a string: all but the controls,
and the tab. -/
def isPlain (c : Char) : Bool :=
  c == '\t' || ' ' ≤ c && c != '\x7F'

/-- What follows the characters of `word`. -/
def strip? (word : String) (cs : List Char) : Option (List Char) :=
  if word.toList.isPrefixOf cs then some (cs.drop word.toList.length) else none

def skipSpaces (cs : List Char) : List Char :=
  cs.dropWhile fun c => c == ' ' || c == '\t'

def lineEnd? : List Char → Option (List Char)
  | '\n' :: rest => some rest
  | '\r' :: '\n' :: rest => some rest
  | _ => none

def skipComment (cs : List Char) : List Char :=
  match skipSpaces cs with
  | '#' :: rest => rest.dropWhile isPlain
  | rest => rest

/-- What follows spaces, comments and ends of lines, of which there are at most
as many as steps. -/
def skipLines : Nat → List Char → List Char
  | 0, cs => cs
  | steps + 1, cs =>
      match lineEnd? (skipComment cs) with
      | some rest => skipLines steps rest
      | none => skipComment cs

def skipBlanks (cs : List Char) : List Char :=
  skipLines cs.length cs

/-! ## Strings -/

def scalar? (digits : List Char) : Option Char := do
  let n ← Text.basedFrom? 16 0 digits
  if n.isValidChar then some (Char.ofNat n) else none

/-- The character that an escape stands for, after its backslash. -/
def escaped? : List Char → Option (Char × List Char)
  | 'b' :: rest => some ('\x08', rest)
  | 't' :: rest => some ('\t', rest)
  | 'n' :: rest => some ('\n', rest)
  | 'f' :: rest => some ('\x0C', rest)
  | 'r' :: rest => some ('\r', rest)
  | '"' :: rest => some ('"', rest)
  | '\\' :: rest => some ('\\', rest)
  | 'u' :: rest =>
      if rest.length < 4 then none else (scalar? (rest.take 4)).map (·, rest.drop 4)
  | 'U' :: rest =>
      if rest.length < 8 then none else (scalar? (rest.take 8)).map (·, rest.drop 8)
  | _ => none

/-- What follows a backslash at the end of a line: it takes all blanks after
it. -/
def joined? (cs : List Char) : Option (List Char) :=
  (lineEnd? (skipSpaces cs)).map fun rest =>
    rest.dropWhile fun c => c == ' ' || c == '\t' || c == '\n' || c == '\r'

/-- Reads a string of one line up to its mark; the characters read so far come
reversed in `seen`. -/
def readLine? (mark : Char) : Nat → List Char → List Char → Option (String × List Char)
  | 0, _, _ => none
  | _ + 1, _, [] => none
  | steps + 1, seen, c :: rest =>
      if c = mark then some (String.ofList seen.reverse, rest)
      else if c = '\\' ∧ mark = '"' then
        match escaped? rest with
        | some (c, rest) => readLine? mark steps (c :: seen) rest
        | none => none
      else if isPlain c then readLine? mark steps (c :: seen) rest
      else none

/-- Reads a string of several lines up to three of its mark. Of up to five marks
the last three end it. -/
def readLines? (mark : Char) : Nat → List Char → List Char → Option (String × List Char)
  | 0, _, _ => none
  | _ + 1, _, [] => none
  | steps + 1, seen, c :: rest =>
      if c = mark then
        let marks := ((c :: rest).takeWhile (· == mark)).take 5
        if marks.length < 3 then readLines? mark steps (c :: seen) rest
        else
          some (String.ofList (marks.drop 3 ++ seen).reverse, (c :: rest).drop marks.length)
      else if c = '\\' ∧ mark = '"' then
        match joined? rest with
        | some rest => readLines? mark steps seen rest
        | none =>
            match escaped? rest with
            | some (c, rest) => readLines? mark steps (c :: seen) rest
            | none => none
      else
        match lineEnd? (c :: rest) with
        | some rest =>
            readLines? mark steps (if c = '\n' then '\n' :: seen else '\n' :: '\r' :: seen) rest
        | none => if isPlain c then readLines? mark steps (c :: seen) rest else none

/-- Reads a string that starts with the given mark, on one line or on several.
The first end of a line in the latter is no part of it. -/
def readString? (mark : Char) (cs : List Char) : Option (String × List Char) :=
  let triple := String.ofList [mark, mark, mark]
  match strip? triple cs with
  | some rest => readLines? mark rest.length [] ((lineEnd? rest).getD rest)
  | none => readLine? mark cs.length [] (cs.drop 1)

/-! ## Keys -/

def isBare (c : Char) : Bool :=
  c.isAlphanum || c == '_' || c == '-'

def readName? (cs : List Char) : Option (String × List Char) :=
  match cs with
  | '"' :: rest => readLine? '"' cs.length [] rest
  | '\'' :: rest => readLine? '\'' cs.length [] rest
  | _ =>
      if cs.head?.any isBare then
        some (String.ofList (cs.takeWhile isBare), cs.dropWhile isBare)
      else none

/-- Reads a name and those after it that dots join to it, of which there are
fewer than steps. -/
def readNames? : Nat → List Char → Option ((List String × String) × List Char)
  | 0, _ => none
  | steps + 1, cs => do
      let (name, rest) ← readName? (skipSpaces cs)
      let rest := skipSpaces rest
      match strip? "." rest with
      | some rest =>
          let ((path, last), rest) ← readNames? steps rest
          some ((name :: path, last), rest)
      | none => some (([], name), rest)

/-- Reads a key: its last name, and the names before it. -/
def readKey? (cs : List Char) : Option ((List String × String) × List Char) :=
  readNames? (cs.length + 1) cs

end DeviceBus.Toml
