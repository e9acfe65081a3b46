import DeviceBus.Url.Host

/-! # URLs

Of a URL the parts that tell whom to reach are kept: the scheme, credentials,
the host and the port. Schemes of the web have rules of their own: their URLs
have a host, backslashes are slashes, and a port that is the usual one is as
good as none.
-/

namespace DeviceBus

structure Url where
  scheme : String
  /-- Percent-encoded. -/
  username : String := ""
  password : Option String := none
  host : Option Url.Host := none
  port : Option Nat := none
  deriving DecidableEq

namespace Url

def webSchemes : List String := ["http", "https", "ws", "wss", "ftp", "file"]

def isWeb (scheme : String) : Bool :=
  webSchemes.contains scheme

def usualPort? : String → Option Nat
  | "http" | "ws" => some 80
  | "https" | "wss" => some 443
  | "ftp" => some 21
  | _ => none

/-- Characters that end the part of a URL that tells whom to reach. -/
def isEnd (web : Bool) (c : Char) : Bool :=
  c == '/' || c == '?' || c == '#' || web && c == '\\'

/-- The characters of a text but for controls and spaces around it, and for tabs
and ends of lines anywhere. -/
def significant (text : String) : List Char :=
  let isEdge (c : Char) : Bool := c ≤ ' '
  let inner := ((text.toList.dropWhile isEdge).reverse.dropWhile isEdge).reverse
  inner.filter fun c => c != '\t' && c != '\n' && c != '\r'

/-- The scheme in lower case, and what follows its colon. -/
def cutScheme? (cs : List Char) : Option (String × List Char) :=
  let isSchemeChar (c : Char) : Bool := c.isAlphanum || c == '+' || c == '-' || c == '.'
  match cs.head?.any Char.isAlpha, cs.dropWhile isSchemeChar with
  | true, ':' :: rest => some (String.ofList ((cs.takeWhile isSchemeChar).map Char.toLower), rest)
  | _, _ => none

/-- The characters before and after the last `@`. -/
def cutLastAt (cs : List Char) : Option (List Char) × List Char :=
  let after := (cs.reverse.takeWhile (· != '@')).reverse
  if after.length = cs.length then (none, cs)
  else (some (cs.take (cs.length - after.length - 1)), after)

/-- The user name and the password, if there is one. -/
def credentials (cs : List Char) : String × Option String :=
  let name := cs.takeWhile (· != ':')
  let password := cs.drop (name.length + 1)
  let written (cs : List Char) : String := String.ofList (encoded isReserved cs)
  (written name, if password.isEmpty then none else some (written password))

/-- The characters before the first colon outside brackets, and those from
there on. -/
def cutHost (inside : Bool) : List Char → List Char × List Char
  | [] => ([], [])
  | c :: cs =>
      if c = ':' ∧ !inside then ([], c :: cs)
      else
        let (host, rest) := cutHost (if c = '[' then true else if c = ']' then false else inside) cs
        (c :: host, rest)

/-- The port that is written after a host, unless it is the usual one. -/
def port? (scheme : String) : List Char → Option (Option Nat)
  | [] => some none
  | _ :: cs =>
      let digits := cs.takeWhile (· != '\\')
      let n := Text.digitsFrom 0 digits
      if !digits.all Char.isDigit || 65535 < n then none
      else some (if digits.isEmpty || some n == usualPort? scheme then none else some n)

def ofAuthority? (scheme : String) (cs : List Char) : Option Url := do
  let (info, place) := cutLastAt (cs.takeWhile fun c => !isEnd (isWeb scheme) c)
  let (username, password) := (info.map credentials).getD ("", none)
  let (name, rest) := cutHost false place
  let hostless := username == "" && password.isNone && rest.isEmpty && !isWeb scheme
  let host ← if name.isEmpty then (if hostless then some none else none)
    else (if isWeb scheme then Host.domain? name else Host.opaque? name).map some
  some { scheme, username, password, host, port := ← port? scheme rest }

/-- A letter and a colon, or a bar in its place. -/
def isDrive : List Char → Bool
  | [letter, mark] => letter.isAlpha && (mark == ':' || mark == '|')
  | _ => false

/-- Reads what follows the scheme of files. Files of this host, and files on a
drive, have no host. -/
def ofFile? (cs : List Char) : Option Url :=
  match cs with
  | a :: b :: rest =>
      let isSlash (c : Char) : Bool := c == '/' || c == '\\'
      let name := rest.takeWhile fun c => !isEnd true c
      let path := (rest.drop (name.length + 1)).takeWhile fun c => !isEnd true c
      if !isSlash a || !isSlash b || name.isEmpty || isDrive name then some { scheme := "file" }
      else
        (Host.domain? name).map fun host =>
          if host = .name "localhost" ∨ isDrive path then { scheme := "file" }
          else { scheme := "file", host := some host }
  | _ => some { scheme := "file" }

def parse? (text : String) : Option Url := do
  let (scheme, rest) ← cutScheme? (significant text)
  if scheme = "file" then ofFile? rest
  else if isWeb scheme then
    ofAuthority? scheme (rest.dropWhile fun c => c == '/' || c == '\\')
  else
    match rest with
    | '/' :: '/' :: rest => ofAuthority? scheme rest
    | _ => some { scheme }

end Url

end DeviceBus
