import DeviceBus.Toml.Moment
import DeviceBus.Toml.Text
import DeviceBus.Toml.Value

/-! # Numbers, truth values and moments

Underscores may stand between the digits of a number. Integers have 64 bits, and
may be written to the bases sixteen, eight and two.
-/

namespace DeviceBus.Toml

/-- The digits of a number without the underscores between them. -/
def grouped? (isDigit : Char → Bool) (cs : List Char) : Option (List Char) :=
  let groups := cs.splitOn '_'
  if groups.all fun g => !g.isEmpty && g.all isDigit then some groups.flatten else none

/-- The digits of a number to the base ten, of which only the last may be a zero
in first place. -/
def decimal? (cs : List Char) : Option (List Char) :=
  (grouped? Char.isDigit cs).filter fun digits => digits.head? ≠ some '0' ∨ digits.length = 1

def based? (base : Nat) (cs : List Char) : Option Int :=
  (grouped? (fun c => (Bytes.hexValue? c).isSome) cs).bind fun digits =>
    (Text.basedFrom? base 0 digits).map Int.ofNat

def integer? (cs : List Char) : Option Int := do
  let n ← match cs with
    | '0' :: 'x' :: rest => based? 16 rest
    | '0' :: 'o' :: rest => based? 8 rest
    | '0' :: 'b' :: rest => based? 2 rest
    | _ => do
        let (negative, digits) := Text.unsigned cs
        let n := Text.digitsFrom 0 (← decimal? digits)
        some (if negative then -n else n)
  if Int64.minValue.toInt ≤ n ∧ n ≤ Int64.maxValue.toInt then some n else none

/-- The fraction and the exponent of a number, without underscores. -/
def tail? (cs : List Char) : Option (List Char) := do
  let point := match cs with
    | '.' :: rest => some (rest.takeWhile fun c => c != 'e' && c != 'E')
    | _ => none
  let rest := cs.dropWhile fun c => c != 'e' && c != 'E'
  let fraction ← match point with
    | some digits => (grouped? Char.isDigit digits).map ('.' :: ·)
    | none => if rest.length = cs.length then some [] else none
  let exponent ← match rest with
    | [] => some []
    | _ :: rest => do
        let (negative, digits) := Text.unsigned rest
        let digits ← grouped? Char.isDigit digits
        some ('e' :: (if negative then '-' :: digits else digits))
  if fraction.isEmpty && exponent.isEmpty then none else some (fraction ++ exponent)

def real? (cs : List Char) : Option Binary64 := do
  let (negative, rest) := Text.unsigned cs
  if rest = ['i', 'n', 'f'] then some (.infinite negative)
  else if rest = ['n', 'a', 'n'] then some .nan
  else
    let isTail (c : Char) : Bool := c == '.' || c == 'e' || c == 'E'
    let whole ← decimal? (rest.takeWhile fun c => !isTail c)
    let tail ← tail? (rest.dropWhile fun c => !isTail c)
    let x ← Text.real? (if negative then '-' :: whole ++ tail else whole ++ tail)
    match x with
    | .infinite _ => none
    | x => some x

def isScalarChar (c : Char) : Bool :=
  c.isAlphanum || c == '_' || c == '+' || c == '-' || c == '.' || c == ':'

/-- The characters of a scalar. A date may be followed by a space and a time. -/
def scalarChars (cs : List Char) : List Char :=
  let word := cs.takeWhile isScalarChar
  match cs.drop word.length with
  | ' ' :: rest =>
      if word.length = 10 ∧ (Moment.date? word).isSome ∧ rest.head?.any Char.isDigit then
        word ++ ' ' :: rest.takeWhile isScalarChar
      else word
  | _ => word

def scalarOf? (word : List Char) : Option Value :=
  if word = "true".toList then some (.bool true)
  else if word = "false".toList then some (.bool false)
  else
    ((integer? word).map Value.int).or
      (((real? word).map Value.real).or ((Moment.written? word).map Value.text))

def readScalar? (cs : List Char) : Option (Value × List Char) :=
  let word := scalarChars cs
  (scalarOf? word).map (·, cs.drop word.length)

end DeviceBus.Toml
