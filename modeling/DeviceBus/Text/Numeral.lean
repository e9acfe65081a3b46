import DeviceBus.Binary64
import DeviceBus.Bytes

/-! # Numerals in text -/

namespace DeviceBus.Text

/-- The number that decimal digits write, after the digits of `n`. -/
def digitsFrom (n : Nat) (digits : List Char) : Nat :=
  digits.foldl (fun n d => n * 10 + (d.toNat - '0'.toNat)) n

/-- The number that digits to a base of at most sixteen write, after the digits
of `n`. -/
def basedFrom? (base n : Nat) (digits : List Char) : Option Nat :=
  digits.foldlM (fun n c => do
    let d := (← Bytes.hexValue? c).toNat
    if d < base then some (n * base + d) else none) n

/-- Digits only, and one at least. -/
def isDigits (cs : List Char) : Bool :=
  !cs.isEmpty && cs.all Char.isDigit

/-- What follows a sign, and whether it is a minus. -/
def unsigned : List Char → Bool × List Char
  | '-' :: rest => (true, rest)
  | '+' :: rest => (false, rest)
  | cs => (false, cs)

/-- An integer, with a sign or without. -/
def int? (cs : List Char) : Option Int :=
  let (negative, digits) := unsigned cs
  if isDigits digits then
    let n := digitsFrom 0 digits
    some (if negative then -n else n)
  else none

/-- A whole number without a minus. -/
def nat? (cs : List Char) : Option Nat :=
  let (negative, digits) := unsigned cs
  if !negative && isDigits digits then some (digitsFrom 0 digits) else none

/-- An integer of 64 bits, the first of them its sign. -/
def int64? (cs : List Char) : Option Int :=
  (int? cs).filter fun n => Int64.minValue.toInt ≤ n ∧ n ≤ Int64.maxValue.toInt

def exponent? : List Char → Option Int
  | [] => some 0
  | c :: rest => if c = 'e' ∨ c = 'E' then int? rest else none

/-- A number with a point or without, and with an exponent or without. There may
be no digit before the point, or none after it. -/
def real? (cs : List Char) : Option Binary64 := do
  let (negative, cs) := unsigned cs
  let name := String.ofList (cs.map Char.toLower)
  if name = "nan" then some .nan
  else if name = "inf" ∨ name = "infinity" then some (.infinite negative)
  else
    let whole := cs.takeWhile Char.isDigit
    let rest := cs.dropWhile Char.isDigit
    let (fraction, rest) := match rest with
      | '.' :: rest => (rest.takeWhile Char.isDigit, rest.dropWhile Char.isDigit)
      | _ => ([], rest)
    if whole.isEmpty && fraction.isEmpty then none
    else
      let e ← exponent? rest
      some (.ofDecimal negative (digitsFrom (digitsFrom 0 whole) fraction) (e - fraction.length))

end DeviceBus.Text
