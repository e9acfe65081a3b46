/-! # Numbers of double precision

A finite number is a mantissa below `2 ^ 53` times a power of two, with the
least exponent -1074. Decimal texts are read to the nearest number, and of two
to the one with an even mantissa. A number is written with the fewest digits
that read back as it.
-/

namespace DeviceBus

inductive Binary64 where
  | nan
  | infinite (negative : Bool)
  | finite (negative : Bool) (mantissa : Nat) (exponent : Int)
  deriving DecidableEq

namespace Binary64

/-- The first mantissa that is too great, `2 ^ 53`. -/
def carry : Nat := 0x20000000000000

/-- The least exponent. -/
def leastExponent : Int := -1074

def greatestExponent : Int := 971

/-- The fraction `n / d` divided by `2 ^ e`. -/
def shifted (n d : Nat) (e : Int) : Nat × Nat :=
  (n * Nat.pow 2 (-e).toNat, d * Nat.pow 2 e.toNat)

/-- The integer nearest to `n / d`, and of two the even one. -/
def nearestEven (n d : Nat) : Nat :=
  let q := n / d
  let r := n % d
  if d < 2 * r ∨ 2 * r = d ∧ q % 2 = 1 then q + 1 else q

/-- The number nearest to the fraction `n / d`. -/
def ofFraction (negative : Bool) (n d : Nat) : Binary64 :=
  if n = 0 then .finite negative 0 leastExponent
  else
    let least : Int := n.log2 - d.log2 - 53
    let (a, b) := shifted n d least
    let e := max (if a < b * carry then least else least + 1) leastExponent
    let (a, b) := shifted n d e
    let m := nearestEven a b
    let (m, e) := if m = carry then (carry / 2, e + 1) else (m, e)
    if greatestExponent < e then .infinite negative else .finite negative m e

/-- The number nearest to `digits * 10 ^ e`. -/
def ofDecimal (negative : Bool) (digits : Nat) (e : Int) : Binary64 :=
  let size : Int := (Nat.toDigits 10 digits).length + e
  if digits = 0 ∨ size < -330 then .finite negative 0 leastExponent
  else if 310 < size then .infinite negative
  else ofFraction negative (digits * Nat.pow 10 e.toNat) (Nat.pow 10 (-e).toNat)

/-- The nearest whole number, where a half goes away from zero. It is brought
into the range of `bound` numbers from zero on. -/
def wholeBelow (bound : Nat) : Binary64 → Nat
  | .nan | .infinite true | .finite true _ _ => 0
  | .infinite false => bound - 1
  | .finite false m e =>
      let (n, d) := shifted m 1 (-e)
      min ((2 * n + d) / (2 * d)) (bound - 1)

/-! ## Writing -/

/-- A decimal number with the grid `10 ^ p` that reads back as
`mantissa * 2 ^ e`, if there is one: the nearest, and of two the greater. Lengths
are in quarters of `2 ^ e`. -/
def onGrid? (mantissa : Nat) (e p : Int) : Option Nat :=
  let unit := Nat.pow 2 (e - 2).toNat * Nat.pow 10 (-p).toNat
  let cell := Nat.pow 2 (2 - e).toNat * Nat.pow 10 p.toNat
  let down := if 2 * mantissa = carry ∧ leastExponent < e then 1 else 2
  let value := 4 * mantissa * unit
  let low := (4 * mantissa - down) * unit
  let high := (4 * mantissa + 2) * unit
  let inside (t : Nat) : Bool :=
    if mantissa % 2 = 0 then low ≤ t * cell && t * cell ≤ high
    else low < t * cell && t * cell < high
  let t := value / cell
  let below := inside t
  let above := inside (t + 1)
  if above && (!below || (t + 1) * cell - value ≤ value - t * cell) then some (t + 1)
  else if below then some t
  else none

/-- The first grid, from `10 ^ p` down, that has a decimal number for
`mantissa * 2 ^ e`. -/
def firstGrid (mantissa : Nat) (e : Int) : Nat → Int → Nat × Int
  | 0, p => (0, p)
  | count + 1, p =>
      match onGrid? mantissa e p with
      | some t => (t, p)
      | none => firstGrid mantissa e count (p - 1)

/-- The fewest digits, and the power of ten that they count. No number needs
more than seventeen, and the first grid is at most three powers too wide. -/
def shortest (mantissa : Nat) (e : Int) : Nat × Int :=
  firstGrid mantissa e 22 ((mantissa.log2 + e) * 30103 / 100000 + 2)

/-- The digits of `t * 10 ^ p` without an exponent. -/
def positional (t : Nat) (p : Int) : List Char :=
  let digits := Nat.toDigits 10 t
  if 0 ≤ p then digits ++ List.replicate p.toNat '0'
  else
    let places := (-p).toNat
    let digits := List.replicate (places + 1 - digits.length) '0' ++ digits
    digits.take (digits.length - places) ++ '.' :: digits.drop (digits.length - places)

def text : Binary64 → String
  | .nan => "NaN"
  | .infinite negative => if negative then "-inf" else "inf"
  | .finite negative m e =>
      let digits := if m = 0 then ['0'] else let (t, p) := shortest m e; positional t p
      String.ofList (if negative then '-' :: digits else digits)

end Binary64

end DeviceBus
