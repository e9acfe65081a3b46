/-! # Spans of time

A duration counts nanoseconds up to a largest value, at which sums and products
stop. The clock of timers counts whole milliseconds.
-/

namespace DeviceBus

structure Duration where
  nanos : Nat
  deriving DecidableEq

namespace Duration

def nanosPerSecond : Nat := 1000000000
def nanosPerMilli : Nat := 1000000

/-- The largest duration: 64 bits of seconds, and one nanosecond short of one
second more. -/
def maximum : Duration := ⟨UInt64.size * nanosPerSecond - 1⟩

def ofSeconds (n : Nat) : Duration := ⟨n * nanosPerSecond⟩
def ofMillis (n : Nat) : Duration := ⟨n * nanosPerMilli⟩

def seconds (d : Duration) : Nat := d.nanos / nanosPerSecond
def subsecond (d : Duration) : Nat := d.nanos % nanosPerSecond

/-- The product, or the largest duration if that is less. -/
def scale (d : Duration) (factor : Nat) : Duration :=
  ⟨min (d.nanos * factor) maximum.nanos⟩

/-- The first second that the clock cannot reach. -/
def outOfReach : Nat := 0x8000000000000000

/-- Thirty years in milliseconds. -/
def farAway : Nat := 30 * 365 * 86400 * 1000

/-- The millisecond at which a timer goes off that is set at `now`: the first
one that is not too early. Spans that the clock cannot reach count as thirty
years. -/
def due (d : Duration) (now : Nat) : Nat :=
  if outOfReach ≤ now / 1000 + d.seconds then now + farAway
  else now + (d.nanos + nanosPerMilli - 1) / nanosPerMilli

/-- The digits of a fraction, of which `10 ^ places` make a unit, without trailing
zeros. -/
def fractionDigits : Nat → Nat → List Char
  | 0, _ => []
  | places + 1, n =>
      let unit := Nat.pow 10 places
      if n = 0 then []
      else Nat.digitChar (n / unit) :: fractionDigits places (n % unit)

/-- A number of units with a fraction in `10 ^ places` parts of a unit. -/
def decimal (nanos places : Nat) (name : String) : String :=
  let unit := Nat.pow 10 places
  let whole := nanos / unit
  let fraction := fractionDigits places (nanos % unit)
  let tail := if fraction.isEmpty then [] else '.' :: fraction
  toString whole ++ String.ofList tail ++ name

/-- The duration in the largest unit of which it holds at least one. -/
def text (d : Duration) : String :=
  if nanosPerSecond ≤ d.nanos then decimal d.nanos 9 "s"
  else if nanosPerMilli ≤ d.nanos then decimal d.nanos 6 "ms"
  else if 1000 ≤ d.nanos then decimal d.nanos 3 "µs"
  else decimal d.nanos 0 "ns"

end Duration

end DeviceBus
