/-! # Observe values

The value of a notification is the time since the observation was registered,
in milliseconds, or one more than the value before if that is greater. Packets
carry its low 24 bits.
-/

namespace DeviceBus.Observe

structure Sequence where
  started : Nat
  last : Option Nat := none
  deriving DecidableEq

namespace Sequence

/-- The next value in full, at the time `now`. -/
def value (s : Sequence) (now : Nat) : Nat :=
  match s.last with
  | some last => max (now - s.started) (last + 1)
  | none => now - s.started

def modulus : Nat := 0x1000000

/-- The next value as packets carry it. -/
def next (s : Sequence) (now : Nat) : UInt32 × Sequence :=
  let v := s.value now
  (UInt32.ofNat (v % modulus), { s with last := some v })

end Sequence

end DeviceBus.Observe
