import DeviceBus.Bytes

/-! # Base-128 numbers

Seven bits for each octet, the least significant first; all octets but the last
have the high bit set. A reader takes at most ten octets, and refuses numbers
of more than 64 bits.
-/

namespace DeviceBus.Varint

def write (n : Nat) : Bytes :=
  if n < 128 then [UInt8.ofNat n] else UInt8.ofNat (n % 128 + 128) :: write (n / 128)
termination_by n
decreasing_by omega

/-- Reads a number of at most `places` octets, of which the last place has room
for one bit. -/
def readPlaces? : Nat → Bytes → Option (Nat × Bytes)
  | 0, _ => none
  | _ + 1, [] => none
  | places + 1, b :: rest =>
      if b < 128 then
        if places = 0 ∧ 2 ≤ b then none else some (b.toNat, rest)
      else
        (readPlaces? places rest).map fun (n, rest) => (b.toNat - 128 + 128 * n, rest)

def read? (bs : Bytes) : Option (Nat × Bytes) :=
  readPlaces? 10 bs

theorem length_of_readPlaces? {places n : Nat} {bs rest : Bytes}
    (h : readPlaces? places bs = some (n, rest)) : rest.length < bs.length := by
  induction places generalizing bs n rest with
  | zero => simp [readPlaces?] at h
  | succ places ih =>
      cases bs with
      | nil => simp [readPlaces?] at h
      | cons b bs =>
          rw [readPlaces?] at h
          split at h
          · split at h
            · exact absurd h (by simp)
            · cases h
              simp
          · obtain ⟨⟨m, rest'⟩, hm, heq⟩ := Option.map_eq_some_iff.1 h
            cases heq
            exact Nat.lt_trans (ih hm) (by simp)

theorem length_of_read? {n : Nat} {bs rest : Bytes} (h : read? bs = some (n, rest)) :
    rest.length < bs.length :=
  length_of_readPlaces? h

end DeviceBus.Varint
