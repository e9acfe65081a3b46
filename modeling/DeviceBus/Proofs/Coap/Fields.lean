import DeviceBus.Coap.Codec

/-! # The fields of a datagram, written and read

Each field is shown to be read back from what was written, whatever follows it,
and to be written again as it was read. The second half is what makes the form
of a datagram unique: the three ranges of the variable form do not meet, and
the numbers of options never fall.
-/

namespace DeviceBus

/-! ## Numbers of two octets -/

namespace Bytes

theorem toNat_toUInt16 (hi lo : UInt8) : (toUInt16 hi lo).toNat = 256 * hi.toNat + lo.toNat := by
  have hHi := hi.toNat_lt
  have hLo := lo.toNat_lt
  simp only [toUInt16, UInt16.toNat_or, UInt16.toNat_shiftLeft, UInt8.toNat_toUInt16]
  rw [show (8 : UInt16).toNat % 16 = 8 from rfl, Nat.shiftLeft_eq, Nat.mod_eq_of_lt (by omega),
    Nat.mul_comm, ← Nat.two_pow_add_eq_or_of_lt (by omega)]

theorem toNat_highOctet (n : UInt16) : (n >>> 8).toUInt8.toNat = n.toNat / 256 := by
  have hn := n.toNat_lt
  rw [UInt16.toNat_toUInt8, UInt16.toNat_shiftRight, show (8 : UInt16).toNat % 16 = 8 from rfl,
    Nat.shiftRight_eq_div_pow]
  omega

theorem toUInt16_ofUInt16 (n : UInt16) : toUInt16 (n >>> 8).toUInt8 n.toUInt8 = n := by
  apply UInt16.toNat_inj.mp
  rw [toNat_toUInt16, toNat_highOctet, UInt16.toNat_toUInt8]
  omega

theorem ofUInt16_toUInt16 (hi lo : UInt8) : ofUInt16 (toUInt16 hi lo) = [hi, lo] := by
  have hHi := hi.toNat_lt
  have hLo := lo.toNat_lt
  have hHigh : (toUInt16 hi lo >>> 8).toUInt8 = hi := by
    apply UInt8.toNat_inj.mp
    rw [toNat_highOctet, toNat_toUInt16]
    omega
  have hLow : (toUInt16 hi lo).toUInt8 = lo := by
    apply UInt8.toNat_inj.mp
    rw [UInt16.toNat_toUInt8, toNat_toUInt16]
    omega
  rw [ofUInt16, hHigh, hLow]

end Bytes

namespace Coap

/-! ## Nibbles -/

theorem toNat_highNibble (b : UInt8) : (b >>> 4).toNat = b.toNat / 16 := by
  rw [UInt8.toNat_shiftRight, show (4 : UInt8).toNat % 8 = 4 from rfl, Nat.shiftRight_eq_div_pow]

theorem toNat_lowNibble (b : UInt8) : (b &&& 0x0F).toNat = b.toNat % 16 := by
  rw [UInt8.toNat_and, show (0x0F : UInt8).toNat = 2 ^ 4 - 1 from rfl,
    Nat.and_two_pow_sub_one_eq_mod]

theorem highNibble_lt (b : UInt8) : (b >>> 4).toNat < 16 := by
  have hb := b.toNat_lt
  rw [toNat_highNibble]
  omega

theorem lowNibble_lt (b : UInt8) : (b &&& 0x0F).toNat < 16 := by
  rw [toNat_lowNibble]
  omega

theorem toNat_joined {high low : UInt8} (hHigh : high.toNat < 16) (hLow : low.toNat < 16) :
    (high <<< 4 ||| low).toNat = 16 * high.toNat + low.toNat := by
  rw [UInt8.toNat_or, UInt8.toNat_shiftLeft, show (4 : UInt8).toNat % 8 = 4 from rfl,
    Nat.shiftLeft_eq, Nat.mod_eq_of_lt (by omega), Nat.mul_comm,
    ← Nat.two_pow_add_eq_or_of_lt (by omega)]

theorem highNibble_joined {high low : UInt8} (hHigh : high.toNat < 16) (hLow : low.toNat < 16) :
    (high <<< 4 ||| low) >>> 4 = high := by
  apply UInt8.toNat_inj.mp
  rw [toNat_highNibble, toNat_joined hHigh hLow]
  omega

theorem lowNibble_joined {high low : UInt8} (hHigh : high.toNat < 16) (hLow : low.toNat < 16) :
    (high <<< 4 ||| low) &&& 0x0F = low := by
  apply UInt8.toNat_inj.mp
  rw [toNat_lowNibble, toNat_joined hHigh hLow]
  omega

theorem joined_nibbles (b : UInt8) : (b >>> 4) <<< 4 ||| (b &&& 0x0F) = b := by
  have hb := b.toNat_lt
  apply UInt8.toNat_inj.mp
  rw [toNat_joined (highNibble_lt b) (lowNibble_lt b), toNat_highNibble, toNat_lowNibble]
  omega

/-! ## The variable form -/

namespace Extended

theorem exists_write?_iff (n : Nat) : (∃ written, write? n = some written) ↔ n ≤ maxExtended := by
  unfold write? maxExtended
  split
  · simp; omega
  · split
    · simp; omega
    · split <;> simp <;> omega

/-- No nibble of a number is fifteen, which is kept for the payload marker. -/
theorem nibble_lt {n : Nat} {nibble : UInt8} {octets : Bytes}
    (h : write? n = some (nibble, octets)) : nibble.toNat < 15 := by
  unfold write? at h
  split at h
  · cases h
    rw [UInt8.toNat_ofNat']
    omega
  · split at h
    · cases h; decide
    · split at h
      · cases h; decide
      · cases h

theorem read?_of_lt {nibble : UInt8} (h : nibble < 13) (bs : Bytes) :
    read? nibble bs = some (nibble.toNat, bs) := by
  unfold read?
  exact if_pos h

theorem read?_thirteen (b : UInt8) (rest : Bytes) :
    read? 13 (b :: rest) = some (b.toNat + 13, rest) := rfl

theorem read?_fourteen (hi lo : UInt8) (rest : Bytes) :
    read? 14 (hi :: lo :: rest) = some ((Bytes.toUInt16 hi lo).toNat + 269, rest) := rfl

theorem read?_write? {n : Nat} {nibble : UInt8} {octets : Bytes}
    (h : write? n = some (nibble, octets)) (rest : Bytes) :
    read? nibble (octets ++ rest) = some (n, rest) := by
  unfold write? at h
  split at h
  · rename_i hSmall
    cases h
    have hNibble : (UInt8.ofNat n).toNat = n := by rw [UInt8.toNat_ofNat']; omega
    have hLess : UInt8.ofNat n < 13 := by
      rw [UInt8.lt_iff_toNat_lt, hNibble]
      exact hSmall
    rw [List.nil_append, read?_of_lt hLess, hNibble]
  · rename_i hSmall
    split at h
    · rename_i hMiddle
      cases h
      have hOctet : (UInt8.ofNat (n - 13)).toNat = n - 13 := by rw [UInt8.toNat_ofNat']; omega
      rw [List.singleton_append, read?_thirteen, hOctet, Nat.sub_add_cancel (by omega)]
    · rename_i hMiddle
      split at h
      · rename_i hLarge
        cases h
        have hOctets : (UInt16.ofNat (n - 269)).toNat = n - 269 := by
          rw [UInt16.toNat_ofNat']
          unfold maxExtended at hLarge
          omega
        change read? 14 (_ :: _ :: rest) = _
        rw [read?_fourteen, Bytes.toUInt16_ofUInt16, hOctets, Nat.sub_add_cancel (by omega)]
      · cases h

/-- A number is read only in the form in which it is written. -/
theorem write?_of_read? {n : Nat} {nibble : UInt8} {bs rest : Bytes}
    (h : read? nibble bs = some (n, rest)) :
    ∃ octets, write? n = some (nibble, octets) ∧ bs = octets ++ rest := by
  unfold read? at h
  split at h
  · rename_i hSmall
    cases h
    have hLess : nibble.toNat < 13 := UInt8.lt_iff_toNat_lt.mp hSmall
    exact ⟨[], by simp [write?, hLess], rfl⟩
  · split at h
    · rename_i hMiddle
      subst hMiddle
      split at h
      · rename_i b tail
        cases h
        have hb := b.toNat_lt
        refine ⟨[b], ?_, rfl⟩
        rw [write?, if_neg (by omega), if_pos (by omega), Nat.add_sub_cancel, UInt8.ofNat_toNat]
      · cases h
    · split at h
      · rename_i hLarge
        subst hLarge
        split at h
        · rename_i hi lo tail
          cases h
          have hn := (Bytes.toUInt16 hi lo).toNat_lt
          refine ⟨[hi, lo], ?_, rfl⟩
          rw [write?, if_neg (by omega), if_neg (by omega), if_pos (by unfold maxExtended; omega),
            Nat.add_sub_cancel, UInt16.ofNat_toNat, Bytes.ofUInt16_toUInt16]
        · cases h
      · cases h

end Extended

end Coap

end DeviceBus
