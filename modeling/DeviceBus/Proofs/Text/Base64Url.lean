import Mathlib.Data.Nat.Bitwise
import DeviceBus.Text.Base64Url

/-! # Digits and the octets they write

Every octet string is read back from its digits, and no digit is a dot. Three
octets are read through the numbers that their parts are: four digits of six
bits each.
-/

namespace DeviceBus.Base64Url

/-! ## Digits -/

theorem value?_digit_ofNat : ∀ n < 64, value? (digit (UInt8.ofNat n)) = some (UInt8.ofNat n) := by
  decide

theorem value?_digit {n : UInt8} (hLess : n.toNat < 64) : value? (digit n) = some n := by
  have hDigit := value?_digit_ofNat n.toNat hLess
  rwa [UInt8.ofNat_toNat] at hDigit

theorem digit_ne_dot {n : UInt8} (hLess : n.toNat < 64) : digit n ≠ '.' := by
  intro hDot
  have hValue := value?_digit hLess
  rw [hDot] at hValue
  cases hValue

/-! ## Parts of an octet -/

theorem toNat_high (b : UInt8) {k : UInt8} {scale : Nat} (hBits : k.toNat < 8)
    (hScale : 2 ^ k.toNat = scale) : (b >>> k).toNat = b.toNat / scale := by
  rw [UInt8.toNat_shiftRight, Nat.mod_eq_of_lt hBits, Nat.shiftRight_eq_div_pow, hScale]

theorem toNat_low (b : UInt8) (bits : Nat) {mask : UInt8} {scale : Nat}
    (hMask : mask.toNat = 2 ^ bits - 1) (hScale : 2 ^ bits = scale) :
    (b &&& mask).toNat = b.toNat % scale := by
  rw [UInt8.toNat_and, hMask, Nat.and_two_pow_sub_one_eq_mod, hScale]

theorem toNat_raised {high k : UInt8} {scale m : Nat} (hBits : k.toNat < 8)
    (hScale : 2 ^ k.toNat = scale) (hHigh : high.toNat = m) (hFits : scale * m < 256) :
    (high <<< k).toNat = scale * m := by
  rw [UInt8.toNat_shiftLeft, Nat.mod_eq_of_lt hBits, Nat.shiftLeft_eq, Nat.mul_comm, hScale, hHigh,
    Nat.mod_eq_of_lt hFits]

theorem toNat_joined {high low k : UInt8} {scale m n : Nat} (hBits : k.toNat < 8)
    (hScale : 2 ^ k.toNat = scale) (hHigh : high.toNat = m) (hLow : low.toNat = n)
    (hFits : scale * m < 256) (hLess : n < scale) :
    (high <<< k ||| low).toNat = scale * m + n := by
  rw [UInt8.toNat_or, toNat_raised hBits hScale hHigh hFits, hLow]
  subst hScale
  exact (Nat.two_pow_add_eq_or_of_lt hLess m).symm

/-! ## Three octets in four digits -/

section

variable (a b c : UInt8)

theorem toNat_first : (a >>> 2).toNat = a.toNat / 4 :=
  toNat_high a (by decide) rfl

theorem toNat_second :
    ((a &&& 3) <<< 4 ||| b >>> 4).toNat = 16 * (a.toNat % 4) + b.toNat / 16 := by
  have hb := b.toNat_lt
  exact toNat_joined (by decide) rfl (toNat_low a 2 rfl rfl)
    (toNat_high b (by decide) rfl) (by omega) (by omega)

theorem toNat_third :
    ((b &&& 15) <<< 2 ||| c >>> 6).toNat = 4 * (b.toNat % 16) + c.toNat / 64 := by
  have hc := c.toNat_lt
  exact toNat_joined (by decide) rfl (toNat_low b 4 rfl rfl)
    (toNat_high c (by decide) rfl) (by omega) (by omega)

theorem toNat_fourth : (c &&& 63).toNat = c.toNat % 64 :=
  toNat_low c 6 rfl rfl

theorem toNat_second_last : ((a &&& 3) <<< 4).toNat = 16 * (a.toNat % 4) :=
  toNat_raised (by decide) rfl (toNat_low a 2 rfl rfl) (by omega)

theorem toNat_third_last : ((b &&& 15) <<< 2).toNat = 4 * (b.toNat % 16) :=
  toNat_raised (by decide) rfl (toNat_low b 4 rfl rfl) (by omega)

end

section

variable {a b c i j k l : UInt8}

theorem first_octet (hi : i.toNat = a.toNat / 4) (hj : j.toNat / 16 = a.toNat % 4) :
    i <<< 2 ||| j >>> 4 = a := by
  have ha := a.toNat_lt
  have hLow : (j >>> 4).toNat = a.toNat % 4 := by
    rw [← hj]
    exact toNat_high j (by decide) rfl
  have hJoined : (i <<< 2 ||| j >>> 4).toNat = 4 * (a.toNat / 4) + a.toNat % 4 :=
    toNat_joined (by decide) rfl hi hLow (by omega) (by omega)
  apply UInt8.toNat_inj.mp
  omega

theorem second_octet (hj : j.toNat % 16 = b.toNat / 16) (hk : k.toNat / 4 = b.toNat % 16) :
    (j &&& 15) <<< 4 ||| k >>> 2 = b := by
  have hb := b.toNat_lt
  have hHigh : (j &&& 15).toNat = b.toNat / 16 := by
    rw [← hj]
    exact toNat_low j 4 rfl rfl
  have hLow : (k >>> 2).toNat = b.toNat % 16 := by
    rw [← hk]
    exact toNat_high k (by decide) rfl
  have hJoined : ((j &&& 15) <<< 4 ||| k >>> 2).toNat = 16 * (b.toNat / 16) + b.toNat % 16 :=
    toNat_joined (by decide) rfl hHigh hLow (by omega) (by omega)
  apply UInt8.toNat_inj.mp
  omega

theorem third_octet (hk : k.toNat % 4 = c.toNat / 64) (hl : l.toNat = c.toNat % 64) :
    (k &&& 3) <<< 6 ||| l = c := by
  have hc := c.toNat_lt
  have hHigh : (k &&& 3).toNat = c.toNat / 64 := by
    rw [← hk]
    exact toNat_low k 2 rfl rfl
  have hJoined : ((k &&& 3) <<< 6 ||| l).toNat = 64 * (c.toNat / 64) + c.toNat % 64 :=
    toNat_joined (by decide) rfl hHigh hl (by omega) (by omega)
  apply UInt8.toNat_inj.mp
  omega

end

/-! ## Octet strings -/

/-- The values of the digits of an octet string. -/
def sextets : Bytes → List UInt8
  | [] => []
  | [a] => [a >>> 2, (a &&& 3) <<< 4]
  | [a, b] => [a >>> 2, (a &&& 3) <<< 4 ||| b >>> 4, (b &&& 15) <<< 2]
  | a :: b :: c :: rest =>
      (a >>> 2) :: ((a &&& 3) <<< 4 ||| b >>> 4) :: ((b &&& 15) <<< 2 ||| c >>> 6) ::
        (c &&& 63) :: sextets rest

theorem digits_eq (bs : Bytes) : digits bs = (sextets bs).map digit := by
  induction bs using sextets.induct with
  | case1 => rfl
  | case2 a => rfl
  | case3 a b => rfl
  | case4 a b c rest ih => simp only [digits, sextets, List.map_cons, ih]

theorem sextet_lt (bs : Bytes) : ∀ n ∈ sextets bs, n.toNat < 64 := by
  induction bs using sextets.induct with
  | case1 => exact fun n hn => by cases hn
  | case2 a =>
    have ha := a.toNat_lt
    simp only [sextets, List.forall_mem_cons, toNat_first, toNat_second_last]
    exact ⟨by omega, by omega, List.forall_mem_nil _⟩
  | case3 a b =>
    have ha := a.toNat_lt
    have hb := b.toNat_lt
    simp only [sextets, List.forall_mem_cons, toNat_first, toNat_second, toNat_third_last]
    exact ⟨by omega, by omega, by omega, List.forall_mem_nil _⟩
  | case4 a b c rest ih =>
    have ha := a.toNat_lt
    have hb := b.toNat_lt
    have hc := c.toNat_lt
    simp only [sextets, List.forall_mem_cons, toNat_first, toNat_second, toNat_third, toNat_fourth]
    exact ⟨by omega, by omega, by omega, by omega, ih⟩

theorem octets?_sextets (bs : Bytes) : octets? (sextets bs) = some bs := by
  induction bs using sextets.induct with
  | case1 => rfl
  | case2 a =>
    have ha := a.toNat_lt
    have hRest : (a &&& 3) <<< 4 &&& 15 = 0 := by
      apply UInt8.toNat_inj.mp
      rw [toNat_low _ 4 rfl rfl, toNat_second_last]
      simp
    rw [sextets, octets?, if_pos hRest, first_octet (toNat_first a)]
    rw [toNat_second_last]
    omega
  | case3 a b =>
    have hb := b.toNat_lt
    have hRest : (b &&& 15) <<< 2 &&& 3 = 0 := by
      apply UInt8.toNat_inj.mp
      rw [toNat_low _ 2 rfl rfl, toNat_third_last]
      simp
    rw [sextets, octets?, if_pos hRest, first_octet (toNat_first a), second_octet]
    · rw [toNat_second]
      omega
    · rw [toNat_third_last]
      omega
    · rw [toNat_second]
      omega
  | case4 a b c rest ih =>
    have hb := b.toNat_lt
    have hc := c.toNat_lt
    rw [sextets, octets?, ih, Option.map_some, first_octet (toNat_first a), second_octet,
      third_octet _ (toNat_fourth c)]
    · rw [toNat_third]
      omega
    · rw [toNat_second]
      omega
    · rw [toNat_third]
      omega
    · rw [toNat_second]
      omega

theorem mapM_value?_digit {ns : List UInt8} (hLess : ∀ n ∈ ns, n.toNat < 64) :
    (ns.map digit).mapM value? = some ns := by
  induction ns with
  | nil => rfl
  | cons n rest ih =>
    obtain ⟨hFirst, hRest⟩ := List.forall_mem_cons.mp hLess
    rw [List.map_cons, List.mapM_cons, value?_digit hFirst, ih hRest]
    rfl

theorem decode?_digits (bs : Bytes) : decode? (digits bs) = some bs := by
  rw [decode?, digits_eq, mapM_value?_digit (sextet_lt bs)]
  exact octets?_sextets bs

theorem dot_not_mem_digits (bs : Bytes) : '.' ∉ digits bs := by
  rw [digits_eq, List.mem_map]
  rintro ⟨n, hn, hDot⟩
  exact digit_ne_dot (sextet_lt bs n hn) hDot

end DeviceBus.Base64Url
