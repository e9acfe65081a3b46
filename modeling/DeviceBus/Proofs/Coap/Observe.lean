import DeviceBus.Proofs.Coap.Datagram

/-! # The Observe option

Numbers are option values in their shortest big-endian form, and only octets in this form come
back as they were from the number that is read from them. A packet whose Observe options are
replaced by one is read with that one and with its other options as they were.
-/

namespace DeviceBus.Coap

/-! ## Big-endian numbers -/

/-- The number that octets write, the most significant one first. -/
def bigEndian (octets : Bytes) : ℕ :=
  Nat.ofDigits 256 (octets.reverse.map UInt8.toNat)

theorem bigEndian_concat (octets : Bytes) (b : UInt8) :
    bigEndian (octets ++ [b]) = bigEndian octets * 256 + b.toNat := by
  rw [bigEndian, List.reverse_concat, List.map_cons, Nat.ofDigits_cons, ← bigEndian]
  omega

theorem digit_lt (octets : Bytes) : ∀ d ∈ octets.reverse.map UInt8.toNat, d < 256 := by
  intro d hd
  obtain ⟨b, -, rfl⟩ := List.mem_map.mp hd
  exact b.toNat_lt

theorem bigEndian_lt (octets : Bytes) : bigEndian octets < 256 ^ octets.length := by
  have hLess := Nat.ofDigits_lt_base_pow_length (by decide) (digit_lt octets)
  rwa [List.length_map, List.length_reverse] at hLess

theorem digits_bigEndian {octets : Bytes} (hStripped : octets.head? ≠ some 0) :
    Nat.digits 256 (bigEndian octets) = octets.reverse.map UInt8.toNat := by
  refine Nat.digits_ofDigits 256 (by decide) _ (digit_lt octets) fun hSome hZero => hStripped ?_
  cases octets with
  | nil => exact (hSome rfl).elim
  | cons b octets =>
    simp only [List.reverse_cons, List.map_append, List.map_singleton,
      List.getLast_append_singleton] at hZero
    have hFirst : b = 0 := UInt8.toNat_inj.mp hZero
    rw [List.head?_cons, hFirst]

theorem eq_of_bigEndian {octets others : Bytes} (hStripped : octets.head? ≠ some 0)
    (hOthers : others.head? ≠ some 0) (hSame : bigEndian octets = bigEndian others) :
    octets = others := by
  have hDigits := congrArg (Nat.digits 256) hSame
  rw [digits_bigEndian hStripped, digits_bigEndian hOthers] at hDigits
  have hReversed := List.map_injective_iff.mpr (fun _ _ => UInt8.toNat_inj.mp) hDigits
  exact List.reverse_injective hReversed

/-- The octets write the number, as no fewer octets do. -/
structure ShortestForm (octets : Bytes) (n : ℕ) : Prop where
  value : bigEndian octets = n
  least : ∀ others, bigEndian others = n → octets.length ≤ others.length
  stripped : octets.head? ≠ some 0
  zero : n = 0 → octets = []

theorem shortestForm_of_stripped {octets : Bytes} (hStripped : octets.head? ≠ some 0) :
    ShortestForm octets (bigEndian octets) := by
  have hDigits := digits_bigEndian hStripped
  refine ⟨rfl, fun others hSame => ?_, hStripped, fun hZero => ?_⟩
  · have hLess := bigEndian_lt others
    rw [hSame, ← Nat.digits_length_le_iff (by decide), hDigits] at hLess
    simpa using hLess
  · rw [hZero, Nat.digits_zero] at hDigits
    simpa using hDigits.symm

/-! ## Numbers as values -/

theorem toNat_foldl {octets : Bytes} (hFew : octets.length ≤ 4) :
    (octets.foldl (fun (acc : UInt32) b => acc <<< 8 ||| b.toUInt32) 0).toNat =
      bigEndian octets := by
  induction octets using List.reverseRecOn with
  | nil => rfl
  | append_singleton octets b ih =>
    rw [List.length_append, List.length_singleton] at hFew
    have hValue := ih (by omega)
    have hBound : bigEndian octets < 16777216 :=
      (bigEndian_lt octets).trans_le (Nat.pow_le_pow_right (by decide) (by omega : _ ≤ 3))
    rw [List.foldl_append, List.foldl_cons, List.foldl_nil, toNat_pushOctet, hValue,
      bigEndian_concat, Nat.mod_eq_of_lt hBound]

theorem toNat_decodeUint {octets : Bytes} (hFew : octets.length ≤ 4) :
    (decodeUint octets).toNat = bigEndian octets := by
  rw [decodeUint, List.take_of_length_le hFew]
  exact toNat_foldl hFew

theorem length_encodeUint (value : UInt32) : (encodeUint value).length ≤ 4 :=
  (List.dropWhile_sublist _).length_le

theorem head?_encodeUint (value : UInt32) : (encodeUint value).head? ≠ some 0 := by
  intro hZero
  have hStop := List.head?_dropWhile_not (· == (0 : UInt8))
    [(value >>> 24).toUInt8, (value >>> 16).toUInt8, (value >>> 8).toUInt8, value.toUInt8]
  rw [← encodeUint, hZero] at hStop
  cases hStop

theorem bigEndian_encodeUint (value : UInt32) : bigEndian (encodeUint value) = value.toNat := by
  rw [← toNat_decodeUint (length_encodeUint value), decodeUint_encodeUint]

theorem shortestForm_encodeUint (value : UInt32) :
    ShortestForm (encodeUint value) value.toNat := by
  rw [← bigEndian_encodeUint]
  exact shortestForm_of_stripped (head?_encodeUint value)

theorem encodeUint_decodeUint_iff (octets : Bytes) :
    encodeUint (decodeUint octets) = octets ↔
      octets.length ≤ 4 ∧ octets.head? ≠ some 0 := by
  constructor
  · intro hBack
    rw [← hBack]
    exact ⟨length_encodeUint _, head?_encodeUint _⟩
  · rintro ⟨hFew, hStripped⟩
    apply eq_of_bigEndian (head?_encodeUint _) hStripped
    rw [bigEndian_encodeUint, toNat_decodeUint hFew]

/-! ## Packets -/

namespace Packet

theorem optionValues_setObserve {number : UInt16} (hOther : number ≠ Opt.observeNumber)
    (p : Packet) (value : UInt32) :
    (p.setObserve value).optionValues number = p.optionValues number := by
  have hKept : (p.options.filter fun o => o.number != Opt.observeNumber).filter
      (fun o => o.number == number) = p.options.filter fun o => o.number == number := by
    rw [List.filter_filter]
    refine List.filter_congr fun o _ => ?_
    by_cases hNumber : o.number = number
    · simp [hNumber, hOther]
    · simp [hNumber]
  simp [optionValues, setObserve, hKept, hOther.symm]

theorem exists_encode_setObserve {p : Packet} (hWritten : ∃ bs, p.encode = .ok bs)
    (value : UInt32) : ∃ bs, (p.setObserve value).encode = .ok bs := by
  obtain ⟨hToken, hValues⟩ := (exists_encode_iff p).mp hWritten
  refine (exists_encode_iff _).mpr ⟨hToken, fun o ho => ?_⟩
  rcases List.mem_append.mp ho with hOld | hNew
  · exact hValues o (List.mem_of_mem_filter hOld)
  · rw [List.mem_singleton.mp hNew]
    exact (length_encodeUint value).trans (by decide)

/-- The packet `q` is `p` with one Observe option, which has the value, in place of those
that `p` had. -/
structure Observing (p : Packet) (value : UInt32) (q : Packet) : Prop where
  header : q = { p with options := q.options }
  one : (q.options.filter fun o => o.number == Opt.observeNumber) =
    [⟨Opt.observeNumber, encodeUint value⟩]
  observe : q.observe = some value
  others : ∀ number, number ≠ Opt.observeNumber → q.optionValues number = p.optionValues number

/-- A packet with a new Observe option can be written if the packet could, and is read with
this option in its shortest form and with its other options. Octets are such a form just if
they come back from the number that they are read as. -/
theorem observe_replaced :
    (∀ (p : Packet) (value : UInt32), (∃ bs, p.encode = .ok bs) →
      ∃ bs q, (p.setObserve value).encode = .ok bs ∧ decode bs = .ok q ∧ Observing p value q ∧
        ShortestForm (encodeUint value) value.toNat) ∧
      ∀ octets, encodeUint (decodeUint octets) = octets ↔
        octets.length ≤ 4 ∧ octets.head? ≠ some 0 := by
  refine ⟨fun p value hWritten => ?_, encodeUint_decodeUint_iff⟩
  obtain ⟨bs, hBytes⟩ := exists_encode_setObserve hWritten value
  have hSorted := stablySorted_sortedOptions (p.setObserve value)
  have hOne := (hSorted.stable Opt.observeNumber).trans (filter_setObserve p value)
  refine ⟨bs, _, hBytes, decode_encode hBytes, ⟨rfl, hOne, ?_, ?_⟩, shortestForm_encodeUint value⟩
  · rw [observe, optionValues, hOne]
    exact congrArg some (decodeUint_encodeUint value)
  · intro number hOther
    rw [optionValues_of_stablySorted (p := p.setObserve value) hSorted]
    exact optionValues_setObserve hOther p value

/-- Two Observe options, one of them too long for a number, and others around them. -/
def observedTwice : Packet where
  kind := .acknowledgement
  code := Code.content
  messageId := 7
  options := [⟨11, [0x61]⟩, ⟨6, [0, 1, 2, 3, 4]⟩, ⟨4, []⟩, ⟨6, []⟩, ⟨11, []⟩]

theorem observe_replaced_twice : (∃ bs, observedTwice.encode = .ok bs) ∧
    (∃ bs q, (observedTwice.setObserve 256).encode = .ok bs ∧ decode bs = .ok q ∧
      Observing observedTwice 256 q ∧ ShortestForm [1, 0] 256) ∧
    encodeUint (decodeUint [0, 1]) ≠ [0, 1] ∧
    encodeUint (decodeUint [1, 0, 0, 0, 0]) ≠ [1, 0, 0, 0, 0] := by
  have hWritten : ∃ bs, observedTwice.encode = .ok bs :=
    (exists_encode_iff _).mpr ⟨by decide, by decide⟩
  refine ⟨hWritten, observe_replaced.1 observedTwice 256 hWritten, fun hBack => ?_,
    fun hBack => ?_⟩
  · exact absurd rfl ((observe_replaced.2 _).mp hBack).2
  · exact absurd ((observe_replaced.2 _).mp hBack).1 (by decide)

end Packet

end DeviceBus.Coap
