import DeviceBus.Proofs.Coap.Fields

/-! # The options of a datagram

The body of a datagram is its options, each at its distance from the one before,
and the payload behind the marker. Reading it inverts writing it as long as the
numbers do not fall, and what is read never has a number that falls.
-/

namespace DeviceBus.Coap

/-! ## One option -/

theorem writeOption?_eq_some_iff {delta : Nat} {value bs : Bytes} :
    writeOption? delta value = some bs ↔ ∃ deltaNibble deltaOctets lengthNibble lengthOctets,
      Extended.write? delta = some (deltaNibble, deltaOctets) ∧
      Extended.write? value.length = some (lengthNibble, lengthOctets) ∧
      bs = (deltaNibble <<< 4 ||| lengthNibble) :: (deltaOctets ++ lengthOctets ++ value) := by
  simp only [writeOption?, Option.bind_eq_bind, Option.bind_eq_some_iff, Option.pure_def,
    Option.some.injEq, Prod.exists]
  constructor
  · rintro ⟨dn, ds, hDelta, ln, ls, hLength, rfl⟩
    exact ⟨dn, ds, ln, ls, hDelta, hLength, rfl⟩
  · rintro ⟨dn, ds, ln, ls, hDelta, hLength, rfl⟩
    exact ⟨dn, ds, hDelta, ln, ls, hLength, rfl⟩

theorem exists_writeOption?_iff (delta : Nat) (value : Bytes) :
    (∃ bs, writeOption? delta value = some bs) ↔
      delta ≤ maxExtended ∧ value.length ≤ maxExtended := by
  rw [← Extended.exists_write?_iff, ← Extended.exists_write?_iff]
  simp only [writeOption?_eq_some_iff]
  constructor
  · rintro ⟨bs, dn, ds, ln, ls, hDelta, hLength, -⟩
    exact ⟨⟨_, hDelta⟩, ⟨_, hLength⟩⟩
  · rintro ⟨⟨⟨dn, ds⟩, hDelta⟩, ⟨⟨ln, ls⟩, hLength⟩⟩
    exact ⟨_, dn, ds, ln, ls, hDelta, hLength, rfl⟩

theorem readOption?_eq_some_iff {previous : Nat} {lead : UInt8} {bs rest : Bytes} {o : Opt} :
    readOption? previous lead bs = some (o, rest) ↔ ∃ delta length between after,
      Extended.read? (lead >>> 4) bs = some (delta, between) ∧
      Extended.read? (lead &&& 0x0F) between = some (length, after) ∧
      previous + delta < 65536 ∧ (after.take length).length = length ∧
      o = ⟨UInt16.ofNat (previous + delta), after.take length⟩ ∧ rest = after.drop length := by
  simp only [readOption?, Option.bind_eq_bind, Option.bind_eq_some_iff, Prod.exists]
  constructor
  · rintro ⟨delta, between, hDelta, length, after, hLength, h⟩
    split at h
    · rename_i hFits
      cases h
      exact ⟨delta, length, between, after, hDelta, hLength, hFits.1, hFits.2, rfl, rfl⟩
    · cases h
  · rintro ⟨delta, length, between, after, hDelta, hLength, hNumber, hValue, rfl, rfl⟩
    exact ⟨delta, between, hDelta, length, after, hLength, if_pos ⟨hNumber, hValue⟩⟩

/-- A written option never begins like the payload, and is read back. -/
theorem readOption?_writeOption? {previous delta : Nat} {value bs : Bytes}
    (h : writeOption? delta value = some bs) (hNumber : previous + delta < 65536) (rest : Bytes) :
    ∃ lead octets, bs = lead :: octets ∧ lead ≠ payloadMarker ∧
      readOption? previous lead (octets ++ rest) =
        some (⟨UInt16.ofNat (previous + delta), value⟩, rest) := by
  obtain ⟨dn, ds, ln, ls, hDelta, hLength, rfl⟩ := writeOption?_eq_some_iff.mp h
  have hdn := Extended.nibble_lt hDelta
  have hln := Extended.nibble_lt hLength
  have hHigh : dn.toNat < 16 := by omega
  have hLow : ln.toNat < 16 := by omega
  refine ⟨_, _, rfl, ?_, readOption?_eq_some_iff.mpr ?_⟩
  · intro hMarker
    have hLead := toNat_joined hHigh hLow
    rw [hMarker, show payloadMarker.toNat = 255 from rfl] at hLead
    omega
  · refine ⟨delta, value.length, ls ++ (value ++ rest), value ++ rest, ?_, ?_, hNumber, ?_⟩
    · rw [highNibble_joined hHigh hLow, List.append_assoc, List.append_assoc]
      exact Extended.read?_write? hDelta _
    · rw [lowNibble_joined hHigh hLow]
      exact Extended.read?_write? hLength _
    · simp

/-- An option is read only in the form in which it is written. -/
theorem writeOption?_of_readOption? {previous : Nat} {lead : UInt8} {bs rest : Bytes} {o : Opt}
    (h : readOption? previous lead bs = some (o, rest)) :
    previous ≤ o.number.toNat ∧ ∃ octets, bs = octets ++ rest ∧
      writeOption? (o.number.toNat - previous) o.value = some (lead :: octets) := by
  obtain ⟨delta, length, between, after, hDelta, hLength, hNumber, hValue, rfl, rfl⟩ :=
    readOption?_eq_some_iff.mp h
  obtain ⟨ds, hDeltaWrite, rfl⟩ := Extended.write?_of_read? hDelta
  obtain ⟨ls, hLengthWrite, rfl⟩ := Extended.write?_of_read? hLength
  have hRead : (UInt16.ofNat (previous + delta)).toNat = previous + delta := by
    rw [UInt16.toNat_ofNat']
    exact Nat.mod_eq_of_lt hNumber
  refine ⟨by dsimp only; omega, ds ++ ls ++ after.take length, ?_, ?_⟩
  · rw [List.append_assoc, List.append_assoc, List.take_append_drop]
  · rw [hRead, Nat.add_sub_cancel_left]
    refine writeOption?_eq_some_iff.mpr ⟨_, ds, _, ls, hDeltaWrite, by rwa [hValue], ?_⟩
    rw [joined_nibbles]

/-! ## The body -/

/-- Options whose numbers do not fall, from `previous` on. -/
def Ascending (previous : Nat) : List Opt → Prop
  | [] => True
  | o :: rest => previous ≤ o.number.toNat ∧ Ascending o.number.toNat rest

theorem ascending_iff {previous : Nat} {options : List Opt} : Ascending previous options ↔
    (∀ o ∈ options, previous ≤ o.number.toNat) ∧
      options.Pairwise fun a b => a.number ≤ b.number := by
  induction options generalizing previous with
  | nil => simp [Ascending]
  | cons o rest ih =>
    simp only [Ascending, ih, List.forall_mem_cons, List.pairwise_cons, UInt16.le_iff_toNat_le]
    constructor
    · rintro ⟨hFirst, hRest, hOrder⟩
      exact ⟨⟨hFirst, fun a ha => Nat.le_trans hFirst (hRest a ha)⟩, hRest, hOrder⟩
    · rintro ⟨⟨hFirst, -⟩, hRest, hOrder⟩
      exact ⟨hFirst, hRest, hOrder⟩

theorem exists_writeOptions?_iff (previous : Nat) (options : List Opt) :
    (∃ bs, writeOptions? previous options = some bs) ↔
      ∀ o ∈ options, o.value.length ≤ maxExtended := by
  induction options generalizing previous with
  | nil => simp [writeOptions?]
  | cons o rest ih =>
    have hDelta : o.number.toNat - previous ≤ maxExtended := by
      have hNumber := o.number.toNat_lt
      unfold maxExtended
      omega
    have hFirst := exists_writeOption?_iff (o.number.toNat - previous) o.value
    rw [List.forall_mem_cons, ← ih o.number.toNat]
    simp only [writeOptions?, Option.bind_eq_bind, Option.bind_eq_some_iff, Option.pure_def,
      Option.some.injEq]
    constructor
    · rintro ⟨bs, first, hWrite, others, hOthers, -⟩
      exact ⟨(hFirst.mp ⟨first, hWrite⟩).2, others, hOthers⟩
    · rintro ⟨hLength, others, hOthers⟩
      obtain ⟨first, hWrite⟩ := hFirst.mpr ⟨hDelta, hLength⟩
      exact ⟨_, first, hWrite, others, hOthers, rfl⟩

/-- The payload as it stands behind the options. -/
def payloadTail (payload : Bytes) : Bytes :=
  if payload = [] then [] else payloadMarker :: payload

theorem readBody_payloadTail (previous : Nat) (payload : Bytes) :
    readBody previous (payloadTail payload) = .ok ([], payload) := by
  unfold payloadTail
  split
  · rename_i hEmpty
    rw [hEmpty, readBody]
  · rename_i hSome
    rw [readBody, if_pos rfl, if_neg hSome]

theorem readBody_writeOptions? {previous : Nat} {options : List Opt} {bs : Bytes}
    (hOrder : Ascending previous options) (h : writeOptions? previous options = some bs)
    (payload : Bytes) :
    readBody previous (bs ++ payloadTail payload) = .ok (options, payload) := by
  induction options generalizing previous bs with
  | nil =>
    cases h
    exact readBody_payloadTail previous payload
  | cons o rest ih =>
    obtain ⟨first, hFirst, hRest⟩ := Option.bind_eq_some_iff.mp h
    obtain ⟨others, hOthers, hBytes⟩ := Option.bind_eq_some_iff.mp hRest
    cases hBytes
    have hNumber : previous + (o.number.toNat - previous) = o.number.toNat := by
      have := hOrder.1
      omega
    have hBound : previous + (o.number.toNat - previous) < 65536 := by
      rw [hNumber]
      exact o.number.toNat_lt
    obtain ⟨lead, octets, rfl, hMarker, hRead⟩ :=
      readOption?_writeOption? hFirst hBound (others ++ payloadTail payload)
    rw [hNumber, UInt16.ofNat_toNat] at hRead
    have hOthers := ih hOrder.2 hOthers
    rw [List.append_assoc, List.cons_append, readBody, if_neg hMarker]
    split
    · rename_i hNone
      rw [hRead] at hNone
      cases hNone
    · rename_i hSome
      rw [hRead] at hSome
      cases hSome
      rw [hOthers]

/-- A body is read only in the form in which it is written. -/
theorem writeOptions?_of_readBody {previous : Nat} {bs payload : Bytes} {options : List Opt}
    (h : readBody previous bs = .ok (options, payload)) :
    Ascending previous options ∧ ∃ written, writeOptions? previous options = some written ∧
      bs = written ++ payloadTail payload := by
  fun_induction readBody previous bs generalizing options payload with
  | case1 =>
    cases h
    exact ⟨trivial, [], rfl, rfl⟩
  | case2 | case4 | case5 => cases h
  | case3 previous bs hSome =>
    cases h
    refine ⟨trivial, [], rfl, ?_⟩
    rw [payloadTail, if_neg hSome, List.nil_append]
  | case6 previous lead bs hMarker o rest hRead others payload' hOthers ih =>
    cases h
    obtain ⟨hOrder, written, hWritten, rfl⟩ := ih hOthers
    obtain ⟨hFirst, octets, rfl, hWrite⟩ := writeOption?_of_readOption? hRead
    refine ⟨⟨hFirst, hOrder⟩, (lead :: octets) ++ written, ?_, ?_⟩
    · simp only [writeOptions?, hWrite, hWritten, Option.bind_eq_bind, Option.bind_some,
        Option.pure_def]
    · simp only [List.cons_append, List.append_assoc]

/-! ## Numbers as values -/

theorem toNat_pushOctet (acc : UInt32) (octet : UInt8) :
    (acc <<< 8 ||| octet.toUInt32).toNat = acc.toNat % 16777216 * 256 + octet.toNat := by
  have hOctet := octet.toNat_lt
  have hShift : acc.toNat * 2 ^ 8 % 2 ^ 32 = 2 ^ 8 * (acc.toNat % 16777216) := by omega
  rw [UInt32.toNat_or, UInt32.toNat_shiftLeft, show (8 : UInt32).toNat % 32 = 8 from rfl,
    Nat.shiftLeft_eq, hShift, UInt8.toNat_toUInt32, ← Nat.two_pow_add_eq_or_of_lt (by omega)]
  omega

theorem foldl_dropWhile_zero (octets : Bytes) :
    (octets.dropWhile (· == 0)).foldl (fun (acc : UInt32) b => acc <<< 8 ||| b.toUInt32) 0 =
      octets.foldl (fun (acc : UInt32) b => acc <<< 8 ||| b.toUInt32) 0 := by
  induction octets with
  | nil => rfl
  | cons octet octets ih =>
    by_cases hZero : octet = 0
    · subst hZero
      exact ih
    · rw [List.dropWhile_cons_of_neg (by simpa using hZero)]

theorem decodeUint_encodeUint (value : UInt32) : decodeUint (encodeUint value) = value := by
  have hLength : (encodeUint value).length ≤ 4 := (List.dropWhile_sublist _).length_le
  have hValue := value.toNat_lt
  rw [decodeUint, List.take_of_length_le hLength, encodeUint, foldl_dropWhile_zero]
  apply UInt32.toNat_inj.mp
  simp only [List.foldl_cons, List.foldl_nil, toNat_pushOctet, UInt32.toNat_toUInt8,
    UInt32.toNat_shiftRight, Nat.shiftRight_eq_div_pow]
  rw [show (24 : UInt32).toNat % 32 = 24 from rfl, show (16 : UInt32).toNat % 32 = 16 from rfl,
    show (8 : UInt32).toNat % 32 = 8 from rfl, show (0 : UInt32).toNat = 0 from rfl]
  omega

theorem filter_setObserve (p : Packet) (value : UInt32) :
    ((p.setObserve value).options.filter fun o => o.number == Opt.observeNumber) =
      [⟨Opt.observeNumber, encodeUint value⟩] := by
  have hOthers : (p.options.filter fun o => o.number != Opt.observeNumber).filter
      (fun o => o.number == Opt.observeNumber) = [] := by
    rw [List.filter_filter, List.filter_eq_nil_iff]
    intro o _ hBoth
    simp at hBoth
  simp [Packet.setObserve, hOthers]

theorem observe_setObserve (p : Packet) (value : UInt32) :
    (p.setObserve value).observe = some value := by
  rw [Packet.observe, Packet.optionValues, filter_setObserve]
  exact congrArg some (decodeUint_encodeUint value)

end DeviceBus.Coap
