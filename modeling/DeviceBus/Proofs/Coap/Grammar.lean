import DeviceBus.Proofs.Coap.Datagram

/-! # The grammar of datagrams

What a datagram has to look like is said here without a reader, in numbers and octets that
stand one after the other. The reader finds exactly that: it accepts the datagrams of the
grammar, as the packets that the grammar says, and each of its errors stands for the datagrams
that leave the grammar at one place, the first one counting.
-/

namespace DeviceBus.Coap

/-- The number that a nibble and the octets that extend it write. No number has the nibble
fifteen. -/
inductive Extended.Spells : Nat → Bytes → Nat → Prop
  | plain {n : Nat} (hSmall : n ≤ 12) : Spells n [] n
  | octet (b : UInt8) : Spells 13 [b] (13 + b.toNat)
  | octets (hi lo : UInt8) : Spells 14 [hi, lo] (269 + (256 * hi.toNat + lo.toNat))

/-- The octets of well-formed options; `previous` is the number of the option before them. -/
inductive WellFormed : Nat → Bytes → List Opt → Prop
  | none (previous : Nat) : WellFormed previous [] []
  | option {previous delta : Nat} {lead : UInt8}
      {deltaOctets lengthOctets value rest : Bytes} {options : List Opt}
      (hDelta : Extended.Spells (lead.toNat / 16) deltaOctets delta)
      (hLength : Extended.Spells (lead.toNat % 16) lengthOctets value.length)
      (hNumber : previous + delta ≤ 65535)
      (hRest : WellFormed (previous + delta) rest options) :
      WellFormed previous (lead :: (deltaOctets ++ lengthOctets ++ value ++ rest))
        (⟨UInt16.ofNat (previous + delta), value⟩ :: options)

/-- What stands behind the token, and what it is read as. -/
inductive Body (previous : Nat) : Bytes → Except CodecError (List Opt × Bytes) → Prop
  | bare {octets : Bytes} {options : List Opt} (hOptions : WellFormed previous octets options) :
      Body previous octets (.ok (options, []))
  | loaded {octets payload : Bytes} {options : List Opt}
      (hOptions : WellFormed previous octets options) (hSome : payload ≠ []) :
      Body previous (octets ++ 0xFF :: payload) (.ok (options, payload))
  | marked {octets : Bytes} {options : List Opt} (hOptions : WellFormed previous octets options) :
      Body previous (octets ++ [0xFF]) (.error .emptyPayload)
  | malformed {body : Bytes} (hOther : ∀ octets options tail, WellFormed previous octets options →
        body = octets ++ tail → tail ≠ [] ∧ ∀ payload, tail ≠ 0xFF :: payload) :
      Body previous body (.error .invalidOption)

/-- A datagram and what it is read as: a packet, or the first thing that is wrong with it. -/
inductive Datagram : Bytes → Except CodecError Packet → Prop
  | headless {bs : Bytes} (hShort : bs.length < 4) : Datagram bs (.error .tooShort)
  | foreign {lead code hi lo : UInt8} {rest : Bytes} (hVersion : lead.toNat / 64 ≠ 1) :
      Datagram (lead :: code :: hi :: lo :: rest)
        (.error (.unsupportedVersion (UInt8.ofNat (lead.toNat / 64))))
  | misfit {lead code hi lo : UInt8} {rest : Bytes} (hVersion : lead.toNat / 64 = 1)
      (hToken : 8 < lead.toNat % 16) :
      Datagram (lead :: code :: hi :: lo :: rest)
        (.error (.invalidTokenLength (UInt8.ofNat (lead.toNat % 16))))
  | cut {lead code hi lo : UInt8} {rest : Bytes} (hVersion : lead.toNat / 64 = 1)
      (hToken : lead.toNat % 16 ≤ 8) (hCut : rest.length < lead.toNat % 16) :
      Datagram (lead :: code :: hi :: lo :: rest) (.error .tooShort)
  | whole {lead code hi lo : UInt8} {token body : Bytes} {kind : Kind} {messageId : UInt16}
      {content : Except CodecError (List Opt × Bytes)} (hVersion : lead.toNat / 64 = 1)
      (hToken : token.length ≤ 8) (hLength : token.length = lead.toNat % 16)
      (hKind : kind.bits.toNat = lead.toNat / 16 % 4)
      (hId : messageId.toNat = 256 * hi.toNat + lo.toNat) (hBody : Body 0 body content) :
      Datagram (lead :: code :: hi :: lo :: (token ++ body))
        (content.map fun (options, payload) =>
          { kind, code, messageId, token, options, payload })

/-! ## Numbers -/

namespace Extended

theorem Spells.nibble_lt {nibble n : Nat} {octets : Bytes} (h : Spells nibble octets n) :
    nibble < 15 := by
  cases h with
  | plain hSmall => omega
  | octet b => decide
  | octets hi lo => decide

theorem read?_of_spells {nibble : UInt8} {octets : Bytes} {n : Nat}
    (h : Spells nibble.toNat octets n) (rest : Bytes) :
    read? nibble (octets ++ rest) = some (n, rest) := by
  generalize hNibble : nibble.toNat = m at h
  cases h with
  | plain hSmall =>
    have hLess : nibble < 13 := UInt8.lt_iff_toNat_lt.mpr (hNibble ▸ Nat.lt_succ_of_le hSmall)
    rw [List.nil_append, read?_of_lt hLess, hNibble]
  | octet b =>
    obtain rfl : nibble = 13 := UInt8.toNat_inj.mp hNibble
    rw [List.singleton_append, read?_thirteen, Nat.add_comm]
  | octets hi lo =>
    obtain rfl : nibble = 14 := UInt8.toNat_inj.mp hNibble
    rw [List.cons_append, List.singleton_append, read?_fourteen, Bytes.toNat_toUInt16,
      Nat.add_comm]

theorem exists_spells_of_read? {nibble : UInt8} {bs rest : Bytes} {n : Nat}
    (h : read? nibble bs = some (n, rest)) :
    ∃ octets, Spells nibble.toNat octets n ∧ bs = octets ++ rest := by
  unfold read? at h
  split at h
  · rename_i hSmall
    cases h
    exact ⟨[], .plain (Nat.le_of_lt_succ (UInt8.lt_iff_toNat_lt.mp hSmall)), rfl⟩
  · split at h
    · rename_i hMiddle
      subst hMiddle
      split at h
      · rename_i b tail
        cases h
        exact ⟨[b], Nat.add_comm _ _ ▸ .octet b, rfl⟩
      · cases h
    · split at h
      · rename_i hLarge
        subst hLarge
        split at h
        · rename_i hi lo tail
          cases h
          refine ⟨[hi, lo], ?_, rfl⟩
          rw [Bytes.toNat_toUInt16, Nat.add_comm]
          exact .octets hi lo
        · cases h
      · cases h

end Extended

/-! ## Options -/

section

variable {previous : Nat} {lead : UInt8} {bs octets : Bytes} {options : List Opt}

/-- An option is what the grammar says, with whatever follows it. -/
theorem readOption?_iff_spells {o : Opt} {rest : Bytes} :
    readOption? previous lead bs = some (o, rest) ↔ ∃ delta deltaOctets lengthOctets,
      Extended.Spells (lead.toNat / 16) deltaOctets delta ∧
      Extended.Spells (lead.toNat % 16) lengthOctets o.value.length ∧
      previous + delta ≤ 65535 ∧ o.number = UInt16.ofNat (previous + delta) ∧
      bs = deltaOctets ++ lengthOctets ++ o.value ++ rest := by
  rw [readOption?_eq_some_iff, ← toNat_highNibble, ← toNat_lowNibble]
  constructor
  · rintro ⟨delta, length, between, after, hDelta, hLength, hNumber, hValue, rfl, rfl⟩
    obtain ⟨deltaOctets, hDeltaSpells, rfl⟩ := Extended.exists_spells_of_read? hDelta
    obtain ⟨lengthOctets, hLengthSpells, rfl⟩ := Extended.exists_spells_of_read? hLength
    refine ⟨delta, deltaOctets, lengthOctets, hDeltaSpells, ?_, Nat.le_of_lt_succ hNumber, rfl, ?_⟩
    · rwa [hValue]
    · rw [List.append_assoc, List.append_assoc, List.take_append_drop]
  · rintro ⟨delta, deltaOctets, lengthOctets, hDelta, hLength, hNumber, hOwn, rfl⟩
    refine ⟨delta, o.value.length, lengthOctets ++ (o.value ++ rest), o.value ++ rest, ?_, ?_,
      Nat.lt_succ_of_le hNumber, ?_, ?_, ?_⟩
    · rw [List.append_assoc, List.append_assoc]
      exact Extended.read?_of_spells hDelta _
    · exact Extended.read?_of_spells hLength _
    · rw [List.take_left]
    · rw [List.take_left, ← hOwn]
    · rw [List.drop_left]

theorem ne_marker_of_spells {n : Nat} (h : Extended.Spells (lead.toNat % 16) octets n) :
    lead ≠ payloadMarker := by
  rintro rfl
  exact absurd h.nibble_lt (by decide)

/-- Well-formed options are read, and what follows them as it would be without them. -/
theorem WellFormed.readBody_append (h : WellFormed previous octets options) (tail : Bytes) :
    ∃ number, readBody previous (octets ++ tail) =
      (readBody number tail).map fun read => (options ++ read.1, read.2) := by
  induction h with
  | none previous =>
    refine ⟨previous, ?_⟩
    rw [List.nil_append]
    cases readBody previous tail with
    | error e => rfl
    | ok read => rfl
  | @option previous delta lead deltaOctets lengthOctets value rest options hDelta hLength hNumber
      hRest ih =>
    obtain ⟨number, hTail⟩ := ih
    have hOwn : (UInt16.ofNat (previous + delta)).toNat = previous + delta := by
      rw [UInt16.toNat_ofNat']
      exact Nat.mod_eq_of_lt (Nat.lt_succ_of_le hNumber)
    have hRead : readOption? previous lead
        (deltaOctets ++ lengthOctets ++ value ++ rest ++ tail) =
          some (⟨UInt16.ofNat (previous + delta), value⟩, rest ++ tail) :=
      readOption?_iff_spells.mpr ⟨delta, deltaOctets, lengthOctets, hDelta, hLength, hNumber, rfl,
        List.append_assoc ..⟩
    refine ⟨number, ?_⟩
    rw [List.cons_append, readBody, if_neg (ne_marker_of_spells hLength)]
    split
    · rename_i hNone
      cases hNone.symm.trans hRead
    · rename_i hSome
      cases hSome.symm.trans hRead
      dsimp only
      rw [hOwn, hTail]
      cases readBody number tail with
      | error e => rfl
      | ok read => rfl

theorem WellFormed.readBody_eq (h : WellFormed previous octets options) :
    readBody previous octets = .ok (options, []) := by
  obtain ⟨number, hRead⟩ := h.readBody_append []
  rw [List.append_nil, readBody] at hRead
  rw [hRead, Except.map, List.append_nil]

theorem WellFormed.readBody_marker (h : WellFormed previous octets options) (payload : Bytes) :
    readBody previous (octets ++ 0xFF :: payload) =
      if payload = [] then .error .emptyPayload else .ok (options, payload) := by
  obtain ⟨number, hRead⟩ := h.readBody_append (0xFF :: payload)
  rw [hRead, readBody, if_pos (show (0xFF : UInt8) = payloadMarker from rfl)]
  split
  · rfl
  · rw [Except.map, List.append_nil]

/-- An option that is read stands in front of well-formed options. -/
theorem WellFormed.cons_of_read {o : Opt} {tail : Bytes}
    (hRead : readOption? previous lead bs = some (o, octets ++ tail))
    (h : WellFormed o.number.toNat octets options) :
    ∃ extended, WellFormed previous extended (o :: options) ∧ lead :: bs = extended ++ tail := by
  obtain ⟨delta, deltaOctets, lengthOctets, hDelta, hLength, hNumber, hOwn, rfl⟩ :=
    readOption?_iff_spells.mp hRead
  obtain ⟨number, value⟩ := o
  obtain rfl : number = UInt16.ofNat (previous + delta) := hOwn
  have hExact : (UInt16.ofNat (previous + delta)).toNat = previous + delta := by
    rw [UInt16.toNat_ofNat']
    exact Nat.mod_eq_of_lt (Nat.lt_succ_of_le hNumber)
  rw [hExact] at h
  refine ⟨_, .option hDelta hLength hNumber h, ?_⟩
  rw [List.cons_append, List.append_assoc _ octets tail]

/-- Every body is well-formed options with nothing behind them, with the marker behind them,
or with octets that are no option. -/
theorem exists_wellFormed (previous : Nat) (bs : Bytes) : ∃ octets options tail,
    WellFormed previous octets options ∧ bs = octets ++ tail ∧
      (tail = [] ∨ (∃ payload, tail = 0xFF :: payload) ∨
        readBody previous bs = .error .invalidOption) := by
  fun_induction readBody previous bs with
  | case1 previous => exact ⟨[], [], [], .none previous, rfl, .inl rfl⟩
  | case2 previous => exact ⟨[], [], [payloadMarker], .none previous, rfl, .inr (.inl ⟨[], rfl⟩)⟩
  | case3 previous bs hSome =>
    exact ⟨[], [], payloadMarker :: bs, .none previous, rfl, .inr (.inl ⟨bs, rfl⟩)⟩
  | case4 previous lead bs hMarker hNone =>
    exact ⟨[], [], lead :: bs, .none previous, rfl, .inr (.inr rfl)⟩
  | case5 previous lead bs hMarker o rest hRead e hRest ih =>
    obtain ⟨octets, options, tail, hOptions, rfl, hTail⟩ := ih
    obtain ⟨extended, hExtended, hAll⟩ := hOptions.cons_of_read hRead
    exact ⟨extended, _, tail, hExtended, hAll, by rwa [hRest] at hTail⟩
  | case6 previous lead bs hMarker o rest hRead others payload hRest ih =>
    obtain ⟨octets, options, tail, hOptions, rfl, hTail⟩ := ih
    obtain ⟨extended, hExtended, hAll⟩ := hOptions.cons_of_read hRead
    refine ⟨extended, _, tail, hExtended, hAll, ?_⟩
    obtain hEmpty | hMarked | hError := hTail
    · exact .inl hEmpty
    · exact .inr (.inl hMarked)
    · cases hRest.symm.trans hError

theorem readBody_eq_iff {content : Except CodecError (List Opt × Bytes)} :
    readBody previous bs = content ↔ Body previous bs content := by
  constructor
  · rintro rfl
    obtain ⟨octets, options, tail, hOptions, rfl, hTail⟩ := exists_wellFormed previous bs
    obtain rfl | ⟨payload, rfl⟩ | hError := hTail
    · rw [List.append_nil, hOptions.readBody_eq]
      exact .bare hOptions
    · rw [hOptions.readBody_marker]
      split
      · rename_i hNothing
        rw [hNothing]
        exact .marked hOptions
      · rename_i hSome
        exact .loaded hOptions hSome
    · rw [hError]
      -- Any other division into options and a tail would be read as something else.
      refine .malformed fun octets' options' tail' hOptions' hSame => ⟨?_, ?_⟩
      · rintro rfl
        rw [hSame, List.append_nil, hOptions'.readBody_eq] at hError
        cases hError
      · rintro payload rfl
        rw [hSame, hOptions'.readBody_marker] at hError
        split at hError
        · cases hError
        · cases hError
  · intro h
    cases h with
    | bare hOptions => exact hOptions.readBody_eq
    | loaded hOptions hSome => rw [hOptions.readBody_marker, if_neg hSome]
    | marked hOptions => rw [hOptions.readBody_marker, if_pos rfl]
    | malformed hOther =>
      obtain ⟨octets, options, tail, hOptions, hAll, hTail⟩ := exists_wellFormed previous bs
      have hOther := hOther octets options tail hOptions hAll
      obtain hEmpty | ⟨payload, hMarked⟩ | hError := hTail
      · exact absurd hEmpty hOther.1
      · exact absurd hMarked (hOther.2 payload)
      · exact hError

end

/-! ## The header -/

theorem toNat_version (lead : UInt8) : (lead >>> 6).toNat = lead.toNat / 64 := by
  rw [UInt8.toNat_shiftRight, show (6 : UInt8).toNat % 8 = 6 from rfl, Nat.shiftRight_eq_div_pow]

theorem version_iff {lead : UInt8} : lead >>> 6 = 1 ↔ lead.toNat / 64 = 1 := by
  rw [← toNat_version, ← UInt8.toNat_inj]
  rfl

theorem toNat_bits_ofBits (lead : UInt8) :
    (Kind.ofBits (lead >>> 4)).bits.toNat = lead.toNat / 16 % 4 := by
  have allNibbles : ∀ i : Fin 16, (Kind.ofBits (UInt8.ofNat i)).bits.toNat = i % 4 := by decide
  have hNibble := allNibbles ⟨(lead >>> 4).toNat, highNibble_lt lead⟩
  dsimp only at hNibble
  rwa [UInt8.ofNat_toNat, toNat_highNibble] at hNibble

theorem bits_injective {kind other : Kind} (h : kind.bits.toNat = other.bits.toNat) :
    kind = other := by
  cases kind <;> cases other <;> first | rfl | cases h

namespace Packet

theorem decode_of_length_lt {bs : Bytes} (h : bs.length < 4) : decode bs = .error .tooShort := by
  unfold decode
  split
  · simp only [List.length_cons] at h
    omega
  · rfl

/-- The header in numbers. -/
theorem decode_cons (lead code hi lo : UInt8) (rest : Bytes) :
    decode (lead :: code :: hi :: lo :: rest) =
      if lead.toNat / 64 = 1 then
        if lead.toNat % 16 ≤ 8 then
          if lead.toNat % 16 ≤ rest.length then
            (readBody 0 (rest.drop (lead.toNat % 16))).map fun (options, payload) =>
              { kind := Kind.ofBits (lead >>> 4)
                code
                messageId := Bytes.toUInt16 hi lo
                token := rest.take (lead.toNat % 16)
                options
                payload }
          else .error .tooShort
        else .error (.invalidTokenLength (UInt8.ofNat (lead.toNat % 16)))
      else .error (.unsupportedVersion (UInt8.ofNat (lead.toNat / 64))) := by
  have hVersion : UInt8.ofNat (lead.toNat / 64) = lead >>> 6 := by
    rw [← toNat_version, UInt8.ofNat_toNat]
  have hToken : UInt8.ofNat (lead.toNat % 16) = lead &&& 0x0F := by
    rw [← toNat_lowNibble, UInt8.ofNat_toNat]
  rw [decode, hVersion, hToken]
  simp only [ne_eq, ite_not, version_iff, toNat_lowNibble, maxTokenLength, ← Nat.not_le]
  split
  · split
    · split
      · cases readBody 0 (rest.drop (lead.toNat % 16)) with
        | error e => rfl
        | ok read => rfl
      · rfl
    · rfl
  · rfl

theorem datagram_decode (bs : Bytes) : Datagram bs (decode bs) := by
  match bs with
  | [] | [_] | [_, _] | [_, _, _] => exact .headless (by simp)
  | lead :: code :: hi :: lo :: rest =>
    rw [decode_cons]
    split
    · rename_i hVersion
      split
      · rename_i hToken
        split
        · rename_i hLong
          have hTaken : (rest.take (lead.toNat % 16)).length = lead.toNat % 16 :=
            List.length_take_of_le hLong
          have hBody := readBody_eq_iff.mp (Eq.refl (readBody 0 (rest.drop (lead.toNat % 16))))
          have hWhole : Datagram (lead :: code :: hi :: lo ::
              (rest.take (lead.toNat % 16) ++ rest.drop (lead.toNat % 16))) _ :=
            .whole hVersion (hTaken.le.trans hToken) hTaken (toNat_bits_ofBits lead)
              (Bytes.toNat_toUInt16 hi lo) hBody
          rwa [List.take_append_drop] at hWhole
        · rename_i hCut
          exact .cut hVersion hToken (Nat.lt_of_not_le hCut)
      · rename_i hToken
        exact .misfit hVersion (Nat.lt_of_not_le hToken)
    · rename_i hVersion
      exact .foreign hVersion

theorem decode_of_datagram {bs : Bytes} {outcome : Except CodecError Packet}
    (h : Datagram bs outcome) : decode bs = outcome := by
  cases h with
  | headless hShort => exact decode_of_length_lt hShort
  | foreign hVersion => rw [decode_cons, if_neg hVersion]
  | misfit hVersion hToken => rw [decode_cons, if_pos hVersion, if_neg (Nat.not_le.mpr hToken)]
  | cut hVersion hToken hCut =>
    rw [decode_cons, if_pos hVersion, if_pos hToken, if_neg (Nat.not_le.mpr hCut)]
  | @whole lead code hi lo token body kind messageId content hVersion hToken hLength hKind hId
      hBody =>
    have hKind : Kind.ofBits (lead >>> 4) = kind :=
      bits_injective ((toNat_bits_ofBits lead).trans hKind.symm)
    have hId : Bytes.toUInt16 hi lo = messageId :=
      UInt16.toNat_inj.mp ((Bytes.toNat_toUInt16 hi lo).trans hId.symm)
    rw [decode_cons, if_pos hVersion, ← hLength, if_pos hToken, if_pos (by simp), hKind, hId,
      List.take_left, List.drop_left, readBody_eq_iff.mpr hBody]

/-- The reader and the grammar agree on every string of octets: each has one outcome, and it
is the one that the grammar says. -/
theorem decode_eq_iff_datagram (bs : Bytes) (outcome : Except CodecError Packet) :
    decode bs = outcome ↔ Datagram bs outcome := by
  constructor
  · rintro rfl
    exact datagram_decode bs
  · exact decode_of_datagram

/-- An octet like the marker that extends a number is no marker. -/
example : decode [0x40, 1, 0, 0, 0xE0, 0xFF, 0xFF] = .error .invalidOption := by cbv

end Packet

end DeviceBus.Coap
