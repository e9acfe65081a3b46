import Mathlib
import DeviceBus.Proofs.Coap.Options

/-! # Datagrams and packets

Writing a packet puts its options in the order of their numbers and changes
nothing else; reading the datagram gives that packet back. A datagram that
reads as a packet is the one that the packet is written as, so that packets
with ordered options and the datagrams that can be read match one to one.
-/

namespace DeviceBus.Coap

/-! ## The order of the options -/

/-- `sorted` has the options in the order of their numbers, those of one number
in their former order. -/
structure StablySorted (options sorted : List Opt) : Prop where
  perm : sorted.Perm options
  ordered : sorted.Pairwise fun a b => a.number ≤ b.number
  stable : ∀ number, (sorted.filter fun o => o.number == number) =
    options.filter fun o => o.number == number

def notAfter (a b : Opt) : Bool :=
  decide (a.number ≤ b.number)

theorem notAfter_trans (a b c : Opt) (hab : notAfter a b = true) (hbc : notAfter b c = true) :
    notAfter a c = true := by
  simp only [notAfter, decide_eq_true_eq] at hab hbc ⊢
  exact UInt16.le_trans hab hbc

theorem notAfter_total (a b : Opt) : (notAfter a b || notAfter b a) = true := by
  simp only [notAfter, Bool.or_eq_true, decide_eq_true_eq]
  exact UInt16.le_total a.number b.number

theorem sortedOptions_ordered (p : Packet) :
    p.sortedOptions.Pairwise fun a b => a.number ≤ b.number := by
  have hOrder : p.sortedOptions.Pairwise fun a b => notAfter a b = true :=
    List.pairwise_mergeSort notAfter_trans notAfter_total p.options
  simpa only [notAfter, decide_eq_true_eq] using hOrder

theorem sortedOptions_of_ordered {p : Packet}
    (h : p.options.Pairwise fun a b => a.number ≤ b.number) : p.sortedOptions = p.options := by
  apply List.mergeSort_of_pairwise
  simpa only [decide_eq_true_eq] using h

theorem stablySorted_sortedOptions (p : Packet) : StablySorted p.options p.sortedOptions where
  perm := List.mergeSort_perm p.options _
  ordered := sortedOptions_ordered p
  stable number := by
    -- Options of one number are in order before sorting, and sorting keeps them as a sublist.
    have hPerm : p.sortedOptions.Perm p.options := List.mergeSort_perm p.options _
    have hEqual : (p.options.filter fun o => o.number == number).Pairwise
        fun a b => notAfter a b = true := by
      apply List.pairwise_of_forall_mem_list
      intro a ha b hb
      simp only [List.mem_filter, beq_iff_eq] at ha hb
      simp only [notAfter, decide_eq_true_eq, ha.2, hb.2]
      exact UInt16.le_refl number
    have hKept : (p.options.filter fun o => o.number == number).Sublist p.sortedOptions :=
      List.sublist_mergeSort notAfter_trans notAfter_total hEqual List.filter_sublist
    have hFiltered := hKept.filter fun o => o.number == number
    rw [List.filter_filter] at hFiltered
    simp only [Bool.and_self] at hFiltered
    exact (hFiltered.eq_of_length (hPerm.filter _).length_eq.symm).symm

/-! ## The header -/

/-- The first octet of a datagram in two nibbles: version and kind, and the
length of the token. -/
theorem lead_eq (kind : Kind) (length : UInt8) :
    (0x40 : UInt8) ||| (kind.bits <<< (4 : UInt8)) ||| length =
      (4 + kind.bits) <<< 4 ||| length := by
  have hHigh : (0x40 : UInt8) ||| (kind.bits <<< (4 : UInt8)) = (4 + kind.bits) <<< 4 := by
    cases kind <;> decide
  rw [hHigh]

theorem versionAndKind_lt (kind : Kind) : (4 + kind.bits).toNat < 16 := by
  cases kind <;> decide

theorem ofBits_bits (kind : Kind) : Kind.ofBits (4 + kind.bits) = kind := by
  cases kind <;> decide

theorem version_eq (b : UInt8) : b >>> 6 = (b >>> 4) >>> 2 := by
  apply UInt8.toNat_inj.mp
  rw [UInt8.toNat_shiftRight, UInt8.toNat_shiftRight, toNat_highNibble,
    show (6 : UInt8).toNat % 8 = 6 from rfl, show (2 : UInt8).toNat % 8 = 2 from rfl,
    Nat.shiftRight_eq_div_pow, Nat.shiftRight_eq_div_pow]
  omega

theorem version_of_kind (kind : Kind) : (4 + kind.bits) >>> 2 = 1 := by
  cases kind <;> decide

/-- A nibble with version one holds nothing but the version and a kind. -/
theorem bits_ofBits {b : UInt8} (hb : b.toNat < 16) (hVersion : b >>> 2 = 1) :
    4 + (Kind.ofBits b).bits = b := by
  have allNibbles : ∀ i : Fin 16, UInt8.ofNat i >>> 2 = 1 →
      4 + (Kind.ofBits (UInt8.ofNat i)).bits = UInt8.ofNat i := by decide
  simpa using allNibbles ⟨b.toNat, hb⟩ (by simpa using hVersion)

/-! ## Packets -/

namespace Packet

theorem encode_eq_ok_iff {p : Packet} {bs : Bytes} :
    p.encode = .ok bs ↔ p.token.length ≤ maxTokenLength ∧ ∃ options,
      writeOptions? 0 p.sortedOptions = some options ∧
      bs = ((4 + p.kind.bits) <<< 4 ||| UInt8.ofNat p.token.length) :: p.code ::
        (Bytes.ofUInt16 p.messageId ++ (p.token ++ (options ++ payloadTail p.payload))) := by
  unfold encode
  split
  · rename_i hToken
    split
    · rename_i hNone
      simp [hNone]
    · rename_i options hOptions
      simp only [hOptions, lead_eq, payloadTail, hToken, true_and, Option.some.injEq,
        exists_eq_left', Except.ok.injEq, List.cons_append, List.append_assoc]
      exact eq_comm
  · rename_i hToken
    simp [hToken]

theorem exists_encode_iff (p : Packet) : (∃ bs, p.encode = .ok bs) ↔
    p.token.length ≤ maxTokenLength ∧ ∀ o ∈ p.options, o.value.length ≤ maxExtended := by
  have hSame : (∀ o ∈ p.sortedOptions, o.value.length ≤ maxExtended) ↔
      ∀ o ∈ p.options, o.value.length ≤ maxExtended := by
    simp only [(stablySorted_sortedOptions p).perm.mem_iff]
  rw [← hSame, ← exists_writeOptions?_iff 0]
  constructor
  · rintro ⟨bs, hEncode⟩
    obtain ⟨hToken, options, hOptions, -⟩ := encode_eq_ok_iff.mp hEncode
    exact ⟨hToken, options, hOptions⟩
  · rintro ⟨hToken, options, hOptions⟩
    exact ⟨_, encode_eq_ok_iff.mpr ⟨hToken, options, hOptions, rfl⟩⟩

theorem decode_eq_ok_iff {bs : Bytes} {p : Packet} :
    decode bs = .ok p ↔ ∃ lead hi lo rest, bs = lead :: p.code :: hi :: lo :: rest ∧
      lead >>> 6 = 1 ∧ (lead &&& 0x0F).toNat ≤ maxTokenLength ∧
      (lead &&& 0x0F).toNat ≤ rest.length ∧ p.kind = Kind.ofBits (lead >>> 4) ∧
      p.messageId = Bytes.toUInt16 hi lo ∧ p.token = rest.take (lead &&& 0x0F).toNat ∧
      readBody 0 (rest.drop (lead &&& 0x0F).toNat) = .ok (p.options, p.payload) := by
  constructor
  · intro h
    unfold decode at h
    split at h
    · rename_i lead code hi lo rest
      dsimp only at h
      split at h
      · cases h
      · rename_i hVersion
        split at h
        · cases h
        · rename_i hToken
          split at h
          · cases h
          · rename_i hLong
            split at h
            · cases h
            · rename_i options payload hBody
              cases h
              exact ⟨lead, hi, lo, rest, rfl, Decidable.not_not.mp hVersion,
                Nat.le_of_not_lt hToken, Nat.le_of_not_lt hLong, rfl, rfl, rfl, hBody⟩
    · cases h
  · rintro ⟨lead, hi, lo, rest, rfl, hVersion, hToken, hLong, hKind, hId, hTaken, hBody⟩
    simp only [decode, hVersion, ne_eq, not_true_eq_false, if_false, Nat.not_lt.mpr hToken,
      Nat.not_lt.mpr hLong, hBody, ← hKind, ← hId, ← hTaken]

/-- What is written reads as the packet with its options in order. -/
theorem decode_encode {p : Packet} {bs : Bytes} (h : p.encode = .ok bs) :
    decode bs = .ok { p with options := p.sortedOptions } := by
  obtain ⟨hToken, options, hOptions, rfl⟩ := encode_eq_ok_iff.mp h
  have hToken' : p.token.length ≤ 8 := hToken
  have hHigh := versionAndKind_lt p.kind
  have hLength : (UInt8.ofNat p.token.length).toNat = p.token.length := by
    rw [UInt8.toNat_ofNat']
    omega
  have hLow : (UInt8.ofNat p.token.length).toNat < 16 := by omega
  refine decode_eq_ok_iff.mpr ⟨_, _, _, _, rfl, ?_, ?_, ?_, ?_, ?_, ?_, ?_⟩
  · rw [version_eq, highNibble_joined hHigh hLow, version_of_kind]
  · rwa [lowNibble_joined hHigh hLow, hLength]
  · rw [lowNibble_joined hHigh hLow, hLength]
    simp
  · rw [highNibble_joined hHigh hLow, ofBits_bits]
  · exact (Bytes.toUInt16_ofUInt16 p.messageId).symm
  · rw [lowNibble_joined hHigh hLow, hLength]
    simp
  · rw [lowNibble_joined hHigh hLow, hLength]
    have hOrder : Ascending 0 p.sortedOptions :=
      ascending_iff.mpr ⟨fun _ _ => Nat.zero_le _, sortedOptions_ordered p⟩
    simpa using readBody_writeOptions? hOrder hOptions p.payload

/-- A datagram reads only as a packet that is written like it. -/
theorem encode_of_decode {bs : Bytes} {p : Packet} (h : decode bs = .ok p) :
    p.encode = .ok bs := by
  obtain ⟨lead, hi, lo, rest, rfl, hVersion, hToken, hLong, hKind, hId, hTaken, hBody⟩ :=
    decode_eq_ok_iff.mp h
  obtain ⟨hOrder, options, hOptions, hDropped⟩ := writeOptions?_of_readBody hBody
  have hLength : p.token.length = (lead &&& 0x0F).toNat := by
    rw [hTaken, List.length_take]
    omega
  have hSorted : p.sortedOptions = p.options :=
    sortedOptions_of_ordered (ascending_iff.mp hOrder).2
  refine encode_eq_ok_iff.mpr ⟨by omega, options, by rwa [hSorted], ?_⟩
  have hHigh : (4 : UInt8) + p.kind.bits = lead >>> 4 := by
    rw [hKind]
    exact bits_ofBits (highNibble_lt lead) (by rwa [← version_eq])
  have hLow : UInt8.ofNat p.token.length = lead &&& 0x0F := by
    rw [hLength, UInt8.ofNat_toNat]
  rw [hHigh, hLow, joined_nibbles, hId, Bytes.ofUInt16_toUInt16, ← hDropped, hTaken,
    List.take_append_drop]
  rfl

/-! ## What a sorted packet tells -/

theorem optionValues_of_stablySorted {p q : Packet} (h : StablySorted p.options q.options)
    (number : UInt16) : q.optionValues number = p.optionValues number :=
  congrArg (List.map Opt.value) (h.stable number)

theorem uriQuery_of_stablySorted {p q : Packet} (h : StablySorted p.options q.options) :
    q.uriQuery = p.uriQuery :=
  congrArg (List.map Utf8.decodeLossy) (optionValues_of_stablySorted h _)

/-- A packet can be written exactly if its token and its option values are not
too long, and is then read back as it was, with its options stably sorted. All
that a packet tells about its options is kept. -/
theorem encode_then_decode (p : Packet) :
    ((∃ bs, p.encode = .ok bs) ↔
      p.token.length ≤ 8 ∧ ∀ o ∈ p.options, o.value.length ≤ 65804) ∧
    ∀ bs, p.encode = .ok bs → ∃ q, decode bs = .ok q ∧
      StablySorted p.options q.options ∧ q = { p with options := q.options } ∧
      (∀ number, q.optionValues number = p.optionValues number) ∧
      q.uriPath = p.uriPath ∧ q.uriQuery = p.uriQuery ∧
      (∀ name, q.queryParam name = p.queryParam name) ∧ q.observe = p.observe := by
  refine ⟨exists_encode_iff p, fun bs h => ⟨_, decode_encode h, ?_⟩⟩
  have hSorted := stablySorted_sortedOptions p
  have hValues := optionValues_of_stablySorted (q := { p with options := p.sortedOptions }) hSorted
  have hQuery := uriQuery_of_stablySorted (q := { p with options := p.sortedOptions }) hSorted
  refine ⟨hSorted, rfl, hValues, ?_, hQuery, ?_, ?_⟩
  · exact congrArg (List.map Utf8.decodeLossy) (hValues Opt.uriPathNumber)
  · intro name
    unfold queryParam
    rw [hQuery]
  · exact congrArg (fun values => values.head?.map decodeUint) (hValues Opt.observeNumber)

/-- Options out of order, one number twice, and values that look like the mark
before the payload. -/
def shuffled : Packet where
  kind := .confirmable
  code := Code.get
  messageId := 0x1234
  token := [7]
  options := [⟨300, [0xFF]⟩, ⟨11, [0x61]⟩, ⟨300, []⟩, ⟨6, []⟩]
  payload := [0xFF]

def shuffledBytes : Bytes :=
  [0x41, 1, 0x12, 0x34, 7, 0x60, 0x51, 0x61, 0xE1, 0, 20, 0xFF, 0x00, 0xFF, 0xFF]

theorem encode_then_decode_shuffled :
    shuffled.encode = .ok shuffledBytes ∧ ∃ q, decode shuffledBytes = .ok q ∧
      StablySorted shuffled.options q.options ∧ q.uriPath = shuffled.uriPath := by
  have hBytes : shuffled.encode = .ok shuffledBytes := by cbv
  obtain ⟨q, hDecode, hSorted, -, -, hPath, -⟩ :=
    (encode_then_decode shuffled).2 shuffledBytes hBytes
  exact ⟨hBytes, q, hDecode, hSorted, hPath⟩

/-- The form of a datagram is canonical: what reads as a packet is what the
packet is written as. So no two datagrams read as the same packet, and those
that can be read are those that can be written. -/
theorem decode_canonical :
    (∀ bs p, decode bs = .ok p → p.encode = .ok bs) ∧
    (∀ bs bs' p, decode bs = .ok p → decode bs' = .ok p → bs = bs') ∧
    ∀ bs, (∃ p, decode bs = .ok p) ↔ ∃ p, encode p = .ok bs := by
  refine ⟨fun bs p => encode_of_decode, ?_, fun bs => ⟨?_, ?_⟩⟩
  · intro bs bs' p h h'
    have hSame : Except.ok bs = Except.ok bs' :=
      (encode_of_decode h).symm.trans (encode_of_decode h')
    exact Except.ok.inj hSame
  · rintro ⟨p, h⟩
    exact ⟨p, encode_of_decode h⟩
  · rintro ⟨p, h⟩
    exact ⟨_, decode_encode h⟩

theorem decode_canonical_shuffled :
    decode shuffledBytes = .ok { shuffled with options := shuffled.sortedOptions } ∧
      encode { shuffled with options := shuffled.sortedOptions } = .ok shuffledBytes := by
  have hDecode : decode shuffledBytes =
      .ok { shuffled with options := shuffled.sortedOptions } := by cbv
  exact ⟨hDecode, decode_canonical.1 _ _ hDecode⟩

end Packet

end DeviceBus.Coap
