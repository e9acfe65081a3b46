import DeviceBus.Envelope
import Mathlib.Algebra.Group.Nat.Defs

/-! # Reading an envelope back

Numbers, keys and octet strings are read back with whatever follows them left
over. An envelope is a sequence of such fields, so that it is read back field by
field; a field that holds nothing is not written and keeps its default. As a
field that is left out is followed by a later one or by nothing, the octets also
tell envelopes apart, read back or not.
-/

namespace DeviceBus

/-! ## Fields -/

namespace Varint

variable {n m : Nat}

/-! The last octet of a number is less than 128, and the others are not. -/

theorem toNat_last (hSmall : n < 128) : (UInt8.ofNat n).toNat = n :=
  UInt8.toNat_ofNat_of_lt' (Nat.lt_trans hSmall (by decide))

theorem toNat_more (n : Nat) : (UInt8.ofNat (n % 128 + 128)).toNat = n % 128 + 128 :=
  UInt8.toNat_ofNat_of_lt' (by rw [UInt8.size]; omega)

theorem last_lt (hSmall : n < 128) : UInt8.ofNat n < 128 := by
  rw [UInt8.lt_iff_toNat_lt, toNat_last hSmall]
  exact hSmall

theorem not_more_lt (n : Nat) : ¬UInt8.ofNat (n % 128 + 128) < 128 := by
  rw [UInt8.lt_iff_toNat_lt, toNat_more]
  exact Nat.not_lt.mpr (Nat.le_add_left _ _)

theorem last_ne_more (hSmall : n < 128) (m : Nat) : UInt8.ofNat n ≠ UInt8.ofNat (m % 128 + 128) :=
  fun hSame => not_more_lt m (hSame ▸ last_lt hSmall)

theorem readPlaces?_write {places : Nat} (hLess : n < 2 ^ (7 * places + 1)) (rest : Bytes) :
    readPlaces? (places + 1) (write n ++ rest) = some (n, rest) := by
  induction places generalizing n with
  | zero =>
    have hBit : n = 0 ∨ n = 1 := by omega
    rcases hBit with rfl | rfl
    · rw [write, if_pos (by decide)]
      rfl
    · rw [write, if_pos (by decide)]
      rfl
  | succ places ih =>
    rw [write]
    split
    · rename_i hSmall
      simp [readPlaces?, last_lt hSmall, toNat_last hSmall]
    · have hHigh : n / 128 < 2 ^ (7 * places + 1) := by
        rw [Nat.div_lt_iff_lt_mul (by decide)]
        calc n < 2 ^ (7 * (places + 1) + 1) := hLess
          _ = 2 ^ (7 * places + 1 + 7) := by rw [Nat.mul_add_one, Nat.add_right_comm]
          _ = 2 ^ (7 * places + 1) * 128 := Nat.pow_add 2 _ 7
      rw [List.cons_append, readPlaces?, if_neg (not_more_lt n), ih hHigh, toNat_more,
        Option.map_some]
      dsimp only
      rw [Nat.add_sub_cancel, Nat.mod_add_div]

theorem read?_write (hLess : n < 2 ^ 64) (rest : Bytes) :
    read? (write n ++ rest) = some (n, rest) :=
  @readPlaces?_write n 9 hLess rest

/-- What is too long for 64 bits is not read. -/
theorem readPlaces?_write_of_ge {places : Nat} (hLong : 2 ^ (7 * places + 1) ≤ n) (rest : Bytes) :
    readPlaces? (places + 1) (write n ++ rest) = none := by
  induction places generalizing n with
  | zero =>
    rw [write]
    split
    · rename_i hSmall
      have hHigh : 2 ≤ UInt8.ofNat n := by
        rw [UInt8.le_iff_toNat_le, toNat_last hSmall]
        exact hLong
      simp [readPlaces?, hHigh]
    · rw [List.cons_append, readPlaces?, if_neg (not_more_lt n)]
      rfl
  | succ places ih =>
    have hPower : 2 ^ (7 * (places + 1) + 1) = 2 ^ (7 * places + 1) * 128 := by
      rw [Nat.mul_add_one, Nat.add_right_comm]
      exact Nat.pow_add 2 _ 7
    have hPositive : 0 < 2 ^ (7 * places + 1) := Nat.two_pow_pos _
    have hLarge : ¬n < 128 := by omega
    have hHigh : 2 ^ (7 * places + 1) ≤ n / 128 := by
      rw [Nat.le_div_iff_mul_le (by decide), ← hPower]
      exact hLong
    rw [write, if_neg hLarge, List.cons_append, readPlaces?, if_neg (not_more_lt n), ih hHigh,
      Option.map_none]

theorem write_append_inj {bs bs' : Bytes} (h : write n ++ bs = write m ++ bs') :
    n = m ∧ bs = bs' := by
  fun_induction write n generalizing m with
  | case1 n hSmall =>
    rw [write] at h
    split at h
    · rename_i hSmall'
      obtain ⟨hOctet, hRest⟩ := List.cons.inj h
      have hSame := congrArg UInt8.toNat hOctet
      rw [toNat_last hSmall, toNat_last hSmall'] at hSame
      exact ⟨hSame, hRest⟩
    · exact absurd (List.cons.inj h).1 (last_ne_more hSmall m)
  | case2 n hLarge ih =>
    rw [write.eq_def m] at h
    split at h
    · rename_i hSmall'
      exact absurd (List.cons.inj h).1.symm (last_ne_more hSmall' n)
    · obtain ⟨hOctet, hOthers⟩ := List.cons.inj h
      obtain ⟨hHigh, hRest⟩ := ih hOthers
      have hSame := congrArg UInt8.toNat hOctet
      rw [toNat_more, toNat_more] at hSame
      exact ⟨by omega, hRest⟩

end Varint

namespace Wire

theorem Form.number_lt (form : Form) : form.number < 8 := by
  cases form with
  | _ => decide

theorem Form.ofNumber?_number (form : Form) : ofNumber? form.number = some form := by
  cases form with
  | _ => rfl

theorem Key.read?_write {key : Key} (hTag : 0 < key.tag) (hLess : key.tag < 2 ^ 29)
    (rest : Bytes) : read? (key.write ++ rest) = some (key, rest) := by
  have hForm := key.form.number_lt
  have hRead : Varint.read? (key.write ++ rest) = some (key.tag * 8 + key.form.number, rest) :=
    Varint.read?_write (by omega) rest
  have hNumber : (key.tag * 8 + key.form.number) % 8 = key.form.number := by omega
  have hDiv : (key.tag * 8 + key.form.number) / 8 = key.tag := by omega
  have hSize : key.tag * 8 + key.form.number < UInt32.size ∧ key.tag ≠ 0 := by
    constructor
    · rw [UInt32.size]
      omega
    · omega
  simp only [read?, hRead, Option.bind_eq_bind, Option.bind_some, hNumber, Form.ofNumber?_number,
    hDiv]
  exact if_pos hSize

theorem Key.tag_eq_of_write_append {key key' : Key} {bs bs' : Bytes}
    (h : key.write ++ bs = key'.write ++ bs') : key.tag = key'.tag := by
  have hNumber := (Varint.write_append_inj h).1
  have hForm := key.form.number_lt
  have hForm' := key'.form.number_lt
  omega

theorem Key.write_ne_nil (key : Key) : key.write ≠ [] := by
  unfold Key.write Varint.write
  split
  · exact List.cons_ne_nil _ _
  · exact List.cons_ne_nil _ _

theorem readDelimited?_write_eq_some_iff {content rest : Bytes} {r : Bytes × Bytes} :
    readDelimited? (writeDelimited content ++ rest) = some r ↔
      content.length < 2 ^ 64 ∧ r = (content, rest) := by
  rw [writeDelimited, List.append_assoc]
  rcases Nat.lt_or_ge content.length (2 ^ 64) with hFits | hLong
  · have hRead : readDelimited? (Varint.write content.length ++ (content ++ rest)) =
        some (content, rest) := by
      simp [readDelimited?, Varint.read?_write hFits]
    rw [hRead, and_iff_right hFits, Option.some.injEq, eq_comm]
  · have hNone : Varint.read? (Varint.write content.length ++ (content ++ rest)) = none :=
      @Varint.readPlaces?_write_of_ge content.length 9 hLong _
    rw [readDelimited?, hNone]
    constructor
    · intro hRead
      cases hRead
    · exact fun h => absurd h.1 (Nat.not_lt.mpr hLong)

theorem writeDelimited_append_inj {content content' bs bs' : Bytes}
    (h : writeDelimited content ++ bs = writeDelimited content' ++ bs') :
    content = content' ∧ bs = bs' := by
  rw [writeDelimited, writeDelimited, List.append_assoc, List.append_assoc] at h
  obtain ⟨hLength, hRest⟩ := Varint.write_append_inj h
  exact List.append_inj hRest hLength

end Wire

/-! ## Envelopes -/

namespace Envelope

open Wire

variable {e e' : Envelope} {tag : Nat} {content : Bytes}

theorem readFields?_key {key : Key} (hTag : 0 < key.tag) (hLess : key.tag < 2 ^ 29) (bs : Bytes) :
    readFields? e (key.write ++ bs) =
      (readField? e key bs).bind fun r => readFields? r.1 r.2 := by
  have hRead : Key.read? (key.write ++ bs) = some (key, bs) := Key.read?_write hTag hLess bs
  rw [readFields?, if_neg]
  · split
    · rename_i hNone
      rw [hRead] at hNone
      cases hNone
    · rename_i hSome
      rw [hRead] at hSome
      cases hSome
      split
      · rename_i hNone
        rw [hNone, Option.bind_none]
      · rename_i hSome
        rw [hSome, Option.bind_some]
  · intro hEmpty
    rw [hEmpty] at hRead
    cases hRead

theorem readFields?_writeOctets_eq_some_iff {e'' : Envelope} {rest : Bytes} (hTag : 0 < tag)
    (hLess : tag < 2 ^ 29)
    (hField : ∀ rest r, readField? e ⟨tag, .delimited⟩ (writeDelimited content ++ rest) = some r ↔
      content.length < 2 ^ 64 ∧ r = (e', rest))
    (hEmpty : content = [] → e' = e) :
    readFields? e (writeOctets tag content ++ rest) = some e'' ↔
      content.length < 2 ^ 64 ∧ readFields? e' rest = some e'' := by
  unfold writeOctets
  split
  · rename_i hNone
    rw [hEmpty hNone, List.nil_append, hNone]
    exact (and_iff_right (Nat.two_pow_pos 64)).symm
  · rw [List.append_assoc, readFields?_key hTag hLess, Option.bind_eq_some_iff]
    constructor
    · rintro ⟨r, hOne, hRest⟩
      obtain ⟨hFits, rfl⟩ := (hField rest r).mp hOne
      exact ⟨hFits, hRest⟩
    · rintro ⟨hFits, hRest⟩
      exact ⟨(e', rest), (hField rest _).mpr ⟨hFits, rfl⟩, hRest⟩

theorem readFields?_writeInt {n : Int64} (hTag : 0 < tag) (hLess : tag < 2 ^ 29)
    (hField : ∀ rest, readField? e ⟨tag, .varint⟩ (Varint.write n.toUInt64.toNat ++ rest) =
      some (e', rest))
    (hZero : n = 0 → e' = e) (rest : Bytes) :
    readFields? e (writeInt tag n ++ rest) = readFields? e' rest := by
  unfold writeInt
  split
  · rename_i hNone
    rw [hZero hNone, List.nil_append]
  · rw [List.append_assoc, readFields?_key hTag hLess, hField, Option.bind_some]

theorem eq_empty_of_encode {text : String} (h : Utf8.encode text = []) : text = "" := by
  have hDecode := Utf8.decode?_encode text
  have hEmpty := Utf8.decode?_encode ""
  have hSame : Utf8.encode "" = [] := by decide
  rw [h] at hDecode
  rw [hSame, hDecode] at hEmpty
  exact Option.some.inj hEmpty

theorem readText?_write_eq_some_iff {text : String} {rest : Bytes} {r : String × Bytes} :
    readText? (writeDelimited (Utf8.encode text) ++ rest) = some r ↔
      (Utf8.encode text).length < 2 ^ 64 ∧ r = (text, rest) := by
  simp only [readText?, Option.bind_eq_bind, Option.bind_eq_some_iff,
    readDelimited?_write_eq_some_iff]
  constructor
  · rintro ⟨delimited, ⟨hFits, rfl⟩, text', hText, hResult⟩
    cases (Utf8.decode?_encode text).symm.trans hText
    exact ⟨hFits, (Option.some.inj hResult).symm⟩
  · rintro ⟨hFits, rfl⟩
    exact ⟨_, ⟨hFits, rfl⟩, text, Utf8.decode?_encode text, rfl⟩

theorem readFields?_writeText_eq_some_iff (set : String → Envelope) {text : String}
    {e'' : Envelope} {rest : Bytes} (hTag : 0 < tag) (hLess : tag < 2 ^ 29)
    (hField : ∀ bs, readField? e ⟨tag, .delimited⟩ bs =
      (readText? bs).map fun r => (set r.1, r.2))
    (hEmpty : set "" = e) :
    readFields? e (writeText tag text ++ rest) = some e'' ↔
      (Utf8.encode text).length < 2 ^ 64 ∧ readFields? (set text) rest = some e'' := by
  apply readFields?_writeOctets_eq_some_iff hTag hLess
  · intro rest r
    rw [hField, Option.map_eq_some_iff]
    constructor
    · rintro ⟨read, hText, rfl⟩
      obtain ⟨hFits, rfl⟩ := readText?_write_eq_some_iff.mp hText
      exact ⟨hFits, rfl⟩
    · rintro ⟨hFits, rfl⟩
      exact ⟨_, readText?_write_eq_some_iff.mpr ⟨hFits, rfl⟩, rfl⟩
  · intro hNone
    rw [eq_empty_of_encode hNone, hEmpty]

/-- Every field is short enough for its length to be written in 64 bits, as all that
lies in memory is. -/
structure Fits (e : Envelope) : Prop where
  channel : (Utf8.encode e.channel).length < 2 ^ 64
  subtopic : (Utf8.encode e.subtopic).length < 2 ^ 64
  publisher : (Utf8.encode e.publisher).length < 2 ^ 64
  protocol : (Utf8.encode e.protocol).length < 2 ^ 64
  payload : e.payload.length < 2 ^ 64

theorem readInt_write {n : Int64} (rest : Bytes) :
    Varint.read? (Varint.write n.toUInt64.toNat ++ rest) = some (n.toUInt64.toNat, rest) :=
  Varint.read?_write n.toUInt64.toNat_lt rest

theorem readFields?_created {channel subtopic publisher protocol : String} {payload : Bytes}
    (created : Int64) (rest : Bytes) :
    readFields? { channel, subtopic, publisher, protocol, payload } (writeInt 6 created ++ rest) =
      readFields? { channel, subtopic, publisher, protocol, payload, created } rest :=
  readFields?_writeInt (by decide) (by decide)
    (fun rest => by
      simp only [readField?, readInt_write, Option.map_some, UInt64.ofNat_toNat]
      rfl)
    (by rintro rfl; rfl) rest

theorem ofBytes?_eq_readFields? (e : Envelope) : ofBytes? e.toBytes =
    readFields? {} (writeText 1 e.channel ++ (writeText 2 e.subtopic ++ (writeText 3 e.publisher ++
      (writeText 4 e.protocol ++ (writeOctets 5 e.payload ++ (writeInt 6 e.created ++ [])))))) := by
  simp only [ofBytes?, toBytes, List.append_assoc, List.append_nil]

/-- What is read of an envelope's octets is the envelope itself, and nothing is read only if
a field is too long for its length to be written. -/
theorem ofBytes?_toBytes_eq_some_iff : ofBytes? e.toBytes = some e' ↔ e.Fits ∧ e' = e := by
  obtain ⟨channel, subtopic, publisher, protocol, payload, created⟩ := e
  rw [ofBytes?_eq_readFields?,
    readFields?_writeText_eq_some_iff (fun channel => { channel })
      (by decide) (by decide) (fun _ => rfl) rfl,
    readFields?_writeText_eq_some_iff (fun subtopic => { channel, subtopic })
      (by decide) (by decide) (fun _ => rfl) rfl,
    readFields?_writeText_eq_some_iff (fun publisher => { channel, subtopic, publisher })
      (by decide) (by decide) (fun _ => rfl) rfl,
    readFields?_writeText_eq_some_iff (fun protocol => { channel, subtopic, publisher, protocol })
      (by decide) (by decide) (fun _ => rfl) rfl]
  have hPayload : ∀ rest, readFields? { channel, subtopic, publisher, protocol }
      (writeOctets 5 payload ++ rest) = some e' ↔ payload.length < 2 ^ 64 ∧
        readFields? { channel, subtopic, publisher, protocol, payload } rest = some e' := by
    intro rest
    apply readFields?_writeOctets_eq_some_iff (by decide) (by decide)
    · intro rest r
      rw [readField?, Option.map_eq_some_iff]
      constructor
      · rintro ⟨read, hOctets, rfl⟩
        obtain ⟨hFits, rfl⟩ := readDelimited?_write_eq_some_iff.mp hOctets
        exact ⟨hFits, rfl⟩
      · rintro ⟨hFits, rfl⟩
        exact ⟨_, readDelimited?_write_eq_some_iff.mpr ⟨hFits, rfl⟩, rfl⟩
    · rintro rfl
      rfl
  rw [hPayload, readFields?_created, readFields?, if_pos rfl, Option.some.injEq]
  constructor
  · rintro ⟨hChannel, hSubtopic, hPublisher, hProtocol, hPayload, hSame⟩
    exact ⟨⟨hChannel, hSubtopic, hPublisher, hProtocol, hPayload⟩, hSame.symm⟩
  · rintro ⟨⟨hChannel, hSubtopic, hPublisher, hProtocol, hPayload⟩, hSame⟩
    exact ⟨hChannel, hSubtopic, hPublisher, hProtocol, hPayload, hSame.symm⟩

theorem ofBytes?_toBytes (hFits : e.Fits) : ofBytes? e.toBytes = some e :=
  ofBytes?_toBytes_eq_some_iff.mpr ⟨hFits, rfl⟩

theorem eq_of_ofBytes? (hRead : ofBytes? e.toBytes = some e') : e' = e :=
  (ofBytes?_toBytes_eq_some_iff.mp hRead).2

/-! ## Telling envelopes apart -/

/-- Nothing follows, or the key of a field with a larger tag. -/
def StartsAfter (tag : Nat) (bs : Bytes) : Prop :=
  bs = [] ∨ ∃ (key : Key) (rest : Bytes), tag < key.tag ∧ bs = key.write ++ rest

theorem StartsAfter.mono {least : Nat} {bs : Bytes} (h : StartsAfter tag bs)
    (hLess : least < tag) : StartsAfter least bs := by
  obtain rfl | ⟨key, rest, hTag, rfl⟩ := h
  · exact .inl rfl
  · exact .inr ⟨key, rest, Nat.lt_trans hLess hTag, rfl⟩

theorem StartsAfter.ne_write {key : Key} {bs : Bytes} (h : StartsAfter key.tag bs)
    (rest : Bytes) : bs ≠ key.write ++ rest := by
  rintro rfl
  obtain hNone | ⟨key', rest', hTag, hSame⟩ := h
  · exact key.write_ne_nil (List.append_eq_nil_iff.mp hNone).1
  · exact absurd (Key.tag_eq_of_write_append hSame) (Nat.ne_of_lt hTag)

theorem startsAfter_writeOctets {least : Nat} {rest : Bytes} (hLess : least < tag)
    (h : StartsAfter tag rest) : StartsAfter least (writeOctets tag content ++ rest) := by
  unfold writeOctets
  split
  · exact h.mono hLess
  · rw [List.append_assoc]
    exact .inr ⟨⟨tag, .delimited⟩, _, hLess, rfl⟩

theorem startsAfter_writeInt {least : Nat} {n : Int64} (hLess : least < tag) :
    StartsAfter least (writeInt tag n) := by
  unfold writeInt
  split
  · exact .inl rfl
  · exact .inr ⟨⟨tag, .varint⟩, _, hLess, rfl⟩

theorem writeOctets_append_inj {content' bs bs' : Bytes} (hAfter : StartsAfter tag bs)
    (hAfter' : StartsAfter tag bs')
    (h : writeOctets tag content ++ bs = writeOctets tag content' ++ bs') :
    content = content' ∧ bs = bs' := by
  unfold writeOctets at h
  split at h
  · rename_i hNone
    split at h
    · rename_i hNone'
      exact ⟨hNone.trans hNone'.symm, h⟩
    · rw [List.nil_append, List.append_assoc] at h
      exact absurd h (StartsAfter.ne_write hAfter _)
  · split at h
    · rw [List.nil_append, List.append_assoc] at h
      exact absurd h.symm (StartsAfter.ne_write hAfter' _)
    · rw [List.append_assoc, List.append_assoc] at h
      exact writeDelimited_append_inj (List.append_cancel_left h)

theorem writeText_append_inj {text text' : String} {bs bs' : Bytes} (hAfter : StartsAfter tag bs)
    (hAfter' : StartsAfter tag bs')
    (h : writeText tag text ++ bs = writeText tag text' ++ bs') : text = text' ∧ bs = bs' := by
  obtain ⟨hOctets, hRest⟩ := writeOctets_append_inj hAfter hAfter' h
  have hDecoded := congrArg Utf8.decode? hOctets
  rw [Utf8.decode?_encode, Utf8.decode?_encode] at hDecoded
  exact ⟨Option.some.inj hDecoded, hRest⟩

theorem writeInt_injective : Function.Injective (writeInt 6) := by
  intro n n' h
  have hRead := congrArg (fun bs => readFields? {} (bs ++ [])) h
  rw [readFields?_created, readFields?_created, readFields?, if_pos rfl, readFields?,
    if_pos rfl] at hRead
  exact (Envelope.mk.inj (Option.some.inj hRead)).2.2.2.2.2

theorem toBytes_injective : Function.Injective toBytes := by
  intro e e' h
  have hPayload (e : Envelope) : StartsAfter 5 (writeInt 6 e.created) :=
    startsAfter_writeInt (by decide)
  have hProtocol (e : Envelope) :
      StartsAfter 4 (writeOctets 5 e.payload ++ writeInt 6 e.created) :=
    startsAfter_writeOctets (by decide) (hPayload e)
  have hPublisher (e : Envelope) : StartsAfter 3 (writeText 4 e.protocol ++
      (writeOctets 5 e.payload ++ writeInt 6 e.created)) :=
    startsAfter_writeOctets (by decide) (hProtocol e)
  have hSubtopic (e : Envelope) : StartsAfter 2 (writeText 3 e.publisher ++
      (writeText 4 e.protocol ++ (writeOctets 5 e.payload ++ writeInt 6 e.created))) :=
    startsAfter_writeOctets (by decide) (hPublisher e)
  have hChannel (e : Envelope) : StartsAfter 1 (writeText 2 e.subtopic ++
      (writeText 3 e.publisher ++ (writeText 4 e.protocol ++
        (writeOctets 5 e.payload ++ writeInt 6 e.created)))) :=
    startsAfter_writeOctets (by decide) (hSubtopic e)
  simp only [toBytes, List.append_assoc] at h
  obtain ⟨hOne, h⟩ := writeText_append_inj (hChannel e) (hChannel e') h
  obtain ⟨hTwo, h⟩ := writeText_append_inj (hSubtopic e) (hSubtopic e') h
  obtain ⟨hThree, h⟩ := writeText_append_inj (hPublisher e) (hPublisher e') h
  obtain ⟨hFour, h⟩ := writeText_append_inj (hProtocol e) (hProtocol e') h
  obtain ⟨hFive, h⟩ := writeOctets_append_inj (hPayload e) (hPayload e') h
  have hSix := writeInt_injective h
  cases e
  cases e'
  congr

/-- An envelope is read back from what it is written as, whatever its texts, its payload and
its time, as long as its fields are no longer than a length can say, which is longer than
memory. No two envelopes are written the same. -/
theorem reads_back_iff_fits :
    (∀ e : Envelope, ofBytes? e.toBytes = some e ↔ e.Fits) ∧ Function.Injective toBytes :=
  ⟨fun _ => ofBytes?_toBytes_eq_some_iff.trans (and_iff_left rfl), toBytes_injective⟩

/-- A negative number takes ten octets. -/
example : toBytes { subtopic := "ä", created := -1 } =
    [18, 2, 0xC3, 0xA4, 48, 255, 255, 255, 255, 255, 255, 255, 255, 255, 1] := by cbv

end Envelope

end DeviceBus
