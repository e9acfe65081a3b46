import DeviceBus.Bytes

/-! # UTF-8 text

Strict reading accepts well-formed octets only. Lossy reading never fails: it
puts U+FFFD in place of every maximal ill-formed subsequence, that is of the
longest run of octets that still could have started a scalar value.
-/

namespace DeviceBus.Utf8

def encode (text : String) : Bytes :=
  text.toUTF8.data.toList

def decode? (bs : Bytes) : Option String :=
  String.fromUTF8? ⟨bs.toArray⟩

/-- An interval of octets, both ends included. -/
structure Span where
  low : UInt8
  high : UInt8

def Span.holds (s : Span) (b : UInt8) : Bool :=
  s.low ≤ b && b ≤ s.high

/-- Any continuation octet. -/
def Span.tail : Span := ⟨0x80, 0xBF⟩

/-- The intervals that the octets after `lead` must fall in, one for each of
them. No scalar value starts with an octet for which there is no answer. -/
def followers (lead : UInt8) : Option (List Span) :=
  if lead < 0x80 then some []
  else if lead < 0xC2 then none
  else if lead < 0xE0 then some [.tail]
  else if lead == 0xE0 then some [⟨0xA0, 0xBF⟩, .tail]
  else if lead == 0xED then some [⟨0x80, 0x9F⟩, .tail]
  else if lead < 0xF0 then some [.tail, .tail]
  else if lead == 0xF0 then some [⟨0x90, 0xBF⟩, .tail, .tail]
  else if lead < 0xF4 then some [.tail, .tail, .tail]
  else if lead == 0xF4 then some [⟨0x80, 0x8F⟩, .tail, .tail]
  else none

/-- How many octets from the start of `bs` fall in their intervals. -/
def agreement : List Span → Bytes → Nat
  | s :: ss, b :: bs => if s.holds b then agreement ss bs + 1 else 0
  | _, _ => 0

/-- The payload bits of a lead octet that `n` octets follow. -/
def leadBits (lead : UInt8) : Nat → UInt8
  | 0 => lead &&& 0x7F
  | 1 => lead &&& 0x1F
  | 2 => lead &&& 0x0F
  | _ => lead &&& 0x07

def scalar (lead : UInt8) (tail : Bytes) : Char :=
  Char.ofNat (tail.foldl (fun acc b => acc * 64 + (b &&& 0x3F).toNat)
    (leadBits lead tail.length).toNat)

/-- Reads scalar values one after the other; the text read so far comes
reversed in `seen`. -/
def lossyChars (seen : List Char) : Bytes → List Char
  | [] => seen.reverse
  | b :: rest =>
      match followers b with
      | none => lossyChars ('\uFFFD' :: seen) rest
      | some spans =>
          let n := agreement spans rest
          let c := if n = spans.length then scalar b (rest.take n) else '\uFFFD'
          lossyChars (c :: seen) (rest.drop n)
termination_by bs => bs.length
decreasing_by all_goals grind

/-- Reads any octets; well-formed ones are read exactly. -/
def decodeLossy (bs : Bytes) : String :=
  (decode? bs).getD (String.ofList (lossyChars [] bs))

theorem encode_append (s t : String) : encode (s ++ t) = encode s ++ encode t := by
  simp [encode]

theorem decode?_encode (text : String) : decode? (encode text) = some text := by
  unfold decode? encode String.fromUTF8?
  rw [String.toUTF8_eq_toByteArray]
  exact dif_pos text.isValidUTF8

theorem encode_inj {s t : String} : encode s = encode t ↔ s = t := by
  constructor
  · intro hSame
    have hRead := congrArg decode? hSame
    rwa [decode?_encode, decode?_encode, Option.some.injEq] at hRead
  · exact congrArg encode

theorem decodeLossy_encode (text : String) : decodeLossy (encode text) = text := by
  simp [decodeLossy, decode?_encode]

end DeviceBus.Utf8
