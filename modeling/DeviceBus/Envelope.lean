import DeviceBus.Text.Utf8
import DeviceBus.Wire.Field

/-! # Message envelopes

The envelope is all that backends carry. It travels as a message of tagged
fields in the order of their tags; fields that hold nothing are left out. A
reader takes the last value of each field and passes over fields that it does
not know.
-/

namespace DeviceBus

structure Envelope where
  channel : String := ""
  subtopic : String := ""
  publisher : String := ""
  /-- The front end that the message came in through. -/
  protocol : String := ""
  payload : Bytes := []
  /-- Nanoseconds since the epoch. -/
  created : Int64 := 0
  deriving DecidableEq

namespace Envelope

open Wire

def writeOctets (tag : Nat) (content : Bytes) : Bytes :=
  if content = [] then [] else Key.write ⟨tag, .delimited⟩ ++ writeDelimited content

def writeText (tag : Nat) (text : String) : Bytes :=
  writeOctets tag (Utf8.encode text)

/-- A negative number is written as its 64-bit two's complement. -/
def writeInt (tag : Nat) (n : Int64) : Bytes :=
  if n = 0 then [] else Key.write ⟨tag, .varint⟩ ++ Varint.write n.toUInt64.toNat

def toBytes (e : Envelope) : Bytes :=
  writeText 1 e.channel ++ writeText 2 e.subtopic ++ writeText 3 e.publisher ++
    writeText 4 e.protocol ++ writeOctets 5 e.payload ++ writeInt 6 e.created

def readText? (bs : Bytes) : Option (String × Bytes) := do
  let (content, rest) ← readDelimited? bs
  let text ← Utf8.decode? content
  return (text, rest)

/-- Reads the content of the field with the given key into the envelope. -/
def readField? (e : Envelope) (key : Key) (bs : Bytes) : Option (Envelope × Bytes) :=
  match key with
  | ⟨1, .delimited⟩ => (readText? bs).map fun (text, rest) => ({ e with channel := text }, rest)
  | ⟨2, .delimited⟩ => (readText? bs).map fun (text, rest) => ({ e with subtopic := text }, rest)
  | ⟨3, .delimited⟩ => (readText? bs).map fun (text, rest) => ({ e with publisher := text }, rest)
  | ⟨4, .delimited⟩ => (readText? bs).map fun (text, rest) => ({ e with protocol := text }, rest)
  | ⟨5, .delimited⟩ =>
      (readDelimited? bs).map fun (content, rest) => ({ e with payload := content }, rest)
  | ⟨6, .varint⟩ =>
      (Varint.read? bs).map fun (n, rest) =>
        ({ e with created := (UInt64.ofNat n).toInt64 }, rest)
  | key => if key.tag ≤ 6 then none else (skip? key bs).map fun rest => (e, rest)

theorem length_of_readField? {e e' : Envelope} {key : Key} {bs rest : Bytes}
    (h : readField? e key bs = some (e', rest)) : rest.length ≤ bs.length := by
  have text {t : String} {r : Bytes} (h : readText? bs = some (t, r)) : r.length ≤ bs.length := by
    simp only [readText?, Option.bind_eq_bind, Option.bind_eq_some_iff] at h
    obtain ⟨⟨content, rest⟩, hc, t, -, h⟩ := h
    cases h
    exact Nat.le_of_lt (length_of_readDelimited? hc)
  unfold readField? at h
  split at h
  case h_5 =>
    obtain ⟨⟨content, rest'⟩, hr, heq⟩ := Option.map_eq_some_iff.1 h
    cases heq
    exact Nat.le_of_lt (length_of_readDelimited? hr)
  case h_6 =>
    obtain ⟨⟨n, rest'⟩, hr, heq⟩ := Option.map_eq_some_iff.1 h
    cases heq
    exact Nat.le_of_lt (Varint.length_of_read? hr)
  case h_7 =>
    split at h
    · exact absurd h (by simp)
    · obtain ⟨rest', hr, heq⟩ := Option.map_eq_some_iff.1 h
      cases heq
      exact length_of_skip? hr
  all_goals
    obtain ⟨⟨t, rest'⟩, hr, heq⟩ := Option.map_eq_some_iff.1 h
    cases heq
    exact text hr

/-- Reads fields into the envelope until none is left. -/
def readFields? (e : Envelope) (bs : Bytes) : Option Envelope :=
  if bs = [] then some e
  else
    match _h : Key.read? bs with
    | none => none
    | some (key, rest) =>
        match _h' : readField? e key rest with
        | none => none
        | some (e', rest') => readFields? e' rest'
termination_by bs.length
decreasing_by exact Nat.lt_of_le_of_lt (length_of_readField? _h') (Key.length_of_read? _h)

def ofBytes? (bs : Bytes) : Option Envelope :=
  readFields? {} bs

end Envelope

end DeviceBus
