import DeviceBus.Coap.Packet

/-! # The datagram form of a CoAP message

A header of four octets, the token, the options and, after a marker octet, a
payload that is not empty. Options are written in the order of their numbers,
each as its distance from the one before. Distances and lengths share one
variable form: a nibble, and up to two octets that extend it.
-/

namespace DeviceBus.Coap

inductive CodecError where
  | tooShort
  | unsupportedVersion (version : UInt8)
  | invalidTokenLength (length : UInt8)
  | invalidOption
  | emptyPayload
  deriving DecidableEq

def CodecError.message : CodecError → String
  | .tooShort => "datagram shorter than the 4-byte header"
  | .unsupportedVersion version => "unsupported CoAP version " ++ toString version.toNat
  | .invalidTokenLength length => "invalid token length " ++ toString length.toNat
  | .invalidOption => "malformed option"
  | .emptyPayload => "payload marker without payload"

def Kind.bits : Kind → UInt8
  | .confirmable => 0
  | .nonConfirmable => 1
  | .acknowledgement => 2
  | .reset => 3

/-- The kind that the two low bits name. -/
def Kind.ofBits (bits : UInt8) : Kind :=
  let low := bits &&& 3
  if low = 0 then .confirmable
  else if low = 1 then .nonConfirmable
  else if low = 2 then .acknowledgement
  else .reset

def payloadMarker : UInt8 := 0xFF

def maxTokenLength : Nat := 8

/-- The largest distance or length that the variable form can write. -/
def maxExtended : Nat := 65804

/-! ## The variable form of distances and lengths -/

namespace Extended

/-- The nibble of a number and the octets that extend it. -/
def write? (n : Nat) : Option (UInt8 × Bytes) :=
  if n < 13 then some (UInt8.ofNat n, [])
  else if n < 269 then some (13, [UInt8.ofNat (n - 13)])
  else if n ≤ maxExtended then some (14, Bytes.ofUInt16 (UInt16.ofNat (n - 269)))
  else none

/-- The number that a nibble and the octets after it write, and what is left.
The nibble fifteen writes no number. -/
def read? (nibble : UInt8) (bs : Bytes) : Option (Nat × Bytes) :=
  if nibble < 13 then some (nibble.toNat, bs)
  else if nibble = 13 then
    match bs with
    | b :: rest => some (b.toNat + 13, rest)
    | [] => none
  else if nibble = 14 then
    match bs with
    | hi :: lo :: rest => some ((Bytes.toUInt16 hi lo).toNat + 269, rest)
    | _ => none
  else none

theorem length_of_read? {nibble : UInt8} {bs rest : Bytes} {n : Nat}
    (h : read? nibble bs = some (n, rest)) : rest.length ≤ bs.length := by
  unfold read? at h
  repeat' split at h
  all_goals grind

end Extended

/-! ## Options on the wire -/

/-- The octets of one option at distance `delta` from the one before. -/
def writeOption? (delta : Nat) (value : Bytes) : Option Bytes := do
  let (deltaNibble, deltaOctets) ← Extended.write? delta
  let (lengthNibble, lengthOctets) ← Extended.write? value.length
  return (deltaNibble <<< 4 ||| lengthNibble) :: (deltaOctets ++ lengthOctets ++ value)

/-- The octets of a list of options in the order of their numbers; `previous`
is the number of the option before them. -/
def writeOptions? (previous : Nat) : List Opt → Option Bytes
  | [] => some []
  | o :: rest => do
      let first ← writeOption? (o.number.toNat - previous) o.value
      let others ← writeOptions? o.number.toNat rest
      return first ++ others

/-- Reads the option that starts with the octet `lead`. -/
def readOption? (previous : Nat) (lead : UInt8) (bs : Bytes) : Option (Opt × Bytes) := do
  let (delta, bs) ← Extended.read? (lead >>> 4) bs
  let (length, bs) ← Extended.read? (lead &&& 0x0F) bs
  let value := bs.take length
  if previous + delta < 65536 ∧ value.length = length then
    return (⟨UInt16.ofNat (previous + delta), value⟩, bs.drop length)
  else none

theorem length_of_readOption? {previous : Nat} {lead : UInt8} {bs rest : Bytes} {o : Opt}
    (h : readOption? previous lead bs = some (o, rest)) : rest.length ≤ bs.length := by
  simp only [readOption?, Option.bind_eq_bind, Option.bind_eq_some_iff] at h
  obtain ⟨⟨delta, bs₁⟩, h₁, ⟨length, bs₂⟩, h₂, h₃⟩ := h
  have l₁ := Extended.length_of_read? h₁
  have l₂ : bs₂.length ≤ bs₁.length := Extended.length_of_read? h₂
  dsimp only at h₃
  split at h₃
  · cases h₃
    grind
  · exact absurd h₃ (by simp)

/-- Reads options up to the payload; `previous` is the number of the option
before them. -/
def readBody (previous : Nat) : Bytes → Except CodecError (List Opt × Bytes)
  | [] => .ok ([], [])
  | lead :: bs =>
      if lead = payloadMarker then
        if bs = [] then .error .emptyPayload else .ok ([], bs)
      else
        match _h : readOption? previous lead bs with
        | none => .error .invalidOption
        | some (o, rest) =>
            match readBody o.number.toNat rest with
            | .error e => .error e
            | .ok (others, payload) => .ok (o :: others, payload)
termination_by bs => bs.length
decreasing_by
  have := length_of_readOption? _h
  simp only [List.length_cons]
  omega

/-! ## Packets on the wire -/

namespace Packet

/-- The options in the order of their numbers; those of one number keep the
order in which they were added. -/
def sortedOptions (p : Packet) : List Opt :=
  p.options.mergeSort fun a b => a.number ≤ b.number

def encode (p : Packet) : Except CodecError Bytes :=
  if p.token.length ≤ maxTokenLength then
    match writeOptions? 0 p.sortedOptions with
    | none => .error .invalidOption
    | some options =>
        let header : Bytes :=
          let lead : UInt8 :=
            (0x40 : UInt8) ||| (p.kind.bits <<< (4 : UInt8)) ||| UInt8.ofNat p.token.length
          lead :: p.code :: Bytes.ofUInt16 p.messageId
        let tail : Bytes := if p.payload = [] then [] else payloadMarker :: p.payload
        .ok (header ++ p.token ++ options ++ tail)
  else .error (.invalidTokenLength (UInt8.ofNat p.token.length))

def decode : Bytes → Except CodecError Packet
  | lead :: code :: hi :: lo :: rest =>
      let version := lead >>> 6
      let tokenLength := lead &&& 0x0F
      if version ≠ 1 then .error (.unsupportedVersion version)
      else if maxTokenLength < tokenLength.toNat then .error (.invalidTokenLength tokenLength)
      else if rest.length < tokenLength.toNat then .error .tooShort
      else
        match readBody 0 (rest.drop tokenLength.toNat) with
        | .error e => .error e
        | .ok (options, payload) =>
            .ok
              { kind := Kind.ofBits (lead >>> 4)
                code
                messageId := Bytes.toUInt16 hi lo
                token := rest.take tokenLength.toNat
                options
                payload }
  | _ => .error .tooShort

end Packet

end DeviceBus.Coap
