import DeviceBus.CommandLine.Run
import DeviceBus.Gateway.Request
import DeviceBus.Proofs.Coap.Datagram
import DeviceBus.Proofs.Gateway.Paths

/-! # The request of a publisher, as the server reads it

The command for publishing writes a request and the server reads it, each with its own
notion of where the channel, the key and the payload stand. Whatever texts the user gives,
the server reads them as they were given, and takes the path for one of a channel just when
the channel's name is literal.
-/

namespace DeviceBus

namespace Text

theorem cutChars_append {sep : Char} {before : List Char} (hBefore : sep ∉ before)
    (after : List Char) : cutChars sep (before ++ sep :: after) = some (before, after) := by
  induction before with
  | nil => exact if_pos rfl
  | cons c before ih =>
    obtain ⟨hFirst, hRest⟩ := List.ne_and_not_mem_of_not_mem_cons hBefore
    rw [List.cons_append, cutChars, if_neg hFirst.symm, ih hRest]
    rfl

/-- A text is cut at the first separator, whatever comes after it. -/
theorem cut_of_toList {sep : Char} {text before after : String}
    (hText : text.toList = before.toList ++ sep :: after.toList) (hBefore : sep ∉ before.toList) :
    cut sep text = some (before, after) := by
  rw [cut, hText, cutChars_append hBefore]
  simp

end Text

namespace CommandLine

open Coap Gateway

variable {token bs : Bytes} {channel key payload : String} {p : Packet}

/-- The server reads the request as the user meant it: the key as the credential, and the path
as that of the channel, if such a channel can be. -/
structure Understood (token : Bytes) (channel key payload : String) (p : Packet) : Prop where
  kind : p.kind = .confirmable
  code : p.code = Code.post
  messageId : p.messageId = (publishRequest token channel key payload).messageId
  token : p.token = token
  payload : p.payload = Utf8.encode payload
  credential : p.queryParam credentialKey = some key
  path : ChannelPath.parse? p.uriPath =
    if channel ≠ "" ∧ '.' ∉ channel.toList ∧ '*' ∉ channel.toList ∧ '>' ∉ channel.toList then
      some { channel, subtopic := "" }
    else none

/-! ## What the request has -/

theorem options_publishRequest (token : Bytes) (channel key payload : String) :
    (publishRequest token channel key payload).options =
      [⟨Opt.uriPathNumber, Utf8.encode "channels"⟩, ⟨Opt.uriPathNumber, Utf8.encode channel⟩,
        ⟨Opt.uriPathNumber, Utf8.encode "messages"⟩,
        ⟨Opt.uriQueryNumber, Utf8.encode ("auth=" ++ key)⟩] :=
  rfl

theorem sortedOptions_publishRequest (token : Bytes) (channel key payload : String) :
    (publishRequest token channel key payload).sortedOptions =
      (publishRequest token channel key payload).options := by
  apply sortedOptions_of_ordered
  rw [options_publishRequest]
  simp [Opt.uriPathNumber, Opt.uriQueryNumber]

theorem uriPath_publishRequest (token : Bytes) (channel key payload : String) :
    (publishRequest token channel key payload).uriPath = ["channels", channel, "messages"] := by
  simp [Packet.uriPath, Packet.optionValues, options_publishRequest, Opt.uriPathNumber,
    Opt.uriQueryNumber, Utf8.decodeLossy_encode]

theorem uriQuery_publishRequest (token : Bytes) (channel key payload : String) :
    (publishRequest token channel key payload).uriQuery = ["auth=" ++ key] := by
  simp [Packet.uriQuery, Packet.optionValues, options_publishRequest, Opt.uriPathNumber,
    Opt.uriQueryNumber, Utf8.decodeLossy_encode]

/-- The key is all that follows the first equals sign, with any others that it has. -/
theorem queryParam_publishRequest (token : Bytes) (channel key payload : String) :
    (publishRequest token channel key payload).queryParam credentialKey = some key := by
  have hText : ("auth=" ++ key).toList = credentialKey.toList ++ '=' :: key.toList := by
    rw [String.toList_append]
    rfl
  have hCut : Text.cut '=' ("auth=" ++ key) = some (credentialKey, key) :=
    Text.cut_of_toList hText (by decide)
  rw [Packet.queryParam, uriQuery_publishRequest, List.findSome?_cons, hCut]
  simp

theorem parse?_publishRequest (token : Bytes) (channel key payload : String) :
    ChannelPath.parse? (publishRequest token channel key payload).uriPath =
      if channel ≠ "" ∧ '.' ∉ channel.toList ∧ '*' ∉ channel.toList ∧ '>' ∉ channel.toList then
        some { channel, subtopic := "" }
      else none := by
  rw [uriPath_publishRequest, ChannelPath.parse?]
  simp only [← ChannelPath.isLiteral_iff, Subject.root, List.not_mem_nil, not_false_eq_true, and_true, true_and]
  rfl

/-! ## What arrives -/

theorem exists_encode_publishRequest (token : Bytes) (channel key payload : String) :
    (∃ bs, (publishRequest token channel key payload).encode = .ok bs) ↔
      token.length ≤ 8 ∧ (Utf8.encode channel).length ≤ 65804 ∧
        (Utf8.encode key).length ≤ 65799 := by
  have hPath : (Utf8.encode "channels").length = 8 ∧ (Utf8.encode "messages").length = 8 ∧
      (Utf8.encode "auth=").length = 5 := by decide
  have hToken : (publishRequest token channel key payload).token = token := rfl
  rw [Packet.exists_encode_iff, options_publishRequest, hToken]
  simp only [List.forall_mem_cons, List.not_mem_nil, false_imp_iff, implies_true, and_true,
    Utf8.encode_append, List.length_append, hPath, maxTokenLength, maxExtended]
  omega

theorem decode_publishRequest
    (hEncode : (publishRequest token channel key payload).encode = .ok bs) :
    Packet.decode bs = .ok (publishRequest token channel key payload) := by
  rw [Packet.decode_encode hEncode, sortedOptions_publishRequest]

theorem understood_publishRequest (token : Bytes) (channel key payload : String) :
    Understood token channel key payload (publishRequest token channel key payload) where
  kind := rfl
  code := rfl
  messageId := rfl
  token := rfl
  payload := rfl
  credential := queryParam_publishRequest token channel key payload
  path := parse?_publishRequest token channel key payload

/-- The request can be written just when the channel and the key are not too long. The server
then reads what the user gave, and nothing else. -/
theorem publishing_understood (hToken : token.length = 4) (channel key payload : String) :
    ((∃ bs, (publishRequest token channel key payload).encode = .ok bs) ↔
      (Utf8.encode channel).length ≤ 65804 ∧ (Utf8.encode key).length ≤ 65799) ∧
    ∀ bs, (publishRequest token channel key payload).encode = .ok bs →
      ∃ p, Packet.decode bs = .ok p ∧ Understood token channel key payload p := by
  constructor
  · rw [exists_encode_publishRequest, hToken]
    exact and_iff_right (by decide)
  · intro bs hEncode
    exact ⟨_, decode_publishRequest hEncode, understood_publishRequest token channel key payload⟩

/-- A key that looks like more parameters, and a channel that would reach into another one. -/
theorem publishing_understood_odd : ([0xAB, 0xCD, 7, 0] : Bytes).length = 4 ∧
    ∃ bs p, (publishRequest [0xAB, 0xCD, 7, 0] "a.b" "x=y&auth=z" "").encode = .ok bs ∧
      Packet.decode bs = .ok p ∧ p.messageId = 0xABCD ∧ p.payload = [] ∧
      p.queryParam "auth" = some "x=y&auth=z" ∧ ChannelPath.parse? p.uriPath = none := by
  have hToken : ([0xAB, 0xCD, 7, 0] : Bytes).length = 4 := rfl
  have hArrives := publishing_understood hToken "a.b" "x=y&auth=z" ""
  obtain ⟨bs, hEncode⟩ := hArrives.1.mpr (by decide)
  obtain ⟨p, hDecode, hUnderstood⟩ := hArrives.2 bs hEncode
  exact ⟨hToken, bs, p, hEncode, hDecode, hUnderstood.messageId.trans (by decide),
    hUnderstood.payload.trans (by decide), hUnderstood.credential,
    hUnderstood.path.trans (by decide)⟩

end CommandLine

end DeviceBus
