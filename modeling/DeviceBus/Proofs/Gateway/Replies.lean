import DeviceBus.Server
import DeviceBus.Proofs.Coap.Datagram
import DeviceBus.Proofs.Gateway.Outcomes

/-! # Which packets are answered, and how

A confirmable request is always answered by its acknowledgement. Any other request is
answered by a message with an ID of its own, unless it was to publish and did. A reply to
what was read from a datagram can be written, and is read back as it was.
-/

namespace DeviceBus.Gateway

open Coap Observe

variable {g g' g₁ : Gateway} {wall : Int64} {peer : Peer} {p reply : Packet} {path : ChannelPath}
  {publisher : String}

/-! ## Replies to requests -/

structure Responds (g g' : Gateway) (p reply : Packet) : Prop where
  acknowledges : p.kind = .confirmable →
    reply.kind = .acknowledgement ∧ reply.messageId = p.messageId
  fresh : p.kind = .nonConfirmable → reply.kind = .nonConfirmable ∧
    reply.messageId = g.nextId ∧ g'.nextId = g.nextId + 1
  token : reply.token = p.token
  options : reply.options = [] ∨
    ∃ value, reply.options = [⟨Opt.observeNumber, encodeUint value⟩]

def Responded (g : Gateway) (p : Packet) (outcome : Option Packet × Gateway) : Prop :=
  ∃ reply, outcome.1 = some reply ∧ Responds g outcome.2 p reply

theorem responds_reply (hId : g₁.nextId = g.nextId) (p : Packet) (code : UInt8) :
    Responds g (g₁.reply p code).2 p (g₁.reply p code).1 ∧ (g₁.reply p code).1.options = [] := by
  unfold Gateway.reply
  cases hKind : p.kind with
  | confirmable =>
    have hOther : p.kind ≠ .nonConfirmable := by simp [hKind]
    exact ⟨⟨fun _ => ⟨rfl, rfl⟩, fun h => (hOther h).elim, rfl, .inl rfl⟩, rfl⟩
  | _ =>
    have hOther : p.kind ≠ .confirmable := by simp [hKind]
    have hNext : g₁.drawId.2.nextId = g.nextId + 1 := congrArg (· + 1) hId
    exact ⟨⟨fun h => (hOther h).elim, fun _ => ⟨rfl, hId, hNext⟩, rfl, .inl rfl⟩, rfl⟩

theorem responded_answer (hId : g₁.nextId = g.nextId) (p : Packet) (code : UInt8) :
    g.Responded p (g₁.answer p code) :=
  ⟨_, rfl, (responds_reply hId p code).1⟩

theorem responded_observeAnswer (hId : g₁.nextId = g.nextId) (p : Packet) (value : UInt32) :
    g.Responded p (g₁.observeAnswer p value) := by
  obtain ⟨hResponds, hNone⟩ := responds_reply hId p Code.content
  unfold observeAnswer
  generalize g₁.reply p Code.content = replied at hResponds hNone
  obtain ⟨packet, g₂⟩ := replied
  refine ⟨packet.setObserve value, rfl, hResponds.acknowledges, hResponds.fresh, hResponds.token,
    .inr ⟨value, ?_⟩⟩
  rw [Packet.setObserve, hNone]
  rfl

theorem responded_register (g : Gateway) (p : Packet) (o : Observation) :
    g.Responded p (g.register p o) := by
  have hId : (g.subscribe o.client o.topic (.feed g.feeds.length)).1.nextId = g.nextId :=
    (steady_perform g _).2
  unfold register
  dsimp only
  split
  · rename_i g₁ hCalled
    have hBegun : g₁.nextId = g.nextId := by rw [← hId, hCalled]
    apply responded_observeAnswer
    exact hBegun
  · rename_i g₁ hCalled
    rw [hCalled] at hId
    exact responded_observeAnswer hId p _
  · rename_i g₁ e hOther hCalled
    rw [hCalled] at hId
    exact responded_answer hId p _

theorem responded_deregister (g : Gateway) (p : Packet) (o : Observation) :
    g.Responded p (g.deregister p o) := by
  have hId : (g.unsubscribe o.client o.topic).1.nextId = g.nextId := (steady_perform g _).2
  unfold deregister
  split
  · rename_i g₁ hCalled
    rw [hCalled] at hId
    exact responded_answer hId p _
  · rename_i g₁ hCalled
    rw [hCalled] at hId
    exact responded_answer hId p _
  · rename_i g₁ e hOther hCalled
    rw [hCalled] at hId
    exact responded_answer hId p _

theorem responded_handleGet (g : Gateway) (wall : Int64) (peer : Peer) (p : Packet)
    (path : ChannelPath) : g.Responded p (g.handleGet wall peer p path) := by
  unfold handleGet
  split
  · split
    · exact responded_answer rfl p _
    · dsimp only
      split
      · exact responded_register g p _
      · exact responded_deregister g p _
  · exact responded_answer rfl p _

/-! ## Silence -/

/-- A request that is allowed to publish and whose message the broker has taken. -/
structure Published (g g' : Gateway) (wall : Int64) (p : Packet) (path : ChannelPath)
    (publisher : String) : Prop where
  admitted : Admitted g.authorizer wall p path publisher
  code : p.code = Code.post
  concrete : Subject.isWildcard path.subtopic = false
  granted : (g.publish path.channel (posting wall p path publisher)).2 = .ok ()
  broker : g'.hub.broker =
    (g.hub.broker.route path.topic (posting wall p path publisher).toBytes).2

theorem broker_of_granted (hIdle : g.hub.calls = [])
    (hGranted : (g.publish path.channel (posting wall p path publisher)).2 = .ok ()) :
    (g.publish path.channel (posting wall p path publisher)).1.hub.broker =
      (g.hub.broker.route path.topic (posting wall p path publisher).toBytes).2 := by
  obtain ⟨broker, result, hPerform, hOutcome⟩ := Hub.publish_cases hIdle 0 path.channel
    (posting wall p path publisher)
  have hResult : (g.publish path.channel (posting wall p path publisher)).2 = result := by
    rw [publish, perform, hPerform]
    rfl
  rw [publish, hub_perform, hPerform]
  rcases hOutcome with ⟨⟨e, hError⟩, -⟩ | ⟨-, hRouted⟩
  · cases hGranted.symm.trans (hResult.trans hError)
  · exact hRouted

/-- A request to publish is answered, unless it is not confirmable and its message has been
published. -/
theorem handlePost_cases (g : Gateway) (wall : Int64) (p : Packet) (path : ChannelPath) :
    g.Responded p (g.handlePost wall p path) ∨
      p.kind ≠ .confirmable ∧ Subject.isWildcard path.subtopic = false ∧
        ∃ publisher, g.access wall p path.channel = .ok publisher ∧
          (g.publish path.channel (posting wall p path publisher)).2 = .ok () ∧
          g.handlePost wall p path =
            (none, (g.publish path.channel (posting wall p path publisher)).1) := by
  unfold handlePost
  split
  · exact .inl (responded_answer rfl p _)
  · rename_i hConcrete
    split
    · exact .inl (responded_answer rfl p _)
    · split
      · exact .inl (responded_answer rfl p _)
      · rename_i publisher hAccess
        have hId : (g.publish path.channel (posting wall p path publisher)).1.nextId = g.nextId :=
          (steady_perform g _).2
        dsimp only
        split
        · rename_i g₁ e hPublish
          replace hPublish : g.publish path.channel (posting wall p path publisher) =
            (g₁, .error e) := hPublish
          rw [hPublish] at hId
          exact .inl (responded_answer hId p _)
        · rename_i g₁ hPublish
          replace hPublish : g.publish path.channel (posting wall p path publisher) =
            (g₁, .ok ()) := hPublish
          rw [hPublish] at hId
          split
          · exact .inl (responded_answer hId p _)
          · rename_i hKind
            refine .inr ⟨hKind, eq_false_of_ne_true hConcrete, publisher, hAccess, ?_⟩
            rw [hPublish]
            exact ⟨rfl, rfl⟩

theorem handlePost_granted (hKind : p.kind ≠ .confirmable)
    (hConcrete : Subject.isWildcard path.subtopic = false)
    (hAccess : g.access wall p path.channel = .ok publisher)
    (hGranted : (g.publish path.channel (posting wall p path publisher)).2 = .ok ()) :
    g.handlePost wall p path =
      (none, (g.publish path.channel (posting wall p path publisher)).1) := by
  unfold handlePost
  rw [hConcrete, if_neg Bool.false_ne_true, if_neg fun hEmpty => hKind hEmpty.1, hAccess]
  dsimp only
  split
  · rename_i g₁ e hPublish
    replace hPublish : g.publish path.channel (posting wall p path publisher) =
      (g₁, .error e) := hPublish
    rw [hPublish] at hGranted
    cases hGranted
  · rename_i g₁ hPublish
    replace hPublish : g.publish path.channel (posting wall p path publisher) =
      (g₁, .ok ()) := hPublish
    rw [if_neg hKind, hPublish]

/-! ## Datagrams -/

theorem exists_encode (hToken : reply.token.length ≤ maxTokenLength)
    (hOptions : reply.options = [] ∨
      ∃ value, reply.options = [⟨Opt.observeNumber, encodeUint value⟩]) :
    ∃ out, reply.encode = .ok out ∧ Packet.decode out = .ok reply := by
  have hShort : ∀ o ∈ reply.options, o.value.length ≤ maxExtended := by
    rcases hOptions with hNone | ⟨value, hOne⟩
    · simp [hNone]
    · have hLength : (encodeUint value).length ≤ 4 := (List.dropWhile_sublist _).length_le
      rw [hOne, List.forall_mem_singleton]
      exact hLength.trans (by decide)
  have hOrdered : reply.options.Pairwise fun a b => a.number ≤ b.number := by
    rcases hOptions with hNone | ⟨value, hOne⟩
    · simp [hNone]
    · simp [hOne]
  obtain ⟨out, hEncode⟩ := (Packet.exists_encode_iff reply).mpr ⟨hToken, hShort⟩
  refine ⟨out, hEncode, ?_⟩
  rw [Packet.decode_encode hEncode, sortedOptions_of_ordered hOrdered]

/-! ## Packets -/

/-- What is due to a packet. -/
structure Answered (g : Gateway) (wall : Int64) (peer : Peer) (p : Packet)
    (outcome : Option Packet × Gateway) : Prop where
  confirmable : p.kind = .confirmable → 1 ≤ p.code ∧ p.code ≤ 31 → ∃ reply,
    outcome.1 = some reply ∧ reply.kind = .acknowledgement ∧ reply.messageId = p.messageId ∧
      reply.token = p.token
  nonConfirmable : p.kind = .nonConfirmable → 1 ≤ p.code ∧ p.code ≤ 31 →
    ∀ reply, outcome.1 = some reply → reply.kind = .nonConfirmable ∧
      reply.messageId = g.nextId ∧ outcome.2.nextId = g.nextId + 1 ∧ reply.token = p.token
  silent : p.kind = .nonConfirmable → 1 ≤ p.code ∧ p.code ≤ 31 →
    (outcome.1 = none ↔ ∃ path publisher, Published g outcome.2 wall p path publisher)
  ping : p.kind = .confirmable → p.code = 0 → outcome.1 = some
    { kind := .reset, code := 0, messageId := p.messageId, token := [], options := [],
      payload := [] }
  others : p.kind ≠ .confirmable ∨ p.code ≠ 0 →
    ¬((p.kind = .confirmable ∨ p.kind = .nonConfirmable) ∧ 1 ≤ p.code ∧ p.code ≤ 31) →
    outcome.1 = none
  /-- A reply to a datagram is sent as a datagram that says just this. -/
  carried : ∀ datagram, Packet.decode datagram = .ok p → ∀ reply, outcome.1 = some reply →
    ∃ out, reply.encode = .ok out ∧ Packet.decode out = .ok reply ∧
      Server.respond g wall peer datagram = (some out, outcome.2)

theorem isRequest_iff (code : UInt8) : Code.isRequest code = true ↔ 1 ≤ code ∧ code ≤ 31 := by
  have hLast : code < 32 ↔ code ≤ 31 := by
    rw [UInt8.lt_iff_toNat_lt, UInt8.le_iff_toNat_le]
    exact Nat.lt_succ_iff
  rw [Code.isRequest, Bool.and_eq_true, decide_eq_true_eq, decide_eq_true_eq, hLast]

/-- A request is answered, or is not confirmable and has published. -/
theorem handleRequest_cases (g : Gateway) (wall : Int64) (peer : Peer)
    (hKind : p.kind = .confirmable ∨ p.kind = .nonConfirmable) :
    g.Responded p (g.handleRequest wall peer p) ∨
      p.kind ≠ .confirmable ∧ ∃ path publisher, Admitted g.authorizer wall p path publisher ∧
        p.code = Code.post ∧ Subject.isWildcard path.subtopic = false ∧
        (g.publish path.channel (posting wall p path publisher)).2 = .ok () ∧
        g.handleRequest wall peer p =
          (none, (g.publish path.channel (posting wall p path publisher)).1) := by
  unfold handleRequest
  split
  · exact .inl (responded_answer rfl p _)
  · rename_i path hPath
    split
    · rename_i hPost
      rcases handlePost_cases g wall p path with hResponded |
        ⟨hOther, hConcrete, publisher, hAccess, hGranted, hSilent⟩
      · exact .inl hResponded
      · exact .inr ⟨hOther, path, publisher, ⟨hKind, hPath, hAccess⟩, hPost, hConcrete, hGranted,
          hSilent⟩
    · split
      · exact .inl (responded_handleGet g wall peer p path)
      · exact .inl (responded_answer rfl p _)

theorem published_iff (hIdle : g.hub.calls = []) (wall : Int64) (peer : Peer)
    (hKind : p.kind = .nonConfirmable) : (g.handleRequest wall peer p).1 = none ↔
      ∃ path publisher,
        Published g (g.handleRequest wall peer p).2 wall p path publisher := by
  have hOther : p.kind ≠ .confirmable := by simp [hKind]
  constructor
  · intro hNone
    rcases handleRequest_cases g wall peer (.inr hKind) with ⟨reply, hReply, -⟩ |
      ⟨-, path, publisher, hAdmitted, hPost, hConcrete, hGranted, hSilent⟩
    · cases hNone.symm.trans hReply
    · rw [hSilent]
      exact ⟨path, publisher, hAdmitted, hPost, hConcrete, hGranted,
        broker_of_granted hIdle hGranted⟩
  · rintro ⟨path, publisher, hAdmitted, hPost, hConcrete, hGranted, -⟩
    have hHandle : g.handleRequest wall peer p = g.handlePost wall p path := by
      simp only [handleRequest, hAdmitted.parsed, hPost, if_true]
    rw [hHandle, handlePost_granted hOther hConcrete hAdmitted.access hGranted]

/-- A reply has the token of the packet or none, and at most an Observe option. -/
theorem reply_of_handle (hReply : (g.handle wall peer p).1 = some reply) :
    reply.token.length ≤ p.token.length ∧ (reply.options = [] ∨
      ∃ value, reply.options = [⟨Opt.observeNumber, encodeUint value⟩]) := by
  have hRequest : (p.kind = .confirmable ∨ p.kind = .nonConfirmable) →
      (g.handleRequest wall peer p).1 = some reply →
      reply.token.length ≤ p.token.length ∧ (reply.options = [] ∨
        ∃ value, reply.options = [⟨Opt.observeNumber, encodeUint value⟩]) := by
    intro hKind hReply
    rcases handleRequest_cases g wall peer hKind with ⟨reply', hReply', hResponds⟩ |
      ⟨-, path, publisher, -, -, -, -, hSilent⟩
    · cases hReply.symm.trans hReply'
      exact ⟨Nat.le_of_eq (congrArg List.length hResponds.token), hResponds.options⟩
    · rw [hSilent] at hReply
      cases hReply
  unfold handle at hReply
  split at hReply
  · cases hReply
  · cases hReply
  · rename_i hKind
    split at hReply
    · cases hReply
      exact ⟨Nat.zero_le _, .inl rfl⟩
    · split at hReply
      · exact hRequest (.inl hKind) hReply
      · cases hReply
  · rename_i hKind
    split at hReply
    · exact hRequest (.inr hKind) hReply
    · cases hReply

theorem length_token_of_decode {datagram : Bytes} (hDecode : Packet.decode datagram = .ok p) :
    p.token.length ≤ maxTokenLength := by
  obtain ⟨lead, hi, lo, rest, -, -, hToken, -, -, -, hTaken, -⟩ :=
    Packet.decode_eq_ok_iff.mp hDecode
  rw [hTaken]
  exact (List.length_take_le _ _).trans hToken

theorem handle_others (hPing : p.kind ≠ .confirmable ∨ p.code ≠ Code.empty)
    (hRequest : ¬((p.kind = .confirmable ∨ p.kind = .nonConfirmable) ∧ p.isRequest = true)) :
    (g.handle wall peer p).1 = none := by
  unfold handle
  split
  · rfl
  · rfl
  · rename_i hKind
    have hFull : p.isEmpty = false := by
      rw [Packet.isEmpty, beq_eq_false_iff_ne]
      exact hPing.resolve_left fun hOther => hOther hKind
    rw [hFull, if_neg Bool.false_ne_true, if_neg fun h => hRequest ⟨.inl hKind, h⟩]
  · rename_i hKind
    rw [if_neg fun h => hRequest ⟨.inr hKind, h⟩]

/-- Every packet is answered as its kind and code ask for, and no reply is lost on the way
out. -/
theorem handle_answers (hReached : Reached g) (wall : Int64) (peer : Peer) (p : Packet) :
    Answered g wall peer p (g.handle wall peer p) := by
  have hIdle := hReached.sound.idle
  have hHandle : (p.kind = .confirmable ∨ p.kind = .nonConfirmable) → 1 ≤ p.code ∧ p.code ≤ 31 →
      g.handle wall peer p = g.handleRequest wall peer p := fun hKind hCode =>
    handle_request g wall peer hKind ((isRequest_iff p.code).mpr hCode)
  constructor
  · intro hKind hCode
    rw [hHandle (.inl hKind) hCode]
    rcases handleRequest_cases g wall peer (.inl hKind) with
      ⟨reply, hReply, hResponds⟩ | ⟨hOther, -⟩
    · obtain ⟨hAck, hId⟩ := hResponds.acknowledges hKind
      exact ⟨reply, hReply, hAck, hId, hResponds.token⟩
    · exact (hOther hKind).elim
  · intro hKind hCode reply hReply
    rw [hHandle (.inr hKind) hCode] at hReply ⊢
    rcases handleRequest_cases g wall peer (.inr hKind) with ⟨reply', hReply', hResponds⟩ |
      ⟨-, path, publisher, -, -, -, -, hSilent⟩
    · cases hReply.symm.trans hReply'
      obtain ⟨hNon, hId, hNext⟩ := hResponds.fresh hKind
      exact ⟨hNon, hId, hNext, hResponds.token⟩
    · rw [hSilent] at hReply
      cases hReply
  · intro hKind hCode
    rw [hHandle (.inr hKind) hCode]
    exact published_iff hIdle wall peer hKind
  · intro hKind hCode
    have hEmpty : p.isEmpty = true := beq_iff_eq.mpr hCode
    unfold handle
    simp only [hKind, hEmpty, if_true]
    rfl
  · intro hPing hRequest
    rw [← isRequest_iff] at hRequest
    exact handle_others hPing hRequest
  · intro datagram hDecode reply hReply
    obtain ⟨hToken, hOptions⟩ := reply_of_handle hReply
    obtain ⟨out, hEncode, hBack⟩ :=
      exists_encode (hToken.trans (length_token_of_decode hDecode)) hOptions
    refine ⟨out, hEncode, hBack, ?_⟩
    unfold Server.respond
    simp only [hDecode, hReply, Option.bind_some, hEncode]
    rfl

/-- A request to post on the channel that the guarded gateway opens. -/
def postingAs (kind : Kind) (credential : String) : Packet where
  kind
  code := Code.post
  messageId := 9
  token := [1, 2]
  options := [⟨Opt.uriPathNumber, "channels".toUTF8.toList⟩,
    ⟨Opt.uriPathNumber, "abc".toUTF8.toList⟩, ⟨Opt.uriPathNumber, "messages".toUTF8.toList⟩,
    ⟨Opt.uriQueryNumber, ("auth=" ++ credential).toUTF8.toList⟩]
  payload := [42]

def postingDatagram : Bytes :=
  [0x52, 0x02, 0, 9, 1, 2, 0xB8] ++ "channels".toUTF8.toList ++ [0x03] ++ "abc".toUTF8.toList ++
    [0x08] ++ "messages".toUTF8.toList ++ [0x46] ++ "auth=x".toUTF8.toList ++ [0xFF, 42]

/-- What is posted with the right credential is not answered, what is posted with another
is, and a confirmable request is in either case. -/
theorem handle_answers_guarded : Reached guarded ∧
    (guarded.handle 0 "peer" (postingAs .nonConfirmable "k")).1 = none ∧
    (∃ path publisher, Published guarded
      (guarded.handle 0 "peer" (postingAs .nonConfirmable "k")).2 0
      (postingAs .nonConfirmable "k") path publisher) ∧
    (∃ reply, (guarded.handle 0 "peer" (postingAs .confirmable "k")).1 = some reply ∧
      reply.kind = .acknowledgement ∧ reply.messageId = 9 ∧ reply.token = [1, 2]) ∧
    Packet.decode postingDatagram = .ok (postingAs .nonConfirmable "x") ∧
    ∃ reply out, (guarded.handle 0 "peer" (postingAs .nonConfirmable "x")).1 = some reply ∧
      Packet.decode out = .ok reply ∧
      Server.respond guarded 0 "peer" postingDatagram =
        (some out, (guarded.handle 0 "peer" (postingAs .nonConfirmable "x")).2) := by
  have hReached : Reached guarded := ⟨_, _, _, _, [], rfl⟩
  have hSilent : (guarded.handle 0 "peer" (postingAs .nonConfirmable "k")).1 = none := by cbv
  have hPost : 1 ≤ Code.post ∧ Code.post ≤ 31 := by decide
  have hDecode : Packet.decode postingDatagram = .ok (postingAs .nonConfirmable "x") := by cbv
  obtain ⟨reply, hReply⟩ : ∃ reply,
      (guarded.handle 0 "peer" (postingAs .nonConfirmable "x")).1 = some reply :=
    Option.isSome_iff_exists.mp (by cbv)
  obtain ⟨out, -, hBack, hSent⟩ := (handle_answers hReached 0 "peer" _).carried _ hDecode _ hReply
  exact ⟨hReached, hSilent,
    ((handle_answers hReached 0 "peer" _).silent rfl hPost).mp hSilent,
    (handle_answers hReached 0 "peer" _).confirmable rfl hPost, hDecode, reply, out, hReply,
    hBack, hSent⟩

end DeviceBus.Gateway
