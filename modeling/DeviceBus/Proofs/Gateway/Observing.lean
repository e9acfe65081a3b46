import DeviceBus.Proofs.Coap.Options
import DeviceBus.Proofs.Gateway.Isolation
import DeviceBus.Proofs.Gateway.Turns

/-! # Requests to observe

An admitted request to observe is answered by the reply that begins the observation, which
then has a delivery and a feed of its own, or by a reply that changes nothing, when the
observation is there already. The Observe value of either reply is zero.
-/

namespace DeviceBus.Gateway

open Coap Observe

variable {g g' : Gateway} {k : Nat} {o : Observation} {e : Event}

namespace Event

/-- The observation that a request asks for, if its publisher may use the channel. -/
def asksFor (authorizer : Authorizer) : Event → Option Observation
  | .packet wall peer p =>
      if (p.kind = .confirmable ∨ p.kind = .nonConfirmable) ∧ p.code = Code.get ∧
          p.observe = some 0 then
        match ChannelPath.parse? p.uriPath with
        | none => none
        | some path =>
            match authorizer wall ((p.queryParam credentialKey).getD "") path.channel with
            | .error _ => none
            | .ok publisher => some ⟨observerId publisher p.token, path.topic, peer, p.token⟩
      else none
  | _ => none

theorem asksFor_eq_some_iff {authorizer : Authorizer} :
    e.asksFor authorizer = some o ↔ ∃ path, e.Registers authorizer path o := by
  constructor
  · intro hAsks
    unfold asksFor at hAsks
    split at hAsks
    · rename_i wall peer p
      split at hAsks
      · rename_i hRequest
        split at hAsks
        · cases hAsks
        · rename_i path hPath
          split at hAsks
          · cases hAsks
          · rename_i publisher hAccess
            cases hAsks
            exact ⟨path, wall, p, publisher, rfl, ⟨hRequest.1, hPath, hAccess⟩, hRequest.2.1,
              hRequest.2.2, rfl⟩
      · cases hAsks
    · cases hAsks
  · rintro ⟨path, wall, p, publisher, rfl, hAdmitted, hCode, hObserve, ho⟩
    have hAccess : authorizer wall ((p.queryParam credentialKey).getD "") path.channel =
        .ok publisher := hAdmitted.access
    rw [asksFor, if_pos ⟨hAdmitted.kind, hCode, hObserve⟩, hAdmitted.parsed]
    simp only [hAccess]
    exact congrArg some ho.symm

end Event

theorem not_acts_of_asksFor {authorizer : Authorizer} (hAsks : e.asksFor authorizer = some o) :
    e.acts k = false := by
  obtain ⟨path, wall, p, publisher, rfl, -⟩ := Event.asksFor_eq_some_iff.mp hAsks
  rfl

/-! ## Replies -/

theorem handle_registers {wall : Int64} {peer : Peer} {p : Packet} {path : ChannelPath}
    {publisher : String} (hAdmitted : Admitted g.authorizer wall p path publisher)
    (hCode : p.code = Code.get) (hObserve : p.observe = some 0) : g.handle wall peer p =
      g.register p ⟨observerId publisher p.token, path.topic, peer, p.token⟩ := by
  have hRequest : Code.isRequest p.code = true := by
    rw [hCode]
    decide
  have hGet : ¬Code.get = Code.post := by decide
  have hAccess : g.access wall p path.channel = .ok publisher := hAdmitted.access
  rw [handle_request g wall peer hAdmitted.kind hRequest]
  simp only [handleRequest, hAdmitted.parsed, hCode, if_neg hGet, if_true, handleGet, hObserve,
    true_or, hAccess]

/-- A reply to the request has no effect but that it takes a message ID. -/
def Replies (g : Gateway) (request : Packet) (value : UInt32)
    (outcome : Option Packet × Gateway) : Prop :=
  ∃ reply nextId, outcome = (some reply, { g with nextId }) ∧ reply.observe = some value ∧
    reply.token = request.token

theorem replies_observeAnswer (g : Gateway) (request : Packet) (value : UInt32) :
    g.Replies request value (g.observeAnswer request value) := by
  unfold observeAnswer reply
  cases request.kind with
  | confirmable => exact ⟨_, g.nextId, rfl, observe_setObserve _ _, rfl⟩
  | _ => exact ⟨_, g.nextId + 1, rfl, observe_setObserve _ _, rfl⟩

theorem next_started (now : Nat) :
    ({ started := now } : Sequence).next now = (0, { started := now, last := some 0 }) := by
  simp [Sequence.next, Sequence.value]

/-- A pair that is there is not given to another. -/
theorem subscribe_taken (hSound : g.Sound) (consumer : Consumer) {topic client : String}
    {s : Subscription Consumer} (hPair : g.pair? topic client = some s) :
    g.subscribe client topic consumer =
      ({ g with hub := { g.hub with nextCall := g.hub.nextCall + 1 } },
        .error .alreadySubscribed) := by
  obtain ⟨hTopic, hClient⟩ := hSound.named _ _ s hPair
  have hReserve : (g.hub.facade 0).reserve client topic consumer = .error .alreadySubscribed := by
    rcases Facade.reserve_of_names (g.hub.facade 0) hTopic hClient consumer with
      ⟨-, hRefused⟩ | ⟨hFree, -⟩
    · exact hRefused
    · cases hPair.symm.trans hFree
  have hStep : g.hub.step (.subscribe 0 client topic consumer) =
      g.hub.immediate (.error .alreadySubscribed) := by
    simp only [Hub.step, Hub.beginSubscribe, hReserve]
  rw [subscribe, perform, Hub.perform_immediate hStep rfl hSound.idle]
  rfl

/-- A request for an observation that is there is answered with the value zero. -/
theorem register_taken (hSound : g.Sound) (request : Packet) {s : Subscription Consumer}
    (hPair : g.pair? o.topic o.client = some s) :
    ∃ g₁ : Gateway, g₁.Replies request 0 (g.register request o) := by
  refine ⟨{ g with hub := { g.hub with nextCall := g.hub.nextCall + 1 } }, ?_⟩
  rw [register, next_started, subscribe_taken hSound _ hPair]
  exact replies_observeAnswer _ _ _

theorem deliveries_register_refused {request : Packet} {e : FacadeError}
    (hRefused : g.subscribe o.client o.topic (.feed g.feeds.length) = (g', .error e)) :
    (g.register request o).2.deliveries = g'.deliveries := by
  rcases register_cases g request o with
    ⟨g₁, d, reply, nextId, hOk, hRegister⟩ | ⟨g₁, e', reply, nextId, hError, hRegister⟩
  · cases hOk.symm.trans hRefused
  · cases hError.symm.trans hRefused
    rw [hRegister]

/-- The delivery of an observation that begins. It has drawn the value zero, for the reply. -/
def begun (g : Gateway) (o : Observation) (due : Nat) : Delivery where
  observation := o
  feed := g.feeds.length
  sequence := { started := g.now, last := some 0 }
  phase := .watching due

/-- A request that begins an observation is answered with the value zero. -/
theorem register_begins (hSound : g.Sound) {request : Packet}
    (hBegins : (g.register request o).2.Enrolled g.deliveries.length o) :
    ∃ (g₁ : Gateway) (due : Nat), g₁.deliveries = g.deliveries ++ [g.begun o due] ∧
      g₁.feeds = g.feeds ++ [({} : Feed)] ∧ g₁.Replies request 0 (g.register request o) := by
  rcases subscribe_cases hSound o.client o.topic (.feed g.feeds.length) with
    ⟨e, hub, hSubscribe, -⟩ | ⟨s, hub, -, -, -, -, hSubscribe, -⟩
  · obtain ⟨s, hPair, hHandler⟩ := hBegins
    have hServes := ((sound_register hSound request o).served _ _ s _ hPair hHandler).1
    rw [Serves, deliveries_register_refused hSubscribe, List.getElem?_map,
      List.getElem?_eq_none (Nat.le_refl _)] at hServes
    cases hServes
  · rw [register, next_started, hSubscribe]
    exact ⟨_, _, rfl, rfl, replies_observeAnswer _ _ _⟩

/-! ## The event of a request -/

/-- The event makes the gateway send one packet, the answer with this value. -/
def Answers (g : Gateway) (e : Event) (o : Observation) (value : UInt32) : Prop :=
  ∃ reply, g.said e = [(o.peer, reply)] ∧ reply.observe = some value ∧ reply.token = o.token

theorem Replies.answers {wall : Int64} {p : Packet} {value : UInt32} (hToken : p.token = o.token)
    (hReplies : g'.Replies p value (g.handle wall o.peer p)) :
    g.Answers (.packet wall o.peer p) o value := by
  obtain ⟨reply, nextId, hHandle, hObserve, hOwn⟩ := hReplies
  have hSends := sends_receive g wall o.peer p
  rw [hHandle] at hSends
  exact ⟨reply, said_eq hSends, hObserve, hOwn.trans hToken⟩

/-- The request of the event, and how it is handled. -/
theorem handle_asksFor (hAsks : e.asksFor g.authorizer = some o) : ∃ wall p,
    e = .packet wall o.peer p ∧ p.token = o.token ∧ g.handle wall o.peer p = g.register p o := by
  obtain ⟨path, wall, p, publisher, rfl, hAdmitted, hCode, hObserve, ho⟩ :=
    Event.asksFor_eq_some_iff.mp hAsks
  refine ⟨wall, p, rfl, congrArg Observation.token ho.symm, ?_⟩
  rw [handle_registers hAdmitted hCode hObserve, ← ho]

theorem answers_taken (hSound : g.Sound) (hAsks : e.asksFor g.authorizer = some o)
    (hTaken : g.Enrolled k o) : g.Answers e o 0 := by
  obtain ⟨wall, p, rfl, hToken, hHandle⟩ := handle_asksFor hAsks
  obtain ⟨s, hPair, -⟩ := hTaken
  obtain ⟨g₁, hReplies⟩ := register_taken hSound p hPair
  rw [← hHandle] at hReplies
  exact hReplies.answers hToken

/-- The request that begins an observation. -/
theorem answers_begins (hSound : g.Sound) (hAsks : e.asksFor g.authorizer = some o)
    (hBegins : (g.step e).Enrolled g.deliveries.length o) :
    g.Answers e o 0 ∧ (g.step e).feed g.deliveries.length = {} ∧
      ∃ due, (g.step e).deliveries[g.deliveries.length]? = some (g.begun o due) := by
  obtain ⟨wall, p, rfl, hToken, hHandle⟩ := handle_asksFor hAsks
  obtain ⟨log, hReceive⟩ := receive_eq g wall o.peer p
  have hRegistered : (g.register p o).2.Enrolled g.deliveries.length o := by
    rw [← hHandle]
    rwa [step, hReceive] at hBegins
  obtain ⟨g₁, due, hDeliveries, hFeeds, hReplies⟩ := register_begins hSound hRegistered
  obtain ⟨reply, nextId, hReply, -⟩ := id hReplies
  refine ⟨?_, ?_, due, ?_⟩
  · rw [← hHandle] at hReplies
    exact hReplies.answers hToken
  · rw [step, hReceive, hHandle, hReply, feed, hFeeds, ← hSound.feeds]
    simp
  · rw [step, hReceive, hHandle, hReply, hDeliveries, List.getElem?_concat_length]

end DeviceBus.Gateway
