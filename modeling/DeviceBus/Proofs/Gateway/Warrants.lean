import DeviceBus.Proofs.Gateway.Endings
import DeviceBus.Proofs.Gateway.Paths
import DeviceBus.Proofs.Hub.Effects

/-! # What a request is allowed to do

A packet makes at most one call of the facade, and only as a request for a channel
path whose channel its credential may use. The call is about the very channel that was
checked. A request that is refused leaves everything but the next message ID as it is.
-/

namespace DeviceBus.Gateway

open Coap Observe

variable {g g' g₁ : Gateway} {wall : Int64} {peer : Peer} {p : Packet} {path : ChannelPath}
  {publisher : String}

/-- A request for a channel path by a publisher who may use its channel. -/
structure Admitted (authorizer : Authorizer) (wall : Int64) (p : Packet) (path : ChannelPath)
    (publisher : String) : Prop where
  kind : p.kind = .confirmable ∨ p.kind = .nonConfirmable
  parsed : ChannelPath.parse? p.uriPath = some path
  access : authorizer wall ((p.queryParam "auth").getD "") path.channel = .ok publisher

def posting (wall : Int64) (p : Packet) (path : ChannelPath) (publisher : String) : Envelope where
  channel := path.channel
  subtopic := path.subtopic
  publisher
  protocol := "coap"
  payload := p.payload
  created := wall

structure Posted (g g' : Gateway) (wall : Int64) (p : Packet) (path : ChannelPath)
    (publisher : String) : Prop where
  code : p.code = Code.post
  concrete : Subject.isWildcard path.subtopic = false
  payload : p.kind = .confirmable → p.payload ≠ []
  call : g'.hub = (g.hub.perform {}
    (.publish 0 path.channel (posting wall p path publisher) .carried)).1
  subject : Subject.isWildcard path.topic = false
  facades : g'.hub.facades = g.hub.facades
  broker : g'.hub.broker = g.hub.broker ∨
    g'.hub.broker = (g.hub.broker.route path.topic (posting wall p path publisher).toBytes).2
  deliveries : g'.deliveries = g.deliveries

structure Observed (g g' : Gateway) (peer : Peer) (p : Packet) (path : ChannelPath)
    (publisher : String) : Prop where
  code : p.code = Code.get
  observe : p.observe = some 0
  call : g'.hub = (g.hub.perform {}
    (.subscribe 0 (observerId publisher p.token) path.topic (.feed g.feeds.length))).1
  pairs : ∀ topic client, ¬(topic = path.topic ∧ client = observerId publisher p.token) →
    g'.pair? topic client = g.pair? topic client
  outcome : (g'.hub.broker = g.hub.broker ∧ g'.deliveries = g.deliveries) ∨
    ∃ ticket group id d due, g.hub.broker.subscribe 0 path.topic group
        ⟨0, ticket, .feed g.feeds.length⟩ = .ok (id, g'.hub.broker) ∧
      g'.deliveries = g.deliveries ++ [d] ∧ d.phase = .watching due ∧
      d.observation = ⟨observerId publisher p.token, path.topic, peer, p.token⟩

structure Cancelled (g g' : Gateway) (p : Packet) (path : ChannelPath) (publisher : String) :
    Prop where
  code : p.code = Code.get
  observe : p.observe = some 1
  call : g'.hub = (g.hub.perform {}
    (.unsubscribe 0 (observerId publisher p.token) path.topic)).1
  pairs : ∀ topic client, ¬(topic = path.topic ∧ client = observerId publisher p.token) →
    g'.pair? topic client = g.pair? topic client
  broker : g'.hub.broker = g.hub.broker ∨
    ∃ s handle, g.pair? path.topic (observerId publisher p.token) = some s ∧
      s.handle = some handle ∧ g.hub.broker.unsubscribe 0 handle = .ok g'.hub.broker
  deliveries : g'.deliveries = g.deliveries

/-- What a packet may lead to. A reply of class four is a refusal. -/
structure Lawful (g : Gateway) (wall : Int64) (peer : Peer) (p : Packet)
    (outcome : Option Packet × Gateway) : Prop where
  warranted : (outcome.2.hub = g.hub ∧ outcome.2.deliveries = g.deliveries) ∨
    ∃ path publisher, Admitted g.authorizer wall p path publisher ∧
      (Posted g outcome.2 wall p path publisher ∨ Observed g outcome.2 peer p path publisher ∨
        Cancelled g outcome.2 p path publisher)
  refused : ∀ reply, outcome.1 = some reply → reply.code >>> 5 = 4 →
    outcome.2 = { g with nextId := outcome.2.nextId }

/-! ## Calls -/

theorem hub_absorbOne (g : Gateway) (r : Report Consumer) : (g.absorbOne r).hub = g.hub := by
  cases r with
  | handled i ticket consumer message =>
    cases consumer with
    | listener name onCancel => rfl
    | feed index =>
      simp only [absorbOne]
      split
      · rfl
      · rfl
  | cancelled i ticket consumer => exact hub_cancelled g i ticket consumer
  | returned number result => rfl

theorem hub_absorb (g : Gateway) (reports : List (Report Consumer)) :
    (g.absorb reports).hub = g.hub := by
  induction reports generalizing g with
  | nil => rfl
  | cons r rest ih => exact (ih (g.absorbOne r)).trans (hub_absorbOne g r)

theorem hub_perform (g : Gateway) (s : DeviceBus.Step Consumer) :
    (g.perform s).1.hub = (g.hub.perform {} s).1 :=
  hub_absorb _ _

theorem posted_publish (hSound : g.Sound) (hCode : p.code = Code.post)
    (hPath : ChannelPath.parse? p.uriPath = some path)
    (hConcrete : Subject.isWildcard path.subtopic = false)
    (hPayload : p.kind = .confirmable → p.payload ≠ [])
    (hHub : g'.hub = (g.publish path.channel (posting wall p path publisher)).1.hub)
    (hDeliveries : g'.deliveries = g.deliveries) : Posted g g' wall p path publisher := by
  have hCall := hHub.trans (hub_perform g _)
  have hAccepted : path.Accepted := ⟨_, hPath⟩
  constructor
  · exact hCode
  · exact hConcrete
  · exact hPayload
  · exact hCall
  · exact hAccepted.isWildcard_topic.trans hConcrete
  · obtain ⟨hub, result, hPerform, -, hFacades⟩ := Hub.perform_publish hSound.idle 0 path.channel
      (posting wall p path publisher) .carried
    rw [hCall, hPerform]
    exact hFacades
  · rw [hCall]
    exact Hub.broker_publish hSound.idle 0 path.channel (posting wall p path publisher)
  · exact hDeliveries

/-- A delivery begins only if the subscription was granted. -/
def Begins (g g' : Gateway) (observation : Observation) (result : Except PubSubError Unit) : Prop :=
  (result ≠ .ok () ∧ g'.deliveries = g.deliveries) ∨
    (result = .ok () ∧ ∃ d due, g'.deliveries = g.deliveries ++ [d] ∧ d.phase = .watching due ∧
      d.observation = observation)

theorem observed_subscribe (hSound : g.Sound) (hCode : p.code = Code.get)
    (hObserve : p.observe = some 0)
    (hHub : g'.hub = (g.subscribe (observerId publisher p.token) path.topic
      (.feed g.feeds.length)).1.hub)
    (hDeliveries : Begins g g' ⟨observerId publisher p.token, path.topic, peer, p.token⟩
      (g.subscribe (observerId publisher p.token) path.topic (.feed g.feeds.length)).2) :
    Observed g g' peer p path publisher := by
  have hCall := hHub.trans (hub_perform g _)
  constructor
  · exact hCode
  · exact hObserve
  · exact hCall
  · intro topic client hOther
    obtain ⟨hub, result, hPerform, -, -, hOutcome⟩ := Hub.perform_subscribe hSound.idle
      hSound.facades (observerId publisher p.token) path.topic (.feed g.feeds.length)
    rw [pair?, hCall, hPerform]
    rcases hOutcome with ⟨-, -, -, -, s, -, hPairs⟩ | ⟨-, hPairs⟩
    · exact (hPairs topic client).trans (if_neg hOther)
    · exact hPairs topic client
  · have hResult : (g.subscribe (observerId publisher p.token) path.topic
        (.feed g.feeds.length)).2 = ((g.hub.perform {} (.subscribe 0 (observerId publisher p.token)
          path.topic (.feed g.feeds.length))).2.2).getD (.ok ()) := rfl
    rw [hResult] at hDeliveries
    rw [hCall]
    rcases Hub.broker_subscribe hSound.idle hSound.facades (observerId publisher p.token)
      path.topic (.feed g.feeds.length) with ⟨hOk, ticket, group, id, hRoute⟩ | ⟨⟨e, hError⟩, hSame⟩
    · rw [hOk] at hDeliveries
      rcases hDeliveries with ⟨hFailed, -⟩ | ⟨-, d, due, hDelivery⟩
      · exact (hFailed rfl).elim
      · exact .inr ⟨ticket, group, id, d, due, hRoute, hDelivery⟩
    · rw [hError] at hDeliveries
      rcases hDeliveries with ⟨-, hNone⟩ | ⟨hGranted, -⟩
      · exact .inl ⟨hSame, hNone⟩
      · cases hGranted

theorem cancelled_unsubscribe (hSound : g.Sound) (hCode : p.code = Code.get)
    (hObserve : p.observe = some 1)
    (hHub : g'.hub = (g.unsubscribe (observerId publisher p.token) path.topic).1.hub)
    (hDeliveries : g'.deliveries = g.deliveries) : Cancelled g g' p path publisher := by
  have hCall := hHub.trans (hub_perform g _)
  constructor
  · exact hCode
  · exact hObserve
  · exact hCall
  · intro topic client hOther
    rw [pair?, hCall]
    rcases Hub.perform_unsubscribe hSound.idle hSound.facades (observerId publisher p.token)
      path.topic with ⟨e, hPerform, -⟩ | ⟨s, hub, result, -, hPerform, -, -, hPairs⟩
    · rw [hPerform]
      rfl
    · rw [hPerform]
      exact (hPairs topic client).trans (if_neg hOther)
  · rw [hCall]
    exact Hub.broker_unsubscribe hSound.idle 0 (observerId publisher p.token) path.topic
  · exact hDeliveries

/-! ## Answers -/

theorem answer_eq (g : Gateway) (request : Packet) (code : UInt8) :
    ∃ reply nextId, g.answer request code = (some reply, { g with nextId }) ∧
      reply.code = code ∧ reply.payload = [] := by
  unfold answer reply
  cases request.kind with
  | confirmable => exact ⟨Packet.ackFor request code, g.nextId, rfl, rfl, rfl⟩
  | _ =>
    exact ⟨⟨.nonConfirmable, code, g.nextId, request.token, [], []⟩, g.nextId + 1, rfl, rfl, rfl⟩

theorem observeAnswer_eq (g : Gateway) (request : Packet) (value : UInt32) :
    ∃ reply nextId, g.observeAnswer request value = (some reply, { g with nextId }) ∧
      reply.code = Code.content ∧ reply.payload = [] := by
  obtain ⟨reply, nextId, hAnswer, hCode⟩ := answer_eq g request Code.content
  have hReply : g.reply request Code.content = (reply, { g with nextId }) := by
    rw [answer, Prod.mk.injEq, Option.some.injEq] at hAnswer
    exact Prod.ext hAnswer.1 hAnswer.2
  refine ⟨reply.setObserve value, nextId, ?_, hCode⟩
  rw [observeAnswer, hReply]

theorem lawful_quiet (g : Gateway) (nextId : UInt16) (reply : Option Packet) :
    Lawful g wall peer p (reply, { g with nextId }) where
  warranted := .inl ⟨rfl, rfl⟩
  refused _ _ _ := rfl

theorem lawful_answer (g : Gateway) (wall : Int64) (peer : Peer) (p : Packet) (code : UInt8) :
    Lawful g wall peer p (g.answer p code) := by
  obtain ⟨reply, nextId, hAnswer, -, -⟩ := answer_eq g p code
  rw [hAnswer]
  exact lawful_quiet g nextId _

/-- After a call the answer is not a refusal. -/
theorem lawful_called (hAdmitted : Admitted g.authorizer wall p path publisher)
    {reply : Option Packet} (hReply : ∀ packet, reply = some packet → packet.code >>> 5 ≠ 4)
    (hCall : Posted g g' wall p path publisher ∨ Observed g g' peer p path publisher ∨
      Cancelled g g' p path publisher) : Lawful g wall peer p (reply, g') where
  warranted := .inr ⟨path, publisher, hAdmitted, hCall⟩
  refused packet hPacket hClass := (hReply packet hPacket hClass).elim

theorem lawful_called_answer (hAdmitted : Admitted g.authorizer wall p path publisher)
    {code : UInt8} (hCode : code >>> 5 ≠ 4)
    (hCall : ∀ nextId, Posted g { g₁ with nextId } wall p path publisher ∨
      Observed g { g₁ with nextId } peer p path publisher ∨
      Cancelled g { g₁ with nextId } p path publisher) :
    Lawful g wall peer p (g₁.answer p code) := by
  obtain ⟨reply, nextId, hAnswer, hReply, -⟩ := answer_eq g₁ p code
  rw [hAnswer]
  apply lawful_called hAdmitted _ (hCall nextId)
  rintro packet ⟨rfl⟩
  rwa [hReply]

theorem lawful_called_observeAnswer (hAdmitted : Admitted g.authorizer wall p path publisher)
    (value : UInt32) (hCall : ∀ nextId, Observed g { g₁ with nextId } peer p path publisher) :
    Lawful g wall peer p (g₁.observeAnswer p value) := by
  obtain ⟨reply, nextId, hAnswer, hReply, -⟩ := observeAnswer_eq g₁ p value
  rw [hAnswer]
  apply lawful_called hAdmitted _ (.inr (.inl (hCall nextId)))
  rintro packet ⟨rfl⟩
  rw [hReply]
  decide

/-! ## Requests -/

theorem lawful_handlePost (hSound : g.Sound)
    (hKind : p.kind = .confirmable ∨ p.kind = .nonConfirmable) (hCode : p.code = Code.post)
    (hPath : ChannelPath.parse? p.uriPath = some path) :
    Lawful g wall peer p (g.handlePost wall p path) := by
  unfold handlePost
  split
  · exact lawful_answer g wall peer p _
  · rename_i hConcrete
    split
    · exact lawful_answer g wall peer p _
    · rename_i hPayload
      split
      · exact lawful_answer g wall peer p _
      · rename_i publisher hAccess
        have hAdmitted : Admitted g.authorizer wall p path publisher := ⟨hKind, hPath, hAccess⟩
        have hPosted : ∀ g' : Gateway,
            g'.hub = (g.publish path.channel (posting wall p path publisher)).1.hub →
            g'.deliveries = g.deliveries → Posted g g' wall p path publisher :=
          fun g' => posted_publish hSound hCode hPath (eq_false_of_ne_true hConcrete)
            fun hConfirmable hEmpty => hPayload ⟨hConfirmable, hEmpty⟩
        have hSame : (g.publish path.channel (posting wall p path publisher)).1.deliveries =
            g.deliveries :=
          deliveries_perform g _
        dsimp only
        split
        · rename_i g₁ e hPublish
          replace hPublish : g.publish path.channel (posting wall p path publisher) =
            (g₁, .error e) := hPublish
          rw [hPublish] at hPosted hSame
          exact lawful_called_answer hAdmitted (by decide) fun nextId => .inl (hPosted _ rfl hSame)
        · rename_i g₁ hPublish
          replace hPublish : g.publish path.channel (posting wall p path publisher) =
            (g₁, .ok ()) := hPublish
          rw [hPublish] at hPosted hSame
          split
          · exact lawful_called_answer hAdmitted (by decide)
              fun nextId => .inl (hPosted _ rfl hSame)
          · exact lawful_called hAdmitted (fun packet hNone => by cases hNone)
              (.inl (hPosted _ rfl hSame))

theorem lawful_register (hSound : g.Sound) (hAdmitted : Admitted g.authorizer wall p path publisher)
    (hCode : p.code = Code.get) (hObserve : p.observe = some 0) :
    Lawful g wall peer p
      (g.register p ⟨observerId publisher p.token, path.topic, peer, p.token⟩) := by
  have hObserved : ∀ g' : Gateway,
      g'.hub = (g.subscribe (observerId publisher p.token) path.topic
        (.feed g.feeds.length)).1.hub →
      Begins g g' ⟨observerId publisher p.token, path.topic, peer, p.token⟩
        (g.subscribe (observerId publisher p.token) path.topic (.feed g.feeds.length)).2 →
      Observed g g' peer p path publisher :=
    fun g' => observed_subscribe hSound hCode hObserve
  have hSame : (g.subscribe (observerId publisher p.token) path.topic
      (.feed g.feeds.length)).1.deliveries = g.deliveries :=
    deliveries_perform g _
  unfold register
  dsimp only
  split
  · rename_i g₁ hSubscribe
    rw [hSubscribe] at hObserved hSame
    apply lawful_called_observeAnswer hAdmitted
    intro nextId
    exact hObserved _ rfl (.inr ⟨rfl, _, _, congrArg (· ++ _) hSame, rfl, rfl⟩)
  · rename_i g₁ hSubscribe
    rw [hSubscribe] at hObserved hSame
    apply lawful_called_observeAnswer hAdmitted
    intro nextId
    exact hObserved _ rfl (.inl ⟨by simp, hSame⟩)
  · rename_i g₁ e hTaken hSubscribe
    rw [hSubscribe] at hObserved hSame
    apply lawful_called_answer hAdmitted (by decide)
    intro nextId
    exact .inr (.inl (hObserved _ rfl (.inl ⟨by simp, hSame⟩)))

theorem lawful_deregister (hSound : g.Sound)
    (hAdmitted : Admitted g.authorizer wall p path publisher) (hCode : p.code = Code.get)
    (hObserve : p.observe = some 1) :
    Lawful g wall peer p
      (g.deregister p ⟨observerId publisher p.token, path.topic, peer, p.token⟩) := by
  have hCancelled : ∀ g' : Gateway,
      g'.hub = (g.unsubscribe (observerId publisher p.token) path.topic).1.hub →
      g'.deliveries = g.deliveries → Cancelled g g' p path publisher :=
    fun g' => cancelled_unsubscribe hSound hCode hObserve
  have hSame : (g.unsubscribe (observerId publisher p.token) path.topic).1.deliveries =
      g.deliveries :=
    deliveries_perform g _
  unfold deregister
  dsimp only
  split
  · rename_i g₁ hUnsubscribe
    rw [hUnsubscribe] at hCancelled hSame
    apply lawful_called_answer hAdmitted (by decide)
    exact fun nextId => .inr (.inr (hCancelled _ rfl hSame))
  · rename_i g₁ hUnsubscribe
    rw [hUnsubscribe] at hCancelled hSame
    apply lawful_called_answer hAdmitted (by decide)
    exact fun nextId => .inr (.inr (hCancelled _ rfl hSame))
  · rename_i g₁ e hPresent hUnsubscribe
    rw [hUnsubscribe] at hCancelled hSame
    apply lawful_called_answer hAdmitted (by decide)
    exact fun nextId => .inr (.inr (hCancelled _ rfl hSame))

theorem lawful_handleGet (hSound : g.Sound)
    (hKind : p.kind = .confirmable ∨ p.kind = .nonConfirmable) (hCode : p.code = Code.get)
    (hPath : ChannelPath.parse? p.uriPath = some path) :
    Lawful g wall peer p (g.handleGet wall peer p path) := by
  unfold handleGet
  split
  · rename_i hObserve
    split
    · exact lawful_answer g wall peer p _
    · rename_i publisher hAccess
      have hAdmitted : Admitted g.authorizer wall p path publisher := ⟨hKind, hPath, hAccess⟩
      dsimp only
      split
      · rename_i hRegister
        exact lawful_register hSound hAdmitted hCode hRegister
      · rename_i hOther
        exact lawful_deregister hSound hAdmitted hCode (hObserve.resolve_left hOther)
  · exact lawful_answer g wall peer p _

theorem lawful_handleRequest (hSound : g.Sound)
    (hKind : p.kind = .confirmable ∨ p.kind = .nonConfirmable) :
    Lawful g wall peer p (g.handleRequest wall peer p) := by
  unfold handleRequest
  split
  · exact lawful_answer g wall peer p _
  · rename_i path hPath
    split
    · rename_i hPost
      exact lawful_handlePost hSound hKind hPost hPath
    · split
      · rename_i hGet
        exact lawful_handleGet hSound hKind hGet hPath
      · exact lawful_answer g wall peer p _

theorem lawful_handle (hSound : g.Sound) (wall : Int64) (peer : Peer) (p : Packet) :
    Lawful g wall peer p (g.handle wall peer p) := by
  unfold handle
  split
  · exact ⟨.inl ⟨rfl, rfl⟩, fun reply hNone => by cases hNone⟩
  · exact ⟨.inl ⟨rfl, rfl⟩, fun reply hNone => by cases hNone⟩
  · rename_i hKind
    split
    · exact lawful_quiet g g.nextId _
    · split
      · exact lawful_handleRequest hSound (.inl hKind)
      · exact lawful_quiet g g.nextId _
  · rename_i hKind
    split
    · exact lawful_handleRequest hSound (.inr hKind)
    · exact lawful_quiet g g.nextId _

/-- Whatever packet comes, the facade is called at most once, for an admitted request
and with the request's own channel, observer and payload, and a refusal changes nothing. -/
theorem handle_lawful (hReached : Reached g) (wall : Int64) (peer : Peer) (p : Packet) :
    Lawful g wall peer p (g.handle wall peer p) :=
  lawful_handle hReached.sound wall peer p

/-- One credential opens one channel. -/
def guarded : Gateway :=
  opened none (fun _ credential channel =>
    if credential = "k" ∧ channel = "abc" then .ok "pub" else .error (.forbidden channel)) {} 0

/-- A request to observe a channel with a credential. -/
def observingWith (channel credential : String) : Packet where
  kind := .confirmable
  code := Code.get
  messageId := 1
  token := [7]
  options := [⟨Opt.observeNumber, []⟩, ⟨Opt.uriPathNumber, "channels".toUTF8.toList⟩,
    ⟨Opt.uriPathNumber, channel.toUTF8.toList⟩, ⟨Opt.uriPathNumber, "messages".toUTF8.toList⟩,
    ⟨Opt.uriQueryNumber, ("auth=" ++ credential).toUTF8.toList⟩]

theorem handle_lawful_guarded : Reached guarded ∧
    ((guarded.handle 0 "peer" (observingWith "abc" "k")).2.pair? "channels.abc" "pub-07").isSome ∧
    Lawful guarded 0 "peer" (observingWith "abc" "k")
      (guarded.handle 0 "peer" (observingWith "abc" "k")) ∧
    ((guarded.handle 0 "peer" (observingWith "def" "k")).1.map Packet.code) =
      some Code.unauthorized ∧
    Lawful guarded 0 "peer" (observingWith "def" "k")
      (guarded.handle 0 "peer" (observingWith "def" "k")) := by
  have hReached : Reached guarded := ⟨_, _, _, _, [], rfl⟩
  refine ⟨hReached, by cbv, handle_lawful hReached _ _ _, by cbv, handle_lawful hReached _ _ _⟩

end DeviceBus.Gateway
