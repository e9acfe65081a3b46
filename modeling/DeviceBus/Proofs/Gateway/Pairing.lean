import DeviceBus.Proofs.Gateway.Cancelling

/-! # Registrations and deliveries go together

A registration of a peer has one delivery that has not ended, and a delivery whose handler has
not been cancelled has its registration. So no registration takes messages that nobody sends
on, and none has its messages sent twice. To ask again for what is there already, or to cancel
again what is gone, changes nothing.
-/

namespace DeviceBus.Gateway

open Coap Observe

variable {g g' : Gateway} {k : Nat} {d : Delivery} {e : Event} {topic client : String}
  {observe : UInt32} {wall : Int64} {peer : Peer} {p : Packet}

/-! ## Requests that change nothing -/

/-- An admitted request with this Observe value for a pair of the registry, from whatever
peer. -/
inductive Event.Requests (authorizer : Authorizer) (observe : UInt32) (topic client : String) :
    Event → Prop
  | request {wall : Int64} {peer : Peer} {p : Packet} {path : ChannelPath} {publisher : String}
      (hAdmitted : Admitted authorizer wall p path publisher) (hCode : p.code = Code.get)
      (hObserve : p.observe = some observe) (hClient : client = observerId publisher p.token)
      (hTopic : topic = path.topic) : Requests authorizer observe topic client (.packet wall peer p)

/-- The peer of a packet is sent one answer, that all is well. -/
def Accepts (g : Gateway) (e : Event) : Prop :=
  ∃ wall peer p reply, e = .packet wall peer p ∧ g.said e = [(peer, reply)] ∧
    reply.code = Code.content

def AcceptsAll (g : Gateway) : List Event → Prop
  | [] => True
  | e :: rest => g.Accepts e ∧ (g.step e).AcceptsAll rest

/-- The gateway has counted calls, drawn message IDs and written its log, and nothing else. -/
def Unmoved (g g' : Gateway) : Prop :=
  ∃ nextCall nextId log, g' = { g with hub := { g.hub with nextCall }, nextId, log }

theorem Unmoved.refl (g : Gateway) : Unmoved g g :=
  ⟨_, _, _, rfl⟩

theorem Unmoved.trans {g₁ g₂ g₃ : Gateway} (h : Unmoved g₁ g₂) (h' : Unmoved g₂ g₃) :
    Unmoved g₁ g₃ := by
  obtain ⟨nextCall, nextId, log, rfl⟩ := h
  obtain ⟨nextCall', nextId', log', rfl⟩ := h'
  exact ⟨nextCall', nextId', log', rfl⟩

theorem Unmoved.pair?_eq (h : Unmoved g g') (topic client : String) :
    g'.pair? topic client = g.pair? topic client := by
  obtain ⟨nextCall, nextId, log, rfl⟩ := h
  rfl

theorem Unmoved.authorizer_eq (h : Unmoved g g') : g'.authorizer = g.authorizer := by
  obtain ⟨nextCall, nextId, log, rfl⟩ := h
  rfl

theorem accepts_of_handle {reply : Packet} (hHandle : g.handle wall peer p = (some reply, g'))
    (hCode : reply.code = Code.content) (hUnmoved : Unmoved g g') :
    g.Accepts (.packet wall peer p) ∧ Unmoved g (g.step (.packet wall peer p)) := by
  have hSends := sends_receive g wall peer p
  rw [hHandle] at hSends
  obtain ⟨log, hReceive⟩ := receive_eq g wall peer p
  refine ⟨⟨wall, peer, p, reply, rfl, said_eq hSends, hCode⟩, hUnmoved.trans ?_⟩
  rw [step, hReceive, hHandle]
  exact ⟨_, _, log, rfl⟩

theorem observerId_ne_empty (publisher : String) (token : Bytes) :
    observerId publisher token ≠ "" := by
  rw [observerId, Ne, ← String.toList_inj]
  simp

theorem topic_ne_empty (path : ChannelPath) : path.topic ≠ "" := by
  rw [ChannelPath.topic, Subject.topicName, Ne, ← String.toList_inj]
  split
  · simp [Subject.root]
  · simp [Subject.root]

/-- A pair that is not there is not taken out. -/
theorem unsubscribe_free (hSound : g.Sound) (hTopic : topic ≠ "") (hClient : client ≠ "")
    (hFree : g.pair? topic client = none) : g.unsubscribe client topic =
      ({ g with hub := { g.hub with nextCall := g.hub.nextCall + 1 } },
        .error .notSubscribed) := by
  have hRemove : (g.hub.facade 0).remove client topic = .error .notSubscribed := by
    rcases (g.hub.facade 0).remove_of_names hTopic hClient with ⟨-, hRefused⟩ | ⟨s, f, hPair, -⟩
    · exact hRefused
    · cases hFree.symm.trans hPair
  have hStep : g.hub.step (.unsubscribe 0 client topic) =
      g.hub.immediate (.error .notSubscribed) := by
    simp only [Hub.step, Hub.beginUnsubscribe, hRemove]
  rw [unsubscribe, perform, Hub.perform_immediate hStep rfl hSound.idle]
  rfl

/-- To ask for what is there changes nothing. -/
theorem accepts_taken (hSound : g.Sound) {s : Subscription Consumer}
    (hPair : g.pair? topic client = some s) (hRequests : e.Requests g.authorizer 0 topic client) :
    g.Accepts e ∧ Unmoved g (g.step e) := by
  cases hRequests with
  | @request wall peer p path publisher hAdmitted hCode hObserve hClient hTopic =>
    rw [hTopic, hClient] at hPair
    obtain ⟨reply, nextId, hReply, hContent, -⟩ := observeAnswer_eq
      { g with hub := { g.hub with nextCall := g.hub.nextCall + 1 } } p 0
    refine accepts_of_handle ?_ hContent ⟨g.hub.nextCall + 1, nextId, g.log, rfl⟩
    rw [handle_registers hAdmitted hCode hObserve, register, next_started,
      subscribe_taken hSound _ hPair]
    exact hReply

/-- To cancel what is gone changes nothing. -/
theorem accepts_free (hSound : g.Sound) (hFree : g.pair? topic client = none)
    (hRequests : e.Requests g.authorizer 1 topic client) :
    g.Accepts e ∧ Unmoved g (g.step e) := by
  cases hRequests with
  | @request wall peer p path publisher hAdmitted hCode hObserve hClient hTopic =>
    rw [hTopic, hClient] at hFree
    obtain ⟨reply, nextId, hReply, hContent, -⟩ := answer_eq
      { g with hub := { g.hub with nextCall := g.hub.nextCall + 1 } } p Code.content
    refine accepts_of_handle ?_ hContent ⟨g.hub.nextCall + 1, nextId, g.log, rfl⟩
    rw [handle_deregisters hAdmitted hCode hObserve, deregister,
      unsubscribe_free hSound (topic_ne_empty path) (observerId_ne_empty publisher p.token) hFree]
    exact hReply

/-- Any number of such requests changes nothing either. -/
theorem accepts_all {authorizer : Authorizer} {entry : Option (Subscription Consumer)}
    (hStep : ∀ (g : Gateway) e, g.Sound → g.authorizer = authorizer →
      g.pair? topic client = entry → e.Requests authorizer observe topic client →
        g.Accepts e ∧ Unmoved g (g.step e))
    (requests : List Event) (hSound : g.Sound) (hAuthorizer : g.authorizer = authorizer)
    (hPair : g.pair? topic client = entry)
    (hRequests : ∀ e ∈ requests, e.Requests authorizer observe topic client) :
    g.AcceptsAll requests ∧ Unmoved g (g.run requests) := by
  induction requests generalizing g with
  | nil => exact ⟨trivial, .refl g⟩
  | cons e rest ih =>
    obtain ⟨hFirst, hRest⟩ := List.forall_mem_cons.mp hRequests
    obtain ⟨hAccepts, hUnmoved⟩ := hStep g e hSound hAuthorizer hPair hFirst
    obtain ⟨hAll, hLater⟩ := ih (sound_step hSound e) (hUnmoved.authorizer_eq.trans hAuthorizer)
      ((hUnmoved.pair?_eq topic client).trans hPair) hRest
    exact ⟨⟨hAccepts, hAll⟩, hUnmoved.trans hLater⟩

theorem accepts_all_taken (hSound : g.Sound) {s : Subscription Consumer}
    (hPair : g.pair? topic client = some s) {requests : List Event}
    (hRequests : ∀ e ∈ requests, e.Requests g.authorizer 0 topic client) :
    g.AcceptsAll requests ∧ Unmoved g (g.run requests) := by
  refine accepts_all ?_ requests hSound rfl hPair hRequests
  intro g' e hSound' hAuthorizer hPair' hAsks
  exact accepts_taken hSound' hPair' (hAuthorizer ▸ hAsks)

theorem accepts_all_free (hSound : g.Sound) (hFree : g.pair? topic client = none)
    {requests : List Event} (hRequests : ∀ e ∈ requests, e.Requests g.authorizer 1 topic client) :
    g.AcceptsAll requests ∧ Unmoved g (g.run requests) := by
  refine accepts_all ?_ requests hSound rfl hFree hRequests
  intro g' e hSound' hAuthorizer hFree' hCancels
  exact accepts_free hSound' hFree' (hAuthorizer ▸ hCancels)

theorem Event.Requests.frees (h : e.Requests g.authorizer 1 topic client) (hSound : g.Sound) :
    (g.step e).pair? topic client = none := by
  cases h with
  | @request wall peer p path publisher hAdmitted hCode hObserve hClient hTopic =>
    have hCancels : (Event.packet wall peer p).Cancels g.authorizer
        ⟨client, topic, peer, p.token⟩ := .request hAdmitted hCode hObserve hClient hTopic
    exact hCancels.pair?_eq hSound

theorem Event.Requests.authorizer_eq {authorizer : Authorizer}
    (h : e.Requests authorizer observe topic client) : (g.step e).authorizer = g.authorizer := by
  cases h with
  | @request wall peer p path publisher hAdmitted hCode hObserve hClient hTopic =>
    exact authorizer_receive g wall peer p

/-! ## Pairs and deliveries -/

/-- One delivery takes what comes on the feed, on behalf of the pair, and has not ended. -/
structure Attended (g : Gateway) (feed : Nat) (topic client : String) : Prop where
  receiving : (g.feed feed).receiving = true
  delivery : ∃ (k : Nat) (d : Delivery), g.deliveries[k]? = some d ∧ d.feed = feed ∧
    d.phase ≠ .ended ∧ d.observation.topic = topic ∧ d.observation.client = client
  alone : ∀ (k k' : Nat) (d d' : Delivery), g.deliveries[k]? = some d →
    g.deliveries[k']? = some d' → d.feed = feed → d'.feed = feed → k = k'

structure Coupled (g : Gateway) : Prop where
  /-- The registration of a peer has one delivery that goes on. -/
  attended : ∀ topic client s feed, g.pair? topic client = some s → s.handler = .feed feed →
    g.Attended feed topic client
  /-- A delivery whose handler has not been cancelled goes on and has its registration. -/
  registered : ∀ (k : Nat) (d : Delivery), g.deliveries[k]? = some d →
    (g.feed d.feed).sending = true → d.phase ≠ .ended ∧ g.Enrolled d.feed d.observation
  /-- To ask any number of times for what is there is well and changes nothing. -/
  repeats : ∀ topic client s requests, g.pair? topic client = some s →
    (∀ e ∈ requests, Event.Requests g.authorizer 0 topic client e) →
      g.AcceptsAll requests ∧ Unmoved g (g.run requests)
  /-- To cancel again, any number of times, is well and changes nothing. -/
  cancels : ∀ topic client e requests,
    (∀ e' ∈ e :: requests, Event.Requests g.authorizer 1 topic client e') →
      (g.step e).AcceptsAll requests ∧ Unmoved (g.step e) ((g.step e).run requests)

theorem Reached.attended (h : Reached g) {s : Subscription Consumer} {feed : Nat}
    (hPair : g.pair? topic client = some s) (hHandler : s.handler = .feed feed) :
    g.Attended feed topic client := by
  obtain ⟨hServes, hSending⟩ := h.sound.served topic client s feed hPair hHandler
  have hReceiving := h.alive feed hSending
  rw [Serves, List.getElem?_map] at hServes
  obtain ⟨d, hAt, hPair⟩ := Option.map_eq_some_iff.mp hServes
  simp only [Delivery.serves, Prod.mk.injEq] at hPair
  obtain ⟨hTopic, hClient, hFeed⟩ := hPair
  have hOpen := (h.orderly feed d hAt).receiving.mp hReceiving
  refine ⟨hReceiving, ⟨feed, d, hAt, hFeed, hOpen, hTopic, hClient⟩, ?_⟩
  intro k k' d d' hAt hAt' hOwn hOwn'
  rw [← h.sound.feed_eq hAt, ← h.sound.feed_eq hAt', hOwn, hOwn']

theorem Reached.registered (h : Reached g) (hAt : g.deliveries[k]? = some d)
    (hSending : (g.feed d.feed).sending = true) :
    d.phase ≠ .ended ∧ g.Enrolled d.feed d.observation := by
  have hFeed := h.sound.feed_eq hAt
  rw [hFeed] at hSending ⊢
  exact ⟨(h.orderly k d hAt).receiving.mp (h.alive k hSending),
    h.sound.registered k _ _ (h.sound.serves hAt) hSending⟩

/-- After any run, registrations and deliveries go together. -/
theorem coupled_run (group : Option String) (authorizer : Authorizer) (settings : Settings)
    (firstId : UInt16) (events : List Event) :
    ((opened group authorizer settings firstId).run events).Coupled := by
  have hReached : Reached ((opened group authorizer settings firstId).run events) :=
    ⟨group, authorizer, settings, firstId, events, rfl⟩
  constructor
  · exact fun topic client s feed hPair hHandler => hReached.attended hPair hHandler
  · exact fun k d hAt hSending => hReached.registered hAt hSending
  · exact fun topic client s requests hPair hRequests =>
      accepts_all_taken hReached.sound hPair hRequests
  · intro topic client e requests hRequests
    obtain ⟨hFirst, hRest⟩ := List.forall_mem_cons.mp hRequests
    rw [← hFirst.authorizer_eq] at hRest
    exact accepts_all_free (sound_step hReached.sound e) (hFirst.frees hReached.sound) hRest

/-- A peer asks again for its observation, and for its end. -/
example : ((overdue 1).pair? "channels.abc" "pub-07").isSome ∧
    (Event.packet 0 "peer" (observing 2 [])).Requests (overdue 1).authorizer 0
      "channels.abc" "pub-07" ∧
    (Event.packet 0 "peer" (observing 3 [1])).Requests (overdue 1).authorizer 1
      "channels.abc" "pub-07" := by
  have hAuthorizer : (overdue 1).authorizer = fun _ _ _ => .ok "pub" := by cbv
  have hAdmitted (messageId : UInt16) (observe : Bytes)
      (hParsed : ChannelPath.parse? (observing messageId observe).uriPath = some ⟨"abc", ""⟩) :
      Admitted (overdue 1).authorizer 0 (observing messageId observe) ⟨"abc", ""⟩ "pub" :=
    ⟨.inl rfl, hParsed, hAuthorizer ▸ rfl⟩
  exact ⟨by cbv, .request (hAdmitted 2 [] (by cbv)) rfl (by cbv) (by cbv) (by cbv),
    .request (hAdmitted 3 [1] (by cbv)) rfl (by cbv) (by cbv) (by cbv)⟩

end DeviceBus.Gateway
