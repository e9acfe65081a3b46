import DeviceBus.Proofs.Gateway.Frames

/-! # What an event leaves alone

A delivery is changed by its own actions only, and its feed by these and by what is
dispatched to it. A request is one of a few calls, or changes nothing but the next message
ID and the exchanges that wait for an answer.
-/

namespace DeviceBus.Gateway

open Coap Observe

variable {g g' g'' : Gateway} {k : Nat} {wall : Int64} {peer : Peer} {p : Packet}

/-! ## What is sent -/

def Output.packet? : Output → Option (Peer × Packet)
  | .sent peer packet => some (peer, packet)
  | _ => none

/-- The packets that the one gateway has sent beyond the other. -/
def Sends (g g' : Gateway) (packets : List (Peer × Packet)) : Prop :=
  ∃ said, g'.log = g.log ++ said ∧ said.filterMap Output.packet? = packets

/-- The packets that an event makes a gateway send, in order. -/
def said (g : Gateway) (e : Event) : List (Peer × Packet) :=
  ((g.step e).log.drop g.log.length).filterMap Output.packet?

theorem said_eq {e : Event} {packets : List (Peer × Packet)} (hSends : Sends g (g.step e) packets) :
    g.said e = packets := by
  obtain ⟨more, hLog, hPackets⟩ := hSends
  rw [said, hLog, List.drop_left, hPackets]

theorem Sends.trans {packets more : List (Peer × Packet)} (h : Sends g g' packets)
    (h' : Sends g' g'' more) : Sends g g'' (packets ++ more) := by
  obtain ⟨said, hLog, hPackets⟩ := h
  obtain ⟨said', hLog', hPackets'⟩ := h'
  refine ⟨said ++ said', ?_, ?_⟩
  · rw [hLog', hLog, List.append_assoc]
  · rw [List.filterMap_append, hPackets, hPackets']

theorem sends_of_same (hLog : g'.log = g.log) : Sends g g' [] :=
  ⟨[], by rw [hLog, List.append_nil], rfl⟩

theorem sends_send (g : Gateway) (peer : Peer) (packet : Packet) :
    Sends g (g.send peer packet).2 [(peer, packet)] :=
  ⟨[.sent peer packet], rfl, rfl⟩

theorem sends_none {said : List Output} (hLog : g'.log = g.log ++ said)
    (hNone : ∀ peer packet, .sent peer packet ∉ said) : Sends g g' [] := by
  refine ⟨said, hLog, List.filterMap_eq_nil_iff.mpr fun o ho => ?_⟩
  cases o with
  | sent peer packet => exact (hNone peer packet ho).elim
  | heard listener message => rfl
  | cancelled listener => rfl

theorem Tame.sends (h : Tame (fun _ _ => False) g g') : Sends g g' [] := by
  obtain ⟨said, hLog, hNone⟩ := h.log
  exact sends_none hLog hNone

/-! ## What is left alone -/

/-- The delivery `k` is as before, and so is its feed but for messages that have arrived and
for its handler, which may have been cancelled. -/
structure Aside (g g' : Gateway) (k : Nat) (arrived : List Envelope) : Prop where
  authorizer : g'.authorizer = g.authorizer
  feeds : g.feeds.length ≤ g'.feeds.length
  delivery : g'.deliveries[k]? = g.deliveries[k]?
  queue : (g'.feed k).queue = (g.feed k).queue ++ arrived
  receiving : (g'.feed k).receiving = (g.feed k).receiving
  sending : (g'.feed k).sending = true → (g.feed k).sending = true

theorem aside_of_same (hAuthorizer : g'.authorizer = g.authorizer) (hFeeds : g'.feeds = g.feeds)
    (hDeliveries : g'.deliveries = g.deliveries) : Aside g g' k [] where
  authorizer := hAuthorizer
  feeds := Nat.le_of_eq (congrArg List.length hFeeds).symm
  delivery := by rw [hDeliveries]
  queue := by rw [feed, hFeeds, List.append_nil, feed]
  receiving := by rw [feed, hFeeds, feed]
  sending hSending := by rwa [feed, hFeeds] at hSending

theorem Aside.trans {arrived : List Envelope} (h : Aside g g' k []) (h' : Aside g' g'' k arrived) :
    Aside g g'' k arrived where
  authorizer := h'.authorizer.trans h.authorizer
  feeds := Nat.le_trans h.feeds h'.feeds
  delivery := h'.delivery.trans h.delivery
  queue := by rw [h'.queue, h.queue, List.append_nil]
  receiving := h'.receiving.trans h.receiving
  sending hSending := h.sending (h'.sending hSending)

theorem aside_setFeed {j : Nat} {f : Feed} {arrived : List Envelope}
    (hOther : j ≠ k → arrived = [])
    (hQueue : j = k → j < g.feeds.length → f.queue = (g.feed j).queue ++ arrived)
    (hAbsent : g.feeds.length ≤ j → arrived = [])
    (hReceiving : f.receiving = (g.feed j).receiving)
    (hSending : f.sending = true → (g.feed j).sending = true) :
    Aside g (g.setFeed j f) k arrived where
  authorizer := rfl
  feeds := Nat.le_of_eq List.length_set.symm
  delivery := rfl
  queue := by
    rw [feed_setFeed]
    split
    · rename_i hSame
      rw [hQueue hSame.1 hSame.2, hSame.1]
    · rename_i hApart
      have hNone : arrived = [] := by
        by_cases hSame : j = k
        · exact hAbsent (Nat.le_of_not_lt fun hBound => hApart ⟨hSame, hBound⟩)
        · exact hOther hSame
      rw [hNone, List.append_nil]
  receiving := by
    rw [feed_setFeed]
    split
    · rename_i hSame
      rw [hReceiving, hSame.1]
    · rfl
  sending := by
    rw [feed_setFeed]
    split
    · rename_i hSame
      rw [← hSame.1]
      exact hSending
    · exact fun hOpen => hOpen

theorem aside_absorbOne (g : Gateway) {r : Report Consumer} (hQuiet : r.Quiet) :
    Aside g (g.absorbOne r) k [] := by
  cases r with
  | handled i ticket consumer message => exact (hQuiet i ticket consumer message rfl).elim
  | cancelled i ticket consumer =>
    cases consumer with
    | listener name onCancel => exact aside_of_same rfl rfl rfl
    | feed index =>
      exact aside_setFeed (fun _ => rfl) (fun _ _ => (List.append_nil _).symm) (fun _ => rfl) rfl
        fun hOpen => by cases hOpen
  | returned number result => exact aside_of_same rfl rfl rfl

theorem aside_absorb (g : Gateway) {reports : List (Report Consumer)}
    (hQuiet : ∀ r ∈ reports, r.Quiet) : Aside g (g.absorb reports) k [] := by
  induction reports generalizing g with
  | nil => exact aside_of_same rfl rfl rfl
  | cons r rest ih =>
    obtain ⟨hFirst, hRest⟩ := List.forall_mem_cons.mp hQuiet
    exact (aside_absorbOne g hFirst).trans (ih (g.absorbOne r) hRest)

theorem aside_perform (g : Gateway) {s : DeviceBus.Step Consumer}
    (hOther : ∀ route, s ≠ .dispatch route) : Aside g (g.perform s).1 k [] := by
  have hHub : Aside g { g with hub := (g.hub.perform {} s).1 } k [] := aside_of_same rfl rfl rfl
  exact hHub.trans (aside_absorb _ (Hub.quiet_perform g.hub {} hOther))

theorem aside_unsubscribe (g : Gateway) (client topic : String) :
    Aside g (g.unsubscribe client topic).1 k [] :=
  aside_perform g fun route hSame => by cases hSame

theorem aside_publish (g : Gateway) (channel : String) (m : Envelope) :
    Aside g (g.publish channel m).1 k [] :=
  aside_perform g fun route hSame => by cases hSame

theorem aside_subscribe (g : Gateway) (client topic : String) (consumer : Consumer) :
    Aside g (g.subscribe client topic consumer).1 k [] :=
  aside_perform g fun route hSame => by cases hSame

theorem aside_close (g : Gateway) : Aside g g.close k [] :=
  aside_perform g fun route hSame => by cases hSame

/-! ## Dispatches -/

/-- What a dispatch brings the delivery `k`. -/
def arrivals (g : Gateway) (k route : Nat) : List Envelope :=
  match g.hub.broker.takeFrom? route with
  | some (⟨facade, ticket, .feed index⟩, data, _) =>
      if index = k ∧ (g.feed k).sending = true ∧ (g.feed k).receiving = true then
        ((g.hub.facade facade).receive? ticket data).toList
      else []
  | _ => []

theorem lt_of_sending (hOpen : (g.feed k).sending = true) : k < g.feeds.length := by
  by_contra hAbsent
  rw [feed, List.getD_eq_default _ _ (Nat.le_of_not_lt hAbsent)] at hOpen
  cases hOpen

theorem aside_handled (g : Gateway) (k i ticket index : Nat) (message : Envelope) :
    Aside g (g.absorbOne (.handled i ticket (.feed index) message)) k
      (if index = k ∧ (g.feed k).sending = true ∧ (g.feed k).receiving = true then [message]
        else []) := by
  simp only [absorbOne, Feed.handle]
  by_cases hOpen : (g.feed index).sending = true ∧ (g.feed index).receiving = true
  · rw [hOpen.1, hOpen.2]
    apply aside_setFeed
    · exact fun hOther => if_neg fun hOwn => hOther (And.left hOwn)
    · rintro rfl -
      rw [if_pos ⟨rfl, hOpen⟩]
    · intro hAbsent
      exact if_neg fun hOwn => absurd (lt_of_sending hOwn.2.1) (Nat.not_lt.mpr (hOwn.1 ▸ hAbsent))
    · exact hOpen.2.symm
    · exact fun _ => hOpen.1
  · have hRefused : ((g.feed index).sending && (g.feed index).receiving) = false := by
      rw [← Bool.not_eq_true, Bool.and_eq_true]
      exact hOpen
    have hOther : ¬(index = k ∧ (g.feed k).sending = true ∧ (g.feed k).receiving = true) := by
      rintro ⟨rfl, hBoth⟩
      exact hOpen hBoth
    rw [hRefused, if_neg hOther]
    exact aside_of_same rfl rfl rfl

theorem aside_dispatch (g : Gateway) (k route : Nat) :
    Aside g (g.dispatch route) k (g.arrivals k route) := by
  cases hTake : g.hub.broker.takeFrom? route with
  | none =>
    simp only [dispatch, Hub.dispatch, arrivals, hTake]
    exact aside_of_same rfl rfl rfl
  | some taken =>
    obtain ⟨⟨i, ticket, consumer⟩, data, broker⟩ := taken
    have hBroker : Aside g { g with hub := { g.hub with broker } } k [] :=
      aside_of_same rfl rfl rfl
    have hFacade : ({ g.hub with broker } : Hub Consumer).facade i = g.hub.facade i := rfl
    cases hReceive : (g.hub.facade i).receive? ticket data with
    | none =>
      simp only [dispatch, Hub.dispatch, arrivals, hTake, hFacade, hReceive]
      cases consumer with
      | listener name onCancel => exact hBroker
      | feed index =>
        simp only [hReceive, Option.toList_none, ite_self]
        exact hBroker
    | some message =>
      simp only [dispatch, Hub.dispatch, Hub.handed_eq, arrivals, hTake, hFacade, hReceive]
      cases consumer with
      | listener name onCancel => exact hBroker.trans (aside_of_same rfl rfl rfl)
      | feed index =>
        have hHanded := aside_handled { g with hub := { g.hub with broker } } k i ticket index
          message
        simp only [hReceive, Option.toList_some]
        exact hBroker.trans hHanded

/-! ## Requests -/

theorem observe_answer (g : Gateway) (request : Packet) (code : UInt8) :
    ∃ reply nextId, g.answer request code = (some reply, { g with nextId }) ∧
      reply.observe = none := by
  unfold answer reply
  cases request.kind with
  | confirmable => exact ⟨Packet.ackFor request code, g.nextId, rfl, rfl⟩
  | _ =>
    exact ⟨⟨.nonConfirmable, code, g.nextId, request.token, [], []⟩, g.nextId + 1, rfl, rfl⟩

/-- The answer of a request that calls nothing. -/
def Idle (g : Gateway) (outcome : Option Packet × Gateway) : Prop :=
  ∃ reply acks nextId, outcome = (reply, { g with acks, nextId }) ∧
    ∀ packet, reply = some packet → packet.observe = none

theorem idle_answer (g : Gateway) (request : Packet) (code : UInt8) :
    g.Idle (g.answer request code) := by
  obtain ⟨reply, nextId, hAnswer, hObserve⟩ := observe_answer g request code
  refine ⟨some reply, g.acks, nextId, hAnswer, ?_⟩
  rintro packet ⟨rfl⟩
  exact hObserve

theorem idle_silent (g : Gateway) : g.Idle (none, g) :=
  ⟨none, g.acks, g.nextId, rfl, fun _ hNone => by cases hNone⟩

/-- A registration is one call of the facade. It begins a delivery if the call succeeds, and
does nothing more otherwise. -/
theorem register_cases (g : Gateway) (request : Packet) (o : Observation) :
    (∃ (g₁ : Gateway) (d : Delivery) (reply : Packet) (nextId : UInt16),
      g.subscribe o.client o.topic (.feed g.feeds.length) = (g₁, .ok ()) ∧
      g.register request o = (some reply, { g₁ with
        feeds := g₁.feeds ++ [{}], deliveries := g₁.deliveries ++ [d], nextId })) ∨
    ∃ (g₁ : Gateway) (e : FacadeError) (reply : Packet) (nextId : UInt16),
      g.subscribe o.client o.topic (.feed g.feeds.length) = (g₁, .error e) ∧
      g.register request o = (some reply, { g₁ with nextId }) := by
  unfold register
  dsimp only
  split
  · rename_i g₁ hOk
    obtain ⟨reply, nextId, hAnswer, -⟩ := observeAnswer_eq
      (({ g₁ with feeds := g₁.feeds ++ [{}] } : Gateway).spawn o g.feeds.length
        (({ started := g.now } : Sequence).next g.now).2) request
      (({ started := g.now } : Sequence).next g.now).1
    exact .inl ⟨g₁, _, reply, nextId, hOk, hAnswer⟩
  · rename_i g₁ hTaken
    obtain ⟨reply, nextId, hAnswer, -⟩ := observeAnswer_eq g₁ request
      (({ started := g.now } : Sequence).next g.now).1
    exact .inr ⟨g₁, _, reply, nextId, hTaken, hAnswer⟩
  · rename_i g₁ e hOther hError
    obtain ⟨reply, nextId, hAnswer, -⟩ := answer_eq g₁ request Code.internalServerError
    exact .inr ⟨g₁, e, reply, nextId, hError, hAnswer⟩

/-- A request calls nothing, or it is admitted and is one call of the facade. -/
inductive Handled (g : Gateway) (wall : Int64) (peer : Peer) (p : Packet)
    (outcome : Option Packet × Gateway) : Prop
  | idle (hIdle : g.Idle outcome)
  | posted {path : ChannelPath} {publisher : String}
      (hAdmitted : Admitted g.authorizer wall p path publisher) (hCode : p.code = Code.post)
      (hConcrete : Subject.isWildcard path.subtopic = false)
      (hPayload : ¬(p.kind = .confirmable ∧ p.payload = []))
      (hOutcome : (g.publish path.channel (posting wall p path publisher)).1.Idle outcome)
  | registered {path : ChannelPath} {publisher : String}
      (hAdmitted : Admitted g.authorizer wall p path publisher) (hCode : p.code = Code.get)
      (hObserve : p.observe = some 0)
      (hOutcome : outcome =
        g.register p ⟨observerId publisher p.token, path.topic, peer, p.token⟩)
  | deregistered {path : ChannelPath} {publisher : String}
      (hAdmitted : Admitted g.authorizer wall p path publisher) (hCode : p.code = Code.get)
      (hObserve : p.observe = some 1)
      (hOutcome : (g.unsubscribe (observerId publisher p.token) path.topic).1.Idle outcome)

theorem idle_deregister (g : Gateway) (request : Packet) (o : Observation) :
    (g.unsubscribe o.client o.topic).1.Idle (g.deregister request o) := by
  unfold deregister
  split
  · rename_i g₁ hRemoved
    rw [hRemoved]
    exact idle_answer g₁ request _
  · rename_i g₁ hRemoved
    rw [hRemoved]
    exact idle_answer g₁ request _
  · rename_i g₁ e hOther hRemoved
    rw [hRemoved]
    exact idle_answer g₁ request _

/-- A request to publish, from a publisher who may use the channel, calls the facade once. -/
theorem idle_handlePost {path : ChannelPath} {publisher : String}
    (hConcrete : Subject.isWildcard path.subtopic = false)
    (hPayload : ¬(p.kind = .confirmable ∧ p.payload = []))
    (hAccess : g.access wall p path.channel = .ok publisher) :
    (g.publish path.channel (posting wall p path publisher)).1.Idle (g.handlePost wall p path) := by
  unfold handlePost
  rw [hConcrete, if_neg Bool.false_ne_true, if_neg hPayload, hAccess]
  dsimp only
  split
  · rename_i g₁ e hPublish
    replace hPublish : g.publish path.channel (posting wall p path publisher) =
      (g₁, .error e) := hPublish
    rw [hPublish]
    exact idle_answer g₁ p _
  · rename_i g₁ hPublish
    replace hPublish : g.publish path.channel (posting wall p path publisher) =
      (g₁, .ok ()) := hPublish
    rw [hPublish]
    split
    · exact idle_answer g₁ p _
    · exact idle_silent g₁

theorem handled_handlePost {path : ChannelPath}
    (hKind : p.kind = .confirmable ∨ p.kind = .nonConfirmable)
    (hPath : ChannelPath.parse? p.uriPath = some path) (hCode : p.code = Code.post) :
    Handled g wall peer p (g.handlePost wall p path) := by
  cases hConcrete : Subject.isWildcard path.subtopic with
  | true =>
    rw [handlePost, hConcrete, if_pos rfl]
    exact .idle (idle_answer g p _)
  | false =>
    by_cases hPayload : p.kind = .confirmable ∧ p.payload = []
    · rw [handlePost, hConcrete, if_neg Bool.false_ne_true, if_pos hPayload]
      exact .idle (idle_answer g p _)
    · cases hAccess : g.access wall p path.channel with
      | error e =>
        rw [handlePost, hConcrete, if_neg Bool.false_ne_true, if_neg hPayload, hAccess]
        exact .idle (idle_answer g p _)
      | ok publisher =>
        exact .posted ⟨hKind, hPath, hAccess⟩ hCode hConcrete hPayload
          (idle_handlePost hConcrete hPayload hAccess)

theorem handled_handleGet {path : ChannelPath}
    (hKind : p.kind = .confirmable ∨ p.kind = .nonConfirmable)
    (hPath : ChannelPath.parse? p.uriPath = some path) (hCode : p.code = Code.get) :
    Handled g wall peer p (g.handleGet wall peer p path) := by
  unfold handleGet
  split
  · rename_i hObserve
    split
    · exact .idle (idle_answer g p _)
    · rename_i publisher hAccess
      dsimp only
      split
      · rename_i hRegister
        exact .registered ⟨hKind, hPath, hAccess⟩ hCode hRegister rfl
      · rename_i hOther
        exact .deregistered ⟨hKind, hPath, hAccess⟩ hCode (hObserve.resolve_left hOther)
          (idle_deregister g p ⟨observerId publisher p.token, path.topic, peer, p.token⟩)
  · exact .idle (idle_answer g p _)

theorem handled_handleRequest (hKind : p.kind = .confirmable ∨ p.kind = .nonConfirmable) :
    Handled g wall peer p (g.handleRequest wall peer p) := by
  unfold handleRequest
  split
  · exact .idle (idle_answer g p _)
  · rename_i path hPath
    split
    · rename_i hPost
      exact handled_handlePost hKind hPath hPost
    · split
      · rename_i hGet
        exact handled_handleGet hKind hPath hGet
      · exact .idle (idle_answer g p _)

theorem handle_request (g : Gateway) (wall : Int64) (peer : Peer)
    (hKind : p.kind = .confirmable ∨ p.kind = .nonConfirmable)
    (hCode : Code.isRequest p.code = true) :
    g.handle wall peer p = g.handleRequest wall peer p := by
  have hEmpty : p.isEmpty = false := by
    rw [Packet.isEmpty, beq_eq_false_iff_ne]
    rintro hNone
    rw [hNone] at hCode
    cases hCode
  have hRequest : p.isRequest = true := hCode
  unfold handle
  rcases hKind with hKind | hKind
  · simp only [hKind, hEmpty, hRequest, if_true, Bool.false_eq_true, if_false]
  · simp only [hKind, hRequest, if_true]

theorem handled_handle (g : Gateway) (wall : Int64) (peer : Peer) (p : Packet) :
    Handled g wall peer p (g.handle wall peer p) := by
  have hResolved : ∀ acks, g.Idle (none, { g with acks }) :=
    fun acks => ⟨none, acks, g.nextId, rfl, fun _ hNone => by cases hNone⟩
  unfold handle
  split
  · exact .idle (hResolved _)
  · exact .idle (hResolved _)
  · rename_i hKind
    split
    · refine .idle ⟨_, g.acks, g.nextId, rfl, ?_⟩
      rintro packet ⟨rfl⟩
      rfl
    · split
      · exact handled_handleRequest (.inl hKind)
      · exact .idle (idle_silent g)
  · rename_i hKind
    split
    · exact handled_handleRequest (.inr hKind)
    · exact .idle (idle_silent g)

theorem receive_eq (g : Gateway) (wall : Int64) (peer : Peer) (p : Packet) :
    ∃ log, g.receive wall peer p = { (g.handle wall peer p).2 with log } := by
  unfold receive
  split
  · rename_i reply g₁ hReply
    exact ⟨_, by rw [hReply]; rfl⟩
  · rename_i g₁ hNone
    exact ⟨_, by rw [hNone]⟩

theorem sends_receive (g : Gateway) (wall : Int64) (peer : Peer) (p : Packet) :
    Sends g (g.receive wall peer p)
      ((g.handle wall peer p).1.toList.map fun reply => (peer, reply)) := by
  have hHandle : Sends g (g.handle wall peer p).2 [] := (plain_handle g wall peer p).1.sends
  unfold receive
  split
  · rename_i reply g₁ hReply
    rw [hReply] at hHandle ⊢
    exact hHandle.trans (sends_send g₁ peer reply)
  · rename_i g₁ hNone
    rw [hNone] at hHandle ⊢
    exact hHandle

/-! ## Events -/

/-- The event is an action of the delivery `k`. -/
def Event.acts (k : Nat) : Event → Bool
  | .poll delivery => delivery = k
  | .alarm delivery => delivery = k
  | _ => false

theorem Idle.aside {outcome : Option Packet × Gateway} (h : g.Idle outcome) :
    Aside g outcome.2 k [] := by
  obtain ⟨reply, acks, nextId, rfl, -⟩ := h
  exact aside_of_same rfl rfl rfl

theorem aside_spawned (g : Gateway) (d : Delivery) (hFeed : k < g.feeds.length)
    (hDelivery : k < g.deliveries.length) :
    Aside g { g with feeds := g.feeds ++ [{}], deliveries := g.deliveries ++ [d] } k [] := by
  have hSame : (g.feeds ++ [({} : Feed)]).getD k { sending := false, receiving := false } =
      g.feed k :=
    List.getD_append _ _ _ _ hFeed
  constructor
  · rfl
  · simp
  · exact List.getElem?_append_left hDelivery
  · rw [feed, hSame, List.append_nil]
  · rw [feed, hSame]
  · intro hOpen
    rwa [feed, hSame] at hOpen

theorem aside_register (g : Gateway) (request : Packet) (o : Observation)
    (hFeed : k < g.feeds.length) (hDelivery : k < g.deliveries.length) :
    Aside g (g.register request o).2 k [] := by
  have hSubscribe := aside_subscribe (k := k) g o.client o.topic (.feed g.feeds.length)
  have hDeliveries := deliveries_perform g (.subscribe 0 o.client o.topic (.feed g.feeds.length))
  rw [← subscribe] at hDeliveries
  rcases register_cases g request o with
    ⟨g₁, d, reply, nextId, hOk, hRegister⟩ | ⟨g₁, e, reply, nextId, hError, hRegister⟩
  · rw [hOk] at hSubscribe hDeliveries
    have hSpawned := aside_spawned g₁ d (Nat.lt_of_lt_of_le hFeed hSubscribe.feeds)
      (hDeliveries ▸ hDelivery)
    rw [hRegister]
    exact (hSubscribe.trans hSpawned).trans (aside_of_same rfl rfl rfl)
  · rw [hError] at hSubscribe
    rw [hRegister]
    exact hSubscribe.trans (aside_of_same rfl rfl rfl)

theorem aside_handle (hFeed : k < g.feeds.length) (hDelivery : k < g.deliveries.length)
    (wall : Int64) (peer : Peer) (p : Packet) : Aside g (g.handle wall peer p).2 k [] := by
  have hHandled := handled_handle g wall peer p
  generalize g.handle wall peer p = outcome at hHandled
  cases hHandled with
  | idle hIdle => exact hIdle.aside
  | posted hAdmitted hCode hConcrete hPayload hOutcome =>
    exact (aside_publish g _ _).trans hOutcome.aside
  | registered hAdmitted hCode hObserve hOutcome =>
    rw [hOutcome]
    exact aside_register g p _ hFeed hDelivery
  | deregistered hAdmitted hCode hObserve hOutcome =>
    exact (aside_unsubscribe g _ _).trans hOutcome.aside

theorem aside_receive (hFeed : k < g.feeds.length) (hDelivery : k < g.deliveries.length)
    (wall : Int64) (peer : Peer) (p : Packet) : Aside g (g.receive wall peer p) k [] := by
  obtain ⟨log, hReceive⟩ := receive_eq g wall peer p
  rw [hReceive]
  exact (aside_handle hFeed hDelivery wall peer p).trans (aside_of_same rfl rfl rfl)

/-- What an event brings the delivery `k`. -/
def brings (g : Gateway) (k : Nat) : Event → List Envelope
  | .dispatch route => g.arrivals k route
  | _ => []

end DeviceBus.Gateway
