import DeviceBus.Proofs.Gateway.Mail
import DeviceBus.Proofs.Gateway.Observing

/-! # Every message once, in order

A message for an observation waits in the mailbox of its route, then in its feed, until its
delivery notifies the peer. Each event moves messages along or puts new ones at the end: what
has been sent, what is in the feed and what waits in the mailbox are together what has been
published, in order. That a delivery asks its peer and waits for the answer changes nothing.
-/

namespace DeviceBus.Gateway

open Coap Observe

variable {g g' : Gateway} {k : Nat} {o : Observation} {d d' : Delivery} {f : Feed} {e : Event}
  {s : Subscription Consumer} {id : Nat}

/-! ## What is published, what is sent and what is under way -/

/-- The payload of the envelope that the octets are, if they are one. -/
def payload? (data : Bytes) : Option Bytes :=
  (Envelope.ofBytes? data).map Envelope.payload

/-- What some mail brings those who observe the topic. -/
def brought (topic : String) : Mail → List Bytes
  | .posted subject data =>
      if Subject.selects topic subject = true then (payload? data).toList else []
  | _ => []

/-- The payloads that are published along a run on subjects that the topic selects. -/
def published (g : Gateway) (topic : String) : List Event → List Bytes
  | [] => []
  | e :: rest => brought topic (g.mail e) ++ (g.step e).published topic rest

/-- The notifications among the packets that an event makes the delivery `k` send. -/
def noticesAt (g : Gateway) (k : Nat) (e : Event) : List (Peer × Packet) :=
  if e.acts k then (g.said e).filter fun sent => sent.2.kind = .nonConfirmable else []

def notices (g : Gateway) (k : Nat) : List Event → List (Peer × Packet)
  | [] => []
  | e :: rest => g.noticesAt k e ++ (g.step e).notices k rest

def payloads (sent : List (Peer × Packet)) : List Bytes :=
  sent.map fun notice => notice.2.payload

/-- What waits in the mailbox of an observation's route. -/
def waitingFor (g : Gateway) (o : Observation) : List Bytes :=
  match (g.pair? o.topic o.client).bind Subscription.handle with
  | some id => g.hub.broker.waiting id
  | none => []

/-- What is under way to the peer of an observation, the oldest first. -/
def pending (g : Gateway) (k : Nat) (o : Observation) : List Bytes :=
  (g.feed k).queue.map Envelope.payload ++ (g.waitingFor o).filterMap payload?

/-! ## Turns -/

/-- The delivery goes on, and sends no message twice. -/
structure Delivery.Attends (d : Delivery) : Prop where
  bare : d.Bare
  goes_on : d.phase ≠ .ended
  lives : d.state.isTerminal = false

theorem attends_of_watching {due : Nat} (hWatching : d.phase = .watching due)
    (hLives : d.state.isTerminal = false) : d.Attends where
  bare _ _ _ _ hPhase := by cases hWatching.symm.trans hPhase
  goes_on hPhase := by cases hWatching.symm.trans hPhase
  lives := hLives

theorem isTerminal_on {state : State} (hLives : state.isTerminal = false) (happens : Observe.Event)
    (hSpares : happens ∉ [.cancel, .resetReceived, .retriesExhausted]) :
    (state.on happens).isTerminal = false := by
  cases state <;> cases happens <;> first | rfl | contradiction

theorem Concludes.attends {f₀ : Feed} (h : Concludes f₀ d d' f) (hOpen : f.sending = true) :
    d'.Attends := by
  cases h with
  | watches due hGoesOn => exact attends_of_watching rfl hGoesOn
  | ends hSending =>
    rw [hSending] at hOpen
    cases hOpen

/-- An exchange sends probes, which are no notifications. -/
theorem Transmits.attends {f₀ : Feed} {packet : Packet} {slot attempt : Nat}
    {packets : List Packet} (h : Transmits f₀ d packet slot attempt packets d' f)
    (hLives : d.state.isTerminal = false) (hProbe : Probe packet) (hOpen : f.sending = true) :
    d'.Attends ∧ f = f₀ ∧ ∀ sent ∈ packets, sent.kind ≠ .nonConfirmable := by
  refine ⟨?_, h.feed_eq hOpen, ?_⟩
  · cases h with
    | goes_out due =>
      constructor
      · intro sent _ _ _ hPhase
        cases hPhase
        exact hProbe
      · exact fun hPhase => by cases hPhase
      · exact isTerminal_on hLives _ (by decide)
    | gives_up hConcludes => exact hConcludes.attends hOpen
  · cases h with
    | goes_out due =>
      refine List.forall_mem_singleton.mpr fun hKind => ?_
      cases hProbe.1.symm.trans hKind
    | gives_up hConcludes => exact List.forall_mem_nil _

/-- A turn sends no notification and leaves the feed as it is, or it notifies the peer of the
first message in the feed. -/
theorem Turn.flow {packets : List Packet} (h : Turn g k d packets d' f) (hAttends : d.Attends)
    (hOpen : f.sending = true) : d'.Attends ∧
      ((f = g.feed k ∧ ∀ packet ∈ packets, packet.kind ≠ .nonConfirmable) ∨
        ∃ m rest packet, (g.feed k).queue = m :: rest ∧ f.queue = rest ∧ packets = [packet] ∧
          packet.kind = .nonConfirmable ∧ packet.payload = m.payload ∧
          packet.token = d.observation.token) := by
  have hLives := hAttends.lives
  cases h with
  | rests => exact ⟨hAttends, .inl ⟨rfl, List.forall_mem_nil _⟩⟩
  | notifies due hWatching hQueue =>
    have hStill := isTerminal_on hLives .nonConfirmableSent (by decide)
    exact ⟨attends_of_watching rfl hStill, .inr ⟨_, _, _, hQueue, rfl, rfl, rfl, rfl, rfl⟩⟩
  | asks hWatching hTransmits =>
    exact (hTransmits.attends hLives ⟨rfl, rfl⟩ hOpen).imp_right .inl
  | asks_again hConfirming hTransmits =>
    have hStill := isTerminal_on hLives .ackTimedOut (by decide)
    have hProbe := hAttends.bare _ _ _ _ hConfirming
    exact (hTransmits.attends hStill hProbe hOpen).imp_right .inl
  | answered state hConfirming hConcludes =>
    exact ⟨hConcludes.attends hOpen, .inl ⟨hConcludes.feed_eq hOpen, List.forall_mem_nil _⟩⟩
  | ends state hWatching hSending =>
    rw [hSending] at hOpen
    cases hOpen

/-! ## Dispatches -/

theorem waitingFor_eq (hPair : g.pair? o.topic o.client = some s) (hHandle : s.handle = some id) :
    g.waitingFor o = g.hub.broker.waiting id := by
  rw [waitingFor, hPair, Option.bind_some, hHandle]

theorem pending_eq (hPair : g.pair? o.topic o.client = some s) (hHandle : s.handle = some id) :
    g.pending k o = (g.feed k).queue.map Envelope.payload ++
      (g.hub.broker.waiting id).filterMap payload? := by
  rw [pending, waitingFor_eq hPair hHandle]

theorem filterMap_payload? (data : Bytes) (rest : List Bytes) :
    (data :: rest).filterMap payload? = (payload? data).toList ++ rest.filterMap payload? := by
  rw [List.filterMap_cons]
  cases payload? data with
  | none => rfl
  | some payload => rfl

/-- The handler of a pair is the only one to feed the feed of the pair. -/
theorem Wired.route_eq (h : g.Wired) (hPair : g.pair? o.topic o.client = some s)
    (hHandle : s.handle = some id) (hHandler : s.handler = .feed k) {route : Nat}
    {tap : Tap Consumer} {data : Bytes} {broker : Broker (Tap Consumer)}
    (hTake : g.hub.broker.takeFrom? route = some (tap, data, broker))
    (hTap : tap.handler = .feed k) : route = id := by
  obtain ⟨id', hHandle', hr⟩ := h.standing.route _ _ s hPair
  cases hHandle'.symm.trans hHandle
  obtain ⟨before, m, after, rest, hMailboxes, hRoute, hOwn, -⟩ :=
    Broker.takeFrom?_split h.standing.reached.stocked hTake
  have hm : m ∈ g.hub.broker.mailboxes := by
    rw [hMailboxes]
    exact List.mem_append_right _ List.mem_cons_self
  exact h.sole route tap id ⟨0, s.ticket, s.handler⟩ k (.inr ⟨m, hm, hRoute, hOwn⟩)
    (.inl ⟨_, hr, rfl, rfl⟩) hTap hHandler

/-- A dispatch moves the first message of the mailbox to the end of the feed. -/
theorem Wired.flow_dispatch (h : g.Wired) (hPair : g.pair? o.topic o.client = some s)
    (hHandle : s.handle = some id) (hHandler : s.handler = .feed k)
    (hOpen : (g.feed k).sending = true ∧ (g.feed k).receiving = true) (route : Nat) :
    (g.arrivals k route).map Envelope.payload ++
      ((g.dispatch route).hub.broker.waiting id).filterMap payload? =
        (g.hub.broker.waiting id).filterMap payload? := by
  have hAffects := affects_dispatch g route
  rw [Affects] at hAffects
  generalize (g.dispatch route).facade = f' at hAffects
  generalize (g.dispatch route).hub.broker = broker at hAffects
  cases hAffects with
  | misses hNone => simp [arrivals, hNone]
  | @hands route tap data broker hTake =>
    rw [Broker.waiting_takeFrom? h.standing.reached.stocked hTake id]
    by_cases hOwn : id = route
    · subst hOwn
      have hTap := h.standing.tap_eq hPair hHandle hTake
      have hActive := h.standing.active _ _ s hPair
      have hReceive : (g.hub.facade 0).receive? s.ticket data = Envelope.ofBytes? data :=
        if_pos hActive
      rw [if_pos rfl, List.singleton_append, filterMap_payload?]
      simp only [arrivals, hTake, hTap, hHandler, hOpen, and_self, if_true, hReceive, payload?]
      cases Envelope.ofBytes? data with
      | none => rfl
      | some m => rfl
    · have hOther : ∀ consumer, tap.handler = consumer → consumer ≠ .feed k := by
        rintro consumer hTap rfl
        exact hOwn (h.route_eq hPair hHandle hHandler hTake hTap).symm
      have hNone : g.arrivals k route = [] := by
        obtain ⟨facade, ticket, consumer⟩ := tap
        cases consumer with
        | listener name onCancel => simp only [arrivals, hTake]
        | feed index =>
          have hApart : index ≠ k := fun hSame => hOther _ rfl (hSame ▸ rfl)
          simp only [arrivals, hTake, hApart, false_and, if_false]
      rw [if_neg hOwn, hNone]
      rfl

/-- A message that is posted comes to the end of the mailbox if the topic selects it. -/
theorem Wired.flow_posted {mail : Mail} (h : g.Wired) (hPair : g.pair? o.topic o.client = some s)
    (hHandle : s.handle = some id) (hAffects : Affects g g' mail)
    (hNotTaken : ∀ route, mail ≠ .taken route) :
    (g'.hub.broker.waiting id).filterMap payload? =
      (g.hub.broker.waiting id).filterMap payload? ++ brought o.topic mail := by
  cases mail with
  | none =>
    rw [Broker.waiting, hAffects.mailboxes, ← Broker.waiting]
    exact (List.append_nil _).symm
  | taken route => exact (hNotTaken route rfl).elim
  | posted subject data =>
    have hStanding := h.standing
    rw [Affects] at hAffects
    generalize g'.facade = f' at hAffects
    generalize g'.hub.broker = broker at hAffects
    cases hAffects with
    | posts subject data =>
      rw [hStanding.waiting_route hPair hHandle, List.filterMap_append]
      dsimp only [brought]
      split
      · rw [filterMap_payload?, List.filterMap_nil, List.append_nil]
      · rw [List.filterMap_nil]

theorem dispatch_of_mail {route : Nat} (hTaken : g.mail e = .taken route) :
    e = .dispatch route := by
  unfold mail at hTaken
  split at hTaken
  · cases hTaken
  · cases hTaken
    rfl
  · split at hTaken
    · cases hTaken
    · split at hTaken
      · cases hTaken
      · cases hTaken

/-! ## One observation along a run -/

/-- The delivery `k` of a gateway is that of the observation, and goes on. -/
structure Flowing (g : Gateway) (k : Nat) (o : Observation) : Prop extends Going g k o where
  wired : g.Wired
  attends : ∀ d, g.deliveries[k]? = some d → d.Attends

/-- As long as the observation is registered it keeps its pair and its route. -/
theorem Flowing.pair (h : g.Flowing k o) (hStill : (g.step e).Enrolled k o) :
    ∃ s id, g.pair? o.topic o.client = some s ∧ (g.step e).pair? o.topic o.client = some s ∧
      s.handler = .feed k ∧ s.handle = some id := by
  obtain ⟨s', hPair', hHandler'⟩ := id hStill
  obtain ⟨hAfter, hOpen⟩ := h.toGoing.step e
  obtain ⟨s, hPair, hHandler⟩ := h.toGoing.enrolled_iff.mpr (hOpen (hAfter.enrolled_iff.mp hStill))
  obtain ⟨id, hHandle, -⟩ := h.wired.standing.route _ _ s hPair
  obtain rfl : s' = s := (affects_step h.sound h.alive e).pair_eq hPair hPair'
  exact ⟨s', id, hPair, hPair', hHandler, hHandle⟩

theorem mail_of_acts (hActs : e.acts k = true) : g.mail e = .none := by
  cases e with
  | poll delivery => rfl
  | alarm delivery => rfl
  | _ => cases hActs

/-- An action of the delivery sends what it takes from the feed. -/
theorem Flowing.flow_acts (h : g.Flowing k o) (hStill : (g.step e).Enrolled k o)
    (hActs : e.acts k = true) :
    (∀ d, (g.step e).deliveries[k]? = some d → d.Attends) ∧
      payloads (g.noticesAt k e) ++ (g.step e).pending k o = g.pending k o ∧
      ∀ sent ∈ g.noticesAt k e, sent.1 = o.peer ∧ sent.2.token = o.token := by
  obtain ⟨s, id, hPair, hPair', -, hHandle⟩ := h.pair hStill
  obtain ⟨d, hAt, rfl⟩ := h.delivery
  obtain ⟨packets, d', f, hTurn, hTakes⟩ := turned_step h.sound h.alive hAt hActs
  have hOpen : f.sending = true := by
    rw [← hTakes.feed]
    exact (h.toGoing.step e).1.enrolled_iff.mp hStill
  have hAffects := affects_step h.sound h.alive e
  rw [mail_of_acts hActs] at hAffects
  have hWaiting : (g.step e).hub.broker.waiting id = g.hub.broker.waiting id := by
    rw [Broker.waiting, hAffects.mailboxes, Broker.waiting]
  rw [pending_eq hPair' hHandle, pending_eq hPair hHandle, hWaiting, hTakes.feed, noticesAt,
    if_pos hActs, said_eq hTakes.sends]
  obtain ⟨hAttends, hFlow⟩ := hTurn.flow (h.attends d hAt) hOpen
  refine ⟨fun d₁ hAt₁ => ?_, ?_⟩
  · rw [hTakes.delivery] at hAt₁
    cases hAt₁
    exact hAttends
  · rcases hFlow with ⟨rfl, hProbes⟩ |
      ⟨m, rest, packet, hQueue, hRest, rfl, hKind, hPayload, hToken⟩
    · have hNone : (packets.map fun packet => (d.observation.peer, packet)).filter
          (fun sent => sent.2.kind = .nonConfirmable) = [] := by
        rw [List.filter_eq_nil_iff]
        rintro sent hSent hKind
        obtain ⟨packet, hPacket, rfl⟩ := List.mem_map.mp hSent
        exact hProbes packet hPacket (of_decide_eq_true hKind)
      rw [hNone]
      exact ⟨rfl, List.forall_mem_nil _⟩
    · have hOne : ([packet].map fun packet => (d.observation.peer, packet)).filter
          (fun sent => sent.2.kind = .nonConfirmable) = [(d.observation.peer, packet)] := by
        simp [hKind]
      rw [hOne, hQueue, hRest, payloads, List.map_singleton, hPayload]
      exact ⟨rfl, List.forall_mem_singleton.mpr ⟨rfl, hToken⟩⟩

/-- Any other event brings messages to the mailbox, or from it into the feed. -/
theorem Flowing.flow_others (h : g.Flowing k o) (hStill : (g.step e).Enrolled k o)
    (hActs : e.acts k = false) :
    (∀ d, (g.step e).deliveries[k]? = some d → d.Attends) ∧
      (g.step e).pending k o = g.pending k o ++ brought o.topic (g.mail e) := by
  obtain ⟨s, id, hPair, hPair', hHandler, hHandle⟩ := h.pair hStill
  have hAside := aside_step h.sound h.alive h.toGoing.lt_feeds hActs
  refine ⟨fun d hAt => h.attends d (hAside.delivery.symm.trans hAt), ?_⟩
  rw [pending_eq hPair' hHandle, pending_eq hPair hHandle, hAside.queue, List.map_append,
    List.append_assoc, List.append_assoc]
  congr 1
  by_cases hDispatch : ∃ route, e = .dispatch route
  · obtain ⟨route, rfl⟩ := hDispatch
    have hSending := h.toGoing.enrolled_iff.mp ⟨s, hPair, hHandler⟩
    have hFlow := h.wired.flow_dispatch hPair hHandle hHandler ⟨hSending, h.alive k hSending⟩ route
    exact hFlow.trans (List.append_nil _).symm
  · have hNone : g.brings k e = [] := by
      cases e with
      | dispatch route => exact (hDispatch ⟨route, rfl⟩).elim
      | _ => rfl
    rw [hNone]
    exact h.wired.flow_posted hPair hHandle (affects_step h.sound h.alive e)
      fun route hTaken => hDispatch ⟨route, dispatch_of_mail hTaken⟩

theorem Flowing.step (h : g.Flowing k o) (hStill : (g.step e).Enrolled k o) :
    (g.step e).Flowing k o ∧
      payloads (g.noticesAt k e) ++ (g.step e).pending k o =
        g.pending k o ++ brought o.topic (g.mail e) ∧
      ∀ sent ∈ g.noticesAt k e, sent.1 = o.peer ∧ sent.2.token = o.token := by
  have hGoing := (h.toGoing.step e).1
  have hWired := wired_step h.sound h.alive h.wired e
  cases hActs : e.acts k with
  | true =>
    obtain ⟨hAttends, hFlow, hSent⟩ := h.flow_acts hStill hActs
    rw [mail_of_acts hActs]
    exact ⟨⟨hGoing, hWired, hAttends⟩, hFlow.trans (List.append_nil _).symm, hSent⟩
  | false =>
    obtain ⟨hAttends, hFlow⟩ := h.flow_others hStill hActs
    rw [noticesAt, if_neg (Bool.eq_false_iff.mp hActs)]
    exact ⟨⟨hGoing, hWired, hAttends⟩, hFlow, List.forall_mem_nil _⟩

theorem Flowing.run (h : g.Flowing k o) {events : List Event}
    (hStill : (g.run events).Enrolled k o) :
    (g.run events).Flowing k o ∧
      payloads (g.notices k events) ++ (g.run events).pending k o =
        g.pending k o ++ g.published o.topic events ∧
      ∀ sent ∈ g.notices k events, sent.1 = o.peer ∧ sent.2.token = o.token := by
  induction events generalizing g with
  | nil => exact ⟨h, (List.append_nil _).symm, List.forall_mem_nil _⟩
  | cons e rest ih =>
    have hEnrolled := (h.toGoing.step e).1.enrolled_of_run hStill
    obtain ⟨hStep, hFlow, hSent⟩ := h.step hEnrolled
    obtain ⟨hRun, hFlow', hSent'⟩ := ih hStep hStill
    refine ⟨hRun, ?_, List.forall_mem_append.mpr ⟨hSent, hSent'⟩⟩
    calc payloads (g.notices k (e :: rest)) ++ (g.run (e :: rest)).pending k o
        = payloads (g.noticesAt k e) ++ (payloads ((g.step e).notices k rest) ++
            ((g.step e).run rest).pending k o) := by
          rw [notices, payloads, List.map_append, List.append_assoc]
          rfl
      _ = payloads (g.noticesAt k e) ++ (g.step e).pending k o ++
            (g.step e).published o.topic rest := by
          rw [hFlow', List.append_assoc]
      _ = g.pending k o ++ g.published o.topic (e :: rest) := by
          rw [hFlow, published, List.append_assoc]

end DeviceBus.Gateway
