import DeviceBus.Proofs.Envelope
import DeviceBus.Proofs.Gateway.Frames

/-! # Channels keep to themselves

As long as messages come in through requests only, a payload that is sent for an
observation was posted to the channel that is observed. A message is followed from the
request that posts it over the route of the observation into its feed; on the way it
meets only the observations whose topic selects its own.
-/

namespace DeviceBus.Gateway

open Coap Observe

variable {g g' : Gateway} {authorizer : Authorizer} {events : List Event} {e : Event}
  {path : ChannelPath} {o : Observation} {m : Envelope} {k : Nat}

namespace Event

/-- Not a message from elsewhere. -/
def Inward (e : Event) : Prop :=
  (∀ channel message, e ≠ .publish channel message) ∧ ∀ subject data, e ≠ .route subject data

/-- A request, from a publisher who may use the channel, to observe the path. -/
def Registers (e : Event) (authorizer : Authorizer) (path : ChannelPath) (o : Observation) : Prop :=
  ∃ wall p publisher, e = .packet wall o.peer p ∧ Admitted authorizer wall p path publisher ∧
    p.code = Code.get ∧ p.observe = some 0 ∧
    o = ⟨observerId publisher p.token, path.topic, o.peer, p.token⟩

/-- A request, from a publisher who may use the channel, to publish the payload. -/
def Posts (e : Event) (authorizer : Authorizer) (path : ChannelPath) (payload : Bytes) : Prop :=
  ∃ wall peer p publisher, e = .packet wall peer p ∧ Admitted authorizer wall p path publisher ∧
    p.code = Code.post ∧ Subject.isWildcard path.subtopic = false ∧ p.payload = payload

theorem Registers.accepted (h : e.Registers authorizer path o) : path.Accepted := by
  obtain ⟨wall, p, publisher, -, hAdmitted, -⟩ := h
  exact ⟨_, hAdmitted.parsed⟩

theorem Registers.topic (h : e.Registers authorizer path o) : o.topic = path.topic := by
  obtain ⟨wall, p, publisher, -, -, -, -, hObservation⟩ := h
  rw [hObservation]

theorem Posts.accepted {payload : Bytes} (h : e.Posts authorizer path payload) :
    path.Accepted := by
  obtain ⟨wall, peer, p, publisher, -, hAdmitted, -⟩ := h
  exact ⟨_, hAdmitted.parsed⟩

end Event

/-! ## Messages under way -/

/-- The message was posted on a topic that the observation selects. -/
def Owed (authorizer : Authorizer) (events : List Event) (o : Observation) (m : Envelope) : Prop :=
  ∃ path, (∃ e ∈ events, e.Posts authorizer path m.payload) ∧
    Subject.selects o.topic path.topic = true

def observation? (g : Gateway) (k : Nat) : Option Observation :=
  (g.deliveries.map Delivery.observation)[k]?

structure Isolated (authorizer : Authorizer) (events : List Event) (g : Gateway) : Prop where
  authorizer_eq : g.authorizer = authorizer
  reached : g.hub.broker.Reached
  bare : ∀ d ∈ g.deliveries, d.Bare
  observed : ∀ k o, g.observation? k = some o →
    ∃ path, ∃ e ∈ events, e.Registers authorizer path o
  routed : ∀ r ∈ g.hub.broker.routes, ∀ k, r.tap.handler = .feed k →
    ∃ o, g.observation? k = some o ∧ r.pattern = o.topic
  carried : ∀ tap data, g.hub.broker.Carries tap data → ∀ k, tap.handler = .feed k →
    ∃ o m, g.observation? k = some o ∧ data = m.toBytes ∧ Owed authorizer events o m
  queued : ∀ k, ∀ m ∈ (g.feed k).queue, ∃ o, g.observation? k = some o ∧ Owed authorizer events o m

theorem isolated_opened (group : Option String) (authorizer : Authorizer) (settings : Settings)
    (firstId : UInt16) : Isolated authorizer [] (opened group authorizer settings firstId) where
  authorizer_eq := rfl
  reached := .connected .empty
  bare := List.forall_mem_nil _
  observed k o hObserved := by cases hObserved
  routed := List.forall_mem_nil _
  carried tap data hCarries := by
    obtain ⟨m, hm, -⟩ := hCarries
    cases hm
  queued k m hm := by cases hm

theorem Owed.mono {events' : List Event} (h : Owed authorizer events o m)
    (hSubset : ∀ e ∈ events, e ∈ events') : Owed authorizer events' o m := by
  obtain ⟨path, ⟨e, he, hPosts⟩, hSelects⟩ := h
  exact ⟨path, ⟨e, hSubset e he, hPosts⟩, hSelects⟩

theorem Isolated.mono {events' : List Event} (h : Isolated authorizer events g)
    (hSubset : ∀ e ∈ events, e ∈ events') : Isolated authorizer events' g where
  authorizer_eq := h.authorizer_eq
  reached := h.reached
  bare := h.bare
  observed k o hObserved := by
    obtain ⟨path, e, he, hRegisters⟩ := h.observed k o hObserved
    exact ⟨path, e, hSubset e he, hRegisters⟩
  routed := h.routed
  carried tap data hCarries k hTap := by
    obtain ⟨o, m, hObserved, hData, hOwed⟩ := h.carried tap data hCarries k hTap
    exact ⟨o, m, hObserved, hData, hOwed.mono hSubset⟩
  queued k m hm := by
    obtain ⟨o, hObserved, hOwed⟩ := h.queued k m hm
    exact ⟨o, hObserved, hOwed.mono hSubset⟩

theorem Isolated.keep {P : Peer → Packet → Prop} (h : Isolated authorizer events g)
    (hMild : Mild P g g') : Isolated authorizer events g' := by
  have hSame : ∀ k, g'.observation? k = g.observation? k := by
    intro k
    rw [observation?, hMild.observations, ← observation?]
  constructor
  · exact hMild.authorizer.trans h.authorizer_eq
  · exact hMild.broker.reached h.reached
  · exact hMild.bare h.bare
  · intro k o hObserved
    rw [hSame] at hObserved
    exact h.observed k o hObserved
  · intro r hr k hTap
    rw [hSame]
    exact h.routed r (hMild.broker.routes r hr) k hTap
  · intro tap data hCarries k hTap
    rw [hSame]
    exact h.carried tap data (hMild.broker.carries tap data hCarries) k hTap
  · intro k m hm
    rw [hSame]
    exact h.queued k m (hMild.queues k m hm)

/-! ## Steps that bring something new -/

theorem observation?_of_same (hSame : g'.deliveries = g.deliveries) (k : Nat) :
    g'.observation? k = g.observation? k := by
  rw [observation?, hSame, ← observation?]

theorem Isolated.posted {wall : Int64} {peer : Peer} {p : Packet} {publisher : String}
    {P : Peer → Packet → Prop} (h : Isolated authorizer events g) (hTame : Tame P g g')
    (hAdmitted : Admitted authorizer wall p path publisher)
    (hPosted : Posted g g' wall p path publisher) :
    Isolated authorizer (events ++ [.packet wall peer p]) g' := by
  have hBefore : Isolated authorizer (events ++ [.packet wall peer p]) g :=
    h.mono fun e he => List.mem_append_left _ he
  rcases hPosted.broker with hSame | hRouted
  · exact hBefore.keep (hTame.mild (hSame ▸ .refl _) hPosted.deliveries)
  · have hObservation := observation?_of_same hPosted.deliveries
    have hPosts : Event.Posts (.packet wall peer p) authorizer path p.payload :=
      ⟨wall, peer, p, publisher, rfl, hAdmitted, hPosted.code, hPosted.concrete, rfl⟩
    constructor
    · exact hTame.authorizer.trans h.authorizer_eq
    · rw [hRouted]
      exact h.reached.changed (.routed _ _)
    · rw [hPosted.deliveries]
      exact h.bare
    · intro k o hObserved
      rw [hObservation] at hObserved
      exact hBefore.observed k o hObserved
    · rw [hRouted]
      intro r hr k hTap
      rw [hObservation]
      exact h.routed r hr k hTap
    · -- The new message goes to routes that select its topic, so to whom it is owed.
      rw [hRouted]
      intro tap data hCarries k hTap
      rw [hObservation]
      rcases Broker.carries_route h.reached hCarries with hOld | ⟨rfl, r, hr, hSelects, rfl⟩
      · exact hBefore.carried tap data hOld k hTap
      · obtain ⟨o, hObserved, hPattern⟩ := h.routed r hr k hTap
        refine ⟨o, _, hObserved, rfl, path, ⟨_, List.mem_append_right _ (.head _), hPosts⟩, ?_⟩
        rwa [← hPattern]
    · intro k m hm
      rw [hObservation]
      exact hBefore.queued k m (hTame.queues k m hm)

/-- A new route brings nothing if its feed belongs to an observation of its pattern. -/
theorem Isolated.subscribed {P : Peer → Packet → Prop} {topic : String} {group : Option String}
    {tap : Tap Consumer} {id : Nat} (h : Isolated authorizer events g) (hTame : Tame P g g')
    (hSubscribe : g.hub.broker.subscribe 0 topic group tap = .ok (id, g'.hub.broker))
    (hBare : ∀ d ∈ g'.deliveries, d.Bare)
    (hKept : ∀ k o, g.observation? k = some o → g'.observation? k = some o)
    (hObserved : ∀ k o, g'.observation? k = some o →
      ∃ path, ∃ e ∈ events, e.Registers authorizer path o)
    (hTap : ∀ k, tap.handler = .feed k → ∃ o, g'.observation? k = some o ∧ topic = o.topic) :
    Isolated authorizer events g' := by
  obtain ⟨-, -, -, hRoutes, -⟩ := Broker.subscribe_eq_ok hSubscribe
  constructor
  · exact hTame.authorizer.trans h.authorizer_eq
  · exact h.reached.changed (.subscribed hSubscribe)
  · exact hBare
  · exact hObserved
  · rw [hRoutes]
    refine List.forall_mem_append.mpr ⟨fun r hr k hFeed => ?_, List.forall_mem_singleton.mpr hTap⟩
    obtain ⟨o, hk, hPattern⟩ := h.routed r hr k hFeed
    exact ⟨o, hKept k o hk, hPattern⟩
  · intro tap' data hCarries k hFeed
    rw [Broker.Carries, Broker.mailboxes_subscribe hSubscribe] at hCarries
    obtain ⟨o, m, hk, hOwed⟩ := h.carried tap' data hCarries k hFeed
    exact ⟨o, m, hKept k o hk, hOwed⟩
  · intro k m hm
    obtain ⟨o, hk, hOwed⟩ := h.queued k m (hTame.queues k m hm)
    exact ⟨o, hKept k o hk, hOwed⟩

theorem Isolated.registered {wall : Int64} {peer : Peer} {p : Packet} {publisher : String}
    {P : Peer → Packet → Prop} (h : Isolated authorizer events g) (hSound : g.Sound)
    (hTame : Tame P g g') (hAdmitted : Admitted authorizer wall p path publisher)
    (hObserved : Observed g g' peer p path publisher) :
    Isolated authorizer (events ++ [.packet wall peer p]) g' := by
  have hBefore : Isolated authorizer (events ++ [.packet wall peer p]) g :=
    h.mono fun e he => List.mem_append_left _ he
  rcases hObserved.outcome with
    ⟨hSame, hDeliveries⟩ | ⟨ticket, group, id, d, due, hSubscribe, hDeliveries, hPhase, hNew⟩
  · exact hBefore.keep (hTame.mild (hSame ▸ .refl _) hDeliveries)
  · have hAt : ∀ k o, g'.observation? k = some o ↔
        g.observation? k = some o ∨ k = g.feeds.length ∧ o = d.observation := by
      intro k o
      rw [observation?, hDeliveries, List.map_append, List.map_singleton,
        Positions.getElem?_concat_iff, List.length_map, hSound.feeds, observation?]
    have hRegisters : Event.Registers (.packet wall peer p) authorizer path d.observation := by
      rw [hNew]
      exact ⟨wall, p, publisher, rfl, hAdmitted, hObserved.code, hObserved.observe, rfl⟩
    apply hBefore.subscribed hTame hSubscribe
    · rw [hDeliveries]
      refine List.forall_mem_append.mpr ⟨h.bare, List.forall_mem_singleton.mpr ?_⟩
      intro packet slot attempt due' hConfirming
      rw [hPhase] at hConfirming
      cases hConfirming
    · exact fun k o hk => (hAt k o).mpr (.inl hk)
    · intro k o hk
      rcases (hAt k o).mp hk with hOwn | ⟨-, rfl⟩
      · exact hBefore.observed k o hOwn
      · exact ⟨path, _, List.mem_append_right _ (.head _), hRegisters⟩
    · intro k hTap
      cases hTap
      exact ⟨d.observation, (hAt _ _).mpr (.inr ⟨rfl, rfl⟩), by rw [hNew]⟩

theorem isolated_handle {P : Peer → Packet → Prop} (h : Isolated authorizer events g)
    (hSound : g.Sound) (wall : Int64) (peer : Peer) (p : Packet) :
    Isolated authorizer (events ++ [.packet wall peer p]) (g.handle wall peer p).2 := by
  have hTame := (plain_handle (P := P) g wall peer p).1
  have hBefore : Isolated authorizer (events ++ [.packet wall peer p]) g :=
    h.mono fun e he => List.mem_append_left _ he
  rcases (lawful_handle hSound wall peer p).warranted with
    ⟨hHub, hDeliveries⟩ | ⟨path, publisher, hAdmitted, hCall⟩
  · exact hBefore.keep (mild_of_same hTame hHub hDeliveries)
  · rw [h.authorizer_eq] at hAdmitted
    rcases hCall with hPosted | hObserved | hCancelled
    · exact h.posted hTame hAdmitted hPosted
    · exact h.registered hSound hTame hAdmitted hObserved
    · apply hBefore.keep (hTame.mild _ hCancelled.deliveries)
      rcases hCancelled.broker with hSame | ⟨s, handle, -, -, hUnsubscribe⟩
      · exact hSame ▸ .refl _
      · exact Broker.lessens_unsubscribe hUnsubscribe

theorem isolated_subscribe (h : Isolated authorizer events g) (hSound : g.Sound)
    (client topic name : String) (onCancel : Except HandlerError Unit) :
    Isolated authorizer events (g.subscribe client topic (.listener name onCancel)).1 := by
  have hTame : Tame (fun _ _ => True) g (g.subscribe client topic (.listener name onCancel)).1 :=
    tame_subscribe g _ _ _
  have hDeliveries := deliveries_perform g (.subscribe 0 client topic (.listener name onCancel))
  have hObservation := observation?_of_same hDeliveries
  have hHub := hub_perform g (.subscribe 0 client topic (.listener name onCancel))
  have hBroker := Hub.broker_subscribe hSound.idle hSound.facades client topic
    (Consumer.listener name onCancel)
  rw [← hHub] at hBroker
  rcases hBroker with ⟨-, ticket, group, id, hSubscribe⟩ | ⟨-, hSame⟩
  · apply h.subscribed hTame hSubscribe
    · exact hDeliveries ▸ h.bare
    · exact fun k o hk => (hObservation k).trans hk
    · exact fun k o hk => h.observed k o ((hObservation k).symm.trans hk)
    · intro k hTap
      cases hTap
  · exact h.keep (hTame.mild (hSame ▸ .refl _) hDeliveries)

theorem isolated_handled (h : Isolated authorizer events g) (i ticket : Nat) {consumer : Consumer}
    (hOwed : ∀ k, consumer = .feed k →
      ∃ o, g.observation? k = some o ∧ Owed authorizer events o m) :
    Isolated authorizer events (g.absorbOne (.handled i ticket consumer m)) := by
  cases consumer with
  | listener name onCancel =>
    have hEmit : Tame (fun _ _ => True) g (g.emit (.heard name m)) :=
      tame_emit g fun peer packet hSame => by cases hSame
    exact h.keep (mild_of_same hEmit rfl rfl)
  | feed index =>
    rcases handled_feed g i ticket index m with hSame | hQueued
    · rwa [hSame]
    · rw [hQueued]
      refine { h with queued := fun k m' hm' => ?_ }
      rw [feed_setFeed] at hm'
      split at hm'
      · rename_i hSame
        rw [← hSame.1]
        rcases List.mem_append.mp hm' with hOld | hNew
        · exact h.queued index m' hOld
        · rw [List.mem_singleton.mp hNew]
          exact hOwed index rfl
      · exact h.queued k m' hm'

/-- What comes out of a mailbox is what was put in, so it is owed to the observation
whose feed it goes to. -/
theorem isolated_dispatch (h : Isolated authorizer events g) (route : Nat) :
    Isolated authorizer events (g.dispatch route) := by
  rcases dispatch_cases g route with hSame | ⟨tap, data, broker, hTake, hOutcome⟩
  · rwa [hSame]
  · have hTame : Tame (fun _ _ => True) g { g with hub := { g.hub with broker } } :=
      tame_of_same rfl rfl rfl
    have hTaken := h.keep (hTame.mild (Broker.lessens_takeFrom? h.reached hTake) rfl)
    rcases hOutcome with hLeft | ⟨message, hReceive, hHanded⟩
    · rwa [hLeft]
    · rw [hHanded]
      apply isolated_handled hTaken
      intro k hTap
      have hCarries := (Broker.mem_mailboxes_takeFrom? h.reached.stocked hTake).1
      obtain ⟨o, m, hObserved, rfl, hOwed⟩ := h.carried tap data hCarries k hTap
      have hRead : Envelope.ofBytes? m.toBytes = some message := by
        unfold Facade.receive? at hReceive
        split at hReceive
        · exact hReceive
        · cases hReceive
      rw [Envelope.eq_of_ofBytes? hRead]
      exact ⟨o, hObserved, hOwed⟩

/-! ## Runs -/

theorem isolated_receive (h : Isolated authorizer events g) (hSound : g.Sound) (wall : Int64)
    (peer : Peer) (p : Packet) :
    Isolated authorizer (events ++ [.packet wall peer p]) (g.receive wall peer p) := by
  have hHandle := isolated_handle (P := fun _ _ => True) h hSound wall peer p
  unfold receive
  generalize g.handle wall peer p = handled at hHandle
  obtain ⟨reply, g₁⟩ := handled
  cases reply with
  | none => exact hHandle
  | some packet =>
    have hSend : Tame (fun _ _ => True) g₁ (g₁.send peer packet).2 :=
      tame_emit g₁ fun _ _ _ => trivial
    exact hHandle.keep (mild_of_same hSend rfl rfl)

theorem isolated_step (h : Isolated authorizer events g) (hSound : g.Sound) (hInward : e.Inward) :
    Isolated authorizer (events ++ [e]) (g.step e) := by
  have hBefore : Isolated authorizer (events ++ [e]) g :=
    h.mono fun e' he => List.mem_append_left _ he
  cases e with
  | packet wall peer p => exact isolated_receive h hSound wall peer p
  | publish channel message => exact (hInward.1 channel message rfl).elim
  | subscribe client topic listener onCancel =>
    exact isolated_subscribe hBefore hSound client topic listener onCancel
  | unsubscribe client topic =>
    exact hBefore.keep (mild_unsubscribe (P := fun _ _ => True) hSound.idle client topic)
  | close => exact hBefore.keep (mild_close (P := fun _ _ => True) hSound.idle)
  | route subject data => exact (hInward.2 subject data rfl).elim
  | dispatch route => exact isolated_dispatch hBefore route
  | poll delivery => exact hBefore.keep (mild_poll hSound.idle h.bare delivery)
  | alarm delivery => exact hBefore.keep (mild_alarm hSound.idle delivery)
  | elapse millis =>
    have hTame : Tame (fun _ _ => True) g { g with now := g.now + millis } :=
      tame_of_same rfl rfl rfl
    exact hBefore.keep (mild_of_same hTame rfl rfl)
  | transport outcome =>
    have hTame : Tame (fun _ _ => True) g { g with transport := outcome } :=
      tame_of_same rfl rfl rfl
    exact hBefore.keep (mild_of_same hTame rfl rfl)

theorem isolated_run (h : Isolated authorizer events g) (hSound : g.Sound) {more : List Event}
    (hInward : ∀ e ∈ more, e.Inward) : Isolated authorizer (events ++ more) (g.run more) := by
  induction more generalizing events g with
  | nil =>
    rw [List.append_nil]
    exact h
  | cons e rest ih =>
    obtain ⟨hFirst, hRest⟩ := List.forall_mem_cons.mp hInward
    have hAfter := ih (isolated_step h hSound hFirst) (sound_step hSound e) hRest
    rwa [List.append_assoc, List.singleton_append] at hAfter

/-! ## What is sent -/

theorem log_dispatch (g : Gateway) (route : Nat) : ∃ said, (g.dispatch route).log = g.log ++ said ∧
    ∀ peer packet, .sent peer packet ∉ said := by
  have hNone : ∃ said, g.log = g.log ++ said ∧ ∀ peer packet, .sent peer packet ∉ said :=
    ⟨[], (List.append_nil _).symm, fun _ _ hSent => by cases hSent⟩
  rcases dispatch_cases g route with
    hSame | ⟨⟨facade, ticket, consumer⟩, data, broker, -, hLeft | ⟨message, -, hHanded⟩⟩
  · rwa [hSame]
  · rwa [hLeft]
  · rw [hHanded]
    cases consumer with
    | listener name onCancel =>
      exact ⟨[.heard name message], rfl, fun _ _ hSent => by simp at hSent⟩
    | feed index =>
      rcases handled_feed { g with hub := { g.hub with broker } } facade ticket index message with
        hSame | hQueued
      · rwa [hSame]
      · rwa [hQueued]

/-- A packet is the answer to a request, or sent by the action of a delivery. -/
theorem says_step (hSound : g.Sound) (hBare : ∀ d ∈ g.deliveries, d.Bare) (e : Event) :
    ∃ said, (g.step e).log = g.log ++ said ∧ ∀ peer packet, .sent peer packet ∈ said →
      ((∃ wall sender p, e = .packet wall sender p) ∧ packet.payload = []) ∨
        ∃ k, (e = .poll k ∨ e = .alarm k) ∧ g.Speaks k peer packet := by
  cases e with
  | packet wall peer p =>
    exact (tame_receive (fun _ _ hEmpty => .inl ⟨⟨wall, peer, p, rfl⟩, hEmpty⟩) g wall peer p).log
  | publish channel message => exact (tame_publish g channel message).log
  | subscribe client topic listener onCancel =>
    exact (tame_subscribe g client topic (.listener listener onCancel)).log
  | unsubscribe client topic => exact (tame_unsubscribe g client topic).log
  | close => exact (tame_close g).log
  | route subject data => exact ⟨[], (List.append_nil _).symm, fun _ _ hSent => by cases hSent⟩
  | dispatch route =>
    obtain ⟨said, hLog, hSaid⟩ := log_dispatch g route
    exact ⟨said, hLog, fun peer packet hSent => (hSaid peer packet hSent).elim⟩
  | poll delivery =>
    obtain ⟨said, hLog, hSaid⟩ := (mild_poll hSound.idle hBare delivery).log
    exact ⟨said, hLog, fun peer packet hSent =>
      .inr ⟨delivery, .inl rfl, hSaid peer packet hSent⟩⟩
  | alarm delivery =>
    obtain ⟨said, hLog, hSaid⟩ := (mild_alarm hSound.idle delivery).log
    exact ⟨said, hLog, fun peer packet hSent =>
      .inr ⟨delivery, .inr rfl, hSaid peer packet hSent⟩⟩
  | elapse millis => exact ⟨[], (List.append_nil _).symm, fun _ _ hSent => by cases hSent⟩
  | transport outcome => exact ⟨[], (List.append_nil _).symm, fun _ _ hSent => by cases hSent⟩

/-- Topics of accepted paths tell channels apart. So when all messages of a run come in
through requests, a packet that is neither the answer to a request nor a probe carries what
was posted to the channel that the observation it is sent for was registered with. -/
theorem channels_isolated (group : Option String) (authorizer : Authorizer) (settings : Settings)
    (firstId : UInt16) (events : List Event) (hInward : ∀ e ∈ events, e.Inward) :
    (∀ segments segments' r q, ChannelPath.parse? segments = some r →
      ChannelPath.parse? segments' = some q → Subject.isWildcard q.subtopic = false →
        (Subject.selects r.topic q.topic = true → r.channel = q.channel) ∧
        (r.topic = q.topic → r = q)) ∧
      ∀ g, g = (opened group authorizer settings firstId).run events → ∀ e,
        ∃ said, (g.step e).log = g.log ++ said ∧ ∀ peer packet, .sent peer packet ∈ said →
          ((∃ wall sender p, e = .packet wall sender p) ∧ packet.payload = []) ∨
          ∃ k, (e = .poll k ∨ e = .alarm k) ∧ (Probe packet ∨
            ∃ d r q, g.deliveries[k]? = some d ∧ peer = d.observation.peer ∧
              packet.token = d.observation.token ∧
              (∃ e ∈ events, e.Registers authorizer r d.observation) ∧
              (∃ e ∈ events, e.Posts authorizer q packet.payload) ∧ r.channel = q.channel) := by
  constructor
  · intro segments segments' r q hParse hParse' _
    have hAccepted : r.Accepted := ⟨segments, hParse⟩
    have hAccepted' : q.Accepted := ⟨segments', hParse'⟩
    exact ⟨hAccepted.channel_eq hAccepted', hAccepted.eq_of_topic hAccepted'⟩
  · rintro g rfl e
    have hStart := sound_opened group authorizer settings firstId
    have hSound := sound_run hStart events
    have hOpened := isolated_opened group authorizer settings firstId
    have hIsolated := isolated_run hOpened hStart hInward
    generalize (opened group authorizer settings firstId).run events = g at *
    rw [List.nil_append] at hIsolated
    obtain ⟨said, hLog, hSaid⟩ := says_step hSound hIsolated.bare e
    refine ⟨said, hLog, fun peer packet hSent => ?_⟩
    rcases hSaid peer packet hSent with
      hAnswer | ⟨k, hActs, hProbe | ⟨d, hAt, hPeer, hToken, m, hm, hPayload⟩⟩
    · exact .inl hAnswer
    · exact .inr ⟨k, hActs, .inl hProbe⟩
    · have hServes : (g.deliveries.map Delivery.serves)[k]? = some d.serves := by
        rw [List.getElem?_map, hAt, Option.map_some]
      have hObservation : g.observation? k = some d.observation := by
        rw [observation?, List.getElem?_map, hAt, Option.map_some]
      -- The delivery reads its own feed, where all is owed to its own observation.
      rw [hSound.own_feed k d.feed _ _ hServes] at hm
      obtain ⟨o, hOwn, q, ⟨e', he', hPosts⟩, hSelects⟩ := hIsolated.queued k m hm
      rw [hObservation] at hOwn
      cases hOwn
      obtain ⟨r, e'', he'', hRegisters⟩ := hIsolated.observed k _ hObservation
      rw [hRegisters.topic] at hSelects
      exact .inr ⟨k, hActs, .inr ⟨d, r, q, hAt, hPeer, hToken, ⟨e'', he'', hRegisters⟩,
        ⟨e', he', hPayload ▸ hPosts⟩, hRegisters.accepted.channel_eq hPosts.accepted hSelects⟩⟩

/-- A request about the messages of the channel below `subtopic`. -/
def asking (kind : Kind) (code : UInt8) (channel subtopic : String) (payload : Bytes) : Packet where
  kind
  code
  messageId := 1
  token := [7]
  options := [⟨Opt.observeNumber, []⟩, ⟨Opt.uriPathNumber, "channels".toUTF8.toList⟩,
    ⟨Opt.uriPathNumber, channel.toUTF8.toList⟩, ⟨Opt.uriPathNumber, "messages".toUTF8.toList⟩,
    ⟨Opt.uriPathNumber, subtopic.toUTF8.toList⟩]
  payload

/-- All of one channel is observed, and both it and another one are posted to. -/
def crossing : List Event :=
  [.packet 0 "peer" (asking .confirmable Code.get "abc" ">" []),
    .packet 0 "other" (asking .nonConfirmable Code.post "def" "t" [1]),
    .packet 0 "other" (asking .nonConfirmable Code.post "abc" "t" [2]), .dispatch 0]

/-- What the observer of one channel is sent then. -/
def notified : Packet where
  kind := .nonConfirmable
  code := Code.content
  messageId := 0
  token := [7]
  options := [⟨Opt.observeNumber, [1]⟩]
  payload := [2]

theorem channels_isolated_crossing : (∀ e ∈ crossing, e.Inward) ∧
    ∃ g, g = (opened none (fun _ _ _ => .ok "pub") {} 0).run crossing ∧
      (g.step (.poll 0)).log = g.log ++ [.sent "peer" notified] ∧
      ∃ d r q, g.deliveries[0]? = some d ∧
        (∃ e ∈ crossing, e.Registers (fun _ _ _ => .ok "pub") r d.observation) ∧
        (∃ e ∈ crossing, e.Posts (fun _ _ _ => .ok "pub") q [2]) ∧ r.channel = q.channel := by
  have hInward : ∀ e ∈ crossing, e.Inward := by
    simp [crossing, Event.Inward]
  obtain ⟨said, hLog, hSaid⟩ := (channels_isolated none (fun _ _ _ => .ok "pub") {} 0 crossing
    hInward).2 _ rfl (.poll 0)
  have hSent : ((opened none (fun _ _ _ => .ok "pub") {} 0).run crossing |>.step (.poll 0)).log =
      ((opened none (fun _ _ _ => .ok "pub") {} 0).run crossing).log ++
        [.sent "peer" notified] := by cbv
  rw [hSent] at hLog
  have hOne := List.append_cancel_left hLog
  rcases hSaid "peer" notified (hOne ▸ .head _) with
    ⟨⟨_, _, _, hSame⟩, -⟩ | ⟨k, hActs, ⟨hKind, -⟩ | ⟨d, r, q, hAt, -, -, hFrom, hTo, hChannel⟩⟩
  · cases hSame
  · cases hKind
  · rcases hActs with hPoll | hAlarm
    · cases hPoll
      exact ⟨hInward, _, rfl, hSent, d, r, q, hAt, hFrom, hTo, hChannel⟩
    · cases hAlarm

end DeviceBus.Gateway
