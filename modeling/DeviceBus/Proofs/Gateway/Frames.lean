import DeviceBus.Proofs.Broker.Taps
import DeviceBus.Proofs.Gateway.Warrants

/-! # What is sent, and what brings no message

Only a dispatch puts a message into a feed. A packet with a payload is sent by a
delivery that took the payload from its own feed, and by nothing else. The actions of a
delivery open no route and change no observation.
-/

namespace DeviceBus

/-! ## Reports -/

/-- The report is not about a message. -/
def Report.Quiet {H : Type} (r : Report H) : Prop :=
  ∀ facade ticket handler message, r ≠ .handled facade ticket handler message

namespace Hub

variable {H : Type} [Handler H] {h h' : Hub H} {s : Step H} {reports : List (Report H)}

theorem Move.quiet (hMove : Move h s h' reports) (hOther : ∀ route, s ≠ .dispatch route) :
    ∀ r ∈ reports, r.Quiet := by
  rintro r hr facade ticket handler message rfl
  cases hMove with
  | dispatched => exact hOther _ rfl
  | _ => simp at hr

theorem quiet_carryOn (h : Hub H) (conduct : Conduct) (number steps : Nat) :
    ∀ r ∈ (h.carryOn conduct number steps).2, r.Quiet := by
  induction steps generalizing h with
  | zero => exact List.forall_mem_nil _
  | succ steps ih =>
    rw [carryOn]
    split
    · exact List.forall_mem_nil _
    · split
      · exact List.forall_mem_nil _
      · rename_i answer _
        have hFirst := (move_proceed h number answer).quiet (fun route hSame => by cases hSame)
        exact List.forall_mem_append.mpr ⟨hFirst, ih _⟩

theorem quiet_perform (h : Hub H) (conduct : Conduct) (hOther : ∀ route, s ≠ .dispatch route) :
    ∀ r ∈ (h.perform conduct s).2.1, r.Quiet := by
  have hFirst := (move_step h s).quiet hOther
  unfold perform
  generalize h.step s = stepped at hFirst
  obtain ⟨h₁, first⟩ := stepped
  exact List.forall_mem_append.mpr ⟨hFirst, quiet_carryOn h₁ conduct h.nextCall longestCall⟩

end Hub

namespace Gateway

open Coap Observe

variable {g g' g'' : Gateway} {P : Peer → Packet → Prop} {k : Nat} {d d' : Delivery}

/-! ## Feeds and the log -/

/-- No feed has got a message, and all packets that have been sent are as `P` says. -/
structure Tame (P : Peer → Packet → Prop) (g g' : Gateway) : Prop where
  authorizer : g'.authorizer = g.authorizer
  queues : ∀ k, ∀ m ∈ (g'.feed k).queue, m ∈ (g.feed k).queue
  log : ∃ said, g'.log = g.log ++ said ∧ ∀ peer packet, .sent peer packet ∈ said → P peer packet

theorem tame_of_same (hAuthorizer : g'.authorizer = g.authorizer) (hFeeds : g'.feeds = g.feeds)
    (hLog : g'.log = g.log) : Tame P g g' where
  authorizer := hAuthorizer
  queues k m hm := by
    rwa [feed, hFeeds, ← feed] at hm
  log := ⟨[], by rw [hLog, List.append_nil], fun _ _ hSent => by cases hSent⟩

theorem Tame.trans (h : Tame P g g') (h' : Tame P g' g'') : Tame P g g'' where
  authorizer := h'.authorizer.trans h.authorizer
  queues k m hm := h.queues k m (h'.queues k m hm)
  log := by
    obtain ⟨said, hLog, hSaid⟩ := h.log
    obtain ⟨said', hLog', hSaid'⟩ := h'.log
    refine ⟨said ++ said', ?_, ?_⟩
    · rw [hLog', hLog, List.append_assoc]
    · intro peer packet hSent
      rcases List.mem_append.mp hSent with hFirst | hSecond
      · exact hSaid peer packet hFirst
      · exact hSaid' peer packet hSecond

theorem tame_setFeed {j : Nat} {f : Feed} (hQueue : ∀ m ∈ f.queue, m ∈ (g.feed j).queue) :
    Tame P g (g.setFeed j f) where
  authorizer := rfl
  queues k m hm := by
    rw [feed_setFeed] at hm
    split at hm
    · rename_i hSame
      exact hSame.1 ▸ hQueue m hm
    · exact hm
  log := ⟨[], (List.append_nil _).symm, fun _ _ hSent => by cases hSent⟩

theorem tame_emit (g : Gateway) {o : Output}
    (hSent : ∀ peer packet, o = .sent peer packet → P peer packet) : Tame P g (g.emit o) where
  authorizer := rfl
  queues _ _ hm := hm
  log := ⟨[o], rfl, fun peer packet hMember =>
    hSent peer packet (List.mem_singleton.mp hMember).symm⟩

theorem tame_absorbOne (g : Gateway) {r : Report Consumer} (hQuiet : r.Quiet) :
    Tame P g (g.absorbOne r) := by
  cases r with
  | handled i ticket consumer message => exact (hQuiet i ticket consumer message rfl).elim
  | cancelled i ticket consumer =>
    cases consumer with
    | listener name onCancel => exact tame_emit g fun peer packet hSame => by cases hSame
    | feed index => exact tame_setFeed fun m hm => hm
  | returned number result => exact tame_of_same rfl rfl rfl

theorem tame_absorb (g : Gateway) {reports : List (Report Consumer)}
    (hQuiet : ∀ r ∈ reports, r.Quiet) : Tame P g (g.absorb reports) := by
  induction reports generalizing g with
  | nil => exact tame_of_same rfl rfl rfl
  | cons r rest ih =>
    obtain ⟨hFirst, hRest⟩ := List.forall_mem_cons.mp hQuiet
    exact (tame_absorbOne g hFirst).trans (ih (g.absorbOne r) hRest)

theorem tame_perform (g : Gateway) {s : DeviceBus.Step Consumer}
    (hOther : ∀ route, s ≠ .dispatch route) : Tame P g (g.perform s).1 := by
  have hHub : Tame P g { g with hub := (g.hub.perform {} s).1 } := tame_of_same rfl rfl rfl
  exact hHub.trans (tame_absorb _ (Hub.quiet_perform g.hub {} hOther))

theorem tame_publish (g : Gateway) (channel : String) (m : Envelope) :
    Tame P g (g.publish channel m).1 :=
  tame_perform g fun route hSame => by cases hSame

theorem tame_subscribe (g : Gateway) (client topic : String) (consumer : Consumer) :
    Tame P g (g.subscribe client topic consumer).1 :=
  tame_perform g fun route hSame => by cases hSame

theorem tame_unsubscribe (g : Gateway) (client topic : String) :
    Tame P g (g.unsubscribe client topic).1 :=
  tame_perform g fun route hSame => by cases hSame

theorem tame_close (g : Gateway) : Tame P g g.close :=
  tame_perform g fun route hSame => by cases hSame

/-! ## Deliveries -/

/-- A packet that only asks whether the peer is still there. -/
def Probe (packet : Packet) : Prop :=
  packet.kind = .confirmable ∧ packet.payload = []

/-- What the delivery sends again is no message. -/
def Delivery.Bare (d : Delivery) : Prop :=
  ∀ packet slot attempt due, d.phase = .confirming packet slot attempt due → Probe packet

/-- Beyond that, no route has been opened, no message is on its way that was not before,
and the observations are the same. -/
structure Mild (P : Peer → Packet → Prop) (g g' : Gateway) : Prop extends Tame P g g' where
  broker : g.hub.broker.Lessens g'.hub.broker
  observations : g'.deliveries.map Delivery.observation = g.deliveries.map Delivery.observation
  bare : (∀ d ∈ g.deliveries, d.Bare) → ∀ d ∈ g'.deliveries, d.Bare

theorem Tame.mild (h : Tame P g g') (hBroker : g.hub.broker.Lessens g'.hub.broker)
    (hDeliveries : g'.deliveries = g.deliveries) : Mild P g g' where
  toTame := h
  broker := hBroker
  observations := by rw [hDeliveries]
  bare := by
    rw [hDeliveries]
    exact fun hBare => hBare

theorem Mild.trans (h : Mild P g g') (h' : Mild P g' g'') : Mild P g g'' where
  toTame := h.toTame.trans h'.toTame
  broker := h.broker.trans h'.broker
  observations := h'.observations.trans h.observations
  bare hBare := h'.bare (h.bare hBare)

theorem mild_of_same (hTame : Tame P g g') (hHub : g'.hub = g.hub)
    (hDeliveries : g'.deliveries = g.deliveries) : Mild P g g' :=
  hTame.mild (hHub ▸ Broker.Lessens.refl _) hDeliveries

theorem mild_unsubscribe (hIdle : g.hub.calls = []) (client topic : String) :
    Mild P g (g.unsubscribe client topic).1 := by
  apply (tame_unsubscribe g client topic).mild _ (deliveries_perform g _)
  rw [unsubscribe, hub_perform]
  rcases Hub.broker_unsubscribe hIdle 0 client topic with hSame | ⟨s, handle, -, -, hUnsubscribe⟩
  · rw [hSame]
    exact .refl _
  · exact Broker.lessens_unsubscribe hUnsubscribe

theorem mild_close (hIdle : g.hub.calls = []) : Mild P g g.close := by
  apply (tame_close g).mild _ (deliveries_perform g _)
  rw [close, hub_perform, Hub.broker_close hIdle]
  exact Broker.lessens_close _ 0

theorem mild_setDelivery (hAt : g.deliveries[k]? = some d)
    (hSame : d'.observation = d.observation) (hBare : d'.Bare) : Mild P g (g.setDelivery k d') where
  toTame := tame_of_same rfl rfl rfl
  broker := .refl _
  observations := by
    obtain ⟨hBound, hGet⟩ := List.getElem?_eq_some_iff.mp hAt
    simp only [setDelivery, List.map_set, hSame, ← hGet]
    rw [← List.getElem_map Delivery.observation, List.set_getElem_self]
    simpa using hBound
  bare hOld d₁ hd₁ := by
    rcases List.mem_or_eq_of_mem_set hd₁ with hMember | rfl
    · exact hOld d₁ hMember
    · exact hBare

theorem mild_watch (hAt : g.deliveries[k]? = some d) (hSame : d'.observation = d.observation) :
    Mild P g (g.watch k d') :=
  mild_setDelivery hAt hSame fun _ _ _ _ hPhase => by cases hPhase

theorem mild_finish (hAt : g.deliveries[k]? = some d) (hSame : d'.observation = d.observation) :
    Mild P g (g.finish k d') := by
  have hEnded : Mild P g (g.setDelivery k { d' with phase := .ended }) :=
    mild_setDelivery hAt hSame fun _ _ _ _ hPhase => by cases hPhase
  have hDropped : Tame P (g.setDelivery k { d' with phase := .ended }) (g.finish k d') :=
    tame_setFeed fun m hm => by cases hm
  exact hEnded.trans (mild_of_same hDropped rfl rfl)

theorem mild_conclude (hIdle : g.hub.calls = []) (hAt : g.deliveries[k]? = some d)
    (hSame : d'.observation = d.observation) : Mild P g (g.conclude k d') := by
  unfold conclude
  split
  · have hLeft := mild_unsubscribe (P := P) hIdle d'.observation.client d'.observation.topic
    have hAfter : (g.unsubscribe d'.observation.client d'.observation.topic).1.deliveries[k]? =
        some d := by
      rw [unsubscribe, deliveries_perform, hAt]
    exact hLeft.trans (mild_finish hAfter hSame)
  · exact mild_watch hAt hSame

theorem notification_spec (g : Gateway) (d : Delivery) (kind : Kind) (payload : Bytes) :
    Tame P g (g.notification d kind payload).2.2 ∧
      (g.notification d kind payload).2.2.hub = g.hub ∧
      (g.notification d kind payload).2.2.deliveries = g.deliveries ∧
      (g.notification d kind payload).2.1.observation = d.observation ∧
      (g.notification d kind payload).1.kind = kind ∧
      (g.notification d kind payload).1.token = d.observation.token ∧
      (g.notification d kind payload).1.payload = payload :=
  ⟨tame_of_same rfl rfl rfl, rfl, rfl, rfl, rfl, rfl, rfl⟩

section

variable (hProbes : ∀ peer packet, Probe packet → P peer packet)

include hProbes

theorem mild_transmit (hIdle : g.hub.calls = []) (hAt : g.deliveries[k]? = some d)
    (hSame : d'.observation = d.observation) {packet : Packet} (hProbe : Probe packet)
    (slot attempt : Nat) : Mild P g (g.transmit k d' packet slot attempt) := by
  unfold transmit
  dsimp only
  split
  · have hSend : Tame P g (g.send d'.observation.peer packet).2 :=
      tame_emit g fun peer sent hSent => by
        cases hSent
        exact hProbes _ _ hProbe
    refine (mild_of_same hSend rfl rfl).trans (mild_setDelivery hAt hSame ?_)
    intro sent slot' attempt' due hPhase
    cases hPhase
    exact hProbe
  · have hAcks : Tame P g { g with
        acks := (g.acks.forget d'.observation.peer packet.messageId).drop slot } :=
      tame_of_same rfl rfl rfl
    exact (mild_of_same hAcks rfl rfl).trans (mild_conclude hIdle hAt hSame)

theorem mild_keepAlive (hIdle : g.hub.calls = []) (hAt : g.deliveries[k]? = some d)
    (hSame : d'.observation = d.observation) : Mild P g (g.keepAlive k d') := by
  obtain ⟨hTame, hHub, hDeliveries, hObservation, hKind, -, hEmpty⟩ :=
    notification_spec (P := P) g d' .confirmable []
  unfold keepAlive
  generalize g.notification d' .confirmable [] = notified at *
  obtain ⟨packet, d₁, g₁⟩ := notified
  have hAcks : Tame P g₁ { g₁ with
      acks := (g₁.acks.register d₁.observation.peer packet.messageId).2 } :=
    tame_of_same rfl rfl rfl
  refine (mild_of_same (hTame.trans hAcks) hHub hDeliveries).trans ?_
  exact mild_transmit hProbes (hHub ▸ hIdle) (hDeliveries ▸ hAt) (hObservation.trans hSame)
    ⟨hKind, hEmpty⟩ _ 0

end

theorem mild_notify (hAt : g.deliveries[k]? = some d) (hSame : d'.observation = d.observation)
    {m : Envelope} (hSaid : ∀ packet : Packet, packet.token = d'.observation.token →
      packet.payload = m.payload → P d'.observation.peer packet) :
    Mild P g (g.notify k d' m) := by
  obtain ⟨hTame, hHub, hDeliveries, hObservation, -, hToken, hPayload⟩ :=
    notification_spec (P := P) g d' .nonConfirmable m.payload
  unfold notify
  generalize g.notification d' .nonConfirmable m.payload = notified at *
  obtain ⟨packet, d₁, g₁⟩ := notified
  have hSend : Tame P g₁ (g₁.send d₁.observation.peer packet).2 :=
    tame_emit g₁ fun peer sent hSent => by
      cases hSent
      exact hObservation ▸ hSaid packet hToken hPayload
  refine (mild_of_same (hTame.trans hSend) hHub hDeliveries).trans ?_
  exact mild_watch (g := (g₁.send d₁.observation.peer packet).2) (hDeliveries ▸ hAt)
    (hObservation.trans hSame)

/-- What the delivery `k` may send: a probe, or to its own peer a message that waits in
its feed. -/
def Speaks (g : Gateway) (k : Nat) (peer : Peer) (packet : Packet) : Prop :=
  Probe packet ∨ ∃ d, g.deliveries[k]? = some d ∧ peer = d.observation.peer ∧
    packet.token = d.observation.token ∧ ∃ m ∈ (g.feed d.feed).queue, packet.payload = m.payload

theorem mild_poll (hIdle : g.hub.calls = []) (hBare : ∀ d ∈ g.deliveries, d.Bare) (k : Nat) :
    Mild (g.Speaks k) g (g.poll k) := by
  have hProbes : ∀ peer packet, Probe packet → g.Speaks k peer packet :=
    fun peer packet hProbe => .inl hProbe
  have hStay : Mild (g.Speaks k) g g := mild_of_same (tame_of_same rfl rfl rfl) rfl rfl
  unfold poll
  split
  · exact hStay
  · rename_i d hAt
    split
    · exact hStay
    · split
      · rename_i m f hTake
        obtain ⟨hMember, hRest⟩ : m ∈ (g.feed d.feed).queue ∧
            ∀ m' ∈ f.queue, m' ∈ (g.feed d.feed).queue := by
          obtain ⟨rest, hQueue, rfl⟩ := exists_of_take hTake
          rw [hQueue]
          exact ⟨List.mem_cons_self, fun m' hm' => List.mem_cons_of_mem _ hm'⟩
        have hTaken : Mild (g.Speaks k) g (g.setFeed d.feed f) :=
          mild_of_same (tame_setFeed hRest) rfl rfl
        refine hTaken.trans (mild_notify (g := g.setFeed d.feed f) hAt rfl ?_)
        exact fun packet hToken hPayload => .inr ⟨d, hAt, rfl, hToken, m, hMember, hPayload⟩
      · split
        · exact mild_keepAlive hProbes hIdle hAt rfl
        · exact hStay
      · exact mild_finish hAt rfl
    · rename_i packet slot attempt due hPhase
      have hProbe := hBare d (List.mem_of_getElem? hAt) _ _ _ _ hPhase
      dsimp only
      split
      · rename_i kind acks hAnswered
        have hAcks : Tame (g.Speaks k) g { g with acks := acks.drop slot } :=
          tame_of_same rfl rfl rfl
        exact (mild_of_same hAcks rfl rfl).trans (mild_conclude hIdle hAt rfl)
      · split
        · exact mild_transmit hProbes hIdle hAt (by rfl) hProbe _ _
        · exact hStay
      · exact mild_transmit hProbes hIdle hAt (by rfl) hProbe _ _

theorem mild_alarm (hIdle : g.hub.calls = []) (k : Nat) : Mild (g.Speaks k) g (g.alarm k) := by
  have hStay : Mild (g.Speaks k) g g := mild_of_same (tame_of_same rfl rfl rfl) rfl rfl
  unfold alarm
  split
  · exact hStay
  · rename_i d hAt
    split
    · split
      · exact mild_keepAlive (fun peer packet hProbe => .inl hProbe) hIdle hAt rfl
      · exact hStay
    · exact hStay

/-! ## Requests -/

/-- The reply, if there is one, has no payload. -/
def Plain (P : Peer → Packet → Prop) (g : Gateway) (outcome : Option Packet × Gateway) : Prop :=
  Tame P g outcome.2 ∧ ∀ reply, outcome.1 = some reply → reply.payload = []

theorem plain_answer (hTame : Tame P g g') (request : Packet) (code : UInt8) :
    Plain P g (g'.answer request code) := by
  obtain ⟨reply, nextId, hAnswer, -, hPayload⟩ := answer_eq g' request code
  rw [hAnswer]
  refine ⟨hTame.trans (tame_of_same rfl rfl rfl), ?_⟩
  rintro packet ⟨rfl⟩
  exact hPayload

theorem plain_observeAnswer (hTame : Tame P g g') (request : Packet) (value : UInt32) :
    Plain P g (g'.observeAnswer request value) := by
  obtain ⟨reply, nextId, hAnswer, -, hPayload⟩ := observeAnswer_eq g' request value
  rw [hAnswer]
  refine ⟨hTame.trans (tame_of_same rfl rfl rfl), ?_⟩
  rintro packet ⟨rfl⟩
  exact hPayload

theorem plain_silent (hTame : Tame P g g') : Plain P g (none, g') :=
  ⟨hTame, fun _ hNone => by cases hNone⟩

theorem plain_handlePost (g : Gateway) (wall : Int64) (request : Packet) (path : ChannelPath) :
    Plain P g (g.handlePost wall request path) := by
  have hStay : Tame P g g := tame_of_same rfl rfl rfl
  unfold handlePost
  split
  · exact plain_answer hStay request _
  · split
    · exact plain_answer hStay request _
    · split
      · exact plain_answer hStay request _
      · rename_i publisher _
        have hPublish : Tame P g (g.publish path.channel
            { channel := path.channel, subtopic := path.subtopic, publisher,
              protocol := protocolName, payload := request.payload, created := wall }).1 :=
          tame_publish g _ _
        dsimp only
        generalize g.publish path.channel _ = published at hPublish
        obtain ⟨g₁, result⟩ := published
        cases result with
        | error e => exact plain_answer hPublish request _
        | ok _ =>
          dsimp only
          split
          · exact plain_answer hPublish request _
          · exact plain_silent hPublish

theorem tame_spawned (g : Gateway) (d : Delivery) :
    Tame P g { g with feeds := g.feeds ++ [{}], deliveries := g.deliveries ++ [d] } where
  authorizer := rfl
  queues k m hm := by
    rw [feed, List.getD_eq_getElem?_getD, List.getElem?_append] at hm
    split at hm
    · rwa [feed, List.getD_eq_getElem?_getD]
    · cases hNew : [({} : Feed)][k - g.feeds.length]? with
      | none =>
        rw [hNew] at hm
        cases hm
      | some f =>
        rw [hNew, List.mem_singleton.mp (List.mem_of_getElem? hNew)] at hm
        cases hm
  log := ⟨[], (List.append_nil _).symm, fun _ _ hSent => by cases hSent⟩

theorem plain_register (g : Gateway) (request : Packet) (observation : Observation) :
    Plain P g (g.register request observation) := by
  have hSubscribe : Tame P g (g.subscribe observation.client observation.topic
      (.feed g.feeds.length)).1 :=
    tame_subscribe g _ _ _
  unfold register
  dsimp only
  generalize g.subscribe observation.client observation.topic _ = subscribed at hSubscribe
  obtain ⟨g₁, result⟩ := subscribed
  split
  · rename_i hOk
    cases hOk
    exact plain_observeAnswer (hSubscribe.trans (tame_spawned g₁ _)) request _
  · rename_i hTaken
    cases hTaken
    exact plain_observeAnswer hSubscribe request _
  · rename_i hError
    cases hError
    exact plain_answer hSubscribe request _

theorem plain_deregister (g : Gateway) (request : Packet) (observation : Observation) :
    Plain P g (g.deregister request observation) := by
  have hUnsubscribe : Tame P g (g.unsubscribe observation.client observation.topic).1 :=
    tame_unsubscribe g _ _
  unfold deregister
  generalize g.unsubscribe observation.client observation.topic = removed at hUnsubscribe
  obtain ⟨g₁, result⟩ := removed
  split
  · rename_i hOk
    cases hOk
    exact plain_answer hUnsubscribe request _
  · rename_i hNone
    cases hNone
    exact plain_answer hUnsubscribe request _
  · rename_i hError
    cases hError
    exact plain_answer hUnsubscribe request _

theorem plain_handle (g : Gateway) (wall : Int64) (peer : Peer) (p : Packet) :
    Plain P g (g.handle wall peer p) := by
  have hStay : Tame P g g := tame_of_same rfl rfl rfl
  have hRequest : Plain P g (g.handleRequest wall peer p) := by
    unfold handleRequest
    split
    · exact plain_answer hStay p _
    · split
      · exact plain_handlePost g wall p _
      · split
        · unfold handleGet
          split
          · split
            · exact plain_answer hStay p _
            · dsimp only
              split
              · exact plain_register g p _
              · exact plain_deregister g p _
          · exact plain_answer hStay p _
        · exact plain_answer hStay p _
  unfold handle
  split
  · exact plain_silent (tame_of_same rfl rfl rfl)
  · exact plain_silent (tame_of_same rfl rfl rfl)
  · split
    · refine ⟨hStay, ?_⟩
      rintro reply ⟨rfl⟩
      rfl
    · split
      · exact hRequest
      · exact plain_silent hStay
  · split
    · exact hRequest
    · exact plain_silent hStay

theorem tame_receive (hSilent : ∀ peer packet, packet.payload = [] → P peer packet) (g : Gateway)
    (wall : Int64) (peer : Peer) (p : Packet) :
    Tame P g (g.receive wall peer p) := by
  obtain ⟨hTame, hReply⟩ := plain_handle (P := P) g wall peer p
  unfold receive
  split
  · rename_i packet g₁ hHandle
    rw [hHandle] at hTame hReply
    refine hTame.trans (tame_emit g₁ fun peer' sent hSent => ?_)
    cases hSent
    exact hSilent _ _ (hReply packet rfl)
  · rename_i g₁ hHandle
    rwa [hHandle] at hTame

theorem authorizer_receive (g : Gateway) (wall : Int64) (peer : Peer) (p : Packet) :
    (g.receive wall peer p).authorizer = g.authorizer :=
  (tame_receive (P := fun _ _ => True) (fun _ _ _ => trivial) g wall peer p).authorizer

end Gateway

end DeviceBus
