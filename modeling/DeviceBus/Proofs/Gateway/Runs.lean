import DeviceBus.Proofs.Gateway.Registrations

/-! # Registrations along a run

Every step of a gateway leaves registrations and feeds in agreement.
-/

namespace DeviceBus.Gateway

open Coap Observe

variable {g : Gateway} {index : Nat} {d d' : Delivery}

/-! ## Deliveries -/

theorem sound_conclude (h : g.Sound) (hAt : g.deliveries[index]? = some d)
    (hServes : d'.serves = d.serves) : (g.conclude index d').Sound := by
  unfold conclude
  split
  · have hAfter : (g.unsubscribe d'.observation.client d'.observation.topic).1.deliveries[index]? =
        some d := by
      rw [unsubscribe, deliveries_perform, hAt]
    exact (sound_unsubscribe h _ _).keep (keeps_finish hAfter hServes)
  · exact h.keep (keeps_watch hAt hServes)

theorem sound_transmit (h : g.Sound) (hAt : g.deliveries[index]? = some d)
    (hServes : d'.serves = d.serves) (packet : Packet) (slot attempt : Nat) :
    (g.transmit index d' packet slot attempt).Sound := by
  unfold transmit
  dsimp only
  split
  · exact (h.keep (keeps_emit g _)).keep (keeps_setDelivery hAt hServes)
  · exact sound_conclude (h.keep (keeps_acks g _)) hAt hServes

theorem sound_keepAlive (h : g.Sound) (hAt : g.deliveries[index]? = some d)
    (hServes : d'.serves = d.serves) : (g.keepAlive index d').Sound := by
  have hKeeps := keeps_notification g d' .confirmable []
  have hDeliveries := deliveries_notification g d' .confirmable []
  have hSame := serves_notification g d' .confirmable []
  unfold keepAlive
  generalize g.notification d' .confirmable [] = notified at *
  obtain ⟨packet, d₁, g₁⟩ := notified
  have hRegistered := (h.keep hKeeps).keep
    (keeps_acks g₁ (g₁.acks.register d₁.observation.peer packet.messageId).2)
  exact sound_transmit hRegistered (hDeliveries ▸ hAt) (hSame.trans hServes) packet _ 0

theorem sound_poll (h : g.Sound) (index : Nat) : (g.poll index).Sound := by
  unfold poll
  split
  · exact h
  · rename_i d hAt
    split
    · exact h
    · split
      · rename_i m f hTake
        obtain ⟨rest, -, rfl⟩ := exists_of_take hTake
        have hTaken := h.keep (keeps_setFeed (f := { g.feed d.feed with queue := rest }) rfl)
        exact hTaken.keep (keeps_notify (g := g.setFeed d.feed _) hAt rfl m)
      · split
        · exact sound_keepAlive h hAt rfl
        · exact h
      · exact h.keep (keeps_finish hAt rfl)
    · dsimp only
      split
      · exact sound_conclude (h.keep (keeps_acks g _)) hAt rfl
      · split
        · exact sound_transmit h hAt (by rfl) _ _ _
        · exact h
      · exact sound_transmit h hAt (by rfl) _ _ _

theorem sound_alarm (h : g.Sound) (index : Nat) : (g.alarm index).Sound := by
  unfold alarm
  split
  · exact h
  · rename_i d hAt
    split
    · split
      · exact sound_keepAlive h hAt rfl
      · exact h
    · exact h

/-! ## Requests -/

theorem sound_handlePost (h : g.Sound) (wall : Int64) (request : Packet) (path : ChannelPath) :
    (g.handlePost wall request path).2.Sound := by
  unfold handlePost
  split
  · exact h.keep (keeps_answer g request _)
  · split
    · exact h.keep (keeps_answer g request _)
    · split
      · exact h.keep (keeps_answer g request _)
      · rename_i publisher _
        have hPublish := h.keep (keeps_publish h.idle path.channel
          { channel := path.channel, subtopic := path.subtopic, publisher, protocol := protocolName,
            payload := request.payload, created := wall })
        dsimp only
        generalize g.publish path.channel _ = published at hPublish
        obtain ⟨g', result⟩ := published
        cases result with
        | error e => exact hPublish.keep (keeps_answer g' request _)
        | ok _ =>
          dsimp only
          split
          · exact hPublish.keep (keeps_answer g' request _)
          · exact hPublish

theorem sound_register (h : g.Sound) (request : Packet) (observation : Observation) :
    (g.register request observation).2.Sound := by
  unfold register
  dsimp only
  rcases subscribe_cases h observation.client observation.topic (.feed g.feeds.length) with
    ⟨e, hub, hSubscribe, hKeeps⟩ |
      ⟨s, hub, hFree, hTopic, hClient, hHandler, hSubscribe, hIdle, hFacades, hPairs⟩
  · rw [hSubscribe]
    split
    · rename_i hOk
      cases hOk
    · rename_i hError
      cases hError
      exact (h.keep hKeeps).keep (keeps_observeAnswer _ _ _)
    · rename_i hError
      cases hError
      exact (h.keep hKeeps).keep (keeps_answer _ _ _)
  · rw [hSubscribe]
    exact (h.spawned hFree hTopic hClient hHandler hIdle hFacades hPairs rfl).keep
      (keeps_observeAnswer _ _ _)

theorem sound_deregister (h : g.Sound) (request : Packet) (observation : Observation) :
    (g.deregister request observation).2.Sound := by
  have hUnsubscribe := sound_unsubscribe h observation.client observation.topic
  unfold deregister
  generalize g.unsubscribe observation.client observation.topic = removed at hUnsubscribe
  obtain ⟨g', result⟩ := removed
  split
  · rename_i hOk
    cases hOk
    exact hUnsubscribe.keep (keeps_answer _ _ _)
  · rename_i hError
    cases hError
    exact hUnsubscribe.keep (keeps_answer _ _ _)
  · rename_i hError
    cases hError
    exact hUnsubscribe.keep (keeps_answer _ _ _)

theorem sound_handleGet (h : g.Sound) (wall : Int64) (peer : Peer) (request : Packet)
    (path : ChannelPath) : (g.handleGet wall peer request path).2.Sound := by
  unfold handleGet
  split
  · split
    · exact h.keep (keeps_answer _ _ _)
    · dsimp only
      split
      · exact sound_register h _ _
      · exact sound_deregister h _ _
  · exact h.keep (keeps_answer _ _ _)

theorem sound_handleRequest (h : g.Sound) (wall : Int64) (peer : Peer) (request : Packet) :
    (g.handleRequest wall peer request).2.Sound := by
  unfold handleRequest
  split
  · exact h.keep (keeps_answer _ _ _)
  · split
    · exact sound_handlePost h _ _ _
    · split
      · exact sound_handleGet h _ _ _ _
      · exact h.keep (keeps_answer _ _ _)

theorem sound_handle (h : g.Sound) (wall : Int64) (peer : Peer) (p : Packet) :
    (g.handle wall peer p).2.Sound := by
  unfold handle
  split
  · exact h.keep (keeps_acks g _)
  · exact h.keep (keeps_acks g _)
  · split
    · exact h
    · split
      · exact sound_handleRequest h _ _ _
      · exact h
  · split
    · exact sound_handleRequest h _ _ _
    · exact h

theorem sound_receive (h : g.Sound) (wall : Int64) (peer : Peer) (p : Packet) :
    (g.receive wall peer p).Sound := by
  have hHandle := sound_handle h wall peer p
  unfold receive
  generalize g.handle wall peer p = handled at hHandle
  obtain ⟨reply, g'⟩ := handled
  cases reply with
  | none => exact hHandle
  | some packet => exact hHandle.keep (keeps_emit g' _)

/-! ## Runs -/

theorem run_append (g : Gateway) (events more : List Event) :
    g.run (events ++ more) = (g.run events).run more :=
  List.foldl_append

theorem sound_step (h : g.Sound) (e : Event) : (g.step e).Sound := by
  cases e with
  | packet wall peer p => exact sound_receive h wall peer p
  | publish channel message => exact h.keep (keeps_publish h.idle channel message)
  | subscribe client topic listener onCancel =>
    exact sound_subscribe h client topic listener onCancel
  | unsubscribe client topic => exact sound_unsubscribe h client topic
  | close => exact sound_close h
  | route subject data => exact h.keep (keeps_broker g _)
  | dispatch route => exact h.keep (keeps_dispatch g route)
  | poll delivery => exact sound_poll h delivery
  | alarm delivery => exact sound_alarm h delivery
  | elapse millis => exact h.keep (keeps_of_same rfl rfl rfl rfl)
  | transport outcome => exact h.keep (keeps_of_same rfl rfl rfl rfl)

theorem sound_run (h : g.Sound) (events : List Event) : (g.run events).Sound := by
  induction events generalizing g with
  | nil => exact h
  | cons e rest ih => exact ih (sound_step h e)

end DeviceBus.Gateway
