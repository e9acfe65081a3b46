import DeviceBus.Gateway.Run
import DeviceBus.Proofs.Hub.Perform

/-! # What leaves the registrations alone

Sending, answering, queueing, taking from a feed and waiting change neither the
registry nor which feeds still have a handler nor whom the deliveries serve.
-/

namespace DeviceBus.Gateway

open Coap Observe

variable {g g' : Gateway}

/-- Whom a delivery serves and from what: topic, client and feed. -/
def Delivery.serves (d : Delivery) : String × String × Nat :=
  (d.observation.topic, d.observation.client, d.feed)

/-- What the gateway's facade has under a pair. -/
def pair? (g : Gateway) (topic client : String) : Option (Subscription Consumer) :=
  g.hub.pair? 0 topic client

structure Keeps (g g' : Gateway) : Prop where
  calls : g'.hub.calls = g.hub.calls
  facades : g'.hub.facades.length = g.hub.facades.length
  pairs : ∀ topic client, g'.pair? topic client = g.pair? topic client
  feeds : g'.feeds.length = g.feeds.length
  sending : ∀ k, (g'.feed k).sending = (g.feed k).sending
  served : g'.deliveries.map Delivery.serves = g.deliveries.map Delivery.serves

theorem keeps_of_same (hCalls : g'.hub.calls = g.hub.calls)
    (hFacades : g'.hub.facades = g.hub.facades) (hFeeds : g'.feeds = g.feeds)
    (hDeliveries : g'.deliveries = g.deliveries) : Keeps g g' where
  calls := hCalls
  facades := by rw [hFacades]
  pairs topic client := by rw [pair?, pair?, Hub.pair?, Hub.pair?, Hub.facade, hFacades, Hub.facade]
  feeds := by rw [hFeeds]
  sending k := by rw [feed, feed, hFeeds]
  served := by rw [hDeliveries]

theorem Keeps.trans {g'' : Gateway} (h : Keeps g g') (h' : Keeps g' g'') : Keeps g g'' where
  calls := h'.calls.trans h.calls
  facades := h'.facades.trans h.facades
  pairs topic client := (h'.pairs topic client).trans (h.pairs topic client)
  feeds := h'.feeds.trans h.feeds
  sending k := (h'.sending k).trans (h.sending k)
  served := h'.served.trans h.served

/-! ## Feeds and deliveries -/

theorem feed_setFeed (g : Gateway) (j : Nat) (f : Feed) (k : Nat) :
    (g.setFeed j f).feed k = if j = k ∧ j < g.feeds.length then f else g.feed k :=
  Positions.getD_set g.feeds j f k _

theorem exists_of_take {f f' : Feed} {m : Envelope} (hTake : f.take = (.message m, f')) :
    ∃ rest, f.queue = m :: rest ∧ f' = { f with queue := rest } := by
  unfold Feed.take at hTake
  split at hTake
  · split at hTake
    · rename_i m' rest hQueue
      cases hTake
      exact ⟨rest, hQueue, rfl⟩
    · split at hTake
      · cases hTake
      · cases hTake
  · cases hTake

/-- A feed that is open at both ends is empty, or a message can be taken from it. -/
theorem take_of_open {f : Feed} (hSending : f.sending = true) (hReceiving : f.receiving = true) :
    f.take = (.empty, f) ∨ ∃ m f', f.take = (.message m, f') := by
  unfold Feed.take
  rw [if_pos hReceiving, if_pos hSending]
  cases f.queue with
  | nil => exact .inl rfl
  | cons m rest => exact .inr ⟨m, _, rfl⟩

theorem keeps_setFeed {j : Nat} {f : Feed} (hSending : f.sending = (g.feed j).sending) :
    Keeps g (g.setFeed j f) where
  calls := rfl
  facades := rfl
  pairs _ _ := rfl
  feeds := List.length_set
  sending k := by
    rw [feed_setFeed]
    split
    · rename_i hSame
      rw [hSending, hSame.1]
    · rfl
  served := rfl

theorem keeps_setDelivery {index : Nat} {d d' : Delivery}
    (hAt : g.deliveries[index]? = some d) (hServes : d'.serves = d.serves) :
    Keeps g (g.setDelivery index d') where
  calls := rfl
  facades := rfl
  pairs _ _ := rfl
  feeds := rfl
  sending _ := rfl
  served := by
    obtain ⟨hBound, hGet⟩ := List.getElem?_eq_some_iff.mp hAt
    simp only [setDelivery, List.map_set, hServes, ← hGet]
    rw [← List.getElem_map Delivery.serves, List.set_getElem_self]
    simpa using hBound

theorem keeps_emit (g : Gateway) (o : Output) : Keeps g (g.emit o) :=
  keeps_of_same rfl rfl rfl rfl

theorem keeps_acks (g : Gateway) (acks : Acks) : Keeps g { g with acks } :=
  keeps_of_same rfl rfl rfl rfl

theorem keeps_broker (g : Gateway) (broker : Broker (Tap Consumer)) :
    Keeps g { g with hub := { g.hub with broker } } :=
  keeps_of_same rfl rfl rfl rfl

/-! ## Deliveries at work -/

theorem keeps_notification (g : Gateway) (d : Delivery) (kind : Kind) (payload : Bytes) :
    Keeps g (g.notification d kind payload).2.2 :=
  keeps_of_same rfl rfl rfl rfl

theorem deliveries_notification (g : Gateway) (d : Delivery) (kind : Kind) (payload : Bytes) :
    (g.notification d kind payload).2.2.deliveries = g.deliveries :=
  rfl

theorem serves_notification (g : Gateway) (d : Delivery) (kind : Kind) (payload : Bytes) :
    (g.notification d kind payload).2.1.serves = d.serves :=
  rfl

theorem keeps_watch {index : Nat} {d d' : Delivery} (hAt : g.deliveries[index]? = some d)
    (hServes : d'.serves = d.serves) : Keeps g (g.watch index d') :=
  keeps_setDelivery hAt hServes

theorem keeps_finish {index : Nat} {d d' : Delivery} (hAt : g.deliveries[index]? = some d)
    (hServes : d'.serves = d.serves) : Keeps g (g.finish index d') := by
  have hEnded : Keeps g (g.setDelivery index { d' with phase := .ended }) :=
    keeps_setDelivery hAt hServes
  exact hEnded.trans (keeps_setFeed (by rfl))

theorem keeps_notify {index : Nat} {d d' : Delivery} (hAt : g.deliveries[index]? = some d)
    (hServes : d'.serves = d.serves) (message : Envelope) :
    Keeps g (g.notify index d' message) := by
  have hNotification := keeps_notification g d' .nonConfirmable message.payload
  have hSend := hNotification.trans (keeps_emit _ (.sent d'.observation.peer
    (g.notification d' .nonConfirmable message.payload).1))
  exact hSend.trans (keeps_watch hAt hServes)

/-! ## Requests -/

theorem keeps_reply (g : Gateway) (request : Packet) (code : UInt8) :
    Keeps g (g.reply request code).2 := by
  unfold reply
  split
  · exact keeps_of_same rfl rfl rfl rfl
  · exact keeps_of_same rfl rfl rfl rfl

theorem keeps_answer (g : Gateway) (request : Packet) (code : UInt8) :
    Keeps g (g.answer request code).2 :=
  keeps_reply g request code

theorem keeps_observeAnswer (g : Gateway) (request : Packet) (value : UInt32) :
    Keeps g (g.observeAnswer request value).2 :=
  keeps_reply g request Code.content

/-! ## Messages -/

theorem handled_feed (g : Gateway) (i ticket index : Nat) (message : Envelope) :
    g.absorbOne (.handled i ticket (.feed index) message) = g ∨
      g.absorbOne (.handled i ticket (.feed index) message) =
        g.setFeed index { g.feed index with queue := (g.feed index).queue ++ [message] } := by
  simp only [absorbOne]
  split
  · rename_i f hHandle
    unfold Feed.handle at hHandle
    split at hHandle
    · cases hHandle
      exact .inr rfl
    · cases hHandle
  · exact .inl rfl

theorem dispatch_cases (g : Gateway) (route : Nat) : g.dispatch route = g ∨
    ∃ tap data broker, g.hub.broker.takeFrom? route = some (tap, data, broker) ∧
      (g.dispatch route = { g with hub := { g.hub with broker } } ∨
        ∃ message, (g.hub.facade tap.facade).receive? tap.ticket data = some message ∧
          g.dispatch route = ({ g with hub := { g.hub with broker } } : Gateway).absorbOne
            (.handled tap.facade tap.ticket tap.handler message)) := by
  have hMove := Hub.move_step g.hub (.dispatch route)
  unfold dispatch
  simp only [Hub.step] at hMove
  generalize g.hub.dispatch route = dispatched at hMove
  obtain ⟨hub, reports⟩ := dispatched
  cases hMove with
  | declined hCause => exact hCause.elim
  | undisturbed hTake => exact .inl rfl
  | @dispatched _ tap data broker hTake =>
    refine .inr ⟨tap, data, broker, hTake, ?_⟩
    cases hReceive : (g.hub.facade tap.facade).receive? tap.ticket data with
    | none => exact .inl rfl
    | some message => exact .inr ⟨message, rfl, rfl⟩

theorem keeps_handled (g : Gateway) (i ticket : Nat) (consumer : Consumer) (message : Envelope) :
    Keeps g (g.absorbOne (.handled i ticket consumer message)) := by
  cases consumer with
  | listener name onCancel => exact keeps_emit g _
  | feed index =>
    rcases handled_feed g i ticket index message with hSame | hQueued
    · rw [hSame]
      exact keeps_of_same rfl rfl rfl rfl
    · rw [hQueued]
      exact keeps_setFeed rfl

theorem keeps_dispatch (g : Gateway) (route : Nat) : Keeps g (g.dispatch route) := by
  rcases dispatch_cases g route with hSame | ⟨tap, data, broker, -, hLeft | ⟨message, -, hHanded⟩⟩
  · rw [hSame]
    exact keeps_of_same rfl rfl rfl rfl
  · rw [hLeft]
    exact keeps_broker g broker
  · rw [hHanded]
    exact (keeps_broker g broker).trans (keeps_handled _ tap.facade tap.ticket tap.handler message)

theorem keeps_publish (hIdle : g.hub.calls = []) (channel : String) (message : Envelope) :
    Keeps g (g.publish channel message).1 := by
  obtain ⟨hub, result, hPerform, hIdle', hFacades⟩ :=
    Hub.perform_publish hIdle 0 channel message .carried
  simp only [publish, perform, hPerform]
  exact keeps_of_same (hIdle'.trans hIdle.symm) hFacades rfl rfl

end DeviceBus.Gateway
