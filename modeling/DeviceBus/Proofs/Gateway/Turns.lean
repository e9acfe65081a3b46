import DeviceBus.Proofs.Gateway.Actions

/-! # The turns of a delivery

What an action of a delivery can do is said once. The delivery rests, notifies its peer of
the first message in its feed, asks whether the peer is there or asks again, goes back to
its feed, or is over; in the last case the handler of its feed has been cancelled. At most
one packet is sent, and it goes to the delivery's own peer.
-/

namespace DeviceBus.Gateway

open Coap Observe

variable {g g' g₁ : Gateway} {k j : Nat} {d d' : Delivery} {f : Feed}

/-- The delivery `k` and its feed have become `d'` and `f`, some packets have been sent,
and at most one subscription was removed. -/
structure Takes (g g' : Gateway) (k : Nat) (packets : List (Peer × Packet)) (d' : Delivery)
    (f : Feed) : Prop where
  authorizer : g'.authorizer = g.authorizer
  feeds : g'.feeds.length = g.feeds.length
  others : ∀ j, j ≠ k → Aside g g' j []
  delivery : g'.deliveries[k]? = some d'
  feed : g'.feed k = f
  sends : Sends g g' packets
  hub : g'.hub = g.hub ∨
    ∃ client topic, g'.hub = (g.hub.perform {} (.unsubscribe 0 client topic)).1

theorem Takes.after (g : Gateway) {before packets : List (Peer × Packet)}
    (h : Takes g₁ g' k packets d' f)
    (hAuthorizer : g₁.authorizer = g.authorizer) (hFeeds : g₁.feeds.length = g.feeds.length)
    (hOthers : ∀ j, j ≠ k → Aside g g₁ j []) (hSends : Sends g g₁ before) (hHub : g₁.hub = g.hub) :
    Takes g g' k (before ++ packets) d' f where
  authorizer := h.authorizer.trans hAuthorizer
  feeds := h.feeds.trans hFeeds
  others j hOther := (hOthers j hOther).trans (h.others j hOther)
  delivery := h.delivery
  feed := h.feed
  sends := hSends.trans h.sends
  hub := hHub ▸ h.hub

/-! ## Exchanges -/

theorem aside_setDelivery (hOther : j ≠ k) (d' : Delivery) :
    Aside g (g.setDelivery k d') j [] where
  authorizer := rfl
  feeds := Nat.le_refl _
  delivery := List.getElem?_set_ne (Ne.symm hOther)
  queue := (List.append_nil _).symm
  receiving := rfl
  sending hOpen := hOpen

theorem aside_setFeed_of_ne (hOther : j ≠ k) (f : Feed) : Aside g (g.setFeed k f) j [] := by
  have hSame : (g.setFeed k f).feed j = g.feed j := by
    rw [feed_setFeed, if_neg fun hBoth => hOther hBoth.1.symm]
  constructor
  · rfl
  · exact Nat.le_of_eq List.length_set.symm
  · rfl
  · rw [hSame, List.append_nil]
  · rw [hSame]
  · rw [hSame]
    exact fun hOpen => hOpen

theorem takes_rest (hAt : g.deliveries[k]? = some d) : Takes g g k [] d (g.feed k) where
  authorizer := rfl
  feeds := rfl
  others _ _ := aside_of_same rfl rfl rfl
  delivery := hAt
  feed := rfl
  sends := sends_of_same rfl
  hub := .inl rfl

theorem takes_setDelivery (hAt : g.deliveries[k]? = some d) (d' : Delivery) :
    Takes g (g.setDelivery k d') k [] d' (g.feed k) where
  authorizer := rfl
  feeds := rfl
  others _ hOther := aside_setDelivery hOther d'
  delivery := getElem?_setDelivery hAt d'
  feed := rfl
  sends := sends_of_same rfl
  hub := .inl rfl

theorem takes_finish (hAt : g.deliveries[k]? = some d) (hFeed : d'.feed = k)
    (hBound : k < g.feeds.length) :
    Takes g (g.finish k d') k [] { d' with phase := .ended } (g.feed k).dropReceiver where
  authorizer := rfl
  feeds := List.length_set
  others j hOther := by
    have hEnded : Aside g (g.setDelivery k { d' with phase := .ended }) j [] :=
      aside_setDelivery hOther _
    rw [finish]
    exact hEnded.trans (hFeed ▸ aside_setFeed_of_ne (hFeed ▸ hOther) _)
  delivery := getElem?_setDelivery hAt _
  feed := by
    rw [finish, feed_setFeed, hFeed, if_pos ⟨rfl, hBound⟩]
  sends := sends_of_same rfl
  hub := .inl rfl

/-- The feed that a delivery serves has no handler once its subscription is removed. -/
theorem sending_unsubscribe (hSound : g.Sound) {topic client : String}
    (hServes : g.Serves k topic client) :
    ((g.unsubscribe client topic).1.feed k).sending = false := by
  have hAfter := sound_unsubscribe hSound client topic
  have hNone : (g.unsubscribe client topic).1.pair? topic client = none := by
    rcases unsubscribe_cases hSound client topic with
      ⟨e, hUnsubscribe, hFree⟩ | ⟨s, hub, result, -, hUnsubscribe, -, -, hPairs⟩
    · rw [hUnsubscribe]
      exact hFree
    · rw [hUnsubscribe, pair?, hub_cancelled]
      exact (hPairs topic client).trans (if_pos ⟨rfl, rfl⟩)
  have hStill : (g.unsubscribe client topic).1.Serves k topic client := by
    rw [Serves, unsubscribe, deliveries_perform]
    exact hServes
  rw [← Bool.not_eq_true]
  intro hOpen
  obtain ⟨s, hPair, -⟩ := hAfter.registered k topic client hStill hOpen
  rw [hNone] at hPair
  cases hPair

/-- An exchange is over: the delivery watches its feed again, or it has ended. -/
inductive Concludes (f : Feed) (d : Delivery) : Delivery → Feed → Prop
  | watches (due : Nat) (hGoesOn : d.state.isTerminal = false) :
      Concludes f d { d with phase := .watching due } f
  | ends {f' : Feed} (hSending : f'.sending = false) : Concludes f d { d with phase := .ended } f'

theorem Sound.bound (hSound : g.Sound) (hAt : g.deliveries[k]? = some d) :
    k < g.feeds.length := by
  rw [hSound.feeds]
  exact (List.getElem?_eq_some_iff.mp hAt).1

theorem Sound.feed_eq (hSound : g.Sound) (hAt : g.deliveries[k]? = some d) : d.feed = k := by
  have hMap : (g.deliveries.map Delivery.serves)[k]? = some d.serves := by
    rw [List.getElem?_map, hAt, Option.map_some]
  exact hSound.own_feed k d.feed _ _ hMap

theorem Sound.serves (hSound : g.Sound) (hAt : g.deliveries[k]? = some d) :
    g.Serves k d.observation.topic d.observation.client := by
  rw [Serves, List.getElem?_map, hAt, Option.map_some, Delivery.serves, hSound.feed_eq hAt]

theorem takes_conclude (hSound : g.Sound) (hAt : g.deliveries[k]? = some d) (d' : Delivery)
    (hObservation : d'.observation = d.observation) (hFeed : d'.feed = d.feed) :
    ∃ d'' f, Concludes (g.feed k) d' d'' f ∧ Takes g (g.conclude k d') k [] d'' f := by
  have hOwn : d'.feed = k := hFeed.trans (hSound.feed_eq hAt)
  have hBound := hSound.bound hAt
  have hServes := hSound.serves hAt
  rw [← hObservation] at hServes
  unfold conclude
  split
  · have hLeft : (g.unsubscribe d'.observation.client d'.observation.topic).1.deliveries[k]? =
        some d := by
      rw [unsubscribe, deliveries_perform, hAt]
    have hAside := fun j => aside_unsubscribe (k := j) g d'.observation.client d'.observation.topic
    have hSending := sending_unsubscribe hSound hServes
    have hLength := (sound_unsubscribe hSound d'.observation.client d'.observation.topic).feeds
    have hSends : Sends g (g.unsubscribe d'.observation.client d'.observation.topic).1 [] :=
      (tame_unsubscribe g _ _).sends
    have hHub := hub_perform g (.unsubscribe 0 d'.observation.client d'.observation.topic)
    rw [← unsubscribe] at hHub
    rw [unsubscribe, deliveries_perform, ← hSound.feeds, ← unsubscribe] at hLength
    generalize (g.unsubscribe d'.observation.client d'.observation.topic).1 = g₁ at *
    have hFinish := takes_finish hLeft hOwn (hLength.symm ▸ hBound)
    refine ⟨_, (g₁.feed k).dropReceiver, .ends hSending, ?_⟩
    · exact
        { authorizer := hFinish.authorizer.trans (hAside k).authorizer
          feeds := hFinish.feeds.trans hLength
          others := fun j hOther => (hAside j).trans (hFinish.others j hOther)
          delivery := hFinish.delivery
          feed := hFinish.feed
          sends := hSends.trans hFinish.sends
          hub := .inr ⟨_, _, hHub⟩ }
  · rename_i hGoesOn
    exact ⟨_, _, .watches _ (eq_false_of_ne_true hGoesOn), takes_setDelivery hAt _⟩

/-- The confirmable packet goes out, or the exchange is over. -/
inductive Transmits (f : Feed) (d : Delivery) (packet : Packet) (slot attempt : Nat) :
    List Packet → Delivery → Feed → Prop
  | goes_out (due : Nat) : Transmits f d packet slot attempt [packet]
      { d with
        state := d.state.on .confirmableSent
        phase := .confirming packet slot attempt due } f
  | gives_up {d' : Delivery} {f' : Feed}
      (hConcludes : Concludes f { d with state := d.state.on .retriesExhausted } d' f') :
      Transmits f d packet slot attempt [] d' f'

theorem takes_transmit (hSound : g.Sound) (hAt : g.deliveries[k]? = some d) (d' : Delivery)
    (hObservation : d'.observation = d.observation) (hFeed : d'.feed = d.feed) (packet : Packet)
    (slot attempt : Nat) :
    ∃ packets d'' f, Transmits (g.feed k) d' packet slot attempt packets d'' f ∧
      Takes g (g.transmit k d' packet slot attempt) k
        (packets.map fun packet => (d'.observation.peer, packet)) d'' f := by
  unfold transmit
  dsimp only
  split
  · have hSet := takes_setDelivery (g := (g.send d'.observation.peer packet).2) hAt
      { d' with
        state := d'.state.on .confirmableSent
        phase := .confirming packet slot attempt ((g.settings.retry.delay attempt).due g.now) }
    exact ⟨_, _, _, .goes_out _,
      hSet.after g rfl rfl (fun _ _ => aside_of_same rfl rfl rfl) (sends_send g _ _) rfl⟩
  · have hDropped := hSound.keep
      (keeps_acks g ((g.acks.forget d'.observation.peer packet.messageId).drop slot))
    obtain ⟨d'', f, hConcludes, hTakes⟩ := takes_conclude hDropped hAt
      { d' with state := d'.state.on .retriesExhausted } hObservation hFeed
    refine ⟨[], d'', f, .gives_up ?_, ?_⟩
    · cases hConcludes with
      | watches due hGoesOn => exact .watches due hGoesOn
      | ends hSending => exact .ends hSending
    · exact hTakes.after g rfl rfl (fun _ _ => aside_of_same rfl rfl rfl) (sends_of_same rfl) rfl

theorem takes_keepAlive (hSound : g.Sound) (hAt : g.deliveries[k]? = some d) :
    ∃ slot packets d' f, Transmits (g.feed k) { d with sequence := (d.sequence.next g.now).2 }
        (g.notification d .confirmable []).1 slot 0 packets d' f ∧
      Takes g (g.keepAlive k d) k (packets.map fun packet => (d.observation.peer, packet))
        d' f := by
  have hNotified := hSound.keep (keeps_notification g d .confirmable [])
  have hRegistered := hNotified.keep (keeps_acks _
    (g.acks.register d.observation.peer (g.notification d .confirmable []).1.messageId).2)
  obtain ⟨packets, d', f, hTransmits, hTakes⟩ := takes_transmit hRegistered hAt
    { d with sequence := (d.sequence.next g.now).2 } rfl rfl (g.notification d .confirmable []).1
    (g.acks.register d.observation.peer (g.notification d .confirmable []).1.messageId).1 0
  exact ⟨_, packets, d', f, hTransmits,
    hTakes.after g rfl rfl (fun _ _ => aside_of_same rfl rfl rfl) (sends_of_same rfl) rfl⟩

/-! ## Turns -/

/-- What a turn of the delivery `k` sends, and what it makes of the delivery and its feed. -/
inductive Turn (g : Gateway) (k : Nat) (d : Delivery) : List Packet → Delivery → Feed → Prop
  | rests : Turn g k d [] d (g.feed k)
  | notifies {due : Nat} {m : Envelope} {rest : List Envelope} (due' : Nat)
      (hWatching : d.phase = .watching due) (hQueue : (g.feed k).queue = m :: rest) :
      Turn g k d [(g.notification d .nonConfirmable m.payload).1]
        { d with
          sequence := (d.sequence.next g.now).2
          state := d.state.on .nonConfirmableSent
          phase := .watching due' }
        { g.feed k with queue := rest }
  | asks {due slot : Nat} {packets : List Packet} {d' : Delivery} {f : Feed}
      (hWatching : d.phase = .watching due)
      (hTransmits : Transmits (g.feed k) { d with sequence := (d.sequence.next g.now).2 }
        (g.notification d .confirmable []).1 slot 0 packets d' f) : Turn g k d packets d' f
  | asks_again {packet : Packet} {slot attempt due : Nat} {packets : List Packet} {d' : Delivery}
      {f : Feed} (hConfirming : d.phase = .confirming packet slot attempt due)
      (hTransmits : Transmits (g.feed k) { d with state := d.state.on .ackTimedOut } packet slot
        (attempt + 1) packets d' f) : Turn g k d packets d' f
  | answered {packet : Packet} {slot attempt due : Nat} {d' : Delivery} {f : Feed} (state : State)
      (hConfirming : d.phase = .confirming packet slot attempt due)
      (hConcludes : Concludes (g.feed k) { d with state } d' f) : Turn g k d [] d' f
  | ends {due : Nat} {f : Feed} (state : State) (hWatching : d.phase = .watching due)
      (hSending : f.sending = false) : Turn g k d [] { d with state, phase := .ended } f

theorem Concludes.feed_eq {f₀ : Feed} (h : Concludes f₀ d d' f) (hOpen : f.sending = true) :
    f = f₀ := by
  cases h with
  | watches due hGoesOn => rfl
  | ends hSending =>
    rw [hSending] at hOpen
    cases hOpen

theorem Concludes.observation_eq {f₀ : Feed} (h : Concludes f₀ d d' f) :
    d'.observation = d.observation := by
  cases h with
  | watches due hGoesOn => rfl
  | ends hSending => rfl

theorem Transmits.feed_eq {f₀ : Feed} {packet : Packet} {slot attempt : Nat}
    {packets : List Packet} (h : Transmits f₀ d packet slot attempt packets d' f)
    (hOpen : f.sending = true) : f = f₀ := by
  cases h with
  | goes_out due => rfl
  | gives_up hConcludes => exact hConcludes.feed_eq hOpen

theorem Transmits.observation_eq {f₀ : Feed} {packet : Packet} {slot attempt : Nat}
    {packets : List Packet} (h : Transmits f₀ d packet slot attempt packets d' f) :
    d'.observation = d.observation := by
  cases h with
  | goes_out due => rfl
  | gives_up hConcludes => exact hConcludes.observation_eq

theorem Turn.observation_eq {packets : List Packet} (h : Turn g k d packets d' f) :
    d'.observation = d.observation := by
  cases h with
  | rests => rfl
  | notifies due hWatching hQueue => rfl
  | asks hWatching hTransmits => exact hTransmits.observation_eq
  | asks_again hConfirming hTransmits => exact hTransmits.observation_eq
  | answered state hConfirming hConcludes => exact hConcludes.observation_eq
  | ends state hWatching hSending => rfl

/-- A turn that does not end the feed takes at most the first message from it. -/
theorem Turn.feed_cases {packets : List Packet} (h : Turn g k d packets d' f)
    (hOpen : f.sending = true) :
    f = g.feed k ∨ ∃ m rest, (g.feed k).queue = m :: rest ∧
      f = { g.feed k with queue := rest } := by
  cases h with
  | rests => exact .inl rfl
  | notifies due hWatching hQueue => exact .inr ⟨_, _, hQueue, rfl⟩
  | asks hWatching hTransmits => exact .inl (hTransmits.feed_eq hOpen)
  | asks_again hConfirming hTransmits => exact .inl (hTransmits.feed_eq hOpen)
  | answered state hConfirming hConcludes => exact .inl (hConcludes.feed_eq hOpen)
  | ends state hWatching hSending =>
    rw [hSending] at hOpen
    cases hOpen

theorem Turn.same_ends {packets : List Packet} (h : Turn g k d packets d' f)
    (hOpen : f.sending = true) :
    f.sending = (g.feed k).sending ∧ f.receiving = (g.feed k).receiving := by
  rcases h.feed_cases hOpen with rfl | ⟨m, rest, -, rfl⟩
  · exact ⟨rfl, rfl⟩
  · exact ⟨rfl, rfl⟩

/-- An action of the delivery `k` is one of its turns. -/
def Turned (g g' : Gateway) (k : Nat) (d : Delivery) : Prop :=
  ∃ packets d' f, Turn g k d packets d' f ∧
    Takes g g' k (packets.map fun packet => (d.observation.peer, packet)) d' f

theorem turned_keepAlive (hSound : g.Sound) (hAt : g.deliveries[k]? = some d) {due : Nat}
    (hWatching : d.phase = .watching due) : Turned g (g.keepAlive k d) k d := by
  obtain ⟨slot, packets, d', f, hTransmits, hTakes⟩ := takes_keepAlive hSound hAt
  exact ⟨packets, d', f, .asks hWatching hTransmits, hTakes⟩

theorem turned_notify (hSound : g.Sound) (hAt : g.deliveries[k]? = some d) {due : Nat}
    (hWatching : d.phase = .watching due) {m : Envelope} {rest : List Envelope}
    (hQueue : (g.feed k).queue = m :: rest) :
    Turned g ((g.setFeed k { g.feed k with queue := rest }).notify k d m) k d := by
  let taken := g.setFeed k { g.feed k with queue := rest }
  let sent := ((taken.notification d .nonConfirmable m.payload).2.2.send d.observation.peer
    (g.notification d .nonConfirmable m.payload).1).2
  have hAside : ∀ j, j ≠ k → Aside g sent j [] := by
    intro j hOther
    have hTaken : Aside g taken j [] := aside_setFeed_of_ne hOther _
    exact hTaken.trans (aside_of_same rfl rfl rfl)
  have hSends : Sends g sent
      [(d.observation.peer, (g.notification d .nonConfirmable m.payload).1)] :=
    ⟨[.sent _ _], rfl, rfl⟩
  let noted : Delivery := { d with
    sequence := (d.sequence.next g.now).2
    state := d.state.on .nonConfirmableSent
    phase := .watching (g.settings.keepAlive.due g.now) }
  have hSet : Takes sent (taken.notify k d m) k [] noted (sent.feed k) :=
    takes_setDelivery (g := sent) hAt noted
  have hFeed : sent.feed k = { g.feed k with queue := rest } :=
    (feed_setFeed g k _ k).trans (if_pos ⟨rfl, hSound.bound hAt⟩)
  rw [hFeed] at hSet
  exact ⟨_, _, _, .notifies _ hWatching hQueue,
    hSet.after g rfl List.length_set hAside hSends rfl⟩

section

variable {packet : Packet} {slot attempt due : Nat}

theorem turned_transmit (hSound : g.Sound) (hAt : g.deliveries[k]? = some d)
    (hConfirming : d.phase = .confirming packet slot attempt due) :
    Turned g (g.transmit k { d with state := d.state.on .ackTimedOut } packet slot (attempt + 1))
      k d := by
  obtain ⟨packets, d', f, hTransmits, hTakes⟩ := takes_transmit hSound hAt
    { d with state := d.state.on .ackTimedOut } rfl rfl packet slot (attempt + 1)
  exact ⟨packets, d', f, .asks_again hConfirming hTransmits, hTakes⟩

theorem turned_conclude (hSound : g.Sound) (hAt : g.deliveries[k]? = some d)
    (hConfirming : d.phase = .confirming packet slot attempt due) (acks : Acks) (state : State) :
    Turned g (({ g with acks } : Gateway).conclude k { d with state }) k d := by
  obtain ⟨d', f, hConcludes, hTakes⟩ :=
    takes_conclude (hSound.keep (keeps_acks g acks)) hAt { d with state } rfl rfl
  exact ⟨[], d', f, .answered state hConfirming hConcludes,
    hTakes.after g rfl rfl (fun _ _ => aside_of_same rfl rfl rfl) (sends_of_same rfl) rfl⟩

end

/-- As long as a feed has a handler its delivery takes what comes. -/
def Alive (g : Gateway) : Prop :=
  ∀ k, (g.feed k).sending = true → (g.feed k).receiving = true

theorem turned_poll (hSound : g.Sound) (hAlive : g.Alive) (hAt : g.deliveries[k]? = some d) :
    Turned g (g.poll k) k d := by
  have hRest : Turned g g k d := ⟨[], d, g.feed k, .rests, takes_rest hAt⟩
  have hFeed := hSound.feed_eq hAt
  obtain ⟨observation, index, sequence, state, phase⟩ := d
  obtain rfl : index = k := hFeed
  unfold poll
  rw [hAt]
  dsimp only
  split
  · exact hRest
  · rename_i due
    split
    · rename_i m f hTake
      obtain ⟨rest, hQueue, rfl⟩ := exists_of_take hTake
      exact turned_notify hSound hAt rfl hQueue
    · split
      · exact turned_keepAlive hSound hAt rfl
      · exact hRest
    · rename_i hOther hEmpty
      have hSending : (g.feed index).sending = false := by
        rw [← Bool.not_eq_true]
        intro hOpen
        rcases take_of_open hOpen (hAlive index hOpen) with hTake | ⟨m, f, hTake⟩
        · exact hEmpty _ hTake
        · exact hOther m f hTake
      exact ⟨[], _, (g.feed index).dropReceiver, .ends _ rfl hSending,
        takes_finish hAt rfl (hSound.bound hAt)⟩
  · rename_i packet slot attempt due
    split
    · exact turned_conclude hSound hAt rfl _ _
    · split
      · exact turned_transmit hSound hAt rfl
      · exact hRest
    · exact turned_transmit hSound hAt rfl

theorem turned_alarm (hSound : g.Sound) (hAt : g.deliveries[k]? = some d) :
    Turned g (g.alarm k) k d := by
  have hRest : Turned g g k d := ⟨[], d, g.feed k, .rests, takes_rest hAt⟩
  unfold alarm
  rw [hAt]
  dsimp only
  split
  · rename_i due hWatching
    split
    · exact turned_keepAlive hSound hAt hWatching
    · exact hRest
  · exact hRest

/-! ## All events -/

theorem turned_step (hSound : g.Sound) (hAlive : g.Alive) (hAt : g.deliveries[k]? = some d)
    {e : Event} (hActs : e.acts k = true) : Turned g (g.step e) k d := by
  cases e with
  | poll j =>
    obtain rfl : j = k := of_decide_eq_true hActs
    exact turned_poll hSound hAlive hAt
  | alarm j =>
    obtain rfl : j = k := of_decide_eq_true hActs
    exact turned_alarm hSound hAt
  | _ => cases hActs

/-- An action is a turn of its delivery, or there is none. -/
theorem acts_cases (hSound : g.Sound) (hAlive : g.Alive) {e : Event} (hActs : e.acts k = true) :
    g.step e = g ∨ ∃ d, Turned g (g.step e) k d := by
  cases hAt : g.deliveries[k]? with
  | some d => exact .inr ⟨d, turned_step hSound hAlive hAt hActs⟩
  | none =>
    cases e with
    | poll j =>
      obtain rfl : j = k := of_decide_eq_true hActs
      rw [step, poll, hAt]
      exact .inl rfl
    | alarm j =>
      obtain rfl : j = k := of_decide_eq_true hActs
      rw [step, alarm, hAt]
      exact .inl rfl
    | _ => cases hActs

theorem aside_step (hSound : g.Sound) (hAlive : g.Alive) (hBound : k < g.feeds.length) {e : Event}
    (hOther : e.acts k = false) : Aside g (g.step e) k (g.brings k e) := by
  have hActed : ∀ j, j ≠ k → e.acts j = true → Aside g (g.step e) k [] := by
    intro j hApart hActs
    rcases acts_cases hSound hAlive hActs with hSame | ⟨d, packets, d', f, -, hTakes⟩
    · rw [hSame]
      exact aside_of_same rfl rfl rfl
    · exact hTakes.others k (Ne.symm hApart)
  cases e with
  | packet wall peer p => exact aside_receive hBound (hSound.feeds ▸ hBound) wall peer p
  | publish channel message => exact aside_publish g channel message
  | subscribe client topic listener onCancel => exact aside_subscribe g client topic _
  | unsubscribe client topic => exact aside_unsubscribe g client topic
  | close => exact aside_close g
  | route subject data => exact aside_of_same rfl rfl rfl
  | dispatch route => exact aside_dispatch g k route
  | poll j => exact hActed j (of_decide_eq_false hOther) (decide_eq_true rfl)
  | alarm j => exact hActed j (of_decide_eq_false hOther) (decide_eq_true rfl)
  | elapse millis => exact aside_of_same rfl rfl rfl
  | transport outcome => exact aside_of_same rfl rfl rfl

/-! ## Deliveries that are alive -/

theorem Alive.aside (h : g.Alive) (hAside : ∀ k, ∃ arrived, Aside g g' k arrived) : g'.Alive := by
  intro k hOpen
  obtain ⟨arrived, hk⟩ := hAside k
  rw [hk.receiving]
  exact h k (hk.sending hOpen)

theorem Alive.turned (h : g.Alive) (hTurned : Turned g g' k d) : g'.Alive := by
  obtain ⟨packets, d', f, hTurn, hTakes⟩ := hTurned
  intro j
  by_cases hSame : j = k
  · rw [hSame, hTakes.feed]
    intro hOpen
    obtain ⟨hSending, hReceiving⟩ := hTurn.same_ends hOpen
    rw [hReceiving]
    exact h k (hSending ▸ hOpen)
  · have hAside := hTakes.others j hSame
    rw [hAside.receiving]
    exact fun hOpen => h j (hAside.sending hOpen)

theorem Alive.spawned (h : g.Alive) (d : Delivery) :
    ({ g with feeds := g.feeds ++ [{}], deliveries := g.deliveries ++ [d] } : Gateway).Alive := by
  intro k
  rw [feed, List.getD_eq_getElem?_getD, List.getElem?_append]
  split
  · rename_i hOld
    have hBefore := h k
    rwa [feed, List.getD_eq_getElem?_getD] at hBefore
  · cases hNew : [({} : Feed)][k - g.feeds.length]? with
    | none => exact fun hOpen => by cases hOpen
    | some f =>
      rw [List.mem_singleton.mp (List.mem_of_getElem? hNew)]
      exact fun _ => rfl

theorem Alive.register (h : g.Alive) (request : Packet) (o : Observation) :
    (g.register request o).2.Alive := by
  have hSubscribe : (g.subscribe o.client o.topic (.feed g.feeds.length)).1.Alive :=
    h.aside fun k => ⟨[], aside_subscribe g _ _ _⟩
  rcases register_cases g request o with
    ⟨g₁, d, reply, nextId, hOk, hRegister⟩ | ⟨g₁, e, reply, nextId, hError, hRegister⟩
  · rw [hOk] at hSubscribe
    rw [hRegister]
    exact hSubscribe.spawned d
  · rw [hError] at hSubscribe
    rw [hRegister]
    exact hSubscribe

theorem Alive.receive (h : g.Alive) (wall : Int64) (peer : Peer) (p : Packet) :
    (g.receive wall peer p).Alive := by
  have hHandle : (g.handle wall peer p).2.Alive := by
    have hHandled := handled_handle g wall peer p
    generalize g.handle wall peer p = outcome at hHandled
    cases hHandled with
    | idle hIdle => exact h.aside fun k => ⟨[], hIdle.aside⟩
    | posted hAdmitted hCode hConcrete hPayload hOutcome =>
      exact h.aside fun k => ⟨[], (aside_publish g _ _).trans hOutcome.aside⟩
    | registered hAdmitted hCode hObserve hOutcome =>
      rw [hOutcome]
      exact h.register p _
    | deregistered hAdmitted hCode hObserve hOutcome =>
      exact h.aside fun k => ⟨[], (aside_unsubscribe g _ _).trans hOutcome.aside⟩
  obtain ⟨log, hReceive⟩ := receive_eq g wall peer p
  rw [hReceive]
  exact hHandle

theorem alive_step (hSound : g.Sound) (h : g.Alive) (e : Event) : (g.step e).Alive := by
  have hActed : ∀ j, e.acts j = true → (g.step e).Alive := by
    intro j hActs
    rcases acts_cases hSound h hActs with hSame | ⟨d, hTurned⟩
    · rw [hSame]
      exact h
    · exact h.turned hTurned
  cases e with
  | packet wall peer p => exact h.receive wall peer p
  | publish channel message => exact h.aside fun k => ⟨[], aside_publish g channel message⟩
  | subscribe client topic listener onCancel =>
    exact h.aside fun k => ⟨[], aside_subscribe g client topic _⟩
  | unsubscribe client topic => exact h.aside fun k => ⟨[], aside_unsubscribe g client topic⟩
  | close => exact h.aside fun k => ⟨[], aside_close g⟩
  | route subject data => exact h.aside fun k => ⟨[], aside_of_same rfl rfl rfl⟩
  | dispatch route => exact h.aside fun k => ⟨_, aside_dispatch g k route⟩
  | poll j => exact hActed j (decide_eq_true rfl)
  | alarm j => exact hActed j (decide_eq_true rfl)
  | elapse millis => exact h.aside fun k => ⟨[], aside_of_same rfl rfl rfl⟩
  | transport outcome => exact h.aside fun k => ⟨[], aside_of_same rfl rfl rfl⟩

theorem alive_run (hSound : g.Sound) (hAlive : g.Alive) (events : List Event) :
    (g.run events).Alive := by
  induction events generalizing g with
  | nil => exact hAlive
  | cons e rest ih => exact ih (sound_step hSound e) (alive_step hSound hAlive e)

theorem alive_opened (group : Option String) (authorizer : Authorizer) (settings : Settings)
    (firstId : UInt16) : (opened group authorizer settings firstId).Alive :=
  fun k hOpen => by cases hOpen

theorem Reached.alive (h : Reached g) : g.Alive := by
  obtain ⟨group, authorizer, settings, firstId, events, rfl⟩ := h
  exact alive_run (sound_opened group authorizer settings firstId)
    (alive_opened group authorizer settings firstId) events

/-- What every event keeps, a run keeps. -/
theorem keeps_run {P : Gateway → Prop}
    (hStep : ∀ g : Gateway, g.Sound → g.Alive → P g → ∀ e, P (g.step e))
    (hSound : g.Sound) (hAlive : g.Alive) (h : P g) (events : List Event) :
    P (g.run events) := by
  induction events generalizing g with
  | nil => exact h
  | cons e rest ih =>
    exact ih (sound_step hSound e) (alive_step hSound hAlive e) (hStep g hSound hAlive h e)

/-- What holds at the beginning and is kept by every event holds of all reachable gateways. -/
theorem Reached.keeps {P : Gateway → Prop}
    (hStep : ∀ g : Gateway, g.Sound → g.Alive → P g → ∀ e, P (g.step e))
    (hOpened : ∀ group authorizer settings firstId,
      P (opened group authorizer settings firstId)) (h : Reached g) : P g := by
  obtain ⟨group, authorizer, settings, firstId, events, rfl⟩ := h
  exact keeps_run hStep (sound_opened group authorizer settings firstId)
    (alive_opened group authorizer settings firstId) (hOpened group authorizer settings firstId)
    events

/-! ## One delivery along a run -/

/-- The delivery `k` of a gateway is that of the observation. -/
structure Going (g : Gateway) (k : Nat) (o : Observation) : Prop where
  sound : g.Sound
  alive : g.Alive
  delivery : ∃ d, g.deliveries[k]? = some d ∧ d.observation = o

/-- The observation is registered, and what is published for it goes to the feed `k`. -/
def Enrolled (g : Gateway) (k : Nat) (o : Observation) : Prop :=
  ∃ s, g.pair? o.topic o.client = some s ∧ s.handler = .feed k

variable {o : Observation} {e : Event}

theorem Going.enrolled_iff (h : g.Going k o) : g.Enrolled k o ↔ (g.feed k).sending = true := by
  obtain ⟨d, hAt, rfl⟩ := h.delivery
  constructor
  · rintro ⟨s, hPair, hHandler⟩
    exact (h.sound.served _ _ s k hPair hHandler).2
  · exact h.sound.registered k _ _ (h.sound.serves hAt)

theorem Going.step (h : g.Going k o) (e : Event) :
    (g.step e).Going k o ∧
      (((g.step e).feed k).sending = true → (g.feed k).sending = true) := by
  obtain ⟨d, hAt, hObservation⟩ := h.delivery
  have hSound := sound_step h.sound e
  have hAlive := alive_step h.sound h.alive e
  cases hActs : e.acts k with
  | true =>
    obtain ⟨packets, d', f, hTurn, hTakes⟩ := turned_step h.sound h.alive hAt hActs
    refine ⟨⟨hSound, hAlive, d', hTakes.delivery, hTurn.observation_eq.trans hObservation⟩, ?_⟩
    rw [hTakes.feed]
    exact fun hOpen => (hTurn.same_ends hOpen).1 ▸ hOpen
  | false =>
    have hAside := aside_step h.sound h.alive (h.sound.bound hAt) hActs
    exact ⟨⟨hSound, hAlive, d, hAside.delivery.trans hAt, hObservation⟩, hAside.sending⟩

theorem Going.run (h : g.Going k o) (events : List Event) :
    (g.run events).Going k o ∧
      (((g.run events).feed k).sending = true → (g.feed k).sending = true) := by
  induction events generalizing g with
  | nil => exact ⟨h, fun hOpen => hOpen⟩
  | cons e rest ih =>
    obtain ⟨hStep, hBefore⟩ := h.step e
    obtain ⟨hRun, hOpen⟩ := ih hStep
    exact ⟨hRun, fun hAfter => hBefore (hOpen hAfter)⟩

/-- What is registered at the end of a run has been registered all along. -/
theorem Going.enrolled_of_run (h : g.Going k o) {events : List Event}
    (hStill : (g.run events).Enrolled k o) : g.Enrolled k o := by
  obtain ⟨hRun, hOpen⟩ := h.run events
  exact h.enrolled_iff.mpr (hOpen (hRun.enrolled_iff.mp hStill))

end DeviceBus.Gateway
