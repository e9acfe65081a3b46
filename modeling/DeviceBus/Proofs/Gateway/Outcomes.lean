import DeviceBus.Proofs.Gateway.Turns
import DeviceBus.Proofs.Observe.Acks

/-! # What an event comes to

The outcome of an action is known in full: the delivery and its feed after it, the exchanges
that wait, the next message ID and what is sent. Every other event leaves the deliveries as
they are, but for one that may begin, and draws at most one message ID. Of these only an
acknowledgement or a reset touches the exchanges, and only the passing of time the clock.
-/

namespace DeviceBus

namespace Observe

/-- The feed of a delivery that is over. -/
def Feed.over : Feed where
  sending := false
  receiving := false

def AckKind.event : AckKind → Event
  | .ack => .ackReceived
  | .reset => .resetReceived

end Observe

namespace Gateway

open Coap Observe

variable {g g' g₁ : Gateway} {k : Nat} {d d' : Delivery} {e : Event} {peer : Peer}

/-! ## Outcomes of actions -/

/-- What an action makes of a delivery, its feed, the exchanges and the next message ID, and
what it sends to the delivery's peer. -/
structure Outcome where
  delivery : Delivery
  feed : Feed
  acks : Acks
  nextId : UInt16
  packets : List Packet

/-- The delivery `k` becomes `d`, and nothing else changes. -/
def becoming (g : Gateway) (k : Nat) (d : Delivery) : Outcome where
  delivery := d
  feed := g.feed k
  acks := g.acks
  nextId := g.nextId
  packets := []

/-- An exchange is over that left the delivery as `d`. -/
def concluded (g : Gateway) (k : Nat) (d : Delivery) : Outcome :=
  if d.state.isTerminal then { g.becoming k { d with phase := .ended } with feed := .over }
  else g.becoming k { d with phase := .watching (g.settings.keepAlive.due g.now) }

/-- The confirmable packet of an exchange is out. -/
def transmitted (g : Gateway) (k : Nat) (d : Delivery) (packet : Packet) (slot attempt : Nat) :
    Outcome :=
  { g.becoming k { d with
      state := d.state.on .confirmableSent
      phase := .confirming packet slot attempt ((g.settings.retry.delay attempt).due g.now) } with
    packets := [packet] }

/-- A new exchange of a peer has been registered under the next message ID. -/
def registering (g : Gateway) (peer : Peer) : Gateway :=
  { g with acks := (g.acks.register peer g.nextId).2, nextId := g.nextId + 1 }

/-- An exchange has been given up. -/
def abandoning (g : Gateway) (peer : Peer) (messageId : UInt16) (slot : Nat) : Gateway :=
  { g with acks := (g.acks.forget peer messageId).drop slot }

/-- The answer to an exchange has been taken. -/
def settling (g : Gateway) (slot : Nat) : Gateway :=
  { g with acks := (g.acks.setSlot slot .closed).drop slot }

/-- What the event `e`, which is an action of the delivery `k`, comes to. -/
inductive Comes (g : Gateway) (k : Nat) (d : Delivery) (e : Event) : Outcome → Prop
  | rests (hPoll : e = .poll k → d.isReady g = false)
      (hAlarm : e = .alarm k → ∀ due, d.phase = .watching due → g.now < due) :
      Comes g k d e (g.becoming k d)
  | notifies {due : Nat} {m : Envelope} {rest : List Envelope} (hPoll : e = .poll k)
      (hWatching : d.phase = .watching due) (hReceiving : (g.feed k).receiving = true)
      (hQueue : (g.feed k).queue = m :: rest) : Comes g k d e
        { g.becoming k { d with
            sequence := (d.sequence.next g.now).2
            state := d.state.on .nonConfirmableSent
            phase := .watching (g.settings.keepAlive.due g.now) } with
          feed := { g.feed k with queue := rest }
          nextId := g.nextId + 1
          packets := [(g.notification d .nonConfirmable m.payload).1] }
  | asks {due : Nat} (hWatching : d.phase = .watching due) (hDue : due ≤ g.now)
      (hSilent : e = .alarm k ∨ (g.feed k).queue = [] ∧ (g.feed k).sending = true)
      (hMay : 0 < g.settings.retry.maxAttempts) : Comes g k d e
        ((g.registering d.observation.peer).transmitted k
          { d with sequence := (d.sequence.next g.now).2 }
          (g.notification d .confirmable []).1 g.acks.slots.length 0)
  | skips {due : Nat} (hWatching : d.phase = .watching due) (hDue : due ≤ g.now)
      (hSilent : e = .alarm k ∨ (g.feed k).queue = [] ∧ (g.feed k).sending = true)
      (hNever : g.settings.retry.maxAttempts = 0) : Comes g k d e
        (((g.registering d.observation.peer).abandoning d.observation.peer g.nextId
            g.acks.slots.length).concluded k
          { d with
            sequence := (d.sequence.next g.now).2
            state := d.state.on .retriesExhausted })
  | asks_again {packet : Packet} {slot attempt due : Nat} (hPoll : e = .poll k)
      (hConfirming : d.phase = .confirming packet slot attempt due)
      (hNone : ∀ kind, g.acks.slot slot ≠ .answered kind)
      (hDue : g.acks.slot slot = .waiting → due ≤ g.now)
      (hMay : attempt + 1 < g.settings.retry.maxAttempts) : Comes g k d e
        (g.transmitted k { d with state := d.state.on .ackTimedOut } packet slot (attempt + 1))
  | gives_up {packet : Packet} {slot attempt due : Nat} (hPoll : e = .poll k)
      (hConfirming : d.phase = .confirming packet slot attempt due)
      (hNone : ∀ kind, g.acks.slot slot ≠ .answered kind)
      (hDue : g.acks.slot slot = .waiting → due ≤ g.now)
      (hLast : g.settings.retry.maxAttempts ≤ attempt + 1) : Comes g k d e
        ((g.abandoning d.observation.peer packet.messageId slot).concluded k
          { d with state := (d.state.on .ackTimedOut).on .retriesExhausted })
  | answered {packet : Packet} {slot attempt due : Nat} {kind : AckKind} (hPoll : e = .poll k)
      (hConfirming : d.phase = .confirming packet slot attempt due)
      (hAnswered : g.acks.slot slot = .answered kind) : Comes g k d e
        ((g.settling slot).concluded k { d with state := d.state.on kind.event })
  | ends {due : Nat} (hPoll : e = .poll k) (hWatching : d.phase = .watching due)
      (hEmpty : (g.feed k).queue = [] ∨ (g.feed k).receiving = false)
      (hSending : (g.feed k).sending = false) : Comes g k d e
        { g.becoming k { d with state := d.state.on .cancel, phase := .ended } with feed := .over }

/-- The one gateway is what the outcome says of the other. -/
structure Yields (g g' : Gateway) (k : Nat) (peer : Peer) (r : Outcome) : Prop where
  deliveries : g'.deliveries = g.deliveries.set k r.delivery
  feed : g'.feed k = r.feed
  acks : g'.acks = r.acks
  nextId : g'.nextId = r.nextId
  settings : g'.settings = g.settings
  now : g'.now = g.now
  sends : Sends g g' (r.packets.map fun packet => (peer, packet))

theorem Yields.after {r : Outcome} (h : Yields g₁ g' k peer r)
    (hDeliveries : g₁.deliveries = g.deliveries) (hSettings : g₁.settings = g.settings)
    (hNow : g₁.now = g.now) (hSends : Sends g g₁ []) : Yields g g' k peer r where
  deliveries := hDeliveries ▸ h.deliveries
  feed := h.feed
  acks := h.acks
  nextId := h.nextId
  settings := h.settings.trans hSettings
  now := h.now.trans hNow
  sends := hSends.trans h.sends

theorem yields_rest (hAt : g.deliveries[k]? = some d) : Yields g g k peer (g.becoming k d) where
  deliveries := by
    obtain ⟨hBound, rfl⟩ := List.getElem?_eq_some_iff.mp hAt
    exact (List.set_getElem_self hBound).symm
  feed := rfl
  acks := rfl
  nextId := rfl
  settings := rfl
  now := rfl
  sends := sends_of_same rfl

/-! ## Calls of the facade -/

/-- What the hub reports changes feeds and the log. -/
theorem absorb_eq (g : Gateway) (reports : List (Report Consumer)) :
    ∃ feeds log, g.absorb reports = { g with feeds, log } := by
  have hOne : ∀ (g : Gateway) (r : Report Consumer),
      ∃ feeds log, g.absorbOne r = { g with feeds, log } := by
    intro g r
    cases r with
    | handled i ticket consumer message =>
      cases consumer with
      | listener name onCancel => exact ⟨_, _, rfl⟩
      | feed index =>
        simp only [absorbOne]
        split
        · exact ⟨_, _, rfl⟩
        · exact ⟨_, _, rfl⟩
    | cancelled i ticket consumer =>
      cases consumer with
      | listener name onCancel => exact ⟨_, _, rfl⟩
      | feed index => exact ⟨_, _, rfl⟩
    | returned number result => exact ⟨_, _, rfl⟩
  induction reports generalizing g with
  | nil => exact ⟨_, _, rfl⟩
  | cons r rest ih =>
    obtain ⟨feeds, log, hFirst⟩ := hOne g r
    obtain ⟨feeds', log', hRest⟩ := ih (g.absorbOne r)
    refine ⟨feeds', log', hRest.trans ?_⟩
    rw [hFirst]

theorem perform_eq (g : Gateway) (s : DeviceBus.Step Consumer) :
    ∃ hub feeds log, (g.perform s).1 = { g with hub, feeds, log } := by
  obtain ⟨feeds, log, hAbsorb⟩ := absorb_eq { g with hub := (g.hub.perform {} s).1 }
    (g.hub.perform {} s).2.1
  exact ⟨_, feeds, log, hAbsorb⟩

theorem pair?_unsubscribe (hSound : g.Sound) (client topic : String) :
    (g.unsubscribe client topic).1.pair? topic client = none := by
  rcases unsubscribe_cases hSound client topic with
    ⟨e, hUnsubscribe, hFree⟩ | ⟨s, hub, result, -, hUnsubscribe, -, -, hPairs⟩
  · rw [hUnsubscribe]
    exact hFree
  · rw [hUnsubscribe, pair?, hub_cancelled]
    exact (hPairs topic client).trans (if_pos ⟨rfl, rfl⟩)

/-! ## What the parts of an action yield -/

theorem dropReceiver_eq {f : Feed} (hSending : f.sending = false) : f.dropReceiver = .over := by
  rw [Feed.dropReceiver, hSending]
  rfl

theorem yields_conclude (hSound : g.Sound) (hAt : g.deliveries[k]? = some d) (d' : Delivery)
    (hObservation : d'.observation = d.observation) (hFeed : d'.feed = d.feed) (peer : Peer) :
    Yields g (g.conclude k d') k peer (g.concluded k d') := by
  have hOwn : d'.feed = k := hFeed.trans (hSound.feed_eq hAt)
  have hServes := hSound.serves hAt
  rw [← hObservation] at hServes
  unfold conclude concluded
  split
  · have hSending := sending_unsubscribe hSound hServes
    have hSends : Sends g (g.unsubscribe d'.observation.client d'.observation.topic).1 [] :=
      (tame_unsubscribe g _ _).sends
    have hBound := (sound_unsubscribe hSound d'.observation.client d'.observation.topic).bound
      (d := d) (by rw [unsubscribe, deliveries_perform, hAt])
    obtain ⟨hub, feeds, log, hLeft⟩ :=
      perform_eq g (.unsubscribe 0 d'.observation.client d'.observation.topic)
    rw [unsubscribe, hLeft] at hSending hSends hBound ⊢
    constructor
    · rfl
    · rw [finish, feed_setFeed, hOwn, if_pos ⟨rfl, hBound⟩]
      exact dropReceiver_eq hSending
    · rfl
    · rfl
    · rfl
    · rfl
    · exact hSends
  · exact ⟨rfl, rfl, rfl, rfl, rfl, rfl, sends_of_same rfl⟩

section

variable {attempt : Nat}

theorem yields_transmit (hMay : attempt < g.settings.retry.maxAttempts) (k : Nat) (d : Delivery)
    (packet : Packet) (slot : Nat) :
    Yields g (g.transmit k d packet slot attempt) k d.observation.peer
      (g.transmitted k d packet slot attempt) := by
  rw [transmit, if_pos hMay]
  exact ⟨rfl, rfl, rfl, rfl, rfl, rfl, sends_send g _ _⟩

theorem yields_give_up (hSound : g.Sound) (hAt : g.deliveries[k]? = some d) (d' : Delivery)
    (hObservation : d'.observation = d.observation) (hFeed : d'.feed = d.feed)
    (hLast : g.settings.retry.maxAttempts ≤ attempt) (packet : Packet) (slot : Nat) :
    Yields g (g.transmit k d' packet slot attempt) k d'.observation.peer
      ((g.abandoning d'.observation.peer packet.messageId slot).concluded k
        { d' with state := d'.state.on .retriesExhausted }) := by
  have hAbandoning : (g.abandoning d'.observation.peer packet.messageId slot).Sound :=
    hSound.keep (keeps_acks g _)
  have hConclude := yields_conclude hAbandoning hAt
    { d' with state := d'.state.on .retriesExhausted } hObservation hFeed d'.observation.peer
  rw [transmit, if_neg (Nat.not_lt.mpr hLast)]
  exact hConclude.after rfl rfl rfl (sends_of_same rfl)

end

/-- An action of the delivery `k` comes to what its outcome says. -/
def Acted (g g' : Gateway) (k : Nat) (d : Delivery) (e : Event) : Prop :=
  ∃ r, Comes g k d e r ∧ Yields g g' k d.observation.peer r

theorem acted_keepAlive (hSound : g.Sound) (hAt : g.deliveries[k]? = some d) {due : Nat}
    (hWatching : d.phase = .watching due) (hDue : due ≤ g.now)
    (hSilent : e = .alarm k ∨ (g.feed k).queue = [] ∧ (g.feed k).sending = true) :
    Acted g (g.keepAlive k d) k d e := by
  have hSlot := Acks.register_fst g.acks d.observation.peer g.nextId
  have hKeepAlive : g.keepAlive k d = (g.registering d.observation.peer).transmit k
      { d with sequence := (d.sequence.next g.now).2 } (g.notification d .confirmable []).1
      g.acks.slots.length 0 := by
    rw [← hSlot]
    rfl
  rw [hKeepAlive]
  by_cases hMay : 0 < g.settings.retry.maxAttempts
  · have hTransmits := yields_transmit (g := g.registering d.observation.peer) hMay k
      { d with sequence := (d.sequence.next g.now).2 } (g.notification d .confirmable []).1
      g.acks.slots.length
    exact ⟨_, .asks hWatching hDue hSilent hMay,
      hTransmits.after rfl rfl rfl (sends_of_same rfl)⟩
  · have hRegistering : (g.registering d.observation.peer).Sound :=
      hSound.keep (keeps_of_same rfl rfl rfl rfl)
    have hGivesUp := yields_give_up hRegistering hAt
      { d with sequence := (d.sequence.next g.now).2 } rfl rfl (Nat.not_lt.mp hMay)
      (g.notification d .confirmable []).1 g.acks.slots.length
    exact ⟨_, .skips hWatching hDue hSilent (Nat.eq_zero_of_not_pos hMay),
      hGivesUp.after rfl rfl rfl (sends_of_same rfl)⟩

theorem acted_notify (hSound : g.Sound) (hAt : g.deliveries[k]? = some d) {due : Nat}
    (hWatching : d.phase = .watching due) (hReceiving : (g.feed k).receiving = true)
    {m : Envelope} {rest : List Envelope} (hQueue : (g.feed k).queue = m :: rest) :
    Acted g ((g.setFeed k { g.feed k with queue := rest }).notify k d m) k d (.poll k) := by
  refine ⟨_, .notifies rfl hWatching hReceiving hQueue, ?_⟩
  constructor
  · rfl
  · exact (feed_setFeed g k _ k).trans (if_pos ⟨rfl, hSound.bound hAt⟩)
  · rfl
  · rfl
  · rfl
  · rfl
  · exact ⟨[.sent _ _], rfl, rfl⟩

theorem acted_finish (hSound : g.Sound) (hAt : g.deliveries[k]? = some d) {due : Nat}
    (hWatching : d.phase = .watching due)
    (hEmpty : (g.feed k).queue = [] ∨ (g.feed k).receiving = false)
    (hSending : (g.feed k).sending = false) :
    Acted g (g.finish k { d with state := d.state.on .cancel }) k d (.poll k) := by
  refine ⟨_, .ends rfl hWatching hEmpty hSending, ?_⟩
  constructor
  · rfl
  · rw [finish, feed_setFeed, hSound.feed_eq hAt, if_pos ⟨rfl, hSound.bound hAt⟩]
    exact dropReceiver_eq hSending
  · rfl
  · rfl
  · rfl
  · rfl
  · exact sends_of_same rfl

theorem acted_transmit (hSound : g.Sound) (hAt : g.deliveries[k]? = some d) {packet : Packet}
    {slot attempt due : Nat} (hConfirming : d.phase = .confirming packet slot attempt due)
    (hNone : ∀ kind, g.acks.slot slot ≠ .answered kind)
    (hDue : g.acks.slot slot = .waiting → due ≤ g.now) :
    Acted g (g.transmit k { d with state := d.state.on .ackTimedOut } packet slot (attempt + 1))
      k d (.poll k) := by
  by_cases hMay : attempt + 1 < g.settings.retry.maxAttempts
  · exact ⟨_, .asks_again rfl hConfirming hNone hDue hMay, yields_transmit hMay k _ packet slot⟩
  · have hLast := Nat.not_lt.mp hMay
    exact ⟨_, .gives_up rfl hConfirming hNone hDue hLast, yields_give_up hSound hAt
      { d with state := d.state.on .ackTimedOut } rfl rfl hLast packet slot⟩

theorem acted_conclude (hSound : g.Sound) (hAt : g.deliveries[k]? = some d) {packet : Packet}
    {slot attempt due : Nat} (hConfirming : d.phase = .confirming packet slot attempt due)
    {kind : AckKind} (hAnswered : g.acks.slot slot = .answered kind) :
    Acted g ((g.settling slot).conclude k { d with state := d.state.on kind.event }) k d
      (.poll k) := by
  have hSettling : (g.settling slot).Sound := hSound.keep (keeps_acks g _)
  have hConclude := yields_conclude hSettling hAt { d with state := d.state.on kind.event } rfl rfl
    d.observation.peer
  exact ⟨_, .answered rfl hConfirming hAnswered, hConclude.after rfl rfl rfl (sends_of_same rfl)⟩

theorem receiving_of_take {f f' : Feed} {m : Envelope} (hTake : f.take = (.message m, f')) :
    f.receiving = true := by
  unfold Feed.take at hTake
  split at hTake
  · rename_i hReceiving
    exact hReceiving
  · cases hTake

theorem open_of_take {f f' : Feed} (hTake : f.take = (.empty, f')) :
    f.queue = [] ∧ f.sending = true := by
  unfold Feed.take at hTake
  split at hTake
  · split at hTake
    · cases hTake
    · rename_i hQueue
      refine ⟨hQueue, ?_⟩
      split at hTake
      · rename_i hSending
        exact hSending
      · cases hTake
  · cases hTake

/-- A feed with neither a message nor a handler. -/
theorem closed_of_take {f : Feed} (hAlive : f.sending = true → f.receiving = true)
    (hMessage : ∀ m f', f.take = (.message m, f') → False)
    (hEmpty : ∀ f', f.take = (.empty, f') → False) :
    (f.queue = [] ∨ f.receiving = false) ∧ f.sending = false := by
  have hSending : f.sending = false := by
    rw [← Bool.not_eq_true]
    intro hOpen
    rcases take_of_open hOpen (hAlive hOpen) with hTake | ⟨m, f', hTake⟩
    · exact hEmpty _ hTake
    · exact hMessage m f' hTake
  refine ⟨?_, hSending⟩
  cases hReceiving : f.receiving with
  | false => exact .inr rfl
  | true =>
    cases hQueue : f.queue with
    | nil => exact .inl rfl
    | cons m rest =>
      refine (hMessage m { f with queue := rest } ?_).elim
      rw [Feed.take, if_pos hReceiving, hQueue]

theorem not_ready_of_watching {due : Nat} (hWatching : d.phase = .watching due) :
    d.isReady g = false ↔
      ((g.feed d.feed).queue = [] ∧ (g.feed d.feed).sending = true) ∧ g.now < due := by
  simp [Delivery.isReady, hWatching]

theorem not_ready_of_confirming {packet : Packet} {slot attempt due : Nat}
    (hConfirming : d.phase = .confirming packet slot attempt due) :
    d.isReady g = false ↔ g.acks.slot slot = .waiting ∧ g.now < due := by
  simp [Delivery.isReady, hConfirming]

theorem acted_poll (hSound : g.Sound) (hAlive : g.Alive) (hAt : g.deliveries[k]? = some d) :
    Acted g (g.poll k) k d (.poll k) := by
  have hRest : d.isReady g = false → Acted g g k d (.poll k) := fun hReady =>
    ⟨_, .rests (fun _ => hReady) fun hAlarm => (by cases hAlarm), yields_rest hAt⟩
  have hFeed := hSound.feed_eq hAt
  obtain ⟨observation, index, sequence, state, phase⟩ := d
  obtain rfl : index = k := hFeed
  unfold poll
  rw [hAt]
  dsimp only
  split
  · exact hRest rfl
  · rename_i due
    split
    · rename_i m f hTake
      obtain ⟨rest, hQueue, rfl⟩ := exists_of_take hTake
      exact acted_notify hSound hAt rfl (receiving_of_take hTake) hQueue
    · rename_i hTake
      obtain ⟨hQueue, hSending⟩ := open_of_take hTake
      split
      · rename_i hDue
        exact acted_keepAlive hSound hAt rfl hDue (.inr ⟨hQueue, hSending⟩)
      · rename_i hEarly
        exact hRest ((not_ready_of_watching rfl).mpr ⟨⟨hQueue, hSending⟩, Nat.not_le.mp hEarly⟩)
    · rename_i hMessage hEmpty
      obtain ⟨hOver, hSending⟩ := closed_of_take (hAlive index) hMessage hEmpty
      exact acted_finish hSound hAt rfl hOver hSending
  · rename_i packet slot attempt due
    simp only [Acks.poll]
    cases hSlot : g.acks.slot slot with
    | answered kind =>
      have hConclude := acted_conclude hSound hAt rfl hSlot
      cases kind with
      | ack => exact hConclude
      | reset => exact hConclude
    | waiting =>
      dsimp only
      split
      · rename_i hDue
        exact acted_transmit hSound hAt rfl (by simp [hSlot]) fun _ => hDue
      · rename_i hEarly
        exact hRest ((not_ready_of_confirming rfl).mpr ⟨hSlot, Nat.not_le.mp hEarly⟩)
    | closed => exact acted_transmit hSound hAt rfl (by simp [hSlot]) (by simp [hSlot])
    | dropped => exact acted_transmit hSound hAt rfl (by simp [hSlot]) (by simp [hSlot])

theorem acted_alarm (hSound : g.Sound) (hAt : g.deliveries[k]? = some d) :
    Acted g (g.alarm k) k d (.alarm k) := by
  have hRest : (∀ due, d.phase = .watching due → g.now < due) → Acted g g k d (.alarm k) :=
    fun hEarly => ⟨_, .rests (fun hPoll => by cases hPoll) fun _ => hEarly, yields_rest hAt⟩
  simp only [alarm, hAt]
  split
  · rename_i due hWatching
    split
    · rename_i hDue
      exact acted_keepAlive hSound hAt hWatching hDue (.inl rfl)
    · rename_i hEarly
      refine hRest fun due' hSame => ?_
      cases hWatching.symm.trans hSame
      exact Nat.not_le.mp hEarly
  · rename_i hOther
    exact hRest fun due hWatching => (hOther due hWatching).elim

theorem acted_step (hSound : g.Sound) (hAlive : g.Alive) (hAt : g.deliveries[k]? = some d)
    (hActs : e.acts k = true) : Acted g (g.step e) k d e := by
  cases e with
  | poll j =>
    obtain rfl : j = k := of_decide_eq_true hActs
    exact acted_poll hSound hAlive hAt
  | alarm j =>
    obtain rfl : j = k := of_decide_eq_true hActs
    exact acted_alarm hSound hAt
  | _ => cases hActs

theorem Comes.of_answered {r : Outcome} (h : Comes g k d (.poll k) r) {packet : Packet}
    {slot attempt due : Nat} (hConfirming : d.phase = .confirming packet slot attempt due)
    {kind : AckKind} (hAnswered : g.acks.slot slot = .answered kind) :
    r = (g.settling slot).concluded k { d with state := d.state.on kind.event } := by
  cases h with
  | rests hPoll hAlarm =>
    cases ((not_ready_of_confirming hConfirming).mp (hPoll rfl)).1.symm.trans hAnswered
  | asks_again hPoll hConfirming' hNone hDue hMay =>
    cases hConfirming'.symm.trans hConfirming
    exact (hNone kind hAnswered).elim
  | gives_up hPoll hConfirming' hNone hDue hLast =>
    cases hConfirming'.symm.trans hConfirming
    exact (hNone kind hAnswered).elim
  | answered hPoll hConfirming' hAnswered' =>
    cases hConfirming'.symm.trans hConfirming
    cases hAnswered'.symm.trans hAnswered
    rfl
  | notifies hPoll hWatching hReceiving hQueue => cases hWatching.symm.trans hConfirming
  | asks hWatching hDue hSilent hMay => cases hWatching.symm.trans hConfirming
  | skips hWatching hDue hSilent hNever => cases hWatching.symm.trans hConfirming
  | ends hPoll hWatching hEmpty hSending => cases hWatching.symm.trans hConfirming

/-! ## All other events -/

/-- The kind of answer that a packet is, if it is one. -/
def answer? (p : Packet) : Option AckKind :=
  match p.kind with
  | .acknowledgement => some .ack
  | .reset => some .reset
  | _ => none

/-- The clock stands still and no exchange is touched. At most one message ID has been drawn
and at most one delivery has begun, which watches a feed of its own. -/
structure Steady (g g' : Gateway) : Prop where
  settings : g'.settings = g.settings
  now : g'.now = g.now
  acks : g'.acks = g.acks
  nextId : g'.nextId = g.nextId ∨ g'.nextId = g.nextId + 1
  deliveries : g'.deliveries = g.deliveries ∨
    ∃ observation sequence, g'.deliveries = g.deliveries ++ [{
        observation, sequence, feed := g.feeds.length
        phase := .watching (g.settings.keepAlive.due g.now) }] ∧
      g'.feed g.feeds.length = {}

theorem Steady.refl (g : Gateway) : Steady g g :=
  ⟨rfl, rfl, rfl, .inl rfl, .inl rfl⟩

theorem steady_perform (g : Gateway) (s : DeviceBus.Step Consumer) :
    Steady g (g.perform s).1 ∧ (g.perform s).1.nextId = g.nextId := by
  obtain ⟨hub, feeds, log, hPerform⟩ := perform_eq g s
  rw [hPerform]
  exact ⟨⟨rfl, rfl, rfl, .inl rfl, .inl rfl⟩, rfl⟩

theorem steady_dispatch (g : Gateway) (route : Nat) : Steady g (g.dispatch route) := by
  obtain ⟨feeds, log, hAbsorb⟩ := absorb_eq { g with hub := (g.hub.dispatch route).1 }
    (g.hub.dispatch route).2
  rw [show g.dispatch route = _ from hAbsorb]
  exact ⟨rfl, rfl, rfl, .inl rfl, .inl rfl⟩

theorem Steady.reply (h : Steady g g') (hId : g'.nextId = g.nextId) (request : Packet)
    (code : UInt8) : Steady g (g'.reply request code).2 := by
  unfold Gateway.reply
  split
  · exact h
  · exact { h with nextId := .inr (congrArg (· + 1) hId) }

theorem steady_handlePost (g : Gateway) (wall : Int64) (request : Packet) (path : ChannelPath) :
    Steady g (g.handlePost wall request path).2 := by
  unfold handlePost
  split
  · exact (Steady.refl g).reply rfl request _
  · split
    · exact (Steady.refl g).reply rfl request _
    · split
      · exact (Steady.refl g).reply rfl request _
      · rename_i publisher _
        have hPerformed := steady_perform g
          (.publish 0 path.channel (posting wall request path publisher) .carried)
        dsimp only
        split
        · rename_i g₁ e hPublish
          replace hPublish : g.perform (.publish 0 path.channel
            (posting wall request path publisher) .carried) = (g₁, .error e) := hPublish
          obtain ⟨hSteady, hId⟩ := hPublish ▸ hPerformed
          exact hSteady.reply hId request _
        · rename_i g₁ hPublish
          replace hPublish : g.perform (.publish 0 path.channel
            (posting wall request path publisher) .carried) = (g₁, .ok ()) := hPublish
          obtain ⟨hSteady, hId⟩ := hPublish ▸ hPerformed
          split
          · exact hSteady.reply hId request _
          · exact hSteady

theorem steady_register (hSound : g.Sound) (request : Packet) (o : Observation) :
    Steady g (g.register request o).2 := by
  unfold register
  dsimp only
  rcases subscribe_cases hSound o.client o.topic (.feed g.feeds.length) with
    ⟨e, hub, hSubscribe, -⟩ | ⟨s, hub, -, -, -, -, hSubscribe, -⟩
  · have hSame : Steady g { g with hub } := ⟨rfl, rfl, rfl, .inl rfl, .inl rfl⟩
    rw [hSubscribe]
    split
    · rename_i hOk
      cases hOk
    · rename_i hError
      cases hError
      exact hSame.reply rfl request _
    · rename_i hError
      cases hError
      exact hSame.reply rfl request _
  · have hBegun : Steady g (({ g with hub, feeds := g.feeds ++ [{}] } : Gateway).spawn o
        g.feeds.length (({ started := g.now } : Sequence).next g.now).2) :=
      ⟨rfl, rfl, rfl, .inl rfl, .inr ⟨o, _, rfl, by simp [feed, spawn]⟩⟩
    rw [hSubscribe]
    exact hBegun.reply rfl request _

theorem steady_deregister (g : Gateway) (request : Packet) (o : Observation) :
    Steady g (g.deregister request o).2 := by
  obtain ⟨hSteady, hId⟩ := steady_perform g (.unsubscribe 0 o.client o.topic)
  unfold deregister unsubscribe
  generalize g.perform (.unsubscribe 0 o.client o.topic) = removed at hSteady hId
  obtain ⟨g₁, result⟩ := removed
  split
  · rename_i hOk
    cases hOk
    exact hSteady.reply hId request _
  · rename_i hNone
    cases hNone
    exact hSteady.reply hId request _
  · rename_i hError
    cases hError
    exact hSteady.reply hId request _

theorem steady_handleRequest (hSound : g.Sound) (wall : Int64) (peer : Peer) (p : Packet) :
    Steady g (g.handleRequest wall peer p).2 := by
  unfold handleRequest
  split
  · exact (Steady.refl g).reply rfl p _
  · split
    · exact steady_handlePost g wall p _
    · split
      · unfold handleGet
        split
        · split
          · exact (Steady.refl g).reply rfl p _
          · dsimp only
            split
            · exact steady_register hSound p _
            · exact steady_deregister g p _
        · exact (Steady.refl g).reply rfl p _
      · exact (Steady.refl g).reply rfl p _

theorem steady_handle (hSound : g.Sound) (wall : Int64) (peer : Peer) {p : Packet}
    (hRequest : answer? p = none) : Steady g (g.handle wall peer p).2 := by
  unfold answer? at hRequest
  unfold handle
  split
  · rename_i hKind
    simp [hKind] at hRequest
  · rename_i hKind
    simp [hKind] at hRequest
  · split
    · exact .refl g
    · split
      · exact steady_handleRequest hSound wall peer p
      · exact .refl g
  · split
    · exact steady_handleRequest hSound wall peer p
    · exact .refl g

theorem step_of_answer (g : Gateway) (wall : Int64) (peer : Peer) {p : Packet} {kind : AckKind}
    (hAnswer : answer? p = some kind) :
    g.step (.packet wall peer p) = g.resolveAck peer p.messageId kind := by
  unfold answer? at hAnswer
  split at hAnswer
  · rename_i hKind
    cases hAnswer
    simp only [step, receive, handle, hKind]
  · rename_i hKind
    cases hAnswer
    simp only [step, receive, handle, hKind]
  · cases hAnswer

theorem steady_of_log {log : List Output} (h : Steady g g') : Steady g { g' with log } :=
  ⟨h.settings, h.now, h.acks, h.nextId, h.deliveries⟩

/-- What an event can be. An action of a delivery that is not there is steady as well. -/
inductive Happens (g : Gateway) : Event → Prop
  | acts {e : Event} {k : Nat} {d : Delivery} {r : Outcome} (hAt : g.deliveries[k]? = some d)
      (hActs : e.acts k = true) (hComes : Comes g k d e r)
      (hYields : Yields g (g.step e) k d.observation.peer r) : Happens g e
  | answers {wall : Int64} {peer : Peer} {p : Packet} {kind : AckKind}
      (hAnswer : answer? p = some kind)
      (hStep : g.step (.packet wall peer p) = g.resolveAck peer p.messageId kind) :
      Happens g (.packet wall peer p)
  | elapses (millis : Nat) : Happens g (.elapse millis)
  | steady {e : Event} (hSteady : Steady g (g.step e)) : Happens g e

theorem step_of_absent (hAbsent : g.deliveries[k]? = none) (hActs : e.acts k = true) :
    g.step e = g := by
  cases e with
  | poll j =>
    obtain rfl : j = k := of_decide_eq_true hActs
    simp only [step, poll, hAbsent]
  | alarm j =>
    obtain rfl : j = k := of_decide_eq_true hActs
    simp only [step, alarm, hAbsent]
  | _ => cases hActs

theorem happens (hSound : g.Sound) (hAlive : g.Alive) (e : Event) : Happens g e := by
  have hActed : ∀ k, e.acts k = true → Happens g e := by
    intro k hActs
    cases hAt : g.deliveries[k]? with
    | none =>
      refine .steady ?_
      rw [step_of_absent hAt hActs]
      exact .refl g
    | some d =>
      obtain ⟨r, hComes, hYields⟩ := acted_step hSound hAlive hAt hActs
      exact .acts hAt hActs hComes hYields
  cases e with
  | packet wall peer p =>
    cases hAnswer : answer? p with
    | some kind => exact .answers hAnswer (step_of_answer g wall peer hAnswer)
    | none =>
      obtain ⟨log, hReceive⟩ := receive_eq g wall peer p
      refine .steady ?_
      rw [step, hReceive]
      exact steady_of_log (steady_handle hSound wall peer hAnswer)
  | publish channel message => exact .steady (steady_perform g _).1
  | subscribe client topic listener onCancel => exact .steady (steady_perform g _).1
  | unsubscribe client topic => exact .steady (steady_perform g _).1
  | close => exact .steady (steady_perform g _).1
  | route subject data => exact .steady ⟨rfl, rfl, rfl, .inl rfl, .inl rfl⟩
  | dispatch route => exact .steady (steady_dispatch g route)
  | poll delivery => exact hActed delivery (decide_eq_true rfl)
  | alarm delivery => exact hActed delivery (decide_eq_true rfl)
  | elapse millis => exact .elapses millis
  | transport outcome => exact .steady ⟨rfl, rfl, rfl, .inl rfl, .inl rfl⟩

end Gateway

end DeviceBus
