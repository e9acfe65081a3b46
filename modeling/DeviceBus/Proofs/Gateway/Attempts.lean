import DeviceBus.Proofs.Gateway.Questions
import DeviceBus.Proofs.Observe.Retry

/-! # Attempts to reach a peer

An exchange waits after each transmission until the wait is over, and not longer: then it goes
on to the next transmission or expires. An answer that comes meanwhile is taken at once. As long
as no other exchange has the same peer and message ID, nothing else touches its slot.
-/

namespace DeviceBus

namespace Observe

/-- The state that an answer leaves. -/
def AckKind.result : AckKind → State
  | .ack => .delivered
  | .reset => .cancelled

theorem AckKind.on_event (kind : AckKind) : State.awaitingAck.on kind.event = kind.result := by
  cases kind with
  | _ => rfl

end Observe

namespace Gateway

open Coap Observe

variable {g : Gateway} {k : Nat} {d : Delivery} {e : Event} {o : Observation}
  {messageId : UInt16} {start slot attempt : Nat} {packet : Packet} {kind : AckKind}
  {key : Peer × UInt16} {events : List Event}

/-! ## What is seen of a run -/

/-- The answer that the event is for the exchanges under the key. -/
def Event.answerTo? (key : Peer × UInt16) : Event → Option AckKind
  | .packet _ peer p => if (peer, p.messageId) = key then answer? p else none
  | _ => none

/-- The first answer under the key along a run, and when it comes. -/
def firstAnswer? (g : Gateway) (key : Peer × UInt16) : List Event → Option (Nat × AckKind)
  | [] => none
  | e :: rest =>
      match e.answerTo? key with
      | some kind => some (g.now, kind)
      | none => (g.step e).firstAnswer? key rest

/-- What the event makes the delivery `k` send, and when. -/
def utters (g : Gateway) (k : Nat) (e : Event) : List (Nat × Peer × Packet) :=
  if e.acts k then (g.said e).map fun sent => (g.now, sent) else []

/-- What the actions of the delivery `k` send along a run, and when. -/
def sendings (g : Gateway) (k : Nat) : List Event → List (Nat × Peer × Packet)
  | [] => []
  | e :: rest => g.utters k e ++ (g.step e).sendings k rest

/-- The events of a run up to the one that ends the exchange of the delivery `k`. -/
def during (g : Gateway) (k : Nat) : List Event → List Event
  | [] => []
  | e :: rest => if g.exchange? k = none then [] else e :: (g.step e).during k rest

/-- Where the exchange of the delivery `k` is over, or the run if that comes first. -/
def closing (g : Gateway) (k : Nat) (events : List Event) : Gateway :=
  g.run (g.during k events)

/-- The delivery `k` cannot go on without the clock. -/
def Rests (g : Gateway) (k : Nat) : Prop :=
  ∀ d, g.deliveries[k]? = some d → d.isReady g = false

/-- No other exchange than that of the delivery `k` has the key. -/
def Sole (g : Gateway) (k : Nat) (key : Peer × UInt16) : Prop :=
  ∀ j slot, g.exchange? j = some (key, slot) → j = k

/-- The key stays with the delivery `k` along a run. -/
def Alone (g : Gateway) (k : Nat) (key : Peer × UInt16) : List Event → Prop
  | [] => g.Sole k key
  | e :: rest => g.Sole k key ∧ (g.step e).Alone k key rest

theorem Alone.sole (h : g.Alone k key events) : g.Sole k key := by
  cases events with
  | nil => exact h
  | cons e rest => exact h.1

theorem Alone.sole_run (h : g.Alone k key events) : (g.run events).Sole k key := by
  induction events generalizing g with
  | nil => exact h
  | cons e rest ih => exact ih h.2

theorem sole_of_single (hSingle : g.deliveries.length = 1) (key : Peer × UInt16) :
    g.Sole 0 key := by
  intro j slot hExchange
  obtain ⟨d, packet, attempt, due, hAt, -⟩ := exists_of_exchange? hExchange
  have hBound := (List.getElem?_eq_some_iff.mp hAt).1
  omega

/-- A gateway with a single delivery leaves it its key. -/
theorem alone_of_single (hSingle : ∀ n ≤ events.length,
      (g.run (events.take n)).deliveries.length = 1) (key : Peer × UInt16) :
    g.Alone 0 key events := by
  induction events generalizing g with
  | nil => exact sole_of_single (hSingle 0 (Nat.le_refl _)) key
  | cons e rest ih =>
    exact ⟨sole_of_single (hSingle 0 (Nat.zero_le _)) key,
      ih fun n hLe => hSingle (n + 1) (Nat.succ_le_succ hLe)⟩

theorem during_of_none (hNone : g.exchange? k = none) (events : List Event) :
    g.during k events = [] := by
  cases events with
  | nil => rfl
  | cons e rest => rw [during, if_pos hNone]

theorem during_cons (hSome : g.exchange? k ≠ none) (e : Event) (rest : List Event) :
    g.during k (e :: rest) = e :: (g.step e).during k rest := by
  rw [during, if_neg hSome]

theorem answerTo?_of_acts (hActs : e.acts k = true) (key : Peer × UInt16) :
    e.answerTo? key = none := by
  cases e with
  | packet wall peer p => cases hActs
  | _ => rfl

theorem utters_of_others (hActs : e.acts k = false) : g.utters k e = [] := by
  rw [utters, hActs]
  rfl

theorem utters_of_acts (hActs : e.acts k = true) {packets : List (Peer × Packet)}
    (hSends : Sends g (g.step e) packets) :
    g.utters k e = packets.map fun sent => (g.now, sent) := by
  rw [utters, if_pos hActs, said_eq hSends]

theorem now_le_firstAnswer? (hSound : g.Sound) (hAlive : g.Alive) {t : Nat}
    (hAnswer : g.firstAnswer? key events = some (t, kind)) : g.now ≤ t := by
  induction events generalizing g with
  | nil => cases hAnswer
  | cons e rest ih =>
    rw [firstAnswer?] at hAnswer
    split at hAnswer
    · cases hAnswer
      exact Nat.le_refl _
    · exact Nat.le_trans (now_le_step hSound hAlive e)
        (ih (sound_step hSound e) (alive_step hSound hAlive e) hAnswer)

/-! ## The slot of an exchange -/

/-- Nobody but its peer touches the slot of an exchange whose key is its own. -/
theorem Comes.waiting_of_sole {j : Nat} {r : Outcome} (h : Comes g j d e r)
    (hAt : g.deliveries[j]? = some d) (hMatched : g.Matched)
    (hMay : 0 < g.settings.retry.maxAttempts) (hEntry : g.acks.pending.get? key = some slot)
    (hBefore : ∀ index, d.exchange? ≠ some (key, index))
    (hAfter : ∀ index, r.delivery.exchange? ≠ some (key, index)) :
    r.acks.slot slot = .waiting := by
  have hTidy : r.acks.Tidy := (Acks.Matched.shifts hMatched (h.shifts hAt)).tidy
  refine hTidy.waiting key slot ?_
  cases h with
  | rests hPoll hAlarm => exact hEntry
  | notifies hPoll hWatching hReceiving hQueue => exact hEntry
  | asks hWatching hDue hSilent hMay' =>
    refine (Acks.pending_register ..).trans ((if_neg ?_).trans hEntry)
    rintro rfl
    exact hAfter _ rfl
  | skips hWatching hDue hSilent hNever => exact absurd hNever (Nat.ne_of_gt hMay)
  | asks_again hPoll hConfirming hNone hDue hMay' => exact hEntry
  | gives_up hPoll hConfirming hNone hDue hLast =>
    rw [acks_concluded]
    refine (Acks.pending_forget ..).trans ((if_neg ?_).trans hEntry)
    rintro rfl
    exact hBefore _ (exchange?_of_confirming hConfirming)
  | answered hPoll hConfirming hAnswered =>
    rw [acks_concluded]
    exact hEntry
  | ends hPoll hWatching hEmpty hSending => exact hEntry

theorem waiting_of_others (hReached : Reached g) (hMay : 0 < g.settings.retry.maxAttempts)
    (hActs : e.acts k = false) (hExchange : g.exchange? k = some (key, slot))
    (hWaiting : g.acks.slot slot = .waiting) (hSole : g.Sole k key)
    (hStill : (g.step e).Sole k key) (hOther : e.answerTo? key = none) :
    (g.step e).acks.slot slot = .waiting := by
  have hMatched := hReached.matched
  have hEntry := hMatched.held k key slot hExchange hWaiting
  cases happens hReached.sound hReached.alive e with
  | @acts _ j d r hAt hOwn hComes hYields =>
    have hApart : j ≠ k := by
      rintro rfl
      cases hActs.symm.trans hOwn
    rw [hYields.acks]
    refine hComes.waiting_of_sole hAt hMatched hMay hEntry (fun index hSame => ?_)
      fun index hSame => ?_
    · exact hApart (hSole j index ((exchange?_eq hAt).trans hSame))
    · exact hApart (hStill j index ((exchange?_eq (hYields.delivery hAt)).trans hSame))
  | @answers wall peer p kind hAnswer hStep =>
    rw [hStep]
    refine (hMatched.tidy.slot_resolve ..).trans ((if_neg fun hSame => ?_).trans hWaiting)
    rw [Event.answerTo?, if_pos (hMatched.tidy.own _ _ slot hSame hEntry)] at hOther
    cases hOther.symm.trans hAnswer
  | elapses millis => exact hWaiting
  | steady hSteady =>
    rw [hSteady.acks]
    exact hWaiting

theorem answered_of_answerTo? (hReached : Reached g)
    (hExchange : g.exchange? k = some (key, slot)) (hWaiting : g.acks.slot slot = .waiting)
    (hAnswer : e.answerTo? key = some kind) :
    (g.step e).acks.slot slot = .answered kind ∧ (g.step e).now = g.now := by
  have hEntry := hReached.matched.held k key slot hExchange hWaiting
  unfold Event.answerTo? at hAnswer
  split at hAnswer
  · rename_i wall peer p
    split at hAnswer
    · rename_i hKey
      rw [step_of_answer g wall peer hAnswer]
      exact ⟨(hReached.matched.tidy.slot_resolve ..).trans (if_pos (hKey ▸ hEntry)), rfl⟩
    · cases hAnswer
  · cases hAnswer

/-! ## Stages of an exchange -/

/-- The delivery `k` has asked its peer since `start`. The transmission `attempt` is out, and no
answer has come. -/
structure Waiting (g : Gateway) (k : Nat) (o : Observation) (messageId : UInt16) (start : Nat)
    (packet : Packet) (slot attempt : Nat) : Prop where
  delivery : ∃ d, g.deliveries[k]? = some d ∧ d.observation = o ∧
    d.phase = .confirming packet slot attempt (g.settings.retry.lapse start (attempt + 1))
  messageId_eq : packet.messageId = messageId
  waiting : g.acks.slot slot = .waiting
  in_time : g.now ≤ g.settings.retry.lapse start (attempt + 1)

/-- An answer has come that the delivery has not taken yet. -/
structure Heard (g : Gateway) (k : Nat) (o : Observation) (slot : Nat) (kind : AckKind)
    (d : Delivery) : Prop where
  delivery : g.deliveries[k]? = some d
  confirming : ∃ packet attempt due, d.phase = .confirming packet slot attempt due
  observation : d.observation = o
  answered : g.acks.slot slot = .answered kind

/-- The exchange is over and has left the observation in the state. -/
structure Returned (g : Gateway) (k : Nat) (o : Observation) (state : State) : Prop where
  done : g.exchange? k = none
  delivery : ∃ d, g.deliveries[k]? = some d ∧ d.observation = o ∧ d.state = state

/-- The observation is over: its delivery has expired and ended, its registration is removed
and no acknowledgement of what it asked is pending. -/
structure Reaped (g : Gateway) (k : Nat) (o : Observation) (messageId : UInt16) : Prop where
  delivery : ∃ d, g.deliveries[k]? = some d ∧ d.observation = o ∧ d.state = .expired ∧
    d.phase = .ended
  pair : g.pair? o.topic o.client = none
  entry : g.acks.pending.get? (o.peer, messageId) = none

/-- What an event can make of an exchange that waits. -/
inductive Continues (g : Gateway) (k : Nat) (o : Observation) (messageId : UInt16)
    (start : Nat) (packet : Packet) (slot attempt : Nat) (e : Event) : Prop
  | waits (hWaiting : (g.step e).Waiting k o messageId start packet slot attempt)
      (hSilent : g.utters k e = []) (hOther : e.answerTo? (o.peer, messageId) = none)
  | repeats (hMay : attempt + 1 < g.settings.retry.maxAttempts)
      (hWaiting : (g.step e).Waiting k o messageId start packet slot (attempt + 1))
      (hSent : g.utters k e = [(g.settings.retry.lapse start (attempt + 1), o.peer, packet)])
      (hOther : e.answerTo? (o.peer, messageId) = none)
      (hNow : (g.step e).now = g.settings.retry.lapse start (attempt + 1))
  | expires (hLast : attempt + 1 = g.settings.retry.maxAttempts)
      (hReaped : (g.step e).Reaped k o messageId) (hSilent : g.utters k e = [])
      (hOther : e.answerTo? (o.peer, messageId) = none)
      (hNow : (g.step e).now = g.settings.retry.lapse start (attempt + 1))
  | hears {kind : AckKind} {d : Delivery} (hHeard : (g.step e).Heard k o slot kind d)
      (hSilent : g.utters k e = []) (hAnswer : e.answerTo? (o.peer, messageId) = some kind)
      (hNow : (g.step e).now = g.now)

theorem Heard.exchange? (h : g.Heard k o slot kind d) : g.exchange? k ≠ none := by
  obtain ⟨packet, attempt, due, hConfirming⟩ := h.confirming
  rw [exchange?_eq h.delivery, exchange?_of_confirming hConfirming]
  nofun

theorem Heard.ready (h : g.Heard k o slot kind d) : d.isReady g = true := by
  obtain ⟨packet, attempt, due, hConfirming⟩ := h.confirming
  rw [← Bool.not_eq_false, not_ready_of_confirming hConfirming, h.answered]
  exact fun hWaiting => by cases hWaiting.1

theorem state_concluded (g : Gateway) (k : Nat) (d : Delivery) :
    (g.concluded k d).delivery.observation = d.observation ∧
      (g.concluded k d).delivery.state = d.state := by
  unfold concluded
  split
  · exact ⟨rfl, rfl⟩
  · exact ⟨rfl, rfl⟩

theorem exchange?_of_ended (hAt : g.deliveries[k]? = some d) (hEnded : d.phase = .ended) :
    g.exchange? k = none := by
  rw [exchange?_eq hAt, Delivery.exchange?, hEnded]

/-- An answer is taken at once, and nothing is sent after it. -/
theorem Heard.step (h : g.Heard k o slot kind d) (hReached : Reached g) (hPrompt : g.Prompt k e) :
    ((g.step e).Heard k o slot kind d ∨ (g.step e).Returned k o kind.result) ∧
      g.utters k e = [] ∧ (g.step e).now = g.now := by
  obtain ⟨packet, attempt, due, hConfirming⟩ := h.confirming
  cases hActs : e.acts k with
  | true =>
    obtain ⟨r, hComes, hYields⟩ := acted_step hReached.sound hReached.alive h.delivery hActs
    have hAfter := hYields.delivery h.delivery
    rw [utters_of_acts hActs hYields.sends]
    cases hComes.pursues hConfirming with
    | rests =>
      refine ⟨.inl ⟨hAfter, h.confirming, h.observation, ?_⟩, rfl, hYields.now⟩
      rw [hYields.acks]
      exact h.answered
    | answered hPoll hAnswered =>
      cases h.answered.symm.trans hAnswered
      obtain ⟨hState, -⟩ := (hReached.orderly k d h.delivery).confirming hConfirming
      rw [hState, AckKind.on_event] at hAfter
      obtain ⟨hSame, hResult⟩ := state_concluded (g.settling slot) k { d with state := kind.result }
      refine ⟨.inr ⟨?_, _, hAfter, hSame.trans h.observation, hResult⟩, ?_, hYields.now⟩
      · rw [exchange?_eq hAfter]
        exact exchange?_concluded ..
      · rw [packets_concluded]
        rfl
    | asks_again hPoll hNone hDue hMay => exact (hNone kind h.answered).elim
    | gives_up hPoll hNone hDue hLast => exact (hNone kind h.answered).elim
  | false =>
    have hAside := aside_step hReached.sound hReached.alive (hReached.sound.bound h.delivery) hActs
    have hExchange := exchange?_eq h.delivery
    rw [exchange?_of_confirming hConfirming] at hExchange
    refine ⟨.inl ⟨hAside.delivery.trans h.delivery, h.confirming, h.observation, ?_⟩,
      utters_of_others hActs, hPrompt.now_eq hReached.sound hReached.alive h.delivery h.ready⟩
    rcases slot_of_others hReached hActs hExchange with hSame | hWaiting
    · exact hSame.trans h.answered
    · cases h.answered.symm.trans hWaiting

/-- A delivery that gives up takes its registration along. -/
theorem reaped_of_gives_up {due : Nat} (hReached : Reached g) (hAt : g.deliveries[k]? = some d)
    (hConfirming : d.phase = .confirming packet slot attempt due)
    (hYields : Yields g (g.poll k) k d.observation.peer
      ((g.abandoning d.observation.peer packet.messageId slot).concluded k
        { d with state := (d.state.on .ackTimedOut).on .retriesExhausted })) :
    (g.poll k).Reaped k d.observation packet.messageId := by
  obtain ⟨hState, -, -⟩ := (hReached.orderly k d hAt).confirming hConfirming
  rw [hState, concluded_of_terminal rfl] at hYields
  have hAfter := hYields.delivery hAt
  obtain ⟨acks, state, hPoll⟩ := poll_of_ended hAt hConfirming ⟨_, hAfter, rfl⟩
  have hAcks : (g.poll k).acks = (g.acks.forget d.observation.peer packet.messageId).drop slot :=
    hYields.acks
  constructor
  · exact ⟨_, hAfter, rfl, rfl, rfl⟩
  · rw [hPoll]
    exact pair?_unsubscribe (hReached.sound.keep (keeps_acks g acks)) _ _
  · rw [hAcks]
    exact (Acks.pending_forget ..).trans (if_pos rfl)

theorem Reaped.returned (h : g.Reaped k o messageId) : g.Returned k o .expired := by
  obtain ⟨d, hAt, hSame, hState, hEnded⟩ := h.delivery
  exact ⟨exchange?_of_ended hAt hEnded, d, hAt, hSame, hState⟩

theorem Waiting.exchange? (h : g.Waiting k o messageId start packet slot attempt) :
    g.exchange? k = some ((o.peer, messageId), slot) := by
  obtain ⟨d, hAt, hSame, hConfirming⟩ := h.delivery
  rw [exchange?_eq hAt, exchange?_of_confirming hConfirming, hSame, h.messageId_eq]

theorem Waiting.lasts (h : g.Waiting k o messageId start packet slot attempt) :
    g.exchange? k ≠ none := by
  rw [h.exchange?]
  nofun

theorem Waiting.attempt_lt (h : g.Waiting k o messageId start packet slot attempt)
    (hReached : Reached g) : attempt < g.settings.retry.maxAttempts := by
  obtain ⟨d, hAt, -, hConfirming⟩ := h.delivery
  exact ((hReached.orderly k d hAt).confirming hConfirming).2.1

theorem Waiting.now_le (h : g.Waiting k o messageId start packet slot attempt) {i : Nat}
    (hAfter : attempt < i) : g.now ≤ g.settings.retry.lapse start i :=
  Nat.le_trans h.in_time (RetryPolicy.lapse_mono _ start hAfter)

theorem Waiting.now_lt (h : g.Waiting k o messageId start packet slot attempt)
    (hRests : g.Rests k) {i : Nat} (hAfter : attempt < i) :
    g.now < g.settings.retry.lapse start i := by
  obtain ⟨d, hAt, -, hConfirming⟩ := h.delivery
  obtain ⟨-, hEarly⟩ := (not_ready_of_confirming hConfirming).mp (hRests d hAt)
  exact Nat.lt_of_lt_of_le hEarly (RetryPolicy.lapse_mono _ start hAfter)

/-- The exchange has begun, and waits in a slot of its own. -/
theorem Asks.waiting (h : g.Asks k d e) (hReached : Reached g)
    (hMay : 0 < g.settings.retry.maxAttempts) :
    (g.step e).Waiting k d.observation g.nextId g.now (g.notification d .confirmable []).1
        g.acks.slots.length 0 ∧
      g.said e = [(d.observation.peer, (g.notification d .confirmable []).1)] := by
  obtain ⟨r, hComes, hYields⟩ := acted_step hReached.sound hReached.alive h.delivery h.acts
  cases hComes.of_asks h hMay
  refine ⟨⟨⟨_, hYields.delivery h.delivery, rfl, ?_⟩, rfl, ?_, ?_⟩, said_eq hYields.sends⟩
  · rw [hYields.settings]
    rfl
  · rw [hYields.acks]
    exact (hReached.matched.tidy.slot_register ..).trans (if_pos rfl)
  · rw [hYields.settings, hYields.now]
    exact RetryPolicy.lapse_mono _ g.now (Nat.zero_le _)

theorem Waiting.keep {g' : Gateway} (h : g.Waiting k o messageId start packet slot attempt)
    (hDelivery : g'.deliveries[k]? = g.deliveries[k]?) (hSettings : g'.settings = g.settings)
    (hNow : g'.now = g.now) (hSlot : g'.acks.slot slot = .waiting) :
    g'.Waiting k o messageId start packet slot attempt where
  delivery := by
    rw [hDelivery, hSettings]
    exact h.delivery
  messageId_eq := h.messageId_eq
  waiting := hSlot
  in_time := by
    rw [hSettings, hNow]
    exact h.in_time

/-- The delivery's own actions: it transmits when the wait is over, and not before. -/
theorem Waiting.acts (h : g.Waiting k o messageId start packet slot attempt)
    (hReached : Reached g) (hActs : e.acts k = true) :
    g.Continues k o messageId start packet slot attempt e := by
  obtain ⟨d, hAt, hSame, hConfirming⟩ := h.delivery
  obtain ⟨r, hComes, hYields⟩ := acted_step hReached.sound hReached.alive hAt hActs
  have hOther := answerTo?_of_acts hActs (o.peer, messageId)
  have hUtters := utters_of_acts hActs hYields.sends
  have hAfter := hYields.delivery hAt
  cases hComes.pursues hConfirming with
  | rests =>
    refine .waits (h.keep (hAfter.trans hAt.symm) hYields.settings hYields.now ?_) hUtters hOther
    rw [hYields.acks]
    exact h.waiting
  | asks_again hPoll hNone hDue hMay =>
    -- The clock has come to the timer and not past it, so the next wait begins there.
    have hNow := Nat.le_antisymm h.in_time (hDue h.waiting)
    refine .repeats hMay ⟨⟨_, hAfter, hSame, ?_⟩, h.messageId_eq, ?_, ?_⟩ ?_ hOther
      (hYields.now.trans hNow)
    · rw [hYields.settings, RetryPolicy.lapse, ← hNow]
      rfl
    · rw [hYields.acks]
      exact h.waiting
    · rw [hYields.settings, hYields.now]
      exact h.now_le (Nat.lt_add_right 1 (Nat.lt_succ_self attempt))
    · rw [hUtters, ← hNow, ← hSame]
      rfl
  | gives_up hPoll hNone hDue hLast =>
    subst hPoll
    have hNow := Nat.le_antisymm h.in_time (hDue h.waiting)
    refine .expires (Nat.le_antisymm (h.attempt_lt hReached) hLast)
      (h.messageId_eq ▸ hSame ▸ reaped_of_gives_up hReached hAt hConfirming hYields) ?_ hOther
      (hYields.now.trans hNow)
    rw [hUtters, packets_concluded]
    rfl
  | answered hPoll hAnswered => cases h.waiting.symm.trans hAnswered

theorem Waiting.elapse (h : g.Waiting k o messageId start packet slot attempt) {millis : Nat}
    (hPrompt : g.Prompt k (.elapse millis)) :
    (g.step (.elapse millis)).Waiting k o messageId start packet slot attempt := by
  obtain ⟨d, hAt, hSame, hConfirming⟩ := h.delivery
  obtain ⟨-, hBound⟩ := hPrompt millis d rfl hAt
  have hDue : d.due? = some (g.settings.retry.lapse start (attempt + 1)) := by
    rw [Delivery.due?, hConfirming]
  exact ⟨h.delivery, h.messageId_eq, h.waiting, hBound _ hDue⟩

/-- What others do: an answer is heard, and nothing else disturbs the exchange. -/
theorem Waiting.others (h : g.Waiting k o messageId start packet slot attempt)
    (hReached : Reached g) (hActs : e.acts k = false) (hPrompt : g.Prompt k e)
    (hSole : g.Sole k (o.peer, messageId)) (hStill : (g.step e).Sole k (o.peer, messageId)) :
    g.Continues k o messageId start packet slot attempt e := by
  have hExchange := h.exchange?
  obtain ⟨d, hAt, hSame, hConfirming⟩ := h.delivery
  have hAside := aside_step hReached.sound hReached.alive (hReached.sound.bound hAt) hActs
  have hUtters := utters_of_others (g := g) hActs
  cases hAnswer : e.answerTo? (o.peer, messageId) with
  | some kind =>
    obtain ⟨hAnswered, hNow⟩ := answered_of_answerTo? hReached hExchange h.waiting hAnswer
    exact .hears ⟨hAside.delivery.trans hAt, ⟨_, _, _, hConfirming⟩, hSame, hAnswered⟩ hUtters
      hAnswer hNow
  | none =>
    have hMay := Nat.zero_lt_of_lt (h.attempt_lt hReached)
    have hSlot := waiting_of_others hReached hMay hActs hExchange h.waiting hSole hStill hAnswer
    refine .waits ?_ hUtters hAnswer
    by_cases hElapse : ∃ millis, e = .elapse millis
    · obtain ⟨millis, rfl⟩ := hElapse
      exact h.elapse hPrompt
    · exact h.keep hAside.delivery (settings_step hReached.sound hReached.alive e)
        (now_step hReached.sound hReached.alive fun millis hSame => hElapse ⟨millis, hSame⟩) hSlot

theorem Waiting.step (h : g.Waiting k o messageId start packet slot attempt)
    (hReached : Reached g) (hPrompt : g.Prompt k e) (hSole : g.Sole k (o.peer, messageId))
    (hStill : (g.step e).Sole k (o.peer, messageId)) :
    g.Continues k o messageId start packet slot attempt e := by
  cases hActs : e.acts k with
  | true => exact h.acts hReached hActs
  | false => exact h.others hReached hActs hPrompt hSole hStill

end Gateway

end DeviceBus
