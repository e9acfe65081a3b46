import DeviceBus.Proofs.Gateway.Outcomes

/-! # Phases of a delivery

The state of an observation goes with the phase of its delivery: it is open while the feed is
watched, awaits an acknowledgement while the peer is asked, and is terminal when the delivery
has ended. A delivery takes messages from its feed until it has ended, and expires only if
the peer could be asked at all.
-/

namespace DeviceBus

namespace Observe

/-- What becomes of a state in which the feed is watched. -/
theorem State.on_of_open {state : State} (hOpen : state = .idle ∨ state = .delivered) :
    state.on .nonConfirmableSent = .delivered ∧ state.on .confirmableSent = .awaitingAck ∧
      state.on .retriesExhausted = state ∧ state.on .cancel = .cancelled ∧
      state.isTerminal = false := by
  rcases hOpen with rfl | rfl
  · decide
  · decide

end Observe

namespace Gateway

open Coap Observe

variable {g : Gateway} {k : Nat} {d : Delivery} {e : Event} {r : Outcome}

/-! ## One delivery over one event -/

/-- How a delivery that is there after an event has come about. -/
inductive Follows (g : Gateway) (e : Event) (k : Nat) : Delivery → Prop
  | acts {d : Delivery} {r : Outcome} (hAt : g.deliveries[k]? = some d)
      (hActs : e.acts k = true) (hComes : Comes g k d e r)
      (hYields : Yields g (g.step e) k d.observation.peer r) : Follows g e k r.delivery
  | stays {d : Delivery} (hAt : g.deliveries[k]? = some d)
      (hAside : Aside g (g.step e) k (g.brings k e)) : Follows g e k d
  | begins {observation : Observation} {sequence : Sequence}
      (hNew : k = g.deliveries.length) (hFeed : (g.step e).feed k = {}) :
      Follows g e k {
        observation, sequence, feed := g.feeds.length
        phase := .watching (g.settings.keepAlive.due g.now) }

theorem Yields.delivery {g' : Gateway} {peer : Peer} (h : Yields g g' k peer r)
    (hAt : g.deliveries[k]? = some d) : g'.deliveries[k]? = some r.delivery := by
  rw [h.deliveries, List.getElem?_set_self (List.getElem?_eq_some_iff.mp hAt).1]

/-- A delivery that was not there has begun with this event. -/
theorem begun_of_absent (hSound : g.Sound) (hAlive : g.Alive)
    (hAbsent : g.deliveries[k]? = none) (hAt : (g.step e).deliveries[k]? = some d) :
    Follows g e k d := by
  have hLate := List.getElem?_eq_none_iff.mp hAbsent
  have hMore : (g.step e).deliveries.length ≠ g.deliveries.length := by
    intro hSame
    rw [List.getElem?_eq_none (hSame ▸ hLate)] at hAt
    cases hAt
  cases happens hSound hAlive e with
  | acts hBefore hActs hComes hYields =>
    exact (hMore (by rw [hYields.deliveries, List.length_set])).elim
  | answers hAnswer hStep => exact (hMore (by rw [hStep]; rfl)).elim
  | elapses millis => exact (hMore rfl).elim
  | steady hSteady =>
    rcases hSteady.deliveries with hKept | ⟨observation, sequence, hBegun, hFeed⟩
    · exact (hMore (by rw [hKept])).elim
    · rw [hBegun] at hAt
      rcases Positions.getElem?_concat_iff.mp hAt with hOld | ⟨rfl, rfl⟩
      · cases hAbsent.symm.trans hOld
      · exact .begins rfl (hSound.feeds ▸ hFeed)

theorem follows (hSound : g.Sound) (hAlive : g.Alive)
    (hAt : (g.step e).deliveries[k]? = some d) : Follows g e k d := by
  cases hBefore : g.deliveries[k]? with
  | none => exact begun_of_absent hSound hAlive hBefore hAt
  | some d' =>
    cases hActs : e.acts k with
    | true =>
      obtain ⟨r, hComes, hYields⟩ := acted_step hSound hAlive hBefore hActs
      cases (hYields.delivery hBefore).symm.trans hAt
      exact .acts hBefore hActs hComes hYields
    | false =>
      have hAside := aside_step hSound hAlive (hSound.bound hBefore) hActs
      cases (hAside.delivery.trans hBefore).symm.trans hAt
      exact .stays hBefore hAside

/-! ## State and phase -/

/-- The state goes with the phase, where the peer is asked `most` times. -/
def Delivery.Orderly (d : Delivery) (most : Nat) : Prop :=
  match d.phase with
  | .watching _ => d.state = .idle ∨ d.state = .delivered
  | .confirming packet _ attempt _ => d.state = .awaitingAck ∧ attempt < most ∧ Probe packet ∧
      packet.token = d.observation.token
  | .ended => d.state = .cancelled ∨ d.state = .expired ∧ 0 < most

/-- The delivery is in order and takes messages until it has ended. -/
structure Minds (g : Gateway) (k : Nat) (d : Delivery) : Prop where
  orderly : d.Orderly g.settings.retry.maxAttempts
  receiving : (g.feed k).receiving = true ↔ d.phase ≠ .ended

theorem concluded_of_terminal (hTerminal : d.state.isTerminal = true) :
    g.concluded k d = { g.becoming k { d with phase := .ended } with feed := .over } :=
  if_pos hTerminal

theorem concluded_of_open (hOpen : d.state.isTerminal = false) : g.concluded k d =
    g.becoming k { d with phase := .watching (g.settings.keepAlive.due g.now) } :=
  if_neg (Bool.eq_false_iff.mp hOpen)

section

variable {due : Nat} {packet : Packet} {slot attempt : Nat}

theorem Minds.watching (h : g.Minds k d) (hWatching : d.phase = .watching due) :
    d.state = .idle ∨ d.state = .delivered := by
  have hOrderly := h.orderly
  rwa [Delivery.Orderly, hWatching] at hOrderly

theorem Minds.confirming (h : g.Minds k d)
    (hConfirming : d.phase = .confirming packet slot attempt due) :
    d.state = .awaitingAck ∧ attempt < g.settings.retry.maxAttempts ∧ Probe packet ∧
      packet.token = d.observation.token := by
  have hOrderly := h.orderly
  rwa [Delivery.Orderly, hConfirming] at hOrderly

end

theorem Comes.minds (h : Comes g k d e r) (hMinds : g.Minds k d) :
    r.delivery.Orderly g.settings.retry.maxAttempts ∧
      (r.feed.receiving = true ↔ r.delivery.phase ≠ .ended) := by
  cases h with
  | rests hPoll hAlarm => exact ⟨hMinds.orderly, hMinds.receiving⟩
  | notifies hPoll hWatching hReceiving hQueue =>
    obtain ⟨hDelivered, -⟩ := State.on_of_open (hMinds.watching hWatching)
    exact ⟨.inr hDelivered, iff_of_true hReceiving nofun⟩
  | asks hWatching hDue hSilent hMay =>
    obtain ⟨-, hAwaits, -⟩ := State.on_of_open (hMinds.watching hWatching)
    have hReceiving := hMinds.receiving.mpr (by simp [hWatching])
    exact ⟨⟨hAwaits, hMay, ⟨rfl, rfl⟩, rfl⟩, iff_of_true hReceiving nofun⟩
  | skips hWatching hDue hSilent hNever =>
    obtain ⟨-, -, hSame, -, hOpen⟩ := State.on_of_open (hMinds.watching hWatching)
    have hReceiving := hMinds.receiving.mpr (by simp [hWatching])
    rw [hSame, concluded_of_open (by exact hOpen)]
    exact ⟨hMinds.watching hWatching, iff_of_true hReceiving nofun⟩
  | asks_again hPoll hConfirming hNone hDue hMay =>
    obtain ⟨hState, -, hProbe, hToken⟩ := hMinds.confirming hConfirming
    have hReceiving := hMinds.receiving.mpr (by simp [hConfirming])
    rw [hState]
    exact ⟨⟨rfl, hMay, hProbe, hToken⟩, iff_of_true hReceiving nofun⟩
  | gives_up hPoll hConfirming hNone hDue hLast =>
    obtain ⟨hState, hBound, -⟩ := hMinds.confirming hConfirming
    rw [hState, concluded_of_terminal rfl]
    exact ⟨.inr ⟨rfl, Nat.zero_lt_of_lt hBound⟩, iff_of_false nofun fun hOpen => hOpen rfl⟩
  | @answered packet slot attempt due kind hPoll hConfirming hAnswered =>
    obtain ⟨hState, -, -⟩ := hMinds.confirming hConfirming
    have hReceiving := hMinds.receiving.mpr (by simp [hConfirming])
    rw [hState]
    cases kind with
    | ack =>
      rw [concluded_of_open rfl]
      exact ⟨.inr rfl, iff_of_true hReceiving nofun⟩
    | reset =>
      rw [concluded_of_terminal rfl]
      exact ⟨.inl rfl, iff_of_false nofun fun hOpen => hOpen rfl⟩
  | ends hPoll hWatching hEmpty hSending =>
    obtain ⟨-, -, -, hCancelled, -⟩ := State.on_of_open (hMinds.watching hWatching)
    exact ⟨.inl hCancelled, iff_of_false nofun fun hOpen => hOpen rfl⟩

/-! ## All deliveries -/

def Orderly (g : Gateway) : Prop :=
  ∀ k d, g.deliveries[k]? = some d → g.Minds k d

theorem settings_step (hSound : g.Sound) (hAlive : g.Alive) (e : Event) :
    (g.step e).settings = g.settings := by
  cases happens hSound hAlive e with
  | acts hAt hActs hComes hYields => exact hYields.settings
  | answers hAnswer hStep => rw [hStep]; rfl
  | elapses millis => rfl
  | steady hSteady => exact hSteady.settings

theorem orderly_step (hSound : g.Sound) (hAlive : g.Alive) (h : g.Orderly) (e : Event) :
    (g.step e).Orderly := by
  intro k d hAt
  have hSettings := settings_step hSound hAlive e
  cases follows hSound hAlive hAt with
  | acts hBefore hActs hComes hYields =>
    obtain ⟨hOrderly, hReceiving⟩ := hComes.minds (h k _ hBefore)
    exact ⟨hSettings ▸ hOrderly, hYields.feed ▸ hReceiving⟩
  | stays hBefore hAside =>
    have hMinds := h k d hBefore
    exact ⟨hSettings ▸ hMinds.orderly, hAside.receiving ▸ hMinds.receiving⟩
  | begins hNew hFeed =>
    refine ⟨.inl rfl, iff_of_true ?_ (by simp)⟩
    rw [hFeed]

theorem orderly_opened (group : Option String) (authorizer : Authorizer) (settings : Settings)
    (firstId : UInt16) : (opened group authorizer settings firstId).Orderly :=
  fun k d hAt => by cases hAt

theorem Reached.orderly (h : Reached g) : g.Orderly :=
  h.keeps (fun _ => orderly_step) orderly_opened

end Gateway

end DeviceBus
