import DeviceBus.Proofs.Gateway.Attempts

/-! # When a peer is asked

A question goes out as one and the same packet, again and again, until the peer answers or the
last wait is over. The times of the transmissions are known beforehand: each wait doubles the
one before, up to the seventeenth, and no transmission is early, late or left out while the
exchange lasts. The first answer ends the exchange, and the delivery goes on or ends by its
kind; without an answer it expires when the last wait is over, not before. Whether the
transport gets a packet through plays no part: what counts is that an answer comes.
-/

namespace DeviceBus.Gateway

open Coap Observe

variable {g : Gateway} {k : Nat} {d : Delivery} {e : Event} {o : Observation}
  {messageId : UInt16} {start slot attempt : Nat} {packet : Packet} {kind : AckKind}
  {key : Peer × UInt16} {events : List Event}

/-! ## A whole run -/

/-- How an exchange ends at the time `now`, where the last wait is over at `last` and `answer`
is the first answer of the peer. An answer at that very instant counts if it is there before
the delivery acts. -/
inductive Returns (last : Nat) (answer : Option (Nat × AckKind)) (now : Nat) : State → Prop
  | answered {kind : AckKind} (hAnswer : answer = some (now, kind)) (hInTime : now ≤ last) :
      Returns last answer now kind.result
  | expired (hNow : now = last) (hLate : ∀ t kind, answer = some (t, kind) → last ≤ t) :
      Returns last answer now .expired

/-- What becomes of an exchange along a run, after its transmission `attempt`. -/
structure OnTime (g : Gateway) (k : Nat) (o : Observation) (messageId : UInt16) (start : Nat)
    (packet : Packet) (attempt : Nat) (events : List Event) : Prop where
  sent : g.sendings k (g.during k events) =
    g.settings.retry.dueAfter start attempt (g.closing k events).now (o.peer, packet)
  lasting : (g.closing k events).exchange? k ≠ none →
    g.firstAnswer? (o.peer, messageId) events = none ∧
      (g.closing k events).now < g.settings.retry.lapse start g.settings.retry.maxAttempts
  done : (g.closing k events).exchange? k = none → ∃ d,
    (g.closing k events).deliveries[k]? = some d ∧ d.observation = o ∧
      Returns (g.settings.retry.lapse start g.settings.retry.maxAttempts)
        (g.firstAnswer? (o.peer, messageId) events) (g.closing k events).now d.state

theorem closing_cons (hSome : g.exchange? k ≠ none) (e : Event) (rest : List Event) :
    g.closing k (e :: rest) = (g.step e).closing k rest := by
  rw [closing, during_cons hSome]
  rfl

theorem closing_of_none (hNone : g.exchange? k = none) (events : List Event) :
    g.closing k events = g := by
  rw [closing, during_of_none hNone]
  rfl

theorem firstAnswer?_of_other (hOther : e.answerTo? key = none) (rest : List Event) :
    g.firstAnswer? key (e :: rest) = (g.step e).firstAnswer? key rest := by
  rw [firstAnswer?, hOther]

theorem firstAnswer?_of_answer (hAnswer : e.answerTo? key = some kind) (rest : List Event) :
    g.firstAnswer? key (e :: rest) = some (g.now, kind) := by
  rw [firstAnswer?, hAnswer]

theorem Heard.run (h : g.Heard k o slot kind d) (hReached : Reached g)
    (hPunctual : g.Punctual k (g.during k events))
    (hRests : (g.closing k events).exchange? k ≠ none → (g.closing k events).Rests k) :
    (g.closing k events).Returned k o kind.result ∧ g.sendings k (g.during k events) = [] ∧
      (g.closing k events).now = g.now := by
  induction events generalizing g with
  | nil => cases (hRests h.exchange? d h.delivery).symm.trans h.ready
  | cons e rest ih =>
    rw [closing_cons h.exchange?] at hRests ⊢
    rw [during_cons h.exchange?] at hPunctual ⊢
    obtain ⟨hStage, hSilent, hNow⟩ := h.step hReached hPunctual.1
    rw [sendings, hSilent, List.nil_append]
    rcases hStage with hStill | hReturned
    · obtain ⟨hReturned, hNothing, hLast⟩ := ih hStill hReached.step hPunctual.2 hRests
      exact ⟨hReturned, hNothing, hLast.trans hNow⟩
    · rw [closing_of_none hReturned.done, during_of_none hReturned.done]
      exact ⟨hReturned, rfl, hNow⟩

theorem Waiting.onTime_nil (h : g.Waiting k o messageId start packet slot attempt)
    (hReached : Reached g) (hRests : g.Rests k) :
    g.OnTime k o messageId start packet attempt [] where
  sent := (RetryPolicy.dueAfter_eq_nil (fun _ hAfter _ => h.now_lt hRests hAfter) _).symm
  lasting _ := ⟨rfl, h.now_lt hRests (h.attempt_lt hReached)⟩
  done hNone := (h.lasts hNone).elim

/-- The exchange goes on after an event that is no answer. -/
theorem OnTime.cons {next : Nat} {rest : List Event}
    (h : (g.step e).OnTime k o messageId start packet next rest) (hSome : g.exchange? k ≠ none)
    (hSettings : (g.step e).settings = g.settings)
    (hOther : e.answerTo? (o.peer, messageId) = none)
    (hSent : g.utters k e ++ g.settings.retry.dueAfter start next
      ((g.step e).closing k rest).now (o.peer, packet) = g.settings.retry.dueAfter start attempt
        ((g.step e).closing k rest).now (o.peer, packet)) :
    g.OnTime k o messageId start packet attempt (e :: rest) := by
  obtain ⟨hRest, hLasting, hDone⟩ := h
  rw [hSettings] at hRest hLasting hDone
  constructor
  · rw [closing_cons hSome, during_cons hSome, sendings, hRest, hSent]
  · rwa [closing_cons hSome, firstAnswer?_of_other hOther]
  · rwa [closing_cons hSome, firstAnswer?_of_other hOther]

/-- The exchange is over with this event. -/
theorem onTime_of_returned {state : State} {rest : List Event} (hSome : g.exchange? k ≠ none)
    (hReturned : ((g.step e).closing k rest).Returned k o state)
    (hSent : g.utters k e ++ (g.step e).sendings k ((g.step e).during k rest) =
      g.settings.retry.dueAfter start attempt ((g.step e).closing k rest).now (o.peer, packet))
    (hReturns : Returns (g.settings.retry.lapse start g.settings.retry.maxAttempts)
      (g.firstAnswer? (o.peer, messageId) (e :: rest)) ((g.step e).closing k rest).now state) :
    g.OnTime k o messageId start packet attempt (e :: rest) := by
  obtain ⟨hDone, d, hAt, hSame, rfl⟩ := hReturned
  constructor
  · rw [closing_cons hSome, during_cons hSome, sendings, hSent]
  · rw [closing_cons hSome]
    exact fun hLasts => (hLasts hDone).elim
  · rw [closing_cons hSome]
    exact fun _ => ⟨d, hAt, hSame, hReturns⟩

theorem Waiting.run (h : g.Waiting k o messageId start packet slot attempt)
    (hReached : Reached g) (hPunctual : g.Punctual k (g.during k events))
    (hAlone : g.Alone k (o.peer, messageId) (g.during k events))
    (hApart : ∀ t kind, g.firstAnswer? (o.peer, messageId) events = some (t, kind) →
      ∀ i, 0 < i → i < g.settings.retry.maxAttempts → t ≠ g.settings.retry.lapse start i)
    (hRests : (g.closing k events).exchange? k ≠ none → (g.closing k events).Rests k) :
    g.OnTime k o messageId start packet attempt events := by
  induction events generalizing g attempt with
  | nil => exact h.onTime_nil hReached (hRests h.lasts)
  | cons e rest ih =>
    have hSome := h.lasts
    rw [closing_cons hSome] at hRests
    rw [during_cons hSome] at hPunctual hAlone
    have hSettings := settings_step hReached.sound hReached.alive e
    cases h.step hReached hPunctual.1 hAlone.1 hAlone.2.sole with
    | waits hWaiting hSilent hOther =>
      rw [firstAnswer?_of_other hOther, ← hSettings] at hApart
      have hRest := ih hWaiting hReached.step hPunctual.2 hAlone.2 hApart hRests
      exact hRest.cons hSome hSettings hOther (by rw [hSilent, List.nil_append])
    | repeats hMay hWaiting hSent hOther hNow =>
      rw [firstAnswer?_of_other hOther, ← hSettings] at hApart
      have hRest := ih hWaiting hReached.step hPunctual.2 hAlone.2 hApart hRests
      have hDue : g.settings.retry.lapse start (attempt + 1) ≤ ((g.step e).closing k rest).now :=
        hNow ▸ now_le_run hReached.step.sound hReached.step.alive _
      refine hRest.cons hSome hSettings hOther ?_
      rw [hSent, RetryPolicy.dueAfter_eq_cons hMay hDue]
      rfl
    | expires hLast hReaped hSilent hOther hNow =>
      have hReturned := hReaped.returned
      have hClosing := closing_of_none hReturned.done rest
      refine onTime_of_returned hSome (hClosing.symm ▸ hReturned) ?_ ?_
      · rw [hSilent, during_of_none hReturned.done,
          RetryPolicy.dueAfter_eq_nil fun i hAfter hBound => absurd hBound (by omega)]
        rfl
      · rw [hClosing, firstAnswer?_of_other hOther, hNow, hLast]
        refine .expired rfl fun t kind hAnswer => ?_
        rw [← hLast, ← hNow]
        exact now_le_firstAnswer? hReached.step.sound hReached.step.alive hAnswer
    | @hears kind d hHeard hSilent hAnswer hNow =>
      obtain ⟨hReturned, hNothing, hStill⟩ := hHeard.run hReached.step hPunctual.2 hRests
      rw [firstAnswer?_of_answer hAnswer] at hApart
      refine onTime_of_returned hSome hReturned ?_ ?_
      · -- The next transmission is not due yet, as the answer is not at its instant.
        rw [hSilent, hNothing, hStill, hNow, RetryPolicy.dueAfter_eq_nil]
        · rfl
        · exact fun i hAfter hBound => Nat.lt_of_le_of_ne (h.now_le hAfter)
            (hApart g.now kind rfl i (Nat.zero_lt_of_lt hAfter) hBound)
      · rw [firstAnswer?_of_answer hAnswer, hStill, hNow]
        exact .answered rfl (h.now_le (h.attempt_lt hReached))

/-! ## The question of a delivery -/

/-- The packet by which a delivery asks its peer. -/
def question (g : Gateway) (d : Delivery) : Packet where
  kind := .confirmable
  code := Code.content
  messageId := g.nextId
  token := d.observation.token
  options := [⟨Opt.observeNumber, encodeUint (d.sequence.next g.now).1⟩]
  payload := []

/-- When the transmission `i` of a question goes out that begins now. -/
def moment (g : Gateway) (i : Nat) : Nat :=
  g.settings.retry.lapse g.now i

/-- The event `e` makes the delivery ask its peer, and the exchange keeps to the schedule. -/
structure OnSchedule (g : Gateway) (k : Nat) (d : Delivery) (e : Event) (events : List Event) :
    Prop where
  /-- Transmissions are as far from the first as the waits before them take. -/
  moments : ∀ i ≤ g.settings.retry.maxAttempts, g.moment i * Duration.nanosPerMilli =
    g.now * Duration.nanosPerMilli + g.settings.retry.offset i
  /-- One packet goes out, each time at its moment, until the exchange is over. -/
  sent : g.sendings k (e :: (g.step e).during k events) =
    ((List.range g.settings.retry.maxAttempts).filter fun i =>
      g.moment i ≤ ((g.step e).closing k events).now).map fun i =>
        (g.moment i, d.observation.peer, g.question d)
  /-- As long as there is no answer the exchange lasts, but not longer than its waits. -/
  lasting : ((g.step e).closing k events).exchange? k ≠ none →
    (g.step e).firstAnswer? (d.observation.peer, g.nextId) events = none ∧
      ((g.step e).closing k events).now < g.moment g.settings.retry.maxAttempts
  returns : ((g.step e).closing k events).exchange? k = none → ∃ d',
    ((g.step e).closing k events).deliveries[k]? = some d' ∧ d'.observation = d.observation ∧
      Returns (g.moment g.settings.retry.maxAttempts)
        ((g.step e).firstAnswer? (d.observation.peer, g.nextId) events)
        ((g.step e).closing k events).now d'.state
  cleared : ((g.step e).closing k events).exchange? k = none →
    ((g.step e).closing k events).acks.pending.get? (d.observation.peer, g.nextId) = none

theorem notification_confirmable (g : Gateway) (d : Delivery) :
    (g.notification d .confirmable []).1 = g.question d :=
  rfl

theorem Sole.pending (h : g.Sole k key) (hMatched : g.Matched) (hNone : g.exchange? k = none) :
    g.acks.pending.get? key = none := by
  cases hEntry : g.acks.pending.get? key with
  | none => rfl
  | some slot =>
    obtain ⟨j, hOwner⟩ := hMatched.owned key slot hEntry
    cases h j slot hOwner
    cases hNone.symm.trans hOwner

/-- A delivery whose timer has run out asks its peer, where no other exchange has the same peer
and message ID, time does not pass over what the delivery can do, and the first answer, if there
is one, does not come at the instant of a repetition. It sends one packet, at the moments that
its policy sets and no longer than it has no answer; the answer decides how it goes on, and it
expires exactly when none has come within the sum of all waits. No entry is left behind. -/
theorem asks_on_schedule (hReached : Reached g) (hAsks : g.Asks k d e)
    (hMay : 0 < g.settings.retry.maxAttempts) (hWhole : g.settings.retry.Whole)
    (hReach : g.settings.retry.InReach g.now)
    (hPunctual : (g.step e).Punctual k ((g.step e).during k events))
    (hAlone : (g.step e).Alone k (d.observation.peer, g.nextId) ((g.step e).during k events))
    (hApart : ∀ t kind,
      (g.step e).firstAnswer? (d.observation.peer, g.nextId) events = some (t, kind) →
        ∀ i, 0 < i → i < g.settings.retry.maxAttempts → t ≠ g.moment i)
    (hRests : ((g.step e).closing k events).exchange? k ≠ none →
      ((g.step e).closing k events).Rests k) : g.OnSchedule k d e events := by
  obtain ⟨hWaiting, hSaid⟩ := hAsks.waiting hReached hMay
  have hSettings := settings_step hReached.sound hReached.alive e
  obtain ⟨hSent, hLasting, hDone⟩ := hWaiting.run hReached.step hPunctual hAlone
    (hSettings ▸ hApart) hRests
  rw [hSettings] at hSent hLasting hDone
  have hClock : g.now ≤ ((g.step e).closing k events).now :=
    Nat.le_trans (now_le_step hReached.sound hReached.alive e)
      (now_le_run hReached.step.sound hReached.step.alive _)
  constructor
  · exact fun i hLe => hWhole.lapse_eq hReach hLe
  · rw [sendings, utters, if_pos hAsks.acts, hSaid, hSent, notification_confirmable]
    exact RetryPolicy.cons_dueAfter hMay hClock _
  · exact hLasting
  · exact hDone
  · exact hAlone.sole_run.pending (hReached.step.run _).matched

/-- The peer acknowledges the second transmission. -/
def acknowledging : List Event :=
  [.elapse 500, .poll 0, .elapse 300, .packet 0 "peer" (Packet.emptyAck (overdue 3).nextId),
    .poll 0]

theorem lengths_acknowledging : (List.range 6).map (fun n =>
    (((overdue 3).step (.poll 0)).run (acknowledging.take n)).deliveries.length) =
      [1, 1, 1, 1, 1, 1] := by cbv

theorem alone_acknowledging (key : Peer × UInt16) :
    ((overdue 3).step (.poll 0)).Alone 0 key acknowledging := by
  refine alone_of_single (fun n hLe => ?_) key
  have hMember : (((overdue 3).step (.poll 0)).run (acknowledging.take n)).deliveries.length ∈
      [1, 1, 1, 1, 1, 1] :=
    lengths_acknowledging ▸ List.mem_map_of_mem (List.mem_range.mpr (Nat.lt_succ_of_le hLe))
  simpa using hMember

theorem punctual_acknowledging : ((overdue 3).step (.poll 0)).Punctual 0 acknowledging :=
  ⟨prompt_elapse 1500 (by cbv) (by cbv), prompt_of_other (by simp),
    prompt_elapse 2500 (by cbv) (by cbv), prompt_of_other (by simp), prompt_of_other (by simp),
    trivial⟩

theorem values_acknowledging :
    ((overdue 3).settings.retry, (overdue 3).now, (overdue 3).moment 1, (overdue 3).moment 2) =
      ({ maxAttempts := 3, baseDelay := Duration.ofMillis 500 }, 1000, 1500, 2500) := by cbv

theorem during_acknowledging :
    (((overdue 3).step (.poll 0)).during 0 acknowledging,
      ((overdue 3).step (.poll 0)).firstAnswer? ("peer", (overdue 3).nextId) acknowledging,
      (((overdue 3).step (.poll 0)).run acknowledging).exchange? 0) =
        (acknowledging, some (1800, .ack), none) := by cbv

theorem asks_on_schedule_acknowledged : Reached (overdue 3) ∧
    (overdue 3).Asks 0 overdueDelivery (.poll 0) ∧
    ((overdue 3).step (.poll 0)).firstAnswer? ("peer", (overdue 3).nextId) acknowledging =
      some (1800, .ack) ∧
    (overdue 3).OnSchedule 0 overdueDelivery (.poll 0) acknowledging := by
  have hReached : Reached (overdue 3) := ⟨_, _, _, _, _, rfl⟩
  have hAsks : (overdue 3).Asks 0 overdueDelivery (.poll 0) := asks_overdue (by cbv)
  have hValues := values_acknowledging
  have hEvents := during_acknowledging
  simp only [Prod.mk.injEq] at hValues hEvents
  obtain ⟨hRetry, hNow, hFirst, hSecond⟩ := hValues
  obtain ⟨hDuring, hAnswer, hOver⟩ := hEvents
  have hReach : (overdue 3).settings.retry.InReach (overdue 3).now := by
    rw [hRetry, hNow]
    unfold RetryPolicy.InReach
    decide
  refine ⟨hReached, hAsks, hAnswer, ?_⟩
  refine asks_on_schedule hReached hAsks (by rw [hRetry]; decide) ⟨500, by rw [hRetry]⟩ hReach
    (hDuring.symm ▸ punctual_acknowledging) (hDuring.symm ▸ alone_acknowledging _) ?_ ?_
  · rintro t kind hSame i hAfter hBound
    cases hAnswer.symm.trans hSame
    rw [hRetry] at hBound
    have hCases : i = 1 ∨ i = 2 := by
      dsimp only at hBound
      omega
    rcases hCases with rfl | rfl
    · rw [hFirst]
      decide
    · rw [hSecond]
      decide
  · rw [closing, hDuring]
    exact fun hLasts => (hLasts hOver).elim

end DeviceBus.Gateway
