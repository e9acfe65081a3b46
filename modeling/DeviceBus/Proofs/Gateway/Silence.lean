import DeviceBus.Proofs.Gateway.Attempts

/-! # Peers that do not answer

A delivery that asks its peer goes on asking, with ever longer waits, until all transmissions
are out and the last wait is over. If time does not pass over what the delivery can do, no
answer comes and no other exchange takes the entry over, it has ended by then, its registration
is removed and no acknowledgement of its question is pending. There is one exception: where the
peer is asked zero times, the delivery draws a message ID, sends nothing and watches its feed
again, forever.
-/

namespace DeviceBus.Gateway

open Coap Observe

variable {g : Gateway} {k : Nat} {d : Delivery} {e : Event} {o : Observation}
  {messageId : UInt16} {start slot attempt : Nat} {packet : Packet} {events : List Event}

/-- No event is an answer of the peer under this message ID. -/
def Unanswered (peer : Peer) (messageId : UInt16) (events : List Event) : Prop :=
  ∀ wall p, Event.packet wall peer p ∈ events → p.messageId = messageId → answer? p = none

theorem Unanswered.answerTo?_eq {peer : Peer} (h : Unanswered peer messageId events)
    (hMember : e ∈ events) : e.answerTo? (peer, messageId) = none := by
  unfold Event.answerTo?
  split
  · rename_i wall sender p
    split
    · rename_i hKey
      obtain ⟨rfl, hId⟩ := Prod.mk.inj hKey
      exact h wall p hMember hId
    · rfl
  · rfl

/-! ## A whole run -/

/-- At the end the delivery still waits for an answer, or it was reaped on the way. -/
theorem Waiting.run_unanswered (h : g.Waiting k o messageId start packet slot attempt)
    (hReached : Reached g) (hPunctual : g.Punctual k events)
    (hAlone : g.Alone k (o.peer, messageId) (g.during k events))
    (hUnanswered : Unanswered o.peer messageId events) :
    (∃ attempt', (g.run events).Waiting k o messageId start packet slot attempt') ∨
      ∃ before after, events = before ++ after ∧
        (g.run before).now ≤ g.settings.retry.lapse start g.settings.retry.maxAttempts ∧
        (g.run before).Reaped k o messageId := by
  induction events generalizing g attempt with
  | nil => exact .inl ⟨attempt, h⟩
  | cons e rest ih =>
    rw [during_cons h.lasts] at hAlone
    obtain ⟨hPrompt, hRest⟩ := hPunctual
    have hSettings := settings_step hReached.sound hReached.alive e
    have hOn : ∀ next, (g.step e).Waiting k o messageId start packet slot next →
        (∃ attempt', (g.run (e :: rest)).Waiting k o messageId start packet slot attempt') ∨
          ∃ before after, e :: rest = before ++ after ∧
            (g.run before).now ≤ g.settings.retry.lapse start g.settings.retry.maxAttempts ∧
            (g.run before).Reaped k o messageId := by
      intro next hNext
      rcases ih hNext hReached.step hRest hAlone.2
          (fun wall p hMember => hUnanswered wall p (List.mem_cons_of_mem e hMember)) with
        hStill | ⟨before, after, rfl, hClock, hReaped⟩
      · exact .inl hStill
      · exact .inr ⟨e :: before, after, rfl, hSettings ▸ hClock, hReaped⟩
    cases h.step hReached hPrompt hAlone.1 hAlone.2.sole with
    | waits hWaiting hSilent hOther => exact hOn attempt hWaiting
    | repeats hMay hWaiting hSent hOther hNow => exact hOn (attempt + 1) hWaiting
    | expires hLast hReaped hSilent hOther hNow =>
      exact .inr ⟨[e], rest, rfl, Nat.le_of_eq (hLast ▸ hNow), hReaped⟩
    | hears hHeard hSilent hAnswer hNow =>
      cases (hUnanswered.answerTo?_eq List.mem_cons_self).symm.trans hAnswer

theorem Reaped.asked (h : g.Reaped k o messageId) (hOrderly : g.Orderly) :
    0 < g.settings.retry.maxAttempts := by
  obtain ⟨d, hAt, -, hExpired, hEnded⟩ := h.delivery
  -- A delivery expires only out of a question.
  have hState := (hOrderly k d hAt).orderly
  rw [Delivery.Orderly, hEnded] at hState
  rcases hState with hCancelled | ⟨-, hMay⟩
  · cases hCancelled.symm.trans hExpired
  · exact hMay

theorem Reached.not_reaped (h : Reached g) (hNever : g.settings.retry.maxAttempts = 0)
    (events : List Event) : ¬(g.run events).Reaped k o messageId := by
  intro hReaped
  have hAsked := hReaped.asked (h.run events).orderly
  rw [settings_run h.sound h.alive, hNever] at hAsked
  exact Nat.lt_irrefl 0 hAsked

/-- The delivery `k` asks its peer, no answer comes, time does not pass over what it can do, and
no other exchange has its peer and message ID while it lasts. When the sum of its waits has
passed, it has been reaped, at the latest at that moment; this is so exactly if the peer is asked
at least once. -/
theorem silent_reaped_iff (hReached : Reached g) (hAsks : g.Asks k d e) {events : List Event}
    (hPunctual : (g.step e).Punctual k events)
    (hAlone : (g.step e).Alone k (d.observation.peer, g.nextId) ((g.step e).during k events))
    (hUnanswered : Unanswered d.observation.peer g.nextId events)
    (hLapsed : g.settings.retry.lapse g.now g.settings.retry.maxAttempts ≤
      ((g.step e).run events).now)
    (hDone : ((g.step e).run events).Rests k) :
    (∃ before after, events = before ++ after ∧
      ((g.step e).run before).now ≤
        g.settings.retry.lapse g.now g.settings.retry.maxAttempts ∧
      ((g.step e).run before).Reaped k d.observation g.nextId) ↔
        0 < g.settings.retry.maxAttempts := by
  have hSettings : ∀ events, ((g.step e).run events).settings = g.settings :=
    fun events => settings_run hReached.sound hReached.alive (e :: events)
  constructor
  · rintro ⟨before, after, -, -, hReaped⟩
    exact hSettings before ▸ hReaped.asked (hReached.step.run before).orderly
  · intro hMay
    obtain ⟨hWaiting, -⟩ := hAsks.waiting hReached hMay
    rcases hWaiting.run_unanswered hReached.step hPunctual hAlone hUnanswered with
      ⟨attempt, hLast⟩ | hReaped
    · have hEarly := hLast.now_lt hDone (hLast.attempt_lt (hReached.step.run events))
      rw [hSettings] at hEarly
      exact absurd hLapsed (Nat.not_le.mpr hEarly)
    · rw [show (g.step e).settings = g.settings from hSettings []] at hReaped
      exact hReaped

theorem unanswered_overdue (peer : Peer) (messageId : UInt16) (millis : Nat) :
    Unanswered peer messageId [.elapse millis, .poll 0] := by
  intro wall p hMember
  simp at hMember

theorem alone_overdue (key : Peer × UInt16) : ((overdue 1).step (.poll 0)).Alone 0 key
    (((overdue 1).step (.poll 0)).during 0 [.elapse 500, .poll 0]) := by
  have hDuring : ((overdue 1).step (.poll 0)).during 0 [.elapse 500, .poll 0] =
      [.elapse 500, .poll 0] := by cbv
  rw [hDuring]
  exact ⟨sole_of_single (by cbv) key, sole_of_single (by cbv) key, sole_of_single (by cbv) key⟩

theorem silent_reaped_overdue : Reached (overdue 1) ∧
    (overdue 1).Asks 0 overdueDelivery (.poll 0) ∧
    ((overdue 1).step (.poll 0)).Punctual 0 [.elapse 500, .poll 0] ∧
    ((overdue 1).step (.poll 0)).Alone 0 ("peer", (overdue 1).nextId)
      (((overdue 1).step (.poll 0)).during 0 [.elapse 500, .poll 0]) ∧
    Unanswered "peer" (overdue 1).nextId [.elapse 500, .poll 0] ∧
    ∃ before after, [.elapse 500, .poll 0] = before ++ after ∧
      (((overdue 1).step (.poll 0)).run before).now ≤ (overdue 1).settings.retry.lapse
        (overdue 1).now (overdue 1).settings.retry.maxAttempts ∧
      (((overdue 1).step (.poll 0)).run before).Reaped 0 overdueDelivery.observation
        (overdue 1).nextId := by
  have hReached : Reached (overdue 1) := ⟨_, _, _, _, _, rfl⟩
  have hAsks : (overdue 1).Asks 0 overdueDelivery (.poll 0) := asks_overdue (by cbv)
  have hPunctual : ((overdue 1).step (.poll 0)).Punctual 0 [.elapse 500, .poll 0] :=
    ⟨prompt_elapse 1500 (by cbv) (by cbv), prompt_of_other (by simp), trivial⟩
  have hLast : (((overdue 1).step (.poll 0)).run [.elapse 500, .poll 0]).deliveries[0]?.map
      (fun d => d.isReady (((overdue 1).step (.poll 0)).run [.elapse 500, .poll 0])) =
        some false := by cbv
  refine ⟨hReached, hAsks, hPunctual, alone_overdue _, unanswered_overdue _ _ _, ?_⟩
  refine (silent_reaped_iff hReached hAsks hPunctual (alone_overdue _)
    (unanswered_overdue _ _ _) (by cbv) fun d' hAt => ?_).mpr (by cbv)
  rw [hAt, Option.map_some, Option.some.injEq] at hLast
  exact hLast

/-- Where the peer is asked zero times the observation is never over: nothing is sent, and
the delivery watches its feed again. -/
theorem silent_not_reaped : Reached (overdue 0) ∧
    (overdue 0).Asks 0 overdueDelivery (.poll 0) ∧
    ((overdue 0).step (.poll 0)).Punctual 0 [.elapse 1000, .poll 0] ∧
    Unanswered "peer" (overdue 0).nextId [.elapse 1000, .poll 0] ∧
    (overdue 0).settings.retry.lapse (overdue 0).now 0 = 1000 ∧
    (((overdue 0).step (.poll 0)).run [.elapse 1000, .poll 0]).now = 2000 ∧
    (overdue 0).said (.poll 0) = [] ∧
    (((overdue 0).step (.poll 0)).run [.elapse 1000, .poll 0]).pair? "channels.abc" "pub-07" =
      some { ticket := 0, handle := some 0, handler := .feed 0 } ∧
    ¬∃ before after, [.elapse 1000, .poll 0] = before ++ after ∧
      (((overdue 0).step (.poll 0)).run before).Reaped 0 overdueDelivery.observation
        (overdue 0).nextId := by
  have hReached : Reached (overdue 0) := ⟨_, _, _, _, _, rfl⟩
  have hPunctual : ((overdue 0).step (.poll 0)).Punctual 0 [.elapse 1000, .poll 0] :=
    ⟨prompt_elapse 2000 (by cbv) (by cbv), prompt_of_other (by simp), trivial⟩
  have hValues : ((overdue 0).settings.retry.lapse (overdue 0).now 0,
      (((overdue 0).step (.poll 0)).run [.elapse 1000, .poll 0]).now,
      (overdue 0).said (.poll 0),
      (((overdue 0).step (.poll 0)).run [.elapse 1000, .poll 0]).pair? "channels.abc" "pub-07") =
        (1000, 2000, [], some { ticket := 0, handle := some 0, handler := .feed 0 }) := by cbv
  simp only [Prod.mk.injEq] at hValues
  obtain ⟨hLapse, hNow, hSaid, hPair⟩ := hValues
  refine ⟨hReached, asks_overdue (by cbv), hPunctual, unanswered_overdue _ _ _, hLapse, hNow,
    hSaid, hPair, ?_⟩
  rintro ⟨before, after, -, hReaped⟩
  exact hReached.step.not_reaped (by cbv) before hReaped

end DeviceBus.Gateway
