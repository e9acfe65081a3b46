import Mathlib
import DeviceBus.Proofs.Gateway.Runs

/-! # What the end of a delivery takes along

A delivery whose peer is gone removes its subscription by client and topic. This
is its own registration as long as its feed has a handler. After that the pair
may be free, or have been registered anew; a new registration is then removed in
place of the old one, and its handler cancelled.
-/

namespace DeviceBus.Gateway

open Coap Observe

variable {g g' : Gateway} {k : Nat} {d d' : Delivery}

/-- The state after some run. -/
def Reached (g : Gateway) : Prop :=
  ∃ group authorizer settings firstId events,
    g = (opened group authorizer settings firstId).run events

theorem Reached.run (h : Reached g) (events : List Event) : Reached (g.run events) := by
  obtain ⟨group, authorizer, settings, firstId, before, rfl⟩ := h
  exact ⟨group, authorizer, settings, firstId, before ++ events, (run_append ..).symm⟩

def Ended (g : Gateway) (k : Nat) : Prop :=
  ∃ d, g.deliveries[k]? = some d ∧ d.phase = .ended

/-- No registration is removed but the one with the feed `k`, no other feed is
touched and no listener is cancelled. -/
structure Spares (g g' : Gateway) (k : Nat) : Prop where
  registrations : ∀ topic client s, g.pair? topic client = some s → s.handler ≠ .feed k →
    g'.pair? topic client = some s
  feeds : ∀ j, j ≠ k → g'.feed j = g.feed j
  log : g'.log = g.log

theorem Reached.sound (h : Reached g) : g.Sound := by
  obtain ⟨group, authorizer, settings, firstId, events, rfl⟩ := h
  exact sound_run (sound_opened group authorizer settings firstId) events

/-! ## How an exchange ends -/

theorem getElem?_setDelivery (hAt : g.deliveries[k]? = some d) (d' : Delivery) :
    (g.setDelivery k d').deliveries[k]? = some d' := by
  obtain ⟨hBound, -⟩ := List.getElem?_eq_some_iff.mp hAt
  rw [setDelivery, List.getElem?_set_self hBound]

theorem not_ended_setDelivery (hAt : g.deliveries[k]? = some d) (hPhase : d'.phase ≠ .ended) :
    ¬(g.setDelivery k d').Ended k := by
  rintro ⟨d₁, hd₁, hEnded⟩
  rw [getElem?_setDelivery hAt] at hd₁
  cases hd₁
  exact hPhase hEnded

theorem conclude_of_ended (hAt : g.deliveries[k]? = some d) (hEnded : (g.conclude k d').Ended k) :
    g.conclude k d' =
      (g.unsubscribe d'.observation.client d'.observation.topic).1.finish k d' := by
  unfold conclude at hEnded ⊢
  split
  · rfl
  · rename_i hGoesOn
    rw [if_neg hGoesOn] at hEnded
    exact (not_ended_setDelivery hAt (by simp) hEnded).elim

theorem transmit_of_ended (hAt : g.deliveries[k]? = some d) {packet : Packet} {slot attempt : Nat}
    (hEnded : (g.transmit k d' packet slot attempt).Ended k) :
    ∃ acks state, g.transmit k d' packet slot attempt =
      (({ g with acks } : Gateway).unsubscribe d'.observation.client
        d'.observation.topic).1.finish k { d' with state } := by
  unfold transmit at hEnded ⊢
  dsimp only at hEnded ⊢
  split
  · rename_i hAgain
    rw [if_pos hAgain] at hEnded
    exact (not_ended_setDelivery (g := (g.send _ _).2) hAt (by simp) hEnded).elim
  · rename_i hLast
    rw [if_neg hLast] at hEnded
    exact ⟨_, _, conclude_of_ended (g := { g with acks := _ }) hAt hEnded⟩

/-- A delivery that ends while it waits for an answer has unsubscribed. -/
theorem poll_of_ended (hAt : g.deliveries[k]? = some d) {packet : Packet} {slot attempt due : Nat}
    (hPhase : d.phase = .confirming packet slot attempt due) (hEnded : (g.poll k).Ended k) :
    ∃ acks state, g.poll k = (({ g with acks } : Gateway).unsubscribe d.observation.client
      d.observation.topic).1.finish k { d with state } := by
  unfold poll at hEnded ⊢
  simp only [hAt, hPhase] at hEnded ⊢
  generalize g.acks.poll slot = answered at hEnded ⊢
  obtain ⟨answer, acks⟩ := answered
  cases answer with
  | answered kind => exact ⟨_, _, conclude_of_ended (g := { g with acks := _ }) hAt hEnded⟩
  | waiting =>
    dsimp only at hEnded ⊢
    split
    · rename_i hDue
      rw [if_pos hDue] at hEnded
      exact transmit_of_ended hAt hEnded
    · rename_i hEarly
      rw [if_neg hEarly] at hEnded
      obtain ⟨d₁, hd₁, hOver⟩ := hEnded
      rw [hAt] at hd₁
      cases hd₁
      rw [hPhase] at hOver
      cases hOver
  | closed => exact transmit_of_ended hAt hEnded
  | dropped => exact transmit_of_ended hAt hEnded

/-! ## What the end takes along -/

theorem feed_finish_of_ne {j : Nat} (hOther : j ≠ d.feed) :
    (g.finish k d).feed j = g.feed j := by
  rw [finish, feed_setFeed, if_neg fun hSame => hOther hSame.1.symm]
  rfl

/-- Cancelling the handler of feed `k` leaves the rest alone. -/
theorem spares_cancelled (g : Gateway) (ticket : Nat) {consumer : Consumer}
    (hOwn : consumer = .feed k) :
    (∀ j, j ≠ k → (g.absorbOne (.cancelled 0 ticket consumer)).feed j = g.feed j) ∧
      (g.absorbOne (.cancelled 0 ticket consumer)).log = g.log := by
  subst hOwn
  refine ⟨fun j hOther => ?_, rfl⟩
  rw [absorbOne, feed_setFeed, if_neg fun hSame => hOther hSame.1.symm]

/-- A delivery whose peer is gone frees its own pair and no other. It spares all
registrations but its own exactly if its feed still has a handler or its pair is
free; otherwise it removes the registration that has come after it. -/
theorem ended_spares_iff (hReached : Reached g) (hAt : g.deliveries[k]? = some d)
    {packet : Packet} {slot attempt due : Nat}
    (hPhase : d.phase = .confirming packet slot attempt due) (hEnded : (g.poll k).Ended k) :
    (∀ topic client, ¬(topic = d.observation.topic ∧ client = d.observation.client) →
        (g.poll k).pair? topic client = g.pair? topic client) ∧
      (g.poll k).pair? d.observation.topic d.observation.client = none ∧
      (Spares g (g.poll k) k ↔ (g.feed k).sending = true ∨
        g.pair? d.observation.topic d.observation.client = none) := by
  have hSound := hReached.sound
  have hMap : (g.deliveries.map Delivery.serves)[k]? = some d.serves := by
    rw [List.getElem?_map, hAt, Option.map_some]
  have hFeed : d.feed = k := hSound.own_feed k d.feed _ _ hMap
  have hServes : g.Serves k d.observation.topic d.observation.client := by
    rw [Serves, hMap, Delivery.serves, hFeed]
  obtain ⟨acks, state, hPoll⟩ := poll_of_ended hAt hPhase hEnded
  have hAcks := hSound.keep (keeps_acks g acks)
  rw [hPoll]
  rcases unsubscribe_cases hAcks d.observation.client d.observation.topic with
    ⟨e, hUnsubscribe, hFree⟩ | ⟨s, hub, result, hPair, hUnsubscribe, -, -, hPairs⟩
  · rw [hUnsubscribe]
    refine ⟨fun topic client _ => rfl, hFree, ?_⟩
    refine iff_of_true ⟨fun topic client s hs _ => hs, fun j hOther => ?_, rfl⟩ (.inr hFree)
    exact feed_finish_of_ne (by rw [← hFeed] at hOther; exact hOther)
  · rw [hUnsubscribe]
    replace hPair : g.pair? d.observation.topic d.observation.client = some s := hPair
    have hAfter : ∀ t c, ((({ g with acks, hub } : Gateway).absorbOne
        (.cancelled 0 s.ticket s.handler)).finish k { d with state }).pair? t c =
          if t = d.observation.topic ∧ c = d.observation.client then none else g.pair? t c := by
      intro t c
      have hHub := hub_cancelled { g with acks, hub } 0 s.ticket s.handler
      change Hub.pair? (Gateway.hub (absorbOne _ _)) 0 t c = _
      rw [hHub]
      exact hPairs t c
    have hGone := (hAfter _ _).trans (if_pos ⟨rfl, rfl⟩)
    refine ⟨fun t c hOther => (hAfter t c).trans (if_neg hOther), hGone, ?_⟩
    by_cases hOwn : s.handler = .feed k
    · have hOpen := (hSound.served _ _ s k hPair hOwn).2
      obtain ⟨hFeeds, hLog⟩ := spares_cancelled { g with acks, hub } s.ticket hOwn
      refine iff_of_true ⟨fun t c s' hs hForeign => ?_, fun j hOther => ?_, hLog⟩ (.inl hOpen)
      · rw [hAfter, if_neg, hs]
        rintro ⟨rfl, rfl⟩
        rw [hPair] at hs
        cases hs
        exact hForeign hOwn
      · rw [feed_finish_of_ne (by rw [← hFeed] at hOther; exact hOther), hFeeds j hOther]
        rfl
    · refine iff_of_false (fun hSpares => ?_) ?_
      · have hKept := hSpares.registrations _ _ s hPair hOwn
        rw [hGone] at hKept
        cases hKept
      · rintro (hOpen | hFree)
        · obtain ⟨s', hs, hHandler⟩ := hSound.registered k _ _ hServes hOpen
          rw [hPair] at hs
          cases hs
          exact hOwn hHandler
        · rw [hPair] at hFree
          cases hFree

/-- A request to observe the channel `abc`, or to stop. -/
def observing (messageId : UInt16) (observe : Bytes) : Packet where
  kind := .confirmable
  code := Code.get
  messageId
  token := [7]
  options := [⟨Opt.observeNumber, observe⟩, ⟨Opt.uriPathNumber, "channels".toUTF8.toList⟩,
    ⟨Opt.uriPathNumber, "abc".toUTF8.toList⟩, ⟨Opt.uriPathNumber, "messages".toUTF8.toList⟩]

/-- An observation whose peer has been asked whether it is there. -/
def asked : Gateway :=
  (opened none (fun _ _ _ => .ok "pub")
    { keepAlive := Duration.ofMillis 1000
      retry := { maxAttempts := 1, baseDelay := Duration.ofMillis 500 } } 0).run
    [.packet 0 "peer" (observing 1 []), .elapse 1000, .poll 0]

/-- The peer has let its time for an answer pass. -/
def silent : Gateway :=
  asked.run [.elapse 500]

def silentDelivery : Delivery where
  observation := { client := "pub-07", topic := "channels.abc", peer := "peer", token := [7] }
  feed := 0
  sequence := { started := 0, last := some 1000 }
  state := .awaitingAck
  phase := .confirming
    { kind := .confirmable, code := Code.content, messageId := 0, token := [7],
      options := [⟨Opt.observeNumber, [0x03, 0xE8]⟩] } 0 0 1500

theorem ended_spares_silent : Reached silent ∧ silent.deliveries[0]? = some silentDelivery ∧
    (silent.poll 0).Ended 0 ∧ Spares silent (silent.poll 0) 0 := by
  have hReached : Reached silent := Reached.run ⟨_, _, _, _, _, rfl⟩ _
  have hBefore : (silent.deliveries[0]?, (silent.feed 0).sending) =
      (some silentDelivery, true) := by cbv
  have hAfter : (silent.poll 0).deliveries[0]? =
      some { silentDelivery with state := .expired, phase := .ended } := by cbv
  obtain ⟨hAt, hOpen⟩ := Prod.mk.inj hBefore
  have hEnded : (silent.poll 0).Ended 0 := ⟨_, hAfter, rfl⟩
  obtain ⟨-, -, hSpares⟩ := ended_spares_iff hReached hAt rfl hEnded
  exact ⟨hReached, hAt, hEnded, hSpares.mpr (.inl hOpen)⟩

/-- The observation has been cancelled and registered again before its old
delivery ends. -/
def overlapped : Gateway :=
  asked.run [.packet 0 "peer" (observing 2 [1]), .packet 0 "peer" (observing 3 []), .elapse 500]

theorem overlapped_not_spared : Reached overlapped ∧
    overlapped.deliveries[0]? = some silentDelivery ∧ (overlapped.poll 0).Ended 0 ∧
    overlapped.pair? "channels.abc" "pub-07" =
      some { ticket := 1, handle := some 1, handler := .feed 1 } ∧
    (overlapped.poll 0).pair? "channels.abc" "pub-07" = none ∧
    (overlapped.feed 1).sending = true ∧ ((overlapped.poll 0).feed 1).sending = false ∧
    ¬Spares overlapped (overlapped.poll 0) 0 := by
  have hReached : Reached overlapped := Reached.run ⟨_, _, _, _, _, rfl⟩ _
  have hBefore : (overlapped.deliveries[0]?, overlapped.pair? "channels.abc" "pub-07",
      (overlapped.feed 1).sending) = (some silentDelivery,
        some { ticket := 1, handle := some 1, handler := .feed 1 }, true) := by cbv
  have hAfter : ((overlapped.poll 0).deliveries[0]?,
      (overlapped.poll 0).pair? "channels.abc" "pub-07", ((overlapped.poll 0).feed 1).sending) =
        (some { silentDelivery with state := .expired, phase := .ended }, none, false) := by cbv
  simp only [Prod.mk.injEq] at hBefore hAfter
  obtain ⟨hAt, hPair, hOpen⟩ := hBefore
  obtain ⟨hOver, hGone, hCancelled⟩ := hAfter
  refine ⟨hReached, hAt, ⟨_, hOver, rfl⟩, hPair, hGone, hOpen, hCancelled, fun hSpares => ?_⟩
  have hKept := hSpares.registrations _ _ _ hPair (by simp)
  rw [hGone] at hKept
  cases hKept

end DeviceBus.Gateway
