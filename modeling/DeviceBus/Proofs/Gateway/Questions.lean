import DeviceBus.Proofs.Gateway.Exchanges

/-! # Questions to a peer

A delivery whose timer has run out asks its peer whether it is there. From then on its slot
and its timer decide what it does. A run is punctual for a delivery if time does not pass over
what the delivery can do.
-/

namespace DeviceBus.Gateway

open Coap Observe

variable {g : Gateway} {k : Nat} {d : Delivery} {e : Event} {r : Outcome}

/-! ## Time -/

/-- If the event lets time pass, the delivery `k` cannot go on without it, and the clock does
not pass the delivery's timer. -/
def Prompt (g : Gateway) (k : Nat) (e : Event) : Prop :=
  ∀ millis d, e = .elapse millis → g.deliveries[k]? = some d →
    d.isReady g = false ∧ ∀ due, d.due? = some due → g.now + millis ≤ due

/-- Along the run time does not pass over what the delivery `k` can do. -/
def Punctual (g : Gateway) (k : Nat) : List Event → Prop
  | [] => True
  | e :: rest => g.Prompt k e ∧ (g.step e).Punctual k rest

theorem prompt_of_other (hOther : ∀ millis, e ≠ .elapse millis) : g.Prompt k e :=
  fun millis _ hElapse => (hOther millis hElapse).elim

theorem prompt_elapse {millis : Nat} (due : Nat)
    (hTimer : (g.deliveries[k]?.map fun d => (d.isReady g, d.due?)) = some (false, some due))
    (hBefore : g.now + millis ≤ due) : g.Prompt k (.elapse millis) := by
  rintro _ d ⟨rfl⟩ hAt
  rw [hAt, Option.map_some, Option.some.injEq, Prod.mk.injEq] at hTimer
  refine ⟨hTimer.1, fun due' hDue => ?_⟩
  cases hTimer.2.symm.trans hDue
  exact hBefore

theorem now_step (hSound : g.Sound) (hAlive : g.Alive) (hOther : ∀ millis, e ≠ .elapse millis) :
    (g.step e).now = g.now := by
  cases happens hSound hAlive e with
  | acts hAt hActs hComes hYields => exact hYields.now
  | answers hAnswer hStep => rw [hStep, resolveAck]
  | elapses millis => exact (hOther millis rfl).elim
  | steady hSteady => exact hSteady.now

theorem now_le_step (hSound : g.Sound) (hAlive : g.Alive) (e : Event) :
    g.now ≤ (g.step e).now := by
  by_cases hElapse : ∃ millis, e = .elapse millis
  · obtain ⟨millis, rfl⟩ := hElapse
    exact Nat.le_add_right _ _
  · exact Nat.le_of_eq (now_step hSound hAlive fun millis hSame => hElapse ⟨millis, hSame⟩).symm

theorem now_le_run (hSound : g.Sound) (hAlive : g.Alive) (events : List Event) :
    g.now ≤ (g.run events).now := by
  refine keeps_run (P := fun g' => g.now ≤ g'.now) (fun g' hSound hAlive hLe e => ?_) hSound hAlive
    (Nat.le_refl _) events
  exact Nat.le_trans hLe (now_le_step hSound hAlive e)

/-- While the delivery can go on the clock stands still. -/
theorem Prompt.now_eq (h : g.Prompt k e) (hSound : g.Sound) (hAlive : g.Alive)
    (hAt : g.deliveries[k]? = some d) (hReady : d.isReady g = true) : (g.step e).now = g.now := by
  refine now_step hSound hAlive fun millis hElapse => ?_
  cases (h millis d hElapse hAt).1.symm.trans hReady

theorem settings_run (hSound : g.Sound) (hAlive : g.Alive) (events : List Event) :
    (g.run events).settings = g.settings := by
  refine keeps_run (P := fun g' => g'.settings = g.settings) (fun g' hSound hAlive hSame e => ?_)
    hSound hAlive rfl events
  exact (settings_step hSound hAlive e).trans hSame

theorem Reached.step (h : Reached g) : Reached (g.step e) :=
  h.run [e]

/-! ## The question -/

/-- The event is the action of the delivery `k` when its timer has run out: nothing has come
for the keep-alive interval, or it acts on the timer first. -/
structure Asks (g : Gateway) (k : Nat) (d : Delivery) (e : Event) : Prop where
  delivery : g.deliveries[k]? = some d
  timer : ∃ due, d.phase = .watching due ∧ due ≤ g.now
  event : e = .alarm k ∨ e = .poll k ∧ (g.feed k).queue = [] ∧ (g.feed k).sending = true

theorem Comes.of_asks (h : Comes g k d e r) (hAsks : g.Asks k d e)
    (hMay : 0 < g.settings.retry.maxAttempts) : r =
      (g.registering d.observation.peer).transmitted k
        { d with sequence := (d.sequence.next g.now).2 }
        (g.notification d .confirmable []).1 g.acks.slots.length 0 := by
  obtain ⟨-, ⟨due, hWatching, hDue⟩, hEvent⟩ := hAsks
  have hPolled : e = .poll k → (g.feed k).queue = [] ∧ (g.feed k).sending = true := by
    rintro rfl
    rcases hEvent with hAlarm | ⟨-, hOpen⟩
    · cases hAlarm
    · exact hOpen
  cases h with
  | rests hPoll hAlarm =>
    have hEarly : g.now < due := by
      rcases hEvent with rfl | ⟨rfl, -⟩
      · exact hAlarm rfl due hWatching
      · exact ((not_ready_of_watching hWatching).mp (hPoll rfl)).2
    exact absurd hDue (Nat.not_le.mpr hEarly)
  | notifies hPoll hWatching' hReceiving hQueue => cases (hPolled hPoll).1.symm.trans hQueue
  | asks hWatching' hDue' hSilent hMay' => rfl
  | skips hWatching' hDue' hSilent hNever => exact absurd hNever (Nat.ne_of_gt hMay)
  | asks_again hPoll hConfirming hNone hDue' hMay' => cases hWatching.symm.trans hConfirming
  | gives_up hPoll hConfirming hNone hDue' hLast => cases hWatching.symm.trans hConfirming
  | answered hPoll hConfirming hAnswered => cases hWatching.symm.trans hConfirming
  | ends hPoll hWatching' hEmpty hSending => cases (hPolled hPoll).2.symm.trans hSending

theorem Asks.acts (h : g.Asks k d e) : e.acts k = true := by
  rcases h.event with rfl | ⟨rfl, -⟩
  · exact decide_eq_true rfl
  · exact decide_eq_true rfl

/-! ## The exchange -/

section

variable {packet : Packet} {slot attempt due : Nat}

/-- What an action of a delivery that waits for an answer comes to. -/
inductive Pursues (g : Gateway) (k : Nat) (d : Delivery) (e : Event) (packet : Packet)
    (slot attempt due : Nat) : Outcome → Prop
  | rests : Pursues g k d e packet slot attempt due (g.becoming k d)
  | asks_again (hPoll : e = .poll k) (hNone : ∀ kind, g.acks.slot slot ≠ .answered kind)
      (hDue : g.acks.slot slot = .waiting → due ≤ g.now)
      (hMay : attempt + 1 < g.settings.retry.maxAttempts) :
      Pursues g k d e packet slot attempt due
        (g.transmitted k { d with state := d.state.on .ackTimedOut } packet slot (attempt + 1))
  | gives_up (hPoll : e = .poll k) (hNone : ∀ kind, g.acks.slot slot ≠ .answered kind)
      (hDue : g.acks.slot slot = .waiting → due ≤ g.now)
      (hLast : g.settings.retry.maxAttempts ≤ attempt + 1) :
      Pursues g k d e packet slot attempt due
        ((g.abandoning d.observation.peer packet.messageId slot).concluded k
          { d with state := (d.state.on .ackTimedOut).on .retriesExhausted })
  | answered {kind : AckKind} (hPoll : e = .poll k)
      (hAnswered : g.acks.slot slot = .answered kind) :
      Pursues g k d e packet slot attempt due
        ((g.settling slot).concluded k { d with state := d.state.on kind.event })

theorem Comes.pursues (h : Comes g k d e r)
    (hConfirming : d.phase = .confirming packet slot attempt due) :
    Pursues g k d e packet slot attempt due r := by
  cases h with
  | rests hPoll hAlarm => exact .rests
  | asks_again hPoll hConfirming' hNone hDue hMay =>
    cases hConfirming.symm.trans hConfirming'
    exact .asks_again hPoll hNone hDue hMay
  | gives_up hPoll hConfirming' hNone hDue hLast =>
    cases hConfirming.symm.trans hConfirming'
    exact .gives_up hPoll hNone hDue hLast
  | answered hPoll hConfirming' hAnswered =>
    cases hConfirming.symm.trans hConfirming'
    exact .answered hPoll hAnswered
  | notifies hPoll hWatching hReceiving hQueue => cases hConfirming.symm.trans hWatching
  | asks hWatching hDue hSilent hMay => cases hConfirming.symm.trans hWatching
  | skips hWatching hDue hSilent hNever => cases hConfirming.symm.trans hWatching
  | ends hPoll hWatching hEmpty hSending => cases hConfirming.symm.trans hWatching

end

/-- An observation of which nothing has come for a second; its peer is asked `most` times. -/
def overdue (most : Nat) : Gateway :=
  (opened none (fun _ _ _ => .ok "pub")
    { keepAlive := Duration.ofMillis 1000
      retry := { maxAttempts := most, baseDelay := Duration.ofMillis 500 } } 0).run
    [.packet 0 "peer" (observing 1 []), .elapse 1000]

def overdueDelivery : Delivery where
  observation := silentDelivery.observation
  feed := 0
  sequence := { started := 0, last := some 0 }
  phase := .watching 1000

theorem asks_overdue {most : Nat} (hValues : ((overdue most).deliveries[0]?,
      ((overdue most).feed 0).queue, ((overdue most).feed 0).sending, (overdue most).now) =
        (some overdueDelivery, [], true, 1000)) :
    (overdue most).Asks 0 overdueDelivery (.poll 0) := by
  simp only [Prod.mk.injEq] at hValues
  obtain ⟨hDelivery, hQueue, hSending, hNow⟩ := hValues
  exact ⟨hDelivery, ⟨1000, rfl, Nat.le_of_eq hNow.symm⟩, .inr ⟨rfl, hQueue, hSending⟩⟩

end DeviceBus.Gateway
