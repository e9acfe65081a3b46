import DeviceBus.Proofs.Gateway.Observing
import DeviceBus.Proofs.Gateway.Questions

/-! # What a cancelled observation still sends

Cancelling ends the feed of a delivery and leaves it to the delivery to find that out. It does
so when it watches its feed and nothing is queued there. Messages that are queued are sent
first, and a question to the peer is asked again as if nothing had happened. The delivery is
spent when nothing of this can come, whatever the peer answers; exactly then it sends nothing
more.
-/

namespace DeviceBus

theorem Duration.lt_due_of_le {span : Duration} {now later : Nat} (hLater : now ≤ later)
    (hBefore : now < span.due now) : later < span.due later := by
  have hFar : 0 < farAway := by decide
  unfold due at hBefore ⊢
  split at hBefore
  · rename_i hReach
    have hClock : now / 1000 ≤ later / 1000 := Nat.div_le_div_right hLater
    rw [if_pos (Nat.le_trans hReach (Nat.add_le_add_right hClock _))]
    exact Nat.lt_add_of_pos_right hFar
  · have hSpan := Nat.lt_add_right_iff_pos.mp hBefore
    split
    · exact Nat.lt_add_of_pos_right hFar
    · exact Nat.lt_add_of_pos_right hSpan

namespace Gateway

open Coap Observe

variable {g g' : Gateway} {k : Nat} {d : Delivery} {e : Event} {r : Outcome} {o : Observation}

/-! ## Cancellations -/

/-- The event cancels the observation: it is an admitted request to do so, from whatever peer,
or it closes the facade. -/
inductive Event.Cancels (authorizer : Authorizer) (o : Observation) : Event → Prop
  | request {wall : Int64} {peer : Peer} {p : Packet} {path : ChannelPath} {publisher : String}
      (hAdmitted : Admitted authorizer wall p path publisher) (hCode : p.code = Code.get)
      (hObserve : p.observe = some 1) (hClient : o.client = observerId publisher p.token)
      (hTopic : o.topic = path.topic) : Cancels authorizer o (.packet wall peer p)
  | close : Cancels authorizer o .close

/-- No event asks for the observation again, from whatever peer. -/
def Unrenewed (authorizer : Authorizer) (o : Observation) (events : List Event) : Prop :=
  ∀ e ∈ events, ∀ o', e.asksFor authorizer = some o' →
    ¬(o'.topic = o.topic ∧ o'.client = o.client)

theorem handle_deregisters {wall : Int64} {peer : Peer} {p : Packet} {path : ChannelPath}
    {publisher : String} (hAdmitted : Admitted g.authorizer wall p path publisher)
    (hCode : p.code = Code.get) (hObserve : p.observe = some 1) : g.handle wall peer p =
      g.deregister p ⟨observerId publisher p.token, path.topic, peer, p.token⟩ := by
  have hRequest : Code.isRequest p.code = true := by
    rw [hCode]
    decide
  have hGet : ¬Code.get = Code.post := by decide
  have hOther : ¬(some 1 : Option UInt32) = some 0 := by decide
  have hAccess : g.access wall p path.channel = .ok publisher := hAdmitted.access
  rw [handle_request g wall peer hAdmitted.kind hRequest]
  simp only [handleRequest, hAdmitted.parsed, hCode, if_neg hGet, if_true, handleGet, hObserve,
    or_true, hAccess, if_neg hOther]

theorem Idle.pair?_eq {outcome : Option Packet × Gateway} (h : g.Idle outcome)
    (topic client : String) : outcome.2.pair? topic client = g.pair? topic client := by
  obtain ⟨reply, acks, nextId, rfl, -⟩ := h
  rfl

theorem pair?_close (hSound : g.Sound) (topic client : String) :
    g.close.pair? topic client = none := by
  obtain ⟨hub, hPerform, -, -, hPairs⟩ := Hub.perform_close hSound.idle hSound.facades
  rw [pair?, close, hub_perform, hPerform]
  exact hPairs topic client

theorem Event.Cancels.pair?_eq (h : e.Cancels g.authorizer o) (hSound : g.Sound) :
    (g.step e).pair? o.topic o.client = none := by
  cases h with
  | @request wall peer p path publisher hAdmitted hCode hObserve hClient hTopic =>
    obtain ⟨log, hReceive⟩ := receive_eq g wall peer p
    have hIdle := idle_deregister g p ⟨observerId publisher p.token, path.topic, peer, p.token⟩
    rw [step, hReceive, handle_deregisters hAdmitted hCode hObserve, hClient, hTopic]
    exact (hIdle.pair?_eq _ _).trans (pair?_unsubscribe hSound _ _)
  | close => exact pair?_close hSound _ _

/-- A cancellation is no action of a delivery, and no answer of a peer. -/
theorem Event.Cancels.steady (h : e.Cancels g.authorizer o) (hSound : g.Sound)
    (hAlive : g.Alive) : Steady g (g.step e) := by
  cases happens hSound hAlive e with
  | acts hAt hActs hComes hYields =>
    cases h with
    | request hAdmitted hCode hObserve hClient hTopic => cases hActs
    | close => cases hActs
  | answers hAnswer hStep =>
    cases h with
    | request hAdmitted hCode hObserve hClient hTopic =>
      rcases hAdmitted.kind with hKind | hKind
      · simp [answer?, hKind] at hAnswer
      · simp [answer?, hKind] at hAnswer
  | elapses millis => cases h
  | steady hSteady => exact hSteady

theorem Event.Cancels.aside (h : e.Cancels g.authorizer o) (hSound : g.Sound) (hAlive : g.Alive)
    (hAt : g.deliveries[k]? = some d) : Aside g (g.step e) k [] := by
  cases h with
  | request hAdmitted hCode hObserve hClient hTopic =>
    exact aside_step hSound hAlive (hSound.bound hAt) rfl
  | close => exact aside_step hSound hAlive (hSound.bound hAt) rfl

/-! ## What a delivery sends -/

/-- The packets that the actions of the delivery `k` send along a run. -/
def spoken (g : Gateway) (k : Nat) : List Event → List (Peer × Packet)
  | [] => []
  | e :: rest => (if e.acts k then g.said e else []) ++ (g.step e).spoken k rest

theorem Comes.tokens (h : Comes g k d e r) (hMinds : g.Minds k d) :
    ∀ packet ∈ r.packets, packet.token = d.observation.token := by
  cases h with
  | rests hPoll hAlarm => exact List.forall_mem_nil _
  | notifies hPoll hWatching hReceiving hQueue => exact List.forall_mem_singleton.mpr rfl
  | asks hWatching hDue hSilent hMay => exact List.forall_mem_singleton.mpr rfl
  | skips hWatching hDue hSilent hNever =>
    rw [packets_concluded]
    exact List.forall_mem_nil _
  | asks_again hPoll hConfirming hNone hDue hMay =>
    obtain ⟨-, -, -, hToken⟩ := hMinds.confirming hConfirming
    exact List.forall_mem_singleton.mpr hToken
  | gives_up hPoll hConfirming hNone hDue hLast =>
    rw [packets_concluded]
    exact List.forall_mem_nil _
  | answered hPoll hConfirming hAnswered =>
    rw [packets_concluded]
    exact List.forall_mem_nil _
  | ends hPoll hWatching hEmpty hSending => exact List.forall_mem_nil _

theorem addressed_spoken (hReached : Reached g) (hGoing : g.Going k o) (events : List Event) :
    ∀ sent ∈ g.spoken k events, sent.1 = o.peer ∧ sent.2.token = o.token := by
  induction events generalizing g with
  | nil => exact List.forall_mem_nil _
  | cons e rest ih =>
    refine List.forall_mem_append.mpr ⟨?_, ih hReached.step (hGoing.step e).1⟩
    split
    · rename_i hActs
      obtain ⟨d, hAt, rfl⟩ := hGoing.delivery
      obtain ⟨r, hComes, hYields⟩ := acted_step hGoing.sound hGoing.alive hAt hActs
      rw [said_eq hYields.sends]
      intro sent hSent
      obtain ⟨packet, hPacket, rfl⟩ := List.mem_map.mp hSent
      exact ⟨rfl, hComes.tokens (hReached.orderly k d hAt) packet hPacket⟩
    · exact List.forall_mem_nil _

/-! ## Deliveries that are spent -/

/-- A delivery that watched its feed from now on would neither find a message there nor ask
its peer at once. -/
def Vacant (g : Gateway) (k : Nat) : Prop :=
  (g.feed k).queue = [] ∧ g.now < g.settings.keepAlive.due g.now

/-- A question that has been transmitted, for the last time or before, leads to no further
packet, whatever its slot holds later. -/
def Exhausted (g : Gateway) (k attempt : Nat) : Slot → Prop
  | .waiting => g.settings.retry.maxAttempts ≤ attempt + 1 ∧ g.Vacant k
  | .answered .ack => g.Vacant k
  | .answered .reset => True
  | .closed => g.settings.retry.maxAttempts ≤ attempt + 1
  | .dropped => g.settings.retry.maxAttempts ≤ attempt + 1

/-- The delivery sends nothing more once its feed has ended. -/
def Spent (g : Gateway) (k : Nat) (d : Delivery) : Prop :=
  match d.phase with
  | .watching due => (g.feed k).queue = [] ∧ (g.settings.retry.maxAttempts = 0 ∨ g.now < due)
  | .confirming _ slot attempt _ => g.Exhausted k attempt (g.acks.slot slot)
  | .ended => True

section

variable {due : Nat} {packet : Packet} {slot attempt : Nat} {s s' : Slot}

theorem spent_of_watching (hWatching : d.phase = .watching due) : g.Spent k d ↔
    (g.feed k).queue = [] ∧ (g.settings.retry.maxAttempts = 0 ∨ g.now < due) := by
  rw [Spent, hWatching]

theorem spent_of_confirming (hConfirming : d.phase = .confirming packet slot attempt due) :
    g.Spent k d ↔ g.Exhausted k attempt (g.acks.slot slot) := by
  rw [Spent, hConfirming]

theorem spent_of_ended (hEnded : d.phase = .ended) : g.Spent k d := by
  rw [Spent, hEnded]
  trivial

theorem Vacant.keep (h : g.Vacant k) (hQueue : (g'.feed k).queue = (g.feed k).queue)
    (hSettings : g'.settings = g.settings) (hNow : g.now ≤ g'.now) : g'.Vacant k :=
  ⟨hQueue.trans h.1, hSettings ▸ Duration.lt_due_of_le hNow h.2⟩

theorem Exhausted.last (h : g.Exhausted k attempt s) (hNone : ∀ kind, s ≠ .answered kind) :
    g.settings.retry.maxAttempts ≤ attempt + 1 := by
  cases s with
  | waiting => exact h.1
  | answered kind => exact (hNone kind rfl).elim
  | closed => exact h
  | dropped => exact h

/-- The answer to the last transmission, or that there will be none, adds nothing. -/
theorem Exhausted.of_waiting (h : g.Exhausted k attempt .waiting) (s : Slot) :
    g.Exhausted k attempt s := by
  cases s with
  | waiting => exact h
  | answered kind =>
    cases kind with
    | ack => exact h.2
    | reset => trivial
  | closed => exact h.1
  | dropped => exact h.1

theorem Exhausted.keep (h : g.Exhausted k attempt s)
    (hQueue : (g'.feed k).queue = (g.feed k).queue) (hSettings : g'.settings = g.settings)
    (hNow : g.now ≤ g'.now) : g'.Exhausted k attempt s := by
  have hVacant : g.Vacant k → g'.Vacant k := fun h => h.keep hQueue hSettings hNow
  have hLast : g.settings.retry.maxAttempts ≤ attempt + 1 →
      g'.settings.retry.maxAttempts ≤ attempt + 1 := by
    rw [hSettings]
    exact id
  cases s with
  | waiting => exact h.imp hLast hVacant
  | answered kind =>
    cases kind with
    | ack => exact hVacant h
    | reset => trivial
  | closed => exact hLast h
  | dropped => exact hLast h

end

/-- What leaves a delivery and its feed alone, and time too while the feed is watched. -/
theorem Spent.keep (h : g.Spent k d) (hQueue : (g'.feed k).queue = (g.feed k).queue)
    (hSettings : g'.settings = g.settings) (hNow : g.now ≤ g'.now)
    (hStill : ∀ due, d.phase = .watching due → g'.now = g.now)
    (hSlot : ∀ key slot, d.exchange? = some (key, slot) →
      g'.acks.slot slot = g.acks.slot slot ∨ g.acks.slot slot = .waiting) : g'.Spent k d := by
  cases hPhase : d.phase with
  | watching due =>
    obtain ⟨hEmpty, hTimer⟩ := (spent_of_watching hPhase).mp h
    rw [spent_of_watching hPhase, hSettings, hStill due hPhase]
    exact ⟨hQueue.trans hEmpty, hTimer⟩
  | confirming packet slot attempt due =>
    rw [spent_of_confirming hPhase] at h ⊢
    have hStays := h.keep hQueue hSettings hNow
    rcases hSlot _ slot (exchange?_of_confirming hPhase) with hSame | hWaiting
    · rwa [hSame]
    · rw [hWaiting] at hStays
      exact hStays.of_waiting _
  | ended => exact spent_of_ended hPhase

theorem Spent.acts (h : g.Spent k d) (hMinds : g.Minds k d) (hComes : Comes g k d e r)
    {peer : Peer} (hYields : Yields g g' k peer r) : r.packets = [] ∧ g'.Spent k r.delivery := by
  cases hComes with
  | rests hPoll hAlarm =>
    refine ⟨rfl, h.keep ?_ hYields.settings (Nat.le_of_eq hYields.now.symm)
      (fun _ _ => hYields.now) fun _ _ _ => .inl ?_⟩
    · rw [hYields.feed]
      rfl
    · rw [hYields.acks]
      rfl
  | notifies hPoll hWatching hReceiving hQueue =>
    cases ((spent_of_watching hWatching).mp h).1.symm.trans hQueue
  | asks hWatching hDue hSilent hMay =>
    rcases ((spent_of_watching hWatching).mp h).2 with hNever | hEarly
    · exact absurd hNever (Nat.ne_of_gt hMay)
    · exact absurd hDue (Nat.not_le.mpr hEarly)
  | skips hWatching hDue hSilent hNever =>
    obtain ⟨hEmpty, -⟩ := (spent_of_watching hWatching).mp h
    obtain ⟨-, -, hSame, -, hOpen⟩ := State.on_of_open (hMinds.watching hWatching)
    rw [hSame, concluded_of_open (by exact hOpen)] at hYields ⊢
    refine ⟨rfl, (spent_of_watching rfl).mpr ⟨?_, .inl (hYields.settings ▸ hNever)⟩⟩
    rw [hYields.feed]
    exact hEmpty
  | @asks_again packet slot attempt due hPoll hConfirming hNone hDue hMay =>
    have hLast := ((spent_of_confirming hConfirming).mp h).last hNone
    exact absurd hMay (Nat.not_lt.mpr hLast)
  | gives_up hPoll hConfirming hNone hDue hLast =>
    obtain ⟨hState, -⟩ := hMinds.confirming hConfirming
    rw [hState, concluded_of_terminal rfl]
    exact ⟨rfl, spent_of_ended rfl⟩
  | @answered packet slot attempt due kind hPoll hConfirming hAnswered =>
    obtain ⟨hState, -⟩ := hMinds.confirming hConfirming
    rw [spent_of_confirming hConfirming, hAnswered] at h
    rw [hState] at hYields ⊢
    cases kind with
    | ack =>
      rw [concluded_of_open rfl] at hYields ⊢
      refine ⟨rfl, (spent_of_watching rfl).mpr ⟨?_, .inr ?_⟩⟩
      · rw [hYields.feed]
        exact h.1
      · rw [hYields.now]
        exact h.2
    | reset =>
      rw [concluded_of_terminal rfl]
      exact ⟨rfl, spent_of_ended rfl⟩
  | ends hPoll hWatching hEmpty hSending => exact ⟨rfl, spent_of_ended rfl⟩

theorem brings_of_ended (hSending : (g.feed k).sending = false) (e : Event) :
    g.brings k e = [] := by
  cases e with
  | dispatch route =>
    simp only [brings, arrivals, hSending, Bool.false_eq_true, false_and, and_false, if_false]
    split
    · rfl
    · rfl
  | _ => rfl

theorem Spent.others (h : g.Spent k d) (hReached : Reached g)
    (hAt : g.deliveries[k]? = some d) (hSending : (g.feed k).sending = false)
    (hPrompt : g.Prompt k e) (hActs : e.acts k = false) : (g.step e).Spent k d := by
  have hSound := hReached.sound
  have hAside := aside_step hSound hReached.alive (hSound.bound hAt) hActs
  rw [brings_of_ended hSending e] at hAside
  -- Time does not pass over a delivery that watches a feed that has ended.
  have hStill : ∀ due, d.phase = .watching due → (g.step e).now = g.now := by
    intro due hWatching
    refine hPrompt.now_eq hSound hReached.alive hAt ?_
    rw [← Bool.not_eq_false, not_ready_of_watching hWatching, hSound.feed_eq hAt, hSending]
    exact fun hOpen => by cases hOpen.1.2
  refine h.keep ?_ (settings_step hSound hReached.alive e) (now_le_step hSound hReached.alive e)
    hStill fun key slot hOwn => ?_
  · rw [hAside.queue, List.append_nil]
  · exact slot_of_others hReached hActs ((exchange?_eq hAt).trans hOwn)

theorem Spent.silent (h : g.Spent k d) (hReached : Reached g) (hAt : g.deliveries[k]? = some d)
    (hSending : (g.feed k).sending = false) {events : List Event}
    (hPunctual : g.Punctual k events) : g.spoken k events = [] := by
  induction events generalizing g d with
  | nil => rfl
  | cons e rest ih =>
    obtain ⟨hPrompt, hRest⟩ := hPunctual
    have hGoing : g.Going k d.observation :=
      ⟨hReached.sound, hReached.alive, d, hAt, rfl⟩
    have hClosed : ((g.step e).feed k).sending = false := by
      rw [← Bool.not_eq_true] at hSending ⊢
      exact fun hOpen => hSending ((hGoing.step e).2 hOpen)
    rw [spoken]
    cases hActs : e.acts k with
    | true =>
      obtain ⟨r, hComes, hYields⟩ := acted_step hReached.sound hReached.alive hAt hActs
      obtain ⟨hNone, hStill⟩ := h.acts (hReached.orderly k d hAt) hComes hYields
      rw [if_pos rfl, said_eq hYields.sends, hNone]
      exact ih hStill hReached.step (hYields.delivery hAt) hClosed hRest
    | false =>
      have hAside := aside_step hReached.sound hReached.alive (hReached.sound.bound hAt) hActs
      have hStill := h.others hReached hAt hSending hPrompt hActs
      exact ih hStill hReached.step (hAside.delivery.trans hAt) hClosed hRest

/-! ## Deliveries that are not -/

/-- There is a run on which the delivery `k` sends something, without any request. -/
def GoesOn (g : Gateway) (k : Nat) : Prop :=
  ∃ events, (∀ e ∈ events, ∀ authorizer, e.asksFor authorizer = none) ∧ g.Punctual k events ∧
    g.spoken k events ≠ []

theorem GoesOn.after (h : (g.step e).GoesOn k) (hPlain : ∀ authorizer, e.asksFor authorizer = none)
    (hPrompt : g.Prompt k e) : g.GoesOn k := by
  obtain ⟨events, hEvents, hPunctual, hSpoken⟩ := h
  refine ⟨e :: events, List.forall_mem_cons.mpr ⟨hPlain, hEvents⟩, ⟨hPrompt, hPunctual⟩, ?_⟩
  rw [spoken]
  exact List.append_ne_nil_of_right_ne_nil _ hSpoken

theorem goes_on_of_comes (hReached : Reached g) (hAt : g.deliveries[k]? = some d)
    (hActs : e.acts k = true) (hSends : ∀ r, Comes g k d e r → r.packets ≠ []) : g.GoesOn k := by
  obtain ⟨r, hComes, hYields⟩ := acted_step hReached.sound hReached.alive hAt hActs
  have hPlain : (∀ authorizer, e.asksFor authorizer = none) ∧ ∀ millis, e ≠ .elapse millis := by
    cases e with
    | poll j => exact ⟨fun _ => rfl, nofun⟩
    | alarm j => exact ⟨fun _ => rfl, nofun⟩
    | _ => cases hActs
  refine ⟨[e], List.forall_mem_singleton.mpr hPlain.1, ⟨prompt_of_other hPlain.2, trivial⟩, ?_⟩
  rw [spoken, if_pos hActs, said_eq hYields.sends]
  refine List.append_ne_nil_of_left_ne_nil ?_ _
  rw [Ne, List.map_eq_nil_iff]
  exact hSends r hComes

section

variable {due : Nat} {packet : Packet} {slot attempt : Nat}

theorem Comes.of_message (h : Comes g k d (.poll k) r) (hFeed : d.feed = k)
    (hWatching : d.phase = .watching due) (hReceiving : (g.feed k).receiving = true)
    {m : Envelope} {rest : List Envelope} (hQueue : (g.feed k).queue = m :: rest) :
    r.packets ≠ [] := by
  have hOpen : ¬(Event.poll k = .alarm k ∨ (g.feed k).queue = [] ∧ (g.feed k).sending = true) := by
    rintro (hAlarm | ⟨hEmpty, -⟩)
    · cases hAlarm
    · cases hEmpty.symm.trans hQueue
  cases h with
  | rests hPoll hAlarm =>
    obtain ⟨⟨hEmpty, -⟩, -⟩ := (not_ready_of_watching hWatching).mp (hPoll rfl)
    rw [hFeed] at hEmpty
    cases hEmpty.symm.trans hQueue
  | notifies hPoll hWatching' hReceiving' hQueue' => exact List.cons_ne_nil _ _
  | asks hWatching' hDue hSilent hMay => exact (hOpen hSilent).elim
  | skips hWatching' hDue hSilent hNever => exact (hOpen hSilent).elim
  | asks_again hPoll hConfirming hNone hDue hMay => cases hWatching.symm.trans hConfirming
  | gives_up hPoll hConfirming hNone hDue hLast => cases hWatching.symm.trans hConfirming
  | answered hPoll hConfirming hAnswered => cases hWatching.symm.trans hConfirming
  | ends hPoll hWatching' hEmpty hSending =>
    rcases hEmpty with hEmpty | hEnded
    · cases hEmpty.symm.trans hQueue
    · cases hEnded.symm.trans hReceiving

theorem Comes.of_late (h : Comes g k d (.poll k) r)
    (hConfirming : d.phase = .confirming packet slot attempt due)
    (hNone : ∀ kind, g.acks.slot slot ≠ .answered kind)
    (hDue : g.acks.slot slot = .waiting → due ≤ g.now)
    (hMay : attempt + 1 < g.settings.retry.maxAttempts) : r.packets ≠ [] := by
  cases h with
  | rests hPoll hAlarm =>
    obtain ⟨hWaiting, hEarly⟩ := (not_ready_of_confirming hConfirming).mp (hPoll rfl)
    exact absurd (hDue hWaiting) (Nat.not_le.mpr hEarly)
  | asks_again hPoll hConfirming' hNone' hDue' hMay' => exact List.cons_ne_nil _ _
  | gives_up hPoll hConfirming' hNone' hDue' hLast =>
    cases hConfirming.symm.trans hConfirming'
    exact absurd hMay (Nat.not_lt.mpr hLast)
  | answered hPoll hConfirming' hAnswered =>
    cases hConfirming.symm.trans hConfirming'
    exact (hNone _ hAnswered).elim
  | notifies hPoll hWatching hReceiving hQueue => cases hWatching.symm.trans hConfirming
  | asks hWatching hDue' hSilent hMay' => cases hWatching.symm.trans hConfirming
  | skips hWatching hDue' hSilent hNever => cases hWatching.symm.trans hConfirming
  | ends hPoll hWatching hEmpty hSending => cases hWatching.symm.trans hConfirming

theorem goes_on_of_watching (hReached : Reached g) (hAt : g.deliveries[k]? = some d)
    (hWatching : d.phase = .watching due) (hOpen : ¬g.Spent k d) : g.GoesOn k := by
  cases hQueue : (g.feed k).queue with
  | cons m rest =>
    have hReceiving := (hReached.orderly k d hAt).receiving.mpr (by simp [hWatching])
    have hFeed := hReached.sound.feed_eq hAt
    have hActs : (Event.poll k).acts k = true := decide_eq_true rfl
    exact goes_on_of_comes hReached hAt hActs fun r hComes =>
      hComes.of_message hFeed hWatching hReceiving hQueue
  | nil =>
    rw [spent_of_watching hWatching, not_and, not_or, Nat.not_lt] at hOpen
    obtain ⟨hMay, hDue⟩ := hOpen hQueue
    -- The timer goes before the delivery looks at its feed and finds that it has ended.
    have hAsks : g.Asks k d (.alarm k) := ⟨hAt, ⟨due, hWatching, hDue⟩, .inl rfl⟩
    refine goes_on_of_comes hReached hAt hAsks.acts fun r hComes => ?_
    rw [hComes.of_asks hAsks (Nat.pos_of_ne_zero hMay)]
    exact List.cons_ne_nil _ _

theorem goes_on_of_acknowledged (hReached : Reached g) (hAt : g.deliveries[k]? = some d)
    (hConfirming : d.phase = .confirming packet slot attempt due)
    (hAnswered : g.acks.slot slot = .answered .ack) (hOpen : ¬g.Vacant k) : g.GoesOn k := by
  obtain ⟨r, hComes, hYields⟩ := acted_step hReached.sound hReached.alive hAt (e := .poll k)
    (decide_eq_true rfl)
  obtain ⟨hState, hBound, -⟩ := (hReached.orderly k d hAt).confirming hConfirming
  rw [hComes.of_answered hConfirming hAnswered, hState, concluded_of_open rfl] at hYields
  -- The delivery watches its feed again, and is not spent there either.
  refine (goes_on_of_watching hReached.step (hYields.delivery hAt) rfl fun hSpent => ?_).after
    (fun _ => rfl) (prompt_of_other nofun)
  obtain ⟨hEmpty, hTimer⟩ := (spent_of_watching rfl).mp hSpent
  rw [hYields.feed] at hEmpty
  rw [hYields.settings, hYields.now] at hTimer
  exact hOpen ⟨hEmpty, hTimer.resolve_left (Nat.ne_of_gt (Nat.zero_lt_of_lt hBound))⟩

theorem goes_on_of_last (hReached : Reached g) (hAt : g.deliveries[k]? = some d)
    (hConfirming : d.phase = .confirming packet slot attempt due)
    (hWaiting : g.acks.slot slot = .waiting) (hOpen : ¬g.Vacant k) : g.GoesOn k := by
  have hMatched := hReached.matched
  have hExchange := (exchange?_eq hAt).trans (exchange?_of_confirming hConfirming)
  have hAnswered : (g.acks.resolve d.observation.peer packet.messageId .ack).2.slot slot =
      .answered .ack := by
    rw [hMatched.tidy.slot_resolve, if_pos (hMatched.held k _ slot hExchange hWaiting)]
  -- As long as the question waits, the peer may still acknowledge it.
  let acknowledges : Event := .packet 0 d.observation.peer (Packet.emptyAck packet.messageId)
  have hStep : g.step acknowledges = g.resolveAck d.observation.peer packet.messageId .ack :=
    step_of_answer g 0 d.observation.peer rfl
  have hAfter : (g.step acknowledges).GoesOn k := by
    refine goes_on_of_acknowledged hReached.step (d := d) ?_ hConfirming ?_ ?_
    · rw [hStep]
      exact hAt
    · rw [hStep]
      exact hAnswered
    · rw [hStep]
      exact hOpen
  exact hAfter.after (fun _ => rfl) (prompt_of_other nofun)

theorem goes_on_of_more (hReached : Reached g) (hAt : g.deliveries[k]? = some d)
    (hConfirming : d.phase = .confirming packet slot attempt due)
    (hNone : ∀ kind, g.acks.slot slot ≠ .answered kind)
    (hMay : attempt + 1 < g.settings.retry.maxAttempts) : g.GoesOn k := by
  have hLate : ∀ g' : Gateway, Reached g' → g'.deliveries = g.deliveries → g'.acks = g.acks →
      g'.settings = g.settings → (g.acks.slot slot = .waiting → due ≤ g'.now) → g'.GoesOn k := by
    intro g' hReached' hDeliveries hAcks hSettings hDue
    have hActs : (Event.poll k).acts k = true := decide_eq_true rfl
    refine goes_on_of_comes hReached' (hDeliveries ▸ hAt) hActs fun r hComes => ?_
    exact hComes.of_late hConfirming (hAcks ▸ hNone) (hAcks ▸ hDue) (hSettings ▸ hMay)
  by_cases hReady : g.acks.slot slot = .waiting → due ≤ g.now
  · exact hLate g hReached rfl rfl rfl hReady
  · rw [Classical.not_imp, Nat.not_le] at hReady
    obtain ⟨hWaiting, hEarly⟩ := hReady
    have hClock : g.now + (due - g.now) = due := Nat.add_sub_cancel' (Nat.le_of_lt hEarly)
    have hElapsed := hLate (g.step (.elapse (due - g.now))) hReached.step rfl rfl rfl
      fun _ => Nat.le_of_eq hClock.symm
    refine hElapsed.after (fun _ => rfl) (prompt_elapse due ?_ (Nat.le_of_eq hClock))
    rw [hAt, Option.map_some, (not_ready_of_confirming hConfirming).mpr ⟨hWaiting, hEarly⟩,
      Delivery.due?, hConfirming]

theorem goes_on_of_not_spent (hReached : Reached g) (hAt : g.deliveries[k]? = some d)
    (hOpen : ¬g.Spent k d) : g.GoesOn k := by
  cases hPhase : d.phase with
  | watching due => exact goes_on_of_watching hReached hAt hPhase hOpen
  | ended => exact (hOpen (spent_of_ended hPhase)).elim
  | confirming packet slot attempt due =>
    rw [spent_of_confirming hPhase] at hOpen
    cases hSlot : g.acks.slot slot with
    | waiting =>
      rw [hSlot, Exhausted, not_and_or, Nat.not_le] at hOpen
      rcases hOpen with hMay | hOpen
      · exact goes_on_of_more hReached hAt hPhase (by simp [hSlot]) hMay
      · exact goes_on_of_last hReached hAt hPhase hSlot hOpen
    | answered kind =>
      rw [hSlot] at hOpen
      cases kind with
      | ack => exact goes_on_of_acknowledged hReached hAt hPhase hSlot hOpen
      | reset => exact (hOpen trivial).elim
    | closed =>
      rw [hSlot] at hOpen
      exact goes_on_of_more hReached hAt hPhase (by simp [hSlot]) (Nat.not_le.mp hOpen)
    | dropped =>
      rw [hSlot] at hOpen
      exact goes_on_of_more hReached hAt hPhase (by simp [hSlot]) (Nat.not_le.mp hOpen)

end

/-! ## After a cancellation -/

theorem Event.Cancels.spent_iff (h : e.Cancels g.authorizer o) (hSound : g.Sound)
    (hAlive : g.Alive) (hAt : g.deliveries[k]? = some d) :
    (g.step e).Spent k d ↔ g.Spent k d := by
  have hSteady := h.steady hSound hAlive
  have hQueue := (h.aside hSound hAlive hAt).queue
  rw [List.append_nil] at hQueue
  constructor
  · exact fun hSpent => hSpent.keep hQueue.symm hSteady.settings.symm
      (Nat.le_of_eq hSteady.now) (fun _ _ => hSteady.now.symm)
      fun _ _ _ => .inl (by rw [hSteady.acks])
  · exact fun hSpent => hSpent.keep hQueue hSteady.settings
      (Nat.le_of_eq hSteady.now.symm) (fun _ _ => hSteady.now)
      fun _ _ _ => .inl (by rw [hSteady.acks])

/-- A cancellation frees the pair of the observation. From then on, as long as the observation
is not registered again and time does not pass over what its delivery can do, the delivery
sends nothing, exactly if it was spent when the cancellation came. What it still sends goes to
the peer, with the token of the observation. -/
theorem cancelled_silent_iff (hReached : Reached g) (hAt : g.deliveries[k]? = some d)
    (hCancels : e.Cancels g.authorizer d.observation) :
    (g.step e).pair? d.observation.topic d.observation.client = none ∧
      (∀ events, ∀ sent ∈ (g.step e).spoken k events,
        sent.1 = d.observation.peer ∧ sent.2.token = d.observation.token) ∧
      ((∀ events, Unrenewed g.authorizer d.observation events → (g.step e).Punctual k events →
        (g.step e).spoken k events = []) ↔ g.Spent k d) := by
  have hSound := hReached.sound
  have hAlive := hReached.alive
  have hAfter : (g.step e).deliveries[k]? = some d :=
    (hCancels.aside hSound hAlive hAt).delivery.trans hAt
  have hGoing : (g.step e).Going k d.observation :=
    ⟨hReached.step.sound, hReached.step.alive, d, hAfter, rfl⟩
  have hFree := hCancels.pair?_eq hSound
  have hSending : ((g.step e).feed k).sending = false := by
    rw [← Bool.not_eq_true, ← hGoing.enrolled_iff]
    rintro ⟨s, hPair, -⟩
    cases hFree.symm.trans hPair
  refine ⟨hFree, addressed_spoken hReached.step hGoing, ?_⟩
  rw [← hCancels.spent_iff hSound hAlive hAt]
  constructor
  · intro hSilent
    by_contra hOpen
    obtain ⟨events, hPlain, hPunctual, hSpoken⟩ := goes_on_of_not_spent hReached.step hAfter hOpen
    refine hSpoken (hSilent events (fun e he o' hAsks => ?_) hPunctual)
    cases (hPlain e he g.authorizer).symm.trans hAsks
  · intro hSpent events _ hPunctual
    exact hSpent.silent hReached.step hAfter hSending hPunctual

/-- The request of the peer to cancel its observation. -/
def cancelling : Event :=
  .packet 0 "peer" (observing 2 [1])

theorem cancels_cancelling {authorizer : Authorizer}
    (hAccess : authorizer 0 "" "abc" = .ok "pub") :
    cancelling.Cancels authorizer silentDelivery.observation := by
  have hParsed : ChannelPath.parse? (observing 2 [1]).uriPath = some ⟨"abc", ""⟩ := by cbv
  have hCredential : ((observing 2 [1]).queryParam "auth").getD "" = "" := by cbv
  have hClient : silentDelivery.observation.client = observerId "pub" [7] := by cbv
  have hTopic : silentDelivery.observation.topic = (⟨"abc", ""⟩ : ChannelPath).topic := by cbv
  exact .request ⟨.inl rfl, hParsed, hCredential ▸ hAccess⟩ rfl (by cbv) hClient hTopic

/-- The peer has been asked for the last time. -/
theorem cancelled_silent_last : Reached ((overdue 1).step (.poll 0)) ∧
    ((overdue 1).step (.poll 0)).deliveries[0]? = some silentDelivery ∧
    cancelling.Cancels ((overdue 1).step (.poll 0)).authorizer silentDelivery.observation ∧
    (((overdue 1).step (.poll 0)).said cancelling).map (fun sent => (sent.1, sent.2.code)) =
      [("peer", Code.content)] ∧
    ∀ events, Unrenewed ((overdue 1).step (.poll 0)).authorizer silentDelivery.observation events →
      (((overdue 1).step (.poll 0)).step cancelling).Punctual 0 events →
        (((overdue 1).step (.poll 0)).step cancelling).spoken 0 events = [] := by
  have hReached : Reached ((overdue 1).step (.poll 0)) := Reached.step ⟨_, _, _, _, _, rfl⟩
  have hValues : (((overdue 1).step (.poll 0)).deliveries[0]?,
      (((overdue 1).step (.poll 0)).said cancelling).map fun sent => (sent.1, sent.2.code)) =
        (some silentDelivery, [("peer", Code.content)]) := by cbv
  obtain ⟨hAt, hSaid⟩ := Prod.mk.inj hValues
  have hCancels : cancelling.Cancels ((overdue 1).step (.poll 0)).authorizer
      silentDelivery.observation := cancels_cancelling (by cbv)
  have hSlot : ((overdue 1).step (.poll 0)).acks.slot 0 = .waiting := by cbv
  have hSpent : ((overdue 1).step (.poll 0)).Spent 0 silentDelivery := by
    rw [spent_of_confirming rfl, hSlot]
    exact ⟨by cbv, by cbv, by cbv⟩
  obtain ⟨-, -, hIff⟩ := cancelled_silent_iff hReached hAt hCancels
  exact ⟨hReached, hAt, hCancels, hSaid, hIff.mpr hSpent⟩

/-- A peer who has been asked whether it is there is asked again after it has cancelled its
observation and has been told so. -/
theorem cancelled_not_silent : Reached ((overdue 3).step (.poll 0)) ∧
    ((overdue 3).step (.poll 0)).deliveries[0]? = some silentDelivery ∧
    cancelling.Cancels ((overdue 3).step (.poll 0)).authorizer silentDelivery.observation ∧
    (((overdue 3).step (.poll 0)).said cancelling).map (fun sent => (sent.1, sent.2.code)) =
      [("peer", Code.content)] ∧
    Unrenewed ((overdue 3).step (.poll 0)).authorizer silentDelivery.observation
      [.elapse 500, .poll 0] ∧
    (((overdue 3).step (.poll 0)).step cancelling).Punctual 0 [.elapse 500, .poll 0] ∧
    ((((overdue 3).step (.poll 0)).step cancelling).spoken 0 [.elapse 500, .poll 0]).map
        (fun sent => (sent.1, sent.2.kind, sent.2.token)) = [("peer", .confirmable, [7])] := by
  have hReached : Reached ((overdue 3).step (.poll 0)) := Reached.step ⟨_, _, _, _, _, rfl⟩
  have hUnrenewed : Unrenewed ((overdue 3).step (.poll 0)).authorizer silentDelivery.observation
      [.elapse 500, .poll 0] := by
    intro e he o' hAsks
    simp only [List.mem_cons, List.not_mem_nil, or_false] at he
    rcases he with rfl | rfl
    · cases hAsks
    · cases hAsks
  have hPunctual : (((overdue 3).step (.poll 0)).step cancelling).Punctual 0
      [.elapse 500, .poll 0] :=
    ⟨prompt_elapse 1500 (by cbv) (by cbv), prompt_of_other nofun, trivial⟩
  exact ⟨hReached, by cbv, cancels_cancelling (by cbv), by cbv, hUnrenewed, hPunctual, by cbv⟩

end Gateway

end DeviceBus
