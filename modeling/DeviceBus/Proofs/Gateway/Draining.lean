import DeviceBus.Proofs.Gateway.Notices
import DeviceBus.Proofs.Gateway.Values

/-! # Nothing is kept back

As long as no question to its peer is open, an observation's delivery and the dispatches from
its mailbox bring to the peer all that has been published. So the peer is sent every message
once and in order, and has been sent all of them when there is nothing left to do.
-/

namespace DeviceBus.Gateway

open Coap Observe

variable {g g' : Gateway} {k : Nat} {o : Observation} {d : Delivery} {e : Event}
  {s : Subscription Consumer} {id : Nat}

/-! ## Tasks -/

/-- A dispatch, or an action of the delivery `k`. -/
def Event.isTask (k : Nat) : Event → Bool
  | .dispatch _ => true
  | .poll delivery => delivery = k
  | _ => false

theorem brought_of_isTask (hTask : e.isTask k = true) (topic : String) :
    brought topic (g.mail e) = [] := by
  cases e with
  | dispatch route => rfl
  | poll delivery => rfl
  | _ => cases hTask

theorem published_of_tasks {tasks : List Event} (hTasks : ∀ e ∈ tasks, e.isTask k = true)
    (topic : String) : g.published topic tasks = [] := by
  induction tasks generalizing g with
  | nil => rfl
  | cons e rest ih =>
    obtain ⟨hTask, hRest⟩ := List.forall_mem_cons.mp hTasks
    rw [published, brought_of_isTask hTask, ih hRest, List.nil_append]

theorem published_append (topic : String) (events more : List Event) :
    g.published topic (events ++ more) =
      g.published topic events ++ (g.run events).published topic more := by
  induction events generalizing g with
  | nil => rfl
  | cons e rest ih => rw [List.cons_append, published, published, ih, List.append_assoc]; rfl

/-- The delivery `k` watches its feed. -/
def Watching (g : Gateway) (k : Nat) : Prop :=
  ∃ d due, g.deliveries[k]? = some d ∧ d.phase = .watching due

/-- The peer has acknowledged what the delivery `k` has asked. -/
def Acknowledged (g : Gateway) (k : Nat) : Prop :=
  ∀ d packet slot attempt due, g.deliveries[k]? = some d →
    d.phase = .confirming packet slot attempt due → g.acks.slot slot = .answered .ack

/-- No message waits in a mailbox, and no delivery can go on without the clock. -/
def Quiet (g : Gateway) : Prop :=
  (∀ route, g.hub.broker.waiting route = []) ∧ ∀ d ∈ g.deliveries, d.isReady g = false

theorem Enrolled.of_facade (h : g.Enrolled k o) (hFacade : g'.facade = g.facade) :
    g'.Enrolled k o := by
  obtain ⟨s, hPair, hHandler⟩ := h
  refine ⟨s, ?_, hHandler⟩
  rw [pair?, Hub.pair?, ← facade, hFacade]
  exact hPair

/-! ## Dispatches -/

theorem Affects.taken {route : Nat} {tap : Tap Consumer} {data : Bytes}
    {broker : Broker (Tap Consumer)} (h : Affects g g' (.taken route))
    (hTake : g.hub.broker.takeFrom? route = some (tap, data, broker)) :
    g'.facade = g.facade ∧ g'.hub.broker = broker := by
  rw [Affects] at h
  generalize g'.facade = f' at h ⊢
  generalize g'.hub.broker = broker' at h ⊢
  cases h with
  | hands hTake' =>
    cases hTake'.symm.trans hTake
    exact ⟨rfl, rfl⟩
  | misses hNone => cases hNone.symm.trans hTake

theorem length_arrivals_le (g : Gateway) (k route : Nat) : (g.arrivals k route).length ≤ 1 := by
  unfold arrivals
  split
  · split
    · exact Option.length_toList_le
    · exact Nat.zero_le _
  · exact Nat.zero_le _

/-! ## Actions of the delivery -/

theorem poll_of_message (hAt : g.deliveries[k]? = some d) (hFeed : d.feed = k) {due : Nat}
    (hWatching : d.phase = .watching due) (hReceiving : (g.feed k).receiving = true)
    {m : Envelope} {rest : List Envelope} (hQueue : (g.feed k).queue = m :: rest) :
    g.poll k = (g.setFeed k { g.feed k with queue := rest }).notify k d m := by
  simp only [poll, hAt, hWatching, hFeed, Feed.take, hReceiving, hQueue, if_true]

theorem poll_of_acknowledged (hAt : g.deliveries[k]? = some d) {packet : Packet}
    {slot attempt due : Nat} (hConfirming : d.phase = .confirming packet slot attempt due)
    (hAnswered : g.acks.slot slot = .answered .ack) (hLives : d.state.isTerminal = false) :
    ∃ acks, g.poll k = ({ g with acks } : Gateway).watch k
      { d with state := d.state.on .ackReceived } := by
  have hStill := isTerminal_on hLives .ackReceived (by decide)
  refine ⟨(g.acks.setSlot slot .closed).drop slot, ?_⟩
  simp only [poll, hAt, hConfirming, Acks.poll, hAnswered, conclude, hStill, Bool.false_eq_true,
    if_false]

/-! ## Draining -/

/-- How much there is to do until nothing is under way. A dispatch may bring a message that
is to be sent then. -/
def load (g : Gateway) (k : Nat) (o : Observation) : Nat :=
  2 * (g.waitingFor o).length + (g.feed k).queue.length

theorem Flowing.dispatches (h : g.Flowing k o) (hEnrolled : g.Enrolled k o)
    (hWatching : g.Watching k) (hWaits : g.waitingFor o ≠ []) :
    ∃ route, (g.step (.dispatch route)).Enrolled k o ∧ (g.step (.dispatch route)).Watching k ∧
      (g.step (.dispatch route)).load k o < g.load k o := by
  obtain ⟨s, hPair, hHandler⟩ := id hEnrolled
  obtain ⟨id, hHandle, -⟩ := h.wired.standing.route _ _ s hPair
  rw [waitingFor_eq hPair hHandle] at hWaits
  have hStocked := h.wired.standing.reached.stocked
  cases hTake : g.hub.broker.takeFrom? id with
  | none => exact (hWaits ((Broker.takeFrom?_eq_none_iff hStocked).mp hTake)).elim
  | some taken =>
    obtain ⟨tap, data, broker⟩ := taken
    obtain ⟨hFacade, hBroker⟩ := (affects_dispatch g id).taken hTake
    have hAside := aside_step (e := .dispatch id) h.sound h.alive h.toGoing.lt_feeds rfl
    have hAfter : (g.step (.dispatch id)).Enrolled k o := hEnrolled.of_facade hFacade
    obtain ⟨d, due, hAt, hPhase⟩ := hWatching
    refine ⟨id, hAfter, ⟨d, due, hAside.delivery.trans hAt, hPhase⟩, ?_⟩
    have hPair' : (g.step (.dispatch id)).pair? o.topic o.client = some s := by
      rw [pair?, Hub.pair?, ← facade]
      exact (congrArg (fun f => f.registry.get? o.topic o.client) hFacade).trans hPair
    have hFirst := Broker.waiting_takeFrom? hStocked hTake id
    have hOne := length_arrivals_le g k id
    rw [if_pos rfl] at hFirst
    rw [load, load, waitingFor_eq hPair' hHandle, waitingFor_eq hPair hHandle, hAside.queue, hFirst]
    rw [show (g.step (.dispatch id)).hub.broker = broker from hBroker]
    simp only [brings, List.length_append, List.length_singleton]
    omega

theorem Flowing.notifies (h : g.Flowing k o) (hEnrolled : g.Enrolled k o)
    (hWatching : g.Watching k) (hQueue : (g.feed k).queue ≠ []) :
    (g.poll k).Enrolled k o ∧ (g.poll k).Watching k ∧ (g.poll k).load k o < g.load k o := by
  obtain ⟨d, due, hAt, hPhase⟩ := hWatching
  have hBound := h.toGoing.lt_feeds
  have hReceiving := h.alive k (h.toGoing.enrolled_iff.mp hEnrolled)
  obtain ⟨m, rest, hMessage⟩ := List.exists_cons_of_ne_nil hQueue
  have hPoll := poll_of_message hAt (h.sound.feed_eq hAt) hPhase hReceiving hMessage
  have hHub : (g.poll k).hub = g.hub := by
    rw [hPoll]
    rfl
  have hFeed : (g.poll k).feed k = { g.feed k with queue := rest } := by
    rw [hPoll]
    exact (feed_setFeed g k _ k).trans (if_pos ⟨rfl, hBound⟩)
  refine ⟨hEnrolled.of_facade (by rw [facade, hHub, facade]), ?_, ?_⟩
  · rw [hPoll]
    exact ⟨_, _, getElem?_setDelivery (g := (((g.setFeed k _).notification d .nonConfirmable
      m.payload).2.2.send d.observation.peer _).2) hAt _, rfl⟩
  · have hSame : (g.poll k).waitingFor o = g.waitingFor o := by
      rw [waitingFor, pair?, hHub, waitingFor, pair?]
    rw [load, load, hSame, hFeed, hMessage, List.length_cons]
    exact Nat.lt_succ_self _

/-- Tasks bring all that is under way to the peer. -/
theorem Flowing.drains_watching (h : g.Flowing k o) (hEnrolled : g.Enrolled k o)
    (hWatching : g.Watching k) : ∃ tasks, (∀ e ∈ tasks, Event.isTask k e = true) ∧
      (g.run tasks).Enrolled k o ∧ (g.run tasks).pending k o = [] := by
  induction hLoad : g.load k o using Nat.strongRecOn generalizing g with
  | _ n ih =>
    have hOnwards : ∀ e : Event, e.isTask k = true → (g.step e).Enrolled k o →
        (g.step e).Watching k → (g.step e).load k o < g.load k o →
          ∃ tasks, (∀ e ∈ tasks, Event.isTask k e = true) ∧
            (g.run tasks).Enrolled k o ∧ (g.run tasks).pending k o = [] := by
      intro e hTask hStill hAfter hLess
      obtain ⟨tasks, hTasks, hDone⟩ :=
        ih _ (hLoad ▸ hLess) (h.step hStill).1 hStill hAfter rfl
      exact ⟨e :: tasks, List.forall_mem_cons.mpr ⟨hTask, hTasks⟩, hDone⟩
    by_cases hWaits : g.waitingFor o = []
    · by_cases hQueue : (g.feed k).queue = []
      · refine ⟨[], List.forall_mem_nil _, hEnrolled, ?_⟩
        rw [Gateway.run, List.foldl_nil, pending, hWaits, hQueue]
        rfl
      · obtain ⟨hStill, hAfter, hLess⟩ := h.notifies hEnrolled hWatching hQueue
        exact hOnwards (.poll k) (decide_eq_true rfl) hStill hAfter hLess
    · obtain ⟨route, hStill, hAfter, hLess⟩ := h.dispatches hEnrolled hWatching hWaits
      exact hOnwards (.dispatch route) rfl hStill hAfter hLess

theorem Flowing.watching_or_confirming (h : g.Flowing k o) : g.Watching k ∨
    ∃ d packet slot attempt due, g.deliveries[k]? = some d ∧
      d.phase = .confirming packet slot attempt due := by
  obtain ⟨d, hAt, -⟩ := h.delivery
  cases hPhase : d.phase with
  | watching due => exact .inl ⟨d, due, hAt, hPhase⟩
  | confirming packet slot attempt due => exact .inr ⟨d, packet, slot, attempt, due, hAt, hPhase⟩
  | ended => exact ((h.attends d hAt).goes_on hPhase).elim

/-- The same, if the peer has acknowledged what it was asked. -/
theorem Flowing.drains (h : g.Flowing k o) (hEnrolled : g.Enrolled k o)
    (hAcknowledged : g.Acknowledged k) : ∃ tasks, (∀ e ∈ tasks, Event.isTask k e = true) ∧
      (g.run tasks).Enrolled k o ∧ (g.run tasks).pending k o = [] := by
  rcases h.watching_or_confirming with hWatching | ⟨d, packet, slot, attempt, due, hAt, hPhase⟩
  · exact h.drains_watching hEnrolled hWatching
  · obtain ⟨acks, hPoll⟩ := poll_of_acknowledged hAt hPhase
      (hAcknowledged d packet slot attempt due hAt hPhase) (h.attends d hAt).lives
    have hStill : (g.step (.poll k)).Enrolled k o := by
      rw [Gateway.step, hPoll]
      exact hEnrolled.of_facade rfl
    have hWatching : (g.step (.poll k)).Watching k := by
      rw [Gateway.step, hPoll]
      exact ⟨_, _, getElem?_setDelivery (g := { g with acks }) hAt _, rfl⟩
    obtain ⟨tasks, hTasks, hDone⟩ := (h.step hStill).1.drains_watching hStill hWatching
    exact ⟨.poll k :: tasks, List.forall_mem_cons.mpr ⟨decide_eq_true rfl, hTasks⟩, hDone⟩

/-- When there is nothing left to do, nothing is under way. -/
theorem Flowing.pending_of_quiet (h : g.Flowing k o) (hEnrolled : g.Enrolled k o)
    (hAcknowledged : g.Acknowledged k) (hQuiet : g.Quiet) : g.pending k o = [] := by
  obtain ⟨hMailboxes, hDeliveries⟩ := hQuiet
  obtain ⟨s, hPair, -⟩ := hEnrolled
  obtain ⟨id, hHandle, -⟩ := h.wired.standing.route _ _ s hPair
  have hQueue : (g.feed k).queue = [] := by
    rcases h.watching_or_confirming with ⟨d, due, hAt, hPhase⟩ |
      ⟨d, packet, slot, attempt, due, hAt, hPhase⟩
    · have hReady := hDeliveries d (List.mem_of_getElem? hAt)
      simp only [Delivery.isReady, hPhase, h.sound.feed_eq hAt, Bool.or_eq_false_iff] at hReady
      simpa using hReady.1.1
    · have hReady := hDeliveries d (List.mem_of_getElem? hAt)
      simp [Delivery.isReady, hPhase, hAcknowledged d packet slot attempt due hAt hPhase] at hReady
  rw [pending_eq hPair hHandle, hQueue, hMailboxes]
  rfl

/-- When there is nothing left to do, the peer has been notified of all that was under way and
all that was published since. -/
theorem Flowing.completes (h : g.Flowing k o) {events : List Event}
    (hStill : (g.run events).Enrolled k o) (hAcknowledged : (g.run events).Acknowledged k)
    (hQuiet : (g.run events).Quiet) :
    payloads (g.notices k events) = g.pending k o ++ g.published o.topic events := by
  obtain ⟨hFlowing, hFlow, -⟩ := h.run hStill
  rw [← hFlow, hFlowing.pending_of_quiet hStill hAcknowledged hQuiet, List.append_nil]

/-- Tasks alone lead there. -/
theorem Flowing.finishes (h : g.Flowing k o) {events : List Event}
    (hStill : (g.run events).Enrolled k o) (hAcknowledged : (g.run events).Acknowledged k) :
    ∃ tasks, (∀ e ∈ tasks, Event.isTask k e = true) ∧ (g.run (events ++ tasks)).Enrolled k o ∧
      payloads (g.notices k (events ++ tasks)) = g.pending k o ++ g.published o.topic events := by
  obtain ⟨tasks, hTasks, hEnrolled, hDone⟩ := (h.run hStill).1.drains hStill hAcknowledged
  rw [← run_append] at hEnrolled hDone
  obtain ⟨-, hFlow, -⟩ := h.run hEnrolled
  rw [hDone, List.append_nil, published_append, published_of_tasks hTasks,
    List.append_nil] at hFlow
  exact ⟨tasks, hTasks, hEnrolled, hFlow⟩

/-! ## From the registration on -/

theorem flowing_begins (hSound : g.Sound) (hAlive : g.Alive) (hWired : g.Wired)
    (hAsks : e.asksFor g.authorizer = some o)
    (hBegins : (g.step e).Enrolled g.deliveries.length o) :
    (g.step e).Flowing g.deliveries.length o ∧
      (g.step e).pending g.deliveries.length o = [] := by
  obtain ⟨-, hFeed, due, hAt⟩ := answers_begins hSound hAsks hBegins
  have hAffects := affects_step hSound hAlive e
  obtain ⟨s, hPair, hHandler⟩ := id hBegins
  have hFree : g.pair? o.topic o.client = none := by
    cases hBefore : g.pair? o.topic o.client with
    | none => rfl
    | some s' =>
      cases hAffects.pair_eq hBefore hPair
      have hServes := (hSound.served _ _ s _ hBefore hHandler).1
      rw [Serves, List.getElem?_map, List.getElem?_eq_none (Nat.le_refl _)] at hServes
      cases hServes
  obtain ⟨hHandle, hWaiting⟩ := hAffects.waiting_new hWired.standing.reached hFree hPair
  constructor
  · refine ⟨⟨sound_step hSound e, alive_step hSound hAlive e, _, hAt, rfl⟩,
      wired_step hSound hAlive hWired e, fun d hd => ?_⟩
    cases hAt.symm.trans hd
    exact attends_of_watching rfl rfl
  · rw [pending_eq hPair hHandle, hFeed, hWaiting]
    rfl

/-- What the delivery `k` notifies its peer of along a run is what is published for its
observation: each message once and in order, and all of them when there is nothing left to do
and no question to the peer is open. Tasks alone lead there. -/
structure InOrder (g : Gateway) (k : Nat) (o : Observation) (events : List Event) : Prop where
  addressed : ∀ sent ∈ g.notices k events, sent.1 = o.peer ∧ sent.2.token = o.token
  conserved : payloads (g.notices k events) ++ (g.run events).pending k o =
    g.published o.topic events
  initial : payloads (g.notices k events) <+: g.published o.topic events
  complete : (g.run events).Acknowledged k → (g.run events).Quiet →
    payloads (g.notices k events) = g.published o.topic events
  drains : (g.run events).Acknowledged k → ∃ tasks, (∀ e ∈ tasks, Event.isTask k e = true) ∧
    (g.run (events ++ tasks)).Enrolled k o ∧
      payloads (g.notices k (events ++ tasks)) = g.published o.topic events

theorem Flowing.in_order (h : g.Flowing k o) (hNothing : g.pending k o = [])
    {events : List Event} (hStill : (g.run events).Enrolled k o) : g.InOrder k o events := by
  obtain ⟨-, hFlow, hSent⟩ := h.run hStill
  rw [hNothing, List.nil_append] at hFlow
  constructor
  · exact hSent
  · exact hFlow
  · exact ⟨_, hFlow⟩
  · intro hAcknowledged hQuiet
    rw [h.completes hStill hAcknowledged hQuiet, hNothing, List.nil_append]
  · intro hAcknowledged
    obtain ⟨tasks, hTasks, hEnrolled, hAll⟩ := h.finishes hStill hAcknowledged
    rw [hNothing, List.nil_append] at hAll
    exact ⟨tasks, hTasks, hEnrolled, hAll⟩

/-- From the registration of an observation on, and as long as it is registered, its peer is
notified in order. -/
theorem notices_in_order (authorizer : Authorizer) (settings : Settings) (firstId : UInt16)
    (before : List Event) (hReached : g = (opened none authorizer settings firstId).run before)
    (hAsks : e.asksFor g.authorizer = some o)
    (hBegins : (g.step e).Enrolled g.deliveries.length o) (after : List Event)
    (hStill : ((g.step e).run after).Enrolled g.deliveries.length o) :
    (g.step e).InOrder g.deliveries.length o after := by
  have hSound := sound_opened none authorizer settings firstId
  have hAlive := alive_opened none authorizer settings firstId
  have hWired := wired_opened authorizer settings firstId
  obtain ⟨hBegun, hNothing⟩ := flowing_begins (hReached ▸ sound_run hSound before)
    (hReached ▸ alive_run hSound hAlive before) (hReached ▸ wired_run hSound hAlive hWired before)
    hAsks hBegins
  exact hBegun.in_order hNothing hStill

/-- The peer is asked whether it is there, and two messages come before its answer. -/
def interrupted : List Event :=
  [.elapse 1000, .poll 0, .publish "abc" { channel := "abc", payload := [1] },
    .publish "abc" { channel := "abc", payload := [2] }, .dispatch 0, .dispatch 0,
    .packet 0 "peer" (Packet.emptyAck 0), .poll 0, .poll 0, .poll 0]

theorem notices_in_order_interrupted :
    attentive = (opened none attentive.authorizer attentive.settings 0).run [] ∧
      beginning.asksFor attentive.authorizer = some watched ∧
      (attentive.step beginning).Enrolled 0 watched ∧
      ((attentive.step beginning).run interrupted).Enrolled 0 watched ∧
      (attentive.step beginning).InOrder 0 watched interrupted ∧
      payloads ((attentive.step beginning).notices 0 interrupted) = [[1], [2]] := by
  have hAsks : beginning.asksFor attentive.authorizer = some watched := by cbv
  have hFirst : (attentive.step beginning).pair? "channels.abc" "pub-07" =
      some { ticket := 0, handle := some 0, handler := .feed 0 } := by cbv
  have hLast : (((attentive.step beginning).run interrupted).pair? "channels.abc" "pub-07",
      ((attentive.step beginning).run interrupted).hub.broker.mailboxes,
      ((attentive.step beginning).run interrupted).deliveries.map fun d =>
        (d.phase, d.isReady ((attentive.step beginning).run interrupted)),
      (attentive.step beginning).published "channels.abc" interrupted) =
        (some { ticket := 0, handle := some 0, handler := .feed 0 }, [],
          [(.watching 2000, false)], [[1], [2]]) := by cbv
  simp only [Prod.mk.injEq] at hLast
  obtain ⟨hPair, hMailboxes, hDeliveries, hPublished⟩ := hLast
  have hWatches : ∀ d ∈ ((attentive.step beginning).run interrupted).deliveries,
      d.phase = .watching 2000 ∧
        d.isReady ((attentive.step beginning).run interrupted) = false := by
    intro d hd
    have hMem := List.mem_map_of_mem hd (f := fun d : Delivery =>
      (d.phase, d.isReady ((attentive.step beginning).run interrupted)))
    rw [hDeliveries, List.mem_singleton] at hMem
    exact Prod.mk.inj hMem
  have hInOrder : (attentive.step beginning).InOrder 0 watched interrupted :=
    notices_in_order attentive.authorizer attentive.settings 0 [] rfl hAsks ⟨_, hFirst, rfl⟩
      interrupted ⟨_, hPair, rfl⟩
  refine ⟨rfl, hAsks, ⟨_, hFirst, rfl⟩, ⟨_, hPair, rfl⟩, hInOrder, ?_⟩
  refine (hInOrder.complete ?_ ⟨fun route => ?_, fun d hd => (hWatches d hd).2⟩).trans hPublished
  · intro d packet slot attempt due hAt hConfirming
    cases (hWatches d (List.mem_of_getElem? hAt)).1.symm.trans hConfirming
  · rw [Broker.waiting, hMailboxes]
    rfl

end DeviceBus.Gateway
