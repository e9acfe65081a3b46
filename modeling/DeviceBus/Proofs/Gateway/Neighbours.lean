import DeviceBus.Proofs.Gateway.Cancelling
import DeviceBus.Proofs.Gateway.Draining

/-! # Observers side by side

Observations are told apart by publisher, token and topic, and not by peer. Two peers with the
credential of one publisher and with one token meet in one registration: it belongs to the one
who came first, the other is answered as if it had one of its own, and a request of either
cancels it. Apart from this no packet of a peer touches the observation of another.
-/

namespace DeviceBus

namespace Gateway

open Coap Observe

variable {g g' : Gateway} {k : Nat} {o : Observation} {e : Event} {wall : Int64} {peer : Peer}
  {p : Packet}

/-- The observation is registered, and its delivery is `k`. -/
structure Observes (g : Gateway) (k : Nat) (o : Observation) : Prop where
  delivery : ∃ d, g.deliveries[k]? = some d ∧ d.observation = o
  enrolled : g.Enrolled k o

theorem Observes.going (h : g.Observes k o) (hReached : Reached g) : g.Going k o :=
  ⟨hReached.sound, hReached.alive, h.delivery⟩

theorem Observes.flowing (h : g.Observes k o) (hReached : Reached g) (hWired : g.Wired) :
    g.Flowing k o := by
  have hGoing := h.going hReached
  have hReceiving := hReached.alive k (hGoing.enrolled_iff.mp h.enrolled)
  refine ⟨hGoing, hWired, fun d hAt => ?_⟩
  have hMinds := hReached.orderly k d hAt
  cases hPhase : d.phase with
  | watching due =>
    obtain ⟨-, -, -, -, hLives⟩ := State.on_of_open (hMinds.watching hPhase)
    exact attends_of_watching hPhase hLives
  | confirming packet slot attempt due =>
    obtain ⟨hState, -, hProbe, -⟩ := hMinds.confirming hPhase
    refine ⟨fun packet' _ _ _ hSame => ?_, by simp [hPhase], by rw [hState]; rfl⟩
    cases hPhase.symm.trans hSame
    exact hProbe
  | ended => exact (hMinds.receiving.mp hReceiving hPhase).elim

/-! ## Who is registered -/

theorem subscribe_free (hSound : g.Sound) {client topic : String} (consumer : Consumer)
    (hFree : g.pair? topic client = none) :
    (g.subscribe client topic consumer).2 ≠ .error .alreadySubscribed := by
  intro hRefused
  refine Hub.taken_of_refused consumer hSound.idle hSound.facades ?_ hFree
  simp only [subscribe, perform] at hRefused
  generalize (g.hub.perform {} (.subscribe 0 client topic consumer)).2.2 = result at hRefused ⊢
  cases result with
  | none => cases hRefused
  | some result => exact congrArg some hRefused

/-- A request for a free pair is answered with a value only if it takes the pair. -/
theorem enrolled_of_answers (hSound : g.Sound) (hAsks : e.asksFor g.authorizer = some o)
    {value : UInt32} (hAnswers : g.Answers e o value)
    (hFree : g.pair? o.topic o.client = none) :
    (g.step e).Enrolled g.deliveries.length o := by
  obtain ⟨wall, p, rfl, -, hHandle⟩ := handle_asksFor hAsks
  obtain ⟨reply, hSaid, hObserve, -⟩ := hAnswers
  obtain ⟨log, hReceive⟩ := receive_eq g wall o.peer p
  have hReply : (g.register p o).1 = some reply := by
    rw [said_eq (sends_receive g wall o.peer p), hHandle] at hSaid
    generalize (g.register p o).1 = first at hSaid
    cases first with
    | none => cases hSaid
    | some first =>
      cases hSaid
      rfl
  have hFirst := subscribe_free hSound (.feed g.feeds.length) hFree
  have hSubscribed : (g.register p o).2.Enrolled g.deliveries.length o := by
    rcases subscribe_cases hSound o.client o.topic (.feed g.feeds.length) with
      ⟨e, hub, hSubscribe, -⟩ | ⟨s, hub, -, -, -, hHandler, hSubscribe, -, -, hPairs⟩
    · rw [hSubscribe] at hFirst
      rw [register, next_started, hSubscribe] at hReply
      dsimp only at hReply
      split at hReply
      · rename_i hOk
        cases hOk
      · rename_i hTaken
        cases hTaken
        exact (hFirst rfl).elim
      · rename_i g₁ _ _ _
        obtain ⟨refusal, nextId, hAnswer, hNone⟩ := observe_answer g₁ p Code.internalServerError
        rw [hAnswer] at hReply
        cases hReply
        cases hNone.symm.trans hObserve
    · refine ⟨s, ?_, hHandler.trans (congrArg _ hSound.feeds)⟩
      rcases register_cases g p o with
        ⟨g₁, d, reply, nextId, hOk, hRegister⟩ | ⟨g₁, e, reply, nextId, hError, hRegister⟩
      · cases hSubscribe.symm.trans hOk
        rw [hRegister]
        exact (hPairs _ _).trans (if_pos ⟨rfl, rfl⟩)
      · cases hSubscribe.symm.trans hError
  rw [step, hReceive, hHandle]
  exact hSubscribed

/-! ## Packets of others -/

/-- The delivery `k`, what is queued for it and the answer that it waits for are as before. -/
structure Undisturbed (g g' : Gateway) (k : Nat) : Prop where
  delivery : g'.deliveries[k]? = g.deliveries[k]?
  queue : (g'.feed k).queue = (g.feed k).queue
  answer : ∀ key slot, g.exchange? k = some (key, slot) → g'.acks.slot slot = g.acks.slot slot

theorem Observes.undisturbed (h : g.Observes k o) (hReached : Reached g) (wall : Int64)
    (p : Packet) (hOther : peer ≠ o.peer) : Undisturbed g (g.step (.packet wall peer p)) k := by
  obtain ⟨d, hAt, rfl⟩ := h.delivery
  have hSound := hReached.sound
  have hAside := aside_step (e := .packet wall peer p) hSound hReached.alive (hSound.bound hAt) rfl
  refine ⟨hAside.delivery, hAside.queue.trans (List.append_nil _), fun key slot hExchange => ?_⟩
  cases happens hSound hReached.alive (.packet wall peer p) with
  | acts hAt' hActs hComes hYields => cases hActs
  | steady hSteady => rw [hSteady.acks]
  | @answers _ _ _ kind hAnswer hStep =>
    have hMatched := hReached.matched
    rw [hStep, resolveAck, hMatched.tidy.slot_resolve, if_neg]
    -- The entry of a peer is that of an exchange with this peer.
    intro hEntry
    obtain ⟨j, hOwner⟩ := hMatched.owned _ slot hEntry
    cases hMatched.apart j k _ key slot hOwner hExchange
    cases hOwner.symm.trans hExchange
    obtain ⟨d', packet, attempt, due, hAt', -, hKey⟩ := exists_of_exchange? hExchange
    cases hAt.symm.trans hAt'
    exact hOther (congrArg Prod.fst hKey)

theorem pair?_register (hSound : g.Sound) (request : Packet) (o : Observation)
    {topic client : String} {s : Subscription Consumer} (hPair : g.pair? topic client = some s) :
    (g.register request o).2.pair? topic client = some s := by
  have hSubscribe : (g.subscribe o.client o.topic (.feed g.feeds.length)).1.pair? topic client =
      some s := by
    rcases subscribe_cases hSound o.client o.topic (.feed g.feeds.length) with
      ⟨e, hub, hSubscribe, hKeeps⟩ | ⟨s', hub, hFree, -, -, -, hSubscribe, -, -, hPairs⟩
    · rw [hSubscribe]
      exact (hKeeps.pairs topic client).trans hPair
    · rw [hSubscribe]
      refine (hPairs topic client).trans ((if_neg ?_).trans hPair)
      rintro ⟨rfl, rfl⟩
      cases hFree.symm.trans hPair
  rcases register_cases g request o with
    ⟨g₁, d, reply, nextId, hOk, hRegister⟩ | ⟨g₁, e, reply, nextId, hError, hRegister⟩
  · rw [hOk] at hSubscribe
    rw [hRegister]
    exact hSubscribe
  · rw [hError] at hSubscribe
    rw [hRegister]
    exact hSubscribe

theorem pair?_packet (hSound : g.Sound) {s : Subscription Consumer}
    (hPair : g.pair? o.topic o.client = some s)
    (hSpares : ¬(Event.packet wall peer p).Cancels g.authorizer o) :
    (g.step (.packet wall peer p)).pair? o.topic o.client = some s := by
  obtain ⟨log, hReceive⟩ := receive_eq g wall peer p
  rw [step, hReceive]
  change (g.handle wall peer p).2.pair? o.topic o.client = some s
  have hHandled := handled_handle g wall peer p
  generalize g.handle wall peer p = outcome at hHandled
  cases hHandled with
  | idle hIdle => exact (hIdle.pair?_eq _ _).trans hPair
  | posted hAdmitted hCode hConcrete hPayload hOutcome =>
    exact (hOutcome.pair?_eq _ _).trans
      (((keeps_publish hSound.idle _ _).pairs _ _).trans hPair)
  | registered hAdmitted hCode hObserve hOutcome =>
    rw [hOutcome]
    exact pair?_register hSound p _ hPair
  | @deregistered path publisher hAdmitted hCode hObserve hOutcome =>
    refine (hOutcome.pair?_eq _ _).trans ?_
    rcases unsubscribe_cases hSound (observerId publisher p.token) path.topic with
      ⟨e, hUnsubscribe, -⟩ | ⟨s', hub, result, -, hUnsubscribe, -, -, hPairs⟩
    · rw [hUnsubscribe]
      exact hPair
    · rw [hUnsubscribe, pair?, hub_cancelled]
      refine (hPairs _ _).trans ((if_neg ?_).trans hPair)
      rintro ⟨hTopic, hClient⟩
      exact hSpares (.request hAdmitted hCode hObserve hClient hTopic)

theorem Observes.packet_iff (h : g.Observes k o) (hReached : Reached g) (wall : Int64)
    (peer : Peer) (p : Packet) : (g.step (.packet wall peer p)).Observes k o ↔
      ¬(Event.packet wall peer p).Cancels g.authorizer o := by
  constructor
  · rintro ⟨-, s, hPair, -⟩ hCancels
    cases (hCancels.pair?_eq hReached.sound).symm.trans hPair
  · intro hSpares
    obtain ⟨s, hPair, hHandler⟩ := h.enrolled
    exact ⟨((h.going hReached).step _).1.delivery, s, pair?_packet hReached.sound hPair hSpares,
      hHandler⟩

/-! ## What an answer is worth -/

/-- A peer that is answered has the registration if the pair was free or is its own already. -/
theorem observes_answered_iff (hReached : Reached g) (hAsks : e.asksFor g.authorizer = some o)
    {value : UInt32} (hAnswers : g.Answers e o value) :
    (∃ k, (g.step e).Observes k o) ↔
      g.pair? o.topic o.client = none ∨ ∃ k, g.Observes k o := by
  have hSound := hReached.sound
  have hAlive := hReached.alive
  constructor
  · rintro ⟨k, ⟨d, hAt, hObservation⟩, s, hPair, hHandler⟩
    cases hBefore : g.pair? o.topic o.client with
    | none => exact .inl rfl
    | some s' =>
      cases (affects_step hSound hAlive e).pair_eq hBefore hPair
      have hServes := (hSound.served _ _ s k hBefore hHandler).1
      rw [Serves, List.getElem?_map] at hServes
      obtain ⟨d', hAt', -⟩ := Option.map_eq_some_iff.mp hServes
      have hAside := aside_step hSound hAlive (hSound.bound hAt') (not_acts_of_asksFor hAsks)
      cases hAt.symm.trans (hAside.delivery.trans hAt')
      exact .inr ⟨k, ⟨d, hAt', hObservation⟩, s, hBefore, hHandler⟩
  · rintro (hFree | ⟨k, hObserves⟩)
    · have hEnrolled := enrolled_of_answers hSound hAsks hAnswers hFree
      obtain ⟨-, -, due, hAt⟩ := answers_begins hSound hAsks hEnrolled
      exact ⟨_, ⟨_, hAt, rfl⟩, hEnrolled⟩
    · obtain ⟨path, wall, p, publisher, rfl, -, -, hRegisters, -⟩ :=
        Event.asksFor_eq_some_iff.mp hAsks
      refine ⟨k, (hObserves.packet_iff hReached wall o.peer p).mpr fun hCancels => ?_⟩
      cases hCancels with
      | request hAdmitted hCode hObserve hClient hTopic =>
        cases hRegisters.symm.trans hObserve

/-- What a published message leads to for an observation that stays registered: when there is
nothing left to do its peer has been notified of what was under way, then of the message, then
of what came after. Tasks alone lead there. -/
structure Notifies (g : Gateway) (k : Nat) (o : Observation) (post : Event) (payload : Bytes)
    (after : List Event) : Prop where
  addressed : ∀ sent ∈ g.notices k (post :: after), sent.1 = o.peer ∧ sent.2.token = o.token
  complete : (g.run (post :: after)).Acknowledged k → (g.run (post :: after)).Quiet →
    payloads (g.notices k (post :: after)) =
      g.pending k o ++ payload :: (g.step post).published o.topic after
  drains : (g.run (post :: after)).Acknowledged k →
    ∃ tasks, (∀ e ∈ tasks, Event.isTask k e = true) ∧
      (g.run (post :: after ++ tasks)).Enrolled k o ∧
        payloads (g.notices k (post :: after ++ tasks)) =
          g.pending k o ++ payload :: (g.step post).published o.topic after

theorem Flowing.notifies_all (h : g.Flowing k o) {post : Event} {payload : Bytes}
    {after : List Event} (hPost : brought o.topic (g.mail post) = [payload])
    (hStill : (g.run (post :: after)).Enrolled k o) : g.Notifies k o post payload after := by
  have hPublished : g.published o.topic (post :: after) =
      payload :: (g.step post).published o.topic after := by
    rw [published, hPost, List.singleton_append]
  constructor
  · exact (h.run hStill).2.2
  · intro hAcknowledged hQuiet
    rw [h.completes hStill hAcknowledged hQuiet, hPublished]
  · intro hAcknowledged
    rw [← hPublished]
    exact h.finishes hStill hAcknowledged

/-- What the answer to a request to observe is worth to the peer that has sent it. -/
structure Assured (g : Gateway) (e : Event) (o : Observation) : Prop where
  observes_iff : (∃ k, (g.step e).Observes k o) ↔
    g.pair? o.topic o.client = none ∨ ∃ k, g.Observes k o
  notifies : ∀ k before post payload after, (g.step e).Observes k o →
    brought o.topic (((g.step e).run before).mail post) = [payload] →
      ((g.step e).run (before ++ post :: after)).Enrolled k o →
        ((g.step e).run before).Notifies k o post payload after

/-- A peer whose request to observe is answered is registered exactly if the pair of publisher,
token and topic was free or is its own; then it is notified of whatever is published next, as
long as its observation is not ended. No packet of another peer touches an observation, but
for the request to cancel it, which ends it from whatever peer it comes. -/
theorem observers_apart (authorizer : Authorizer) (settings : Settings) (firstId : UInt16)
    (history : List Event) (hHistory : g = (opened none authorizer settings firstId).run history) :
    (∀ e o value, e.asksFor g.authorizer = some o → g.Answers e o value → g.Assured e o) ∧
      ∀ k o wall peer p, g.Observes k o → peer ≠ o.peer →
        Undisturbed g (g.step (.packet wall peer p)) k ∧
          ((g.step (.packet wall peer p)).Observes k o ↔
            ¬(Event.packet wall peer p).Cancels g.authorizer o) := by
  have hReached : Reached g := ⟨none, authorizer, settings, firstId, history, hHistory⟩
  have hWired : g.Wired := by
    rw [hHistory]
    exact wired_run (sound_opened none authorizer settings firstId)
      (alive_opened none authorizer settings firstId) (wired_opened authorizer settings firstId)
      history
  constructor
  · intro e o value hAsks hAnswers
    refine ⟨observes_answered_iff hReached hAsks hAnswers, ?_⟩
    intro k before post payload after hObserves hPost hStill
    rw [run_append] at hStill
    have hLater : Reached ((g.step e).run before) := hReached.run (e :: before)
    have hGoing := ((hObserves.going hReached.step).run before).1
    have hNow : ((g.step e).run before).Observes k o :=
      ⟨hGoing.delivery, hGoing.enrolled_of_run hStill⟩
    have hRoutes : ((g.step e).run before).Wired :=
      wired_run hReached.sound hReached.alive hWired (e :: before)
    exact (hNow.flowing hLater hRoutes).notifies_all hPost hStill
  · intro k o wall peer p hObserves hOther
    exact ⟨hObserves.undisturbed hReached wall p hOther, hObserves.packet_iff hReached wall peer p⟩

/-- Another peer asks to observe the channel `abc`, with a token of its own. -/
def joining : Event :=
  .packet 0 "other" { observing 2 [] with token := [8] }

def joined : Observation where
  client := "pub-08"
  topic := "channels.abc"
  peer := "other"
  token := [8]

/-- A message for the channel `abc`. -/
def posted : Event :=
  .publish "abc" { channel := "abc", payload := [1] }

/-- The message goes to both peers. -/
def handedOn : List Event :=
  [.dispatch 0, .dispatch 1, .poll 0, .poll 1]

theorem observes_of_map (hAt : (g.deliveries.map Delivery.observation)[k]? = some o)
    {s : Subscription Consumer} (hPair : g.pair? o.topic o.client = some s)
    (hHandler : s.handler = .feed k) : g.Observes k o := by
  rw [List.getElem?_map] at hAt
  exact ⟨Option.map_eq_some_iff.mp hAt, s, hPair, hHandler⟩

/-- Two peers with tokens of their own are both notified. -/
theorem observers_apart_joining :
    attentive.step beginning =
      (opened none attentive.authorizer attentive.settings 0).run [beginning] ∧
    joining.asksFor (attentive.step beginning).authorizer = some joined ∧
    (attentive.step beginning).Answers joining joined 0 ∧
    ((attentive.step beginning).step joining).Observes 1 joined ∧
    payloads (((attentive.step beginning).step joining).notices 1 (posted :: handedOn)) = [[1]] ∧
    (attentive.step beginning).Observes 0 watched ∧
    ((attentive.step beginning).step joining).Observes 0 watched := by
  have hAsks : joining.asksFor (attentive.step beginning).authorizer = some joined := by cbv
  have hAnswers : (attentive.step beginning).Answers joining joined 0 :=
    ⟨{ kind := .acknowledgement, code := Code.content, messageId := 2, token := [8],
        options := [⟨Opt.observeNumber, []⟩] }, by cbv, by cbv, rfl⟩
  have hFirst : ((attentive.step beginning).deliveries.map Delivery.observation,
      (attentive.step beginning).pair? "channels.abc" "pub-07") =
        ([watched], some { ticket := 0, handle := some 0, handler := .feed 0 }) := by cbv
  have hSecond : (((attentive.step beginning).step joining).deliveries.map Delivery.observation,
      ((attentive.step beginning).step joining).pair? "channels.abc" "pub-08",
      ((attentive.step beginning).step joining).pending 1 joined,
      (((attentive.step beginning).step joining).step posted).published "channels.abc" handedOn,
      brought "channels.abc" (((attentive.step beginning).step joining).mail posted)) =
        ([watched, joined], some { ticket := 1, handle := some 1, handler := .feed 1 }, [], [],
          [[1]]) := by cbv
  have hLast : ((((attentive.step beginning).step joining).run (posted :: handedOn)).pair?
        "channels.abc" "pub-08",
      (((attentive.step beginning).step joining).run (posted :: handedOn)).hub.broker.mailboxes,
      (((attentive.step beginning).step joining).run (posted :: handedOn)).deliveries.map fun d =>
        (d.phase, d.isReady
          (((attentive.step beginning).step joining).run (posted :: handedOn)))) =
        (some { ticket := 1, handle := some 1, handler := .feed 1 }, [],
          [(.watching 1000, false), (.watching 1000, false)]) := by cbv
  simp only [Prod.mk.injEq] at hFirst hSecond hLast
  obtain ⟨hWatched, hPair⟩ := hFirst
  obtain ⟨hJoined, hOwn, hPending, hPublished, hPost⟩ := hSecond
  obtain ⟨hStill, hMailboxes, hDeliveries⟩ := hLast
  have hBefore : (attentive.step beginning).Observes 0 watched :=
    observes_of_map (by rw [hWatched]; rfl) hPair rfl
  have hAfter : ((attentive.step beginning).step joining).Observes 1 joined :=
    observes_of_map (by rw [hJoined]; rfl) hOwn rfl
  have hWatches : ∀ d ∈ (((attentive.step beginning).step joining).run
      (posted :: handedOn)).deliveries, d.phase = .watching 1000 ∧
        d.isReady (((attentive.step beginning).step joining).run (posted :: handedOn)) = false := by
    intro d hd
    have hMember := List.mem_map_of_mem hd (f := fun d : Delivery =>
      (d.phase, d.isReady (((attentive.step beginning).step joining).run (posted :: handedOn))))
    rw [hDeliveries] at hMember
    simpa using hMember
  obtain ⟨hAssured, hSpared⟩ := observers_apart attentive.authorizer attentive.settings 0
    [beginning] (g := attentive.step beginning) rfl
  have hNotifies : ((attentive.step beginning).step joining).Notifies 1 joined posted [1]
      handedOn :=
    (hAssured joining joined 0 hAsks hAnswers).notifies 1 [] posted [1] handedOn hAfter hPost
      ⟨_, hStill, rfl⟩
  refine ⟨rfl, hAsks, hAnswers, hAfter, ?_, hBefore, ?_⟩
  · refine (hNotifies.complete ?_ ⟨fun route => ?_, fun d hd => (hWatches d hd).2⟩).trans ?_
    · intro d packet slot attempt due hAt hConfirming
      cases (hWatches d (List.mem_of_getElem? hAt)).1.symm.trans hConfirming
    · rw [Broker.waiting, hMailboxes]
      rfl
    · rw [hPending]
      exact congrArg ([1] :: ·) hPublished
  · refine (hSpared 0 watched 0 "other" _ hBefore (by decide)).2.mpr fun hCancels => ?_
    have hObserve : ({ observing 2 [] with token := [8] } : Packet).observe = some 0 := by cbv
    cases hCancels with
    | request hAdmitted hCode hStops hClient hTopic => cases hObserve.symm.trans hStops

/-- Another peer asks to observe the channel `abc` with the token of the first, and a message
comes. -/
def meeting : List Event :=
  [.packet 0 "other" (observing 2 []), posted, .dispatch 0, .poll 0]

/-- A peer that uses the token of another is answered as if it had been registered, and is not
notified. When it cancels what it has asked for, the observation of the other is over. -/
theorem observers_meet : Reached (attentive.step beginning) ∧
    (attentive.step beginning).Observes 0 watched ∧
    (Event.packet 0 "other" (observing 2 [])).asksFor (attentive.step beginning).authorizer =
      some { watched with peer := "other" } ∧
    (attentive.step beginning).Answers (.packet 0 "other" (observing 2 []))
      { watched with peer := "other" } 0 ∧
    ((attentive.step beginning).run meeting).Quiet ∧
    (((attentive.step beginning).run meeting).log.filterMap Output.packet?).map
        (fun sent => (sent.1, sent.2.kind, sent.2.payload)) =
      [("peer", .acknowledgement, []), ("other", .acknowledgement, []),
        ("peer", .nonConfirmable, [1])] ∧
    ((attentive.step beginning).run meeting).Observes 0 watched ∧
    ¬(((attentive.step beginning).run meeting).step
      (.packet 0 "other" (observing 3 [1]))).Observes 0 watched := by
  have hAnswers : (attentive.step beginning).Answers (.packet 0 "other" (observing 2 []))
      { watched with peer := "other" } 0 :=
    ⟨{ kind := .acknowledgement, code := Code.content, messageId := 2, token := [7],
        options := [⟨Opt.observeNumber, []⟩] }, by cbv, by cbv, rfl⟩
  have hFirst : ((attentive.step beginning).deliveries.map Delivery.observation,
      (attentive.step beginning).pair? "channels.abc" "pub-07") =
        ([watched], some { ticket := 0, handle := some 0, handler := .feed 0 }) := by cbv
  have hLast : (((attentive.step beginning).run meeting).deliveries.map Delivery.observation,
      ((attentive.step beginning).run meeting).pair? "channels.abc" "pub-07",
      (((attentive.step beginning).run meeting).step
        (.packet 0 "other" (observing 3 [1]))).pair? "channels.abc" "pub-07",
      ((attentive.step beginning).run meeting).hub.broker.mailboxes,
      ((attentive.step beginning).run meeting).deliveries.map fun d =>
        d.isReady ((attentive.step beginning).run meeting)) =
        ([watched], some { ticket := 0, handle := some 0, handler := .feed 0 }, none, [],
          [false]) := by cbv
  simp only [Prod.mk.injEq] at hFirst hLast
  obtain ⟨hWatched, hPair⟩ := hFirst
  obtain ⟨hStill, hKept, hGone, hMailboxes, hReady⟩ := hLast
  refine ⟨⟨_, _, _, _, [beginning], rfl⟩, observes_of_map (by rw [hWatched]; rfl) hPair rfl,
    by cbv, hAnswers, ⟨fun route => ?_, fun d hd => ?_⟩, by cbv,
    observes_of_map (by rw [hStill]; rfl) hKept rfl, ?_⟩
  · rw [Broker.waiting, hMailboxes]
    rfl
  · have hMember := List.mem_map_of_mem hd (f := fun d : Delivery =>
      d.isReady ((attentive.step beginning).run meeting))
    rw [hReady] at hMember
    exact List.mem_singleton.mp hMember
  · rintro ⟨-, s, hSome, -⟩
    cases hGone.symm.trans hSome

end Gateway

end DeviceBus
