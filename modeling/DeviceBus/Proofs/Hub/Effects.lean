import DeviceBus.Proofs.Hub.Served

/-! # What a call does to the broker

A subscribe call that succeeds opens one route with its own topic and handler, and one
that fails opens none. An unsubscribe call takes back at most the route of the pair
that it removes. Only a publish call hands the broker a message.
-/

namespace DeviceBus.Hub

variable {H : Type} [Handler H] {h : Hub H} {i : Nat} {client topic : String} {handler : H}

theorem perform_refused (hIdle : h.calls = []) (hPresent : i < h.facades.length) {ticket : Nat}
    {f : Facade H} {e : BackendError}
    (hReserve : (h.facade i).reserve client topic handler = .ok (ticket, f))
    (hRefuse : h.broker.subscribe i topic f.group ⟨i, ticket, handler⟩ = .error e) :
    h.perform {} (.subscribe i client topic handler) =
      (rested h.broker (h.facades.set i (f.discard client topic ticket)) h.nextCall,
        [.returned h.nextCall (.error (.backend e))], some (.error (.backend e))) := by
  have hRefused : (busy h.broker (h.facades.set i f) h.nextCall i
      (.subscribing client topic ticket handler .asked)).proceed h.nextCall .carried =
        (busy h.broker (h.facades.set i f) h.nextCall i
          (.subscribing client topic ticket handler (.refused e)), []) := by
    have hRoute : (busy h.broker (h.facades.set i f) h.nextCall i
        (.subscribing client topic ticket handler .asked)).grant i topic ticket handler .carried =
          (.refused e, busy h.broker (h.facades.set i f) h.nextCall i
            (.subscribing client topic ticket handler .asked)) := by
      simp only [grant, facade_busy hPresent]
      rw [busy, hRefuse]
    simp only [proceed, call?_busy, proceedSubscribe, hRoute, setCall_busy]
  have hDiscard : (busy h.broker (h.facades.set i f) h.nextCall i
      (.subscribing client topic ticket handler (.refused e))).proceed h.nextCall .carried =
        (rested h.broker (h.facades.set i (f.discard client topic ticket)) h.nextCall,
          [.returned h.nextCall (.error (.backend e))]) := by
    simp only [proceed, call?_busy, proceedSubscribe, facade_busy hPresent, setFacade_busy,
      List.set_set, finish_busy]
  rw [perform_reserved hIdle hReserve]
  simp only [carryOn_busy hRefused, carryOn_busy hDiscard, carryOn_rested]
  simp [resultOf]

theorem broker_subscribe (hIdle : h.calls = []) (hPresent : i < h.facades.length)
    (client topic : String) (handler : H) :
    ((h.perform {} (.subscribe i client topic handler)).2.2 = some (.ok ()) ∧
      ∃ ticket group id, h.broker.subscribe i topic group ⟨i, ticket, handler⟩ =
        .ok (id, (h.perform {} (.subscribe i client topic handler)).1.broker)) ∨
      (∃ e, (h.perform {} (.subscribe i client topic handler)).2.2 = some (.error e)) ∧
        (h.perform {} (.subscribe i client topic handler)).1.broker = h.broker := by
  cases hReserve : (h.facade i).reserve client topic handler with
  | error e =>
    have hStep : h.step (.subscribe i client topic handler) = h.immediate (.error e) := by
      simp only [step, beginSubscribe, hReserve]
    rw [perform_immediate hStep rfl hIdle]
    exact .inr ⟨⟨e, rfl⟩, rfl⟩
  | ok reserved =>
    obtain ⟨ticket, f⟩ := reserved
    cases hSubscribe : h.broker.subscribe i topic f.group ⟨i, ticket, handler⟩ with
    | error e =>
      rw [perform_refused hIdle hPresent hReserve hSubscribe]
      exact .inr ⟨⟨_, rfl⟩, rfl⟩
    | ok granted =>
      obtain ⟨id, broker⟩ := granted
      have hPairs := (Registry.reserve?_eq_some (Facade.reserve_eq_ok hReserve).1).2.2.2
      obtain ⟨f', hAttach⟩ :=
        Facade.exists_attach ((hPairs topic client).trans (if_pos ⟨rfl, rfl⟩)) rfl id
      rw [perform_granted hIdle hPresent hReserve hSubscribe hAttach]
      exact .inl ⟨rfl, ticket, f.group, id, hSubscribe⟩

theorem taken_of_refused (handler : H) (hIdle : h.calls = []) (hPresent : i < h.facades.length)
    (hRefused : (h.perform {} (.subscribe i client topic handler)).2.2 =
      some (.error .alreadySubscribed)) : h.pair? i topic client ≠ none := by
  intro hFree
  cases hReserve : (h.facade i).reserve client topic handler with
  | error e =>
    have hStep : h.step (.subscribe i client topic handler) = h.immediate (.error e) := by
      simp only [step, beginSubscribe, hReserve]
    rw [perform_immediate hStep rfl hIdle] at hRefused
    cases hRefused
    exact Facade.taken_of_reserve hReserve hFree
  | ok reserved =>
    obtain ⟨ticket, f⟩ := reserved
    cases hSubscribe : h.broker.subscribe i topic f.group ⟨i, ticket, handler⟩ with
    | error e =>
      rw [perform_refused hIdle hPresent hReserve hSubscribe] at hRefused
      cases hRefused
    | ok granted =>
      obtain ⟨id, broker⟩ := granted
      have hPairs := (Registry.reserve?_eq_some (Facade.reserve_eq_ok hReserve).1).2.2.2
      obtain ⟨f', hAttach⟩ :=
        Facade.exists_attach ((hPairs topic client).trans (if_pos ⟨rfl, rfl⟩)) rfl id
      rw [perform_granted hIdle hPresent hReserve hSubscribe hAttach] at hRefused
      cases hRefused

/-- A call that takes a pair out gives its handle back if the backend knows it. -/
theorem removed_eq (hIdle : h.calls = []) {s : Subscription H} {f : Facade H}
    (hRemove : (h.facade i).remove client topic = .ok (s, f)) :
    ∃ broker reports result, h.perform {} (.unsubscribe i client topic) =
        (rested broker (h.facades.set i f) h.nextCall, reports, result) ∧
      (broker = h.broker ∨
        ∃ handle, s.handle = some handle ∧ h.broker.unsubscribe i handle = .ok broker) := by
  cases hHandle : s.handle with
  | none =>
    have hRelease : (busy h.broker (h.facades.set i f) h.nextCall i (.releasing s)).proceed
        h.nextCall .carried =
          (busy h.broker (h.facades.set i f) h.nextCall i (.cancelling s (.ok ())), []) := by
      simp only [proceed, call?_busy, hHandle, setCall_busy]
    exact ⟨_, _, _, perform_removed hIdle hRemove hRelease, .inl rfl⟩
  | some handle =>
    cases hUnsubscribe : h.broker.unsubscribe i handle with
    | error e =>
      have hRelease : (busy h.broker (h.facades.set i f) h.nextCall i (.releasing s)).proceed
          h.nextCall .carried =
            (busy h.broker (h.facades.set i f) h.nextCall i (.cancelling s (.error e)), []) := by
        have hBroker : (busy h.broker (h.facades.set i f) h.nextCall i (.releasing s)).release i
            handle .carried =
              (.error e, busy h.broker (h.facades.set i f) h.nextCall i (.releasing s)) := by
          rw [release, busy, hUnsubscribe]
        simp only [proceed, call?_busy, hHandle, hBroker, setCall_busy]
      exact ⟨_, _, _, perform_removed hIdle hRemove hRelease, .inl rfl⟩
    | ok broker =>
      exact ⟨_, _, _, perform_released hIdle hRemove hHandle hUnsubscribe,
        .inr ⟨handle, rfl, hUnsubscribe⟩⟩

theorem broker_unsubscribe (hIdle : h.calls = []) (i : Nat) (client topic : String) :
    (h.perform {} (.unsubscribe i client topic)).1.broker = h.broker ∨
      ∃ s handle, h.pair? i topic client = some s ∧ s.handle = some handle ∧
        h.broker.unsubscribe i handle =
          .ok (h.perform {} (.unsubscribe i client topic)).1.broker := by
  rcases (h.facade i).remove_cases client topic with
    ⟨e, hRemove, -⟩ | ⟨s, registry, hPair, -, hRemove⟩
  · have hStep : h.step (.unsubscribe i client topic) = h.immediate (.error e) := by
      simp only [step, beginUnsubscribe, hRemove]
    rw [perform_immediate hStep rfl hIdle]
    exact .inl rfl
  · obtain ⟨broker, reports, result, hPerform, hBroker⟩ := removed_eq hIdle hRemove
    rw [hPerform]
    rcases hBroker with hSame | ⟨handle, hHandle, hUnsubscribe⟩
    · exact .inl hSame
    · exact .inr ⟨s, handle, hPair, hHandle, hUnsubscribe⟩

theorem publish_cases (hIdle : h.calls = []) (i : Nat) (channel : String) (message : Envelope) :
    ∃ broker result, h.perform {} (.publish i channel message .carried) =
        ({ h with broker, nextCall := h.nextCall + 1 }, [.returned h.nextCall result],
          some result) ∧
      ((∃ e, result = .error e) ∧ broker = h.broker ∨
        result = .ok () ∧ broker = (h.broker.route (Subject.topicName channel message.subtopic)
          message.toBytes).2) := by
  have hStep : ∃ (broker : Broker (Tap H)) (result : Except FacadeError Unit),
      h.step (.publish i channel message .carried) = ({ h with broker } : Hub H).immediate result ∧
        ((∃ e, result = .error e) ∧ broker = h.broker ∨
          result = .ok () ∧ broker = (h.broker.route (Subject.topicName channel message.subtopic)
            message.toBytes).2) := by
    simp only [step, publish, Facade.subjectOf]
    split
    · rename_i e _
      exact ⟨h.broker, .error e, rfl, .inl ⟨⟨e, rfl⟩, rfl⟩⟩
    · rename_i subject hSubject
      split at hSubject
      · cases hSubject
      · cases hSubject
        rw [Broker.publish]
        split
        · rename_i hPublish
          exact ⟨h.broker, _, rfl, .inl ⟨⟨_, rfl⟩, rfl⟩⟩
        · rename_i broker hPublish
          split at hPublish
          · cases hPublish
          · cases hPublish
            exact ⟨_, .ok (), rfl, .inr ⟨rfl, rfl⟩⟩
  obtain ⟨broker, result, hImmediate, hOutcome⟩ := hStep
  exact ⟨broker, result, perform_immediate hImmediate rfl hIdle, hOutcome⟩

theorem broker_publish (hIdle : h.calls = []) (i : Nat) (channel : String) (message : Envelope) :
    (h.perform {} (.publish i channel message .carried)).1.broker = h.broker ∨
      (h.perform {} (.publish i channel message .carried)).1.broker =
        (h.broker.route (Subject.topicName channel message.subtopic) message.toBytes).2 := by
  obtain ⟨broker, result, hPerform, hOutcome⟩ := publish_cases hIdle i channel message
  rw [hPerform]
  exact hOutcome.imp And.right And.right

/-- A call that closes takes all pairs out and closes the connection. -/
theorem close_eq (hIdle : h.calls = []) (i : Nat) :
    ∃ reports result, h.perform {} (.close i) =
      (rested (h.broker.close i) (h.facades.set i (h.facade i).drain.2) h.nextCall, reports,
        result) := by
  have hBegin : h.step (.close i) =
      (busy h.broker (h.facades.set i (h.facade i).drain.2) h.nextCall i .closing,
        (h.facade i).drain.1.map fun s => .cancelled i s.ticket s.handler) := by
    simp [step, beginClose, begin, setFacade, hIdle, busy]
  have hClose : (busy h.broker (h.facades.set i (h.facade i).drain.2) h.nextCall i
      .closing).proceed h.nextCall .carried =
        (rested (h.broker.close i) (h.facades.set i (h.facade i).drain.2) h.nextCall,
          [.returned h.nextCall (.ok ())]) := by
    simp only [proceed, call?_busy]
    exact finish_busy (h.broker.close i) _ _ i _ _
  simp only [perform, hBegin, longestCall, carryOn_busy hClose, carryOn_rested]
  exact ⟨_, _, rfl⟩

theorem broker_close (hIdle : h.calls = []) (i : Nat) :
    (h.perform {} (.close i)).1.broker = h.broker.close i := by
  obtain ⟨reports, result, hPerform⟩ := close_eq hIdle i
  rw [hPerform]
  rfl

end DeviceBus.Hub
