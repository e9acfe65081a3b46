import DeviceBus.Proofs.Hub.Handles
import DeviceBus.Proofs.Hub.Onward
import DeviceBus.Proofs.Hub.Settled

/-! # Layers and queues do not show

Requests that are carried to their end one after the other have the results and
the notices that a flat list of subscriptions gives them, in runs of any length.
Nobody learns what a handler answers to a message, so it changes nothing.
-/

namespace DeviceBus.Hub

variable {H : Type} {h g : Hub H} {links : List (Link H)} {l : Link H}

/-! ## A hub with one call -/

def busy (broker : Broker (Tap H)) (facades : List (Facade H)) (number i : Nat) (call : Call H) :
    Hub H :=
  { broker, facades, calls := [{ number, facade := i, call }], nextCall := number + 1 }

/-- The last call that was made has returned. -/
def rested (broker : Broker (Tap H)) (facades : List (Facade H)) (number : Nat) : Hub H :=
  { broker, facades, nextCall := number + 1 }

section

variable (b : Broker (Tap H)) (fs : List (Facade H)) (n i : Nat) (call : Call H)

theorem call?_busy : (busy b fs n i call).call? n = some ⟨n, i, call⟩ :=
  call?_of_calls rfl

theorem setCall_busy (call' : Call H) :
    (busy b fs n i call).setCall n call' = busy b fs n i call' := by
  simp [setCall, busy]

theorem setFacade_busy (f : Facade H) :
    (busy b fs n i call).setFacade i f = busy b (fs.set i f) n i call := rfl

theorem finish_busy (result : Except FacadeError Unit) :
    (busy b fs n i call).finish n result = (rested b fs n, [.returned n result]) := by
  simp [finish, busy, rested]

end

theorem facade_busy {i : Nat} (hPresent : i < h.facades.length) (b : Broker (Tap H)) (f : Facade H)
    (call : Call H) : (busy b (h.facades.set i f) h.nextCall i call).facade i = f :=
  (facade_setFacade h i i f).trans (if_pos ⟨rfl, hPresent⟩)

theorem facade_rested {b : Broker (Tap H)} {f : Facade H} {i : Nat}
    (hPresent : i < h.facades.length) (n j : Nat) :
    (rested b (h.facades.set i f) n).facade j = if i = j then f else h.facade j := by
  refine (facade_setFacade h i j f).trans ?_
  simp only [hPresent, and_true]

theorem pair?_rested {b : Broker (Tap H)} {f : Facade H} {i : Nat}
    (hPresent : i < h.facades.length) (n j : Nat) (topic client : String) :
    (rested b (h.facades.set i f) n).pair? j topic client =
      if i = j then f.registry.get? topic client else h.pair? j topic client := by
  rw [pair?, facade_rested hPresent]
  split
  · rfl
  · rfl

/-! ## Calls that return at once -/

section

variable [Handler H] {r : Request H}

theorem perform_immediate {s : Step H} {result : Except FacadeError Unit}
    (hStep : h.step s = g.immediate result) (hNext : g.nextCall = h.nextCall)
    (hCalls : g.calls = []) :
    h.perform {} s =
      ({ g with nextCall := h.nextCall + 1 }, [.returned h.nextCall result], some result) := by
  have hIdle : ({ g with nextCall := h.nextCall + 1 } : Hub H).calls = [] := hCalls
  simp only [perform, hStep, immediate, hNext, carryOn_idle hIdle]
  simp [resultOf]

theorem Settled.serve_immediate (hSettled : h.Settled links) {result : Except FacadeError Unit}
    (hStep : h.step r.step = h.immediate result) :
    (h.serve r).1 = { result := some result } ∧ (h.serve r).2.Settled links := by
  have hQuiet := dispatchAll_quiet (h := { h with nextCall := h.nextCall + 1 }) hSettled.mailboxes
  simp only [serve, perform_immediate hStep rfl hSettled.calls, hQuiet]
  exact ⟨rfl, hSettled.of_same hSettled.calls hSettled.mailboxes ⟨rfl, rfl, rfl⟩ rfl⟩

/-- A request on a settled hub has the outcome that the members give it, and
leaves the hub settled with the members that are left. -/
def Agrees (h : Hub H) (links : List (Link H)) (r : Request H) : Prop :=
  (h.serve r).1 = (Roster.serve (links.map Link.member) r).1 ∧
    ∃ links', (h.serve r).2.Settled links' ∧
      links'.map Link.member = (Roster.serve (links.map Link.member) r).2

theorem Settled.agrees_failed (hSettled : h.Settled links) {e : FacadeError}
    (hStep : h.step r.step = h.immediate (.error e))
    (hRoster : Roster.serve (links.map Link.member) r = Roster.failed (links.map Link.member) e) :
    h.Agrees links r := by
  obtain ⟨hOutcome, hAfter⟩ := hSettled.serve_immediate hStep
  rw [Agrees, hRoster]
  exact ⟨hOutcome, links, hAfter, rfl⟩

theorem Settled.agrees_misnamed (hSettled : h.Settled links) {i : Nat} {client topic : String}
    {e : FacadeError} (hNames : Facade.checkNames client topic = .error e)
    (hCause : (∃ handler, r = .subscribe i client topic handler) ∨
      r = .unsubscribe i client topic) :
    h.Agrees links r := by
  rcases hCause with ⟨handler, rfl⟩ | rfl
  · refine hSettled.agrees_failed (e := e) ?_ ?_
    · simp only [Request.step, step, beginSubscribe, Facade.reserve, hNames]
    · rcases Facade.checkNames_eq_error hNames with ⟨hTopic, rfl⟩ | ⟨hTopic, hClient, rfl⟩
      · exact if_pos hTopic
      · exact (if_neg hTopic).trans (if_pos hClient)
  · refine hSettled.agrees_failed (e := e) ?_ ?_
    · simp only [Request.step, step, beginUnsubscribe, Facade.remove, hNames]
    · rcases Facade.checkNames_eq_error hNames with ⟨hTopic, rfl⟩ | ⟨hTopic, hClient, rfl⟩
      · exact if_pos hTopic
      · exact (if_neg hTopic).trans (if_pos hClient)

theorem Settled.agrees_publish (hSettled : h.Settled links) {i : Nat}
    (hPresent : i < h.facades.length) (channel : String) {message : Envelope}
    (hFits : message.Fits) : h.Agrees links (.publish i channel message) := by
  by_cases hEmpty : channel = "" ∨ message.channel = ""
  · refine hSettled.agrees_failed ?_ (if_pos hEmpty)
    simp only [Request.step, step, publish, Facade.subjectOf, if_pos hEmpty]
  · have hSubject : Facade.subjectOf channel message =
        .ok (Subject.topicName channel message.subtopic) := if_neg hEmpty
    have hOpen := hSettled.connected i hPresent
    have hStep : h.step (Request.publish i channel message).step =
        ({ h with broker := (h.broker.route (Subject.topicName channel message.subtopic)
          message.toBytes).2 } : Hub H).immediate (.ok ()) := by
      simp [Request.step, step, publish, hSubject, Broker.publish, hOpen]
    have hDispatch := hSettled.dispatchAll (g := { h with
      broker := (h.broker.route (Subject.topicName channel message.subtopic) message.toBytes).2
      nextCall := h.nextCall + 1 }) (Subject.topicName channel message.subtopic) message.toBytes
      hSettled.calls rfl rfl
    rw [Envelope.ofBytes?_toBytes hFits] at hDispatch
    simp only [Agrees, serve, perform_immediate hStep rfl hSettled.calls, Roster.serve,
      if_neg hEmpty]
    refine ⟨?_, links, hDispatch.1, rfl⟩
    rw [List.filterMap_append, hDispatch.2]
    rfl

theorem Settled.agrees_inject (hSettled : h.Settled links) (subject : String) (data : Bytes) :
    h.Agrees links (.inject subject data) := by
  have hDispatch := hSettled.dispatchAll
    (g := { h with broker := (h.broker.route subject data).2 }) subject data hSettled.calls rfl rfl
  have hIdle : ({ h with broker := (h.broker.route subject data).2 } : Hub H).calls = [] :=
    hSettled.calls
  have hPerform : h.perform {} (Request.inject subject data).step =
      ({ h with broker := (h.broker.route subject data).2 }, [], none) := by
    simp only [perform, Request.step, step, carryOn_idle hIdle]
    rfl
  simp only [Agrees, serve, hPerform]
  rw [List.nil_append, hDispatch.2, Roster.serve]
  cases Envelope.ofBytes? data with
  | none => exact ⟨rfl, links, hDispatch.1, rfl⟩
  | some message => exact ⟨rfl, links, hDispatch.1, rfl⟩

/-! ## Subscribing -/

theorem carryOn_busy {b : Broker (Tap H)} {fs : List (Facade H)} {n i : Nat} {call : Call H}
    {first : List (Report H)} (hProceed : (busy b fs n i call).proceed n .carried = (g, first))
    (steps : Nat) :
    (busy b fs n i call).carryOn {} n (steps + 1) =
      ((g.carryOn {} n steps).1, first ++ (g.carryOn {} n steps).2) :=
  carryOn_proceed rfl hProceed steps

theorem carryOn_rested (b : Broker (Tap H)) (fs : List (Facade H)) (n steps : Nat) :
    (rested b fs n).carryOn {} n steps = (rested b fs n, []) :=
  carryOn_idle rfl n steps

/-- A subscribe call that has claimed its pair goes on to ask the backend. -/
theorem perform_reserved (hIdle : h.calls = []) {i ticket : Nat} {client topic : String}
    {handler : H} {f : Facade H}
    (hReserve : (h.facade i).reserve client topic handler = .ok (ticket, f)) :
    h.perform {} (.subscribe i client topic handler) =
      let asked := (busy h.broker (h.facades.set i f) h.nextCall i
        (.subscribing client topic ticket handler .asked)).carryOn {} h.nextCall 4
      (asked.1, asked.2, resultOf h.nextCall asked.2) := by
  have hBegin : h.step (.subscribe i client topic handler) =
      (busy h.broker (h.facades.set i f) h.nextCall i
        (.subscribing client topic ticket handler .reserved), []) := by
    simp [step, beginSubscribe, hReserve, begin, setFacade, hIdle, busy]
  have hAsk : (busy h.broker (h.facades.set i f) h.nextCall i
      (.subscribing client topic ticket handler .reserved)).proceed h.nextCall .carried =
        (busy h.broker (h.facades.set i f) h.nextCall i
          (.subscribing client topic ticket handler .asked), []) := by
    simp only [proceed, call?_busy, proceedSubscribe, setCall_busy]
  simp only [perform, hBegin, longestCall, carryOn_busy hAsk, List.nil_append]

theorem perform_granted (hIdle : h.calls = []) {i ticket id : Nat} (hPresent : i < h.facades.length)
    {client topic : String} {handler : H} {f f' : Facade H} {broker : Broker (Tap H)}
    (hReserve : (h.facade i).reserve client topic handler = .ok (ticket, f))
    (hSubscribe : h.broker.subscribe i topic f.group ⟨i, ticket, handler⟩ = .ok (id, broker))
    (hAttach : f.attach client topic ticket id = (true, f')) :
    h.perform {} (.subscribe i client topic handler) =
      (rested broker (h.facades.set i f') h.nextCall, [.returned h.nextCall (.ok ())],
        some (.ok ())) := by
  -- Each step of the call leads from a hub that is busy with it to the next.
  have hGrant : (busy h.broker (h.facades.set i f) h.nextCall i
      (.subscribing client topic ticket handler .asked)).proceed h.nextCall .carried =
        (busy broker (h.facades.set i f) h.nextCall i
          (.subscribing client topic ticket handler (.granted id)), []) := by
    have hRoute : (busy h.broker (h.facades.set i f) h.nextCall i
        (.subscribing client topic ticket handler .asked)).grant i topic ticket handler .carried =
          (.granted id, busy broker (h.facades.set i f) h.nextCall i
            (.subscribing client topic ticket handler .asked)) := by
      simp only [grant, facade_busy hPresent]
      rw [busy, hSubscribe]
      rfl
    simp only [proceed, call?_busy, proceedSubscribe, hRoute, setCall_busy]
  have hStore : (busy broker (h.facades.set i f) h.nextCall i
      (.subscribing client topic ticket handler (.granted id))).proceed h.nextCall .carried =
        (rested broker (h.facades.set i f') h.nextCall, [.returned h.nextCall (.ok ())]) := by
    simp only [proceed, call?_busy, proceedSubscribe, facade_busy hPresent, hAttach, setFacade_busy,
      List.set_set, finish_busy]
  rw [perform_reserved hIdle hReserve]
  simp only [carryOn_busy hGrant, carryOn_busy hStore, carryOn_rested]
  simp [resultOf]

omit [Handler H] in
theorem Settled.joined (hSettled : h.Settled links) {i ticket id : Nat}
    (hPresent : i < h.facades.length) {client topic : String} {handler : H} {f f' : Facade H}
    {broker : Broker (Tap H)}
    (hReserve : (h.facade i).reserve client topic handler = .ok (ticket, f))
    (hSubscribe : h.broker.subscribe i topic f.group ⟨i, ticket, handler⟩ = .ok (id, broker))
    (hAttach : f.attach client topic ticket id = (true, f')) (n : Nat) :
    (rested broker (h.facades.set i f') n).Settled
      (links ++ [⟨⟨i, client, topic, handler⟩, ticket, id⟩]) := by
  obtain ⟨hActive, hGroup, hNext, hPairs⟩ := Facade.reserve_attach hReserve hAttach
  obtain ⟨hReserved, -, hPlain⟩ := Facade.reserve_eq_ok hReserve
  obtain ⟨hTicket, -, hFree, -⟩ := Registry.reserve?_eq_some hReserved
  obtain ⟨-, -, -, hRoutes, -⟩ := Broker.subscribe_eq_ok hSubscribe
  have hPair : ∀ j t c, (rested broker (h.facades.set i f') n).pair? j t c =
      if i = j ∧ t = topic ∧ c = client then some ⟨ticket, some id, handler⟩
      else h.pair? j t c := by
    intro j t c
    rw [pair?_rested hPresent, hPairs]
    by_cases hSame : i = j
    · simp only [hSame, true_and, if_true, pair?]
    · simp only [hSame, false_and, if_false]
  have hOther : ∀ l ∈ links,
      ¬(i = l.member.facade ∧ l.member.topic = topic ∧ l.member.client = client) := by
    rintro l hl ⟨rfl, rfl, rfl⟩
    exact Option.some_ne_none _ ((hSettled.pair l hl).symm.trans hFree)
  have hFresh : ∀ l ∈ links, l.member.facade = i → l.ticket < ticket := by
    rintro l hl rfl
    exact hTicket ▸ hSettled.drawn l hl
  constructor
  · rfl
  · exact (Broker.mailboxes_subscribe hSubscribe).trans hSettled.mailboxes
  · exact Broker.owned_subscribe hSettled.owned hSubscribe
  · refine hRoutes.trans ?_
    rw [hSettled.routes, List.map_append, hPlain, hSettled.plain]
    rfl
  · intro j hBound
    exact (Broker.closed_subscribe hSubscribe j).trans
      (hSettled.connected j (lt_of_lt_of_eq hBound List.length_set))
  · intro j
    rw [facade_rested hPresent]
    split
    · rw [hGroup, hSettled.plain]
    · exact hSettled.plain j
  · refine List.forall_mem_append.mpr ⟨fun l hl => ?_, List.forall_mem_singleton.mpr ?_⟩
    · rw [hPair, if_neg (hOther l hl)]
      exact hSettled.pair l hl
    · rw [hPair, if_pos ⟨rfl, rfl, rfl⟩]
      rfl
  · intro j t c s hs
    rw [hPair] at hs
    split at hs
    · rename_i hKey
      obtain ⟨rfl, rfl, rfl⟩ := hKey
      exact ⟨_, List.mem_append_right _ (List.mem_singleton_self _), holds_iff.mpr ⟨rfl, rfl, rfl⟩⟩
    · obtain ⟨l, hl, hHolds⟩ := hSettled.linked j t c s hs
      exact ⟨l, List.mem_append_left _ hl, hHolds⟩
  · refine List.forall_mem_append.mpr ⟨fun l hl => ?_, List.forall_mem_singleton.mpr ?_⟩
    · have hBefore := hSettled.active l hl
      rw [facade_rested hPresent]
      split
      · rename_i hSame
        rw [hActive, hSame]
        exact List.mem_cons_of_mem _ hBefore
      · exact hBefore
    · rw [facade_rested hPresent, if_pos rfl, hActive]
      exact List.mem_cons_self
  · refine List.forall_mem_append.mpr ⟨fun l hl => ?_, List.forall_mem_singleton.mpr ?_⟩
    · have hBefore := hSettled.drawn l hl
      rw [facade_rested hPresent]
      split
      · rename_i hSame
        rw [hNext, hSame]
        exact Nat.lt_succ_of_lt hBefore
      · exact hBefore
    · rw [facade_rested hPresent, if_pos rfl, hNext, hTicket]
      exact Nat.lt_succ_self _
  · -- A new ticket lies above those that the facade has drawn before.
    refine List.forall_mem_append.mpr ⟨fun l hl => List.forall_mem_append.mpr
      ⟨hSettled.tickets l hl, List.forall_mem_singleton.mpr fun hSame hTwice => ?_⟩,
      List.forall_mem_singleton.mpr (List.forall_mem_append.mpr
        ⟨fun l hl hSame hTwice => ?_, List.forall_mem_singleton.mpr fun _ _ => rfl⟩)⟩
    · exact (Nat.ne_of_lt (hFresh l hl hSame) hTwice).elim
    · exact (Nat.ne_of_lt (hFresh l hl hSame.symm) hTwice.symm).elim

omit [Handler H] in
theorem Settled.isSubscribed (hSettled : h.Settled links) (i : Nat) (client topic : String) :
    (h.facade i).isSubscribed client topic =
      (links.map Link.member).any (Member.holds i client topic) := by
  change (h.pair? i topic client).isSome = _
  rcases hSettled.find? i client topic with ⟨hPair, hFind⟩ | ⟨l, hl, hHolds, hPair, -⟩
  · rw [hPair]
    exact (List.any_eq_false.mpr (List.find?_eq_none.mp hFind)).symm
  · rw [hPair]
    exact (List.any_eq_true.mpr ⟨l.member, List.mem_map_of_mem hl, hHolds⟩).symm

theorem Settled.agrees_subscribe (hSettled : h.Settled links) {i : Nat}
    (hPresent : i < h.facades.length) (client topic : String) (handler : H) :
    h.Agrees links (.subscribe i client topic handler) := by
  cases hNames : Facade.checkNames client topic with
  | error e => exact hSettled.agrees_misnamed hNames (.inl ⟨handler, rfl⟩)
  | ok _ =>
    obtain ⟨hTopic, hClient⟩ := Facade.checkNames_eq_ok_iff.mp hNames
    have hHeld := hSettled.isSubscribed i client topic
    rcases (h.facade i).reserve_of_names hTopic hClient handler with
      ⟨hTaken, hReserve⟩ | ⟨hFree, ticket, f, hReserve⟩
    · have hAny : (links.map Link.member).any (Member.holds i client topic) = true :=
        hHeld.symm.trans (Option.isSome_iff_ne_none.mpr hTaken)
      refine hSettled.agrees_failed (e := .alreadySubscribed) ?_ ?_
      · simp only [Request.step, step, beginSubscribe, hReserve]
      · simp only [Roster.serve, if_neg hTopic, if_neg hClient, if_pos hAny]
    · have hAny : (links.map Link.member).any (Member.holds i client topic) = false := by
        rw [← hHeld, Facade.isSubscribed, Registry.contains, hFree]
        rfl
      obtain ⟨id, broker, hSubscribe⟩ := Broker.exists_subscribe
        (hSettled.connected i hPresent) topic f.group ⟨i, ticket, handler⟩
      have hOwn := (Registry.reserve?_eq_some (Facade.reserve_eq_ok hReserve).1).2.2.2 topic client
      obtain ⟨f', hAttach⟩ := Facade.exists_attach (hOwn.trans (if_pos ⟨rfl, rfl⟩)) rfl id
      have hJoined := hSettled.joined hPresent hReserve hSubscribe hAttach h.nextCall
      simp only [Agrees, serve, Request.step,
        perform_granted hSettled.calls hPresent hReserve hSubscribe hAttach,
        dispatchAll_quiet hJoined.mailboxes, Roster.serve, if_neg hTopic, if_neg hClient, hAny]
      exact ⟨rfl, _, hJoined, by simp⟩

/-! ## Unsubscribing -/

omit [Handler H] in
theorem cancelResult_ok (answer : Except HandlerError Unit) :
    cancelResult (.ok ()) answer = answer.mapError .handler := by
  cases answer with
  | error e => rfl
  | ok _ => rfl

/-- An unsubscribe call whose backend has answered goes on to cancel the handler. -/
theorem perform_removed (hIdle : h.calls = []) {i : Nat} {client topic : String}
    {s : Subscription H} {f : Facade H} {broker : Broker (Tap H)}
    {released : Except BackendError Unit}
    (hRemove : (h.facade i).remove client topic = .ok (s, f))
    (hRelease : (busy h.broker (h.facades.set i f) h.nextCall i (.releasing s)).proceed
      h.nextCall .carried =
        (busy broker (h.facades.set i f) h.nextCall i (.cancelling s released), [])) :
    h.perform {} (.unsubscribe i client topic) =
      (rested broker (h.facades.set i f) h.nextCall,
        [.cancelled i s.ticket s.handler,
          .returned h.nextCall (cancelResult released (Handler.onCancel s.handler))],
        some (cancelResult released (Handler.onCancel s.handler))) := by
  have hBegin : h.step (.unsubscribe i client topic) =
      (busy h.broker (h.facades.set i f) h.nextCall i (.releasing s), []) := by
    simp [step, beginUnsubscribe, hRemove, begin, setFacade, hIdle, busy]
  have hCancel : (busy broker (h.facades.set i f) h.nextCall i (.cancelling s released)).proceed
      h.nextCall .carried =
        (rested broker (h.facades.set i f) h.nextCall, [.cancelled i s.ticket s.handler,
          .returned h.nextCall (cancelResult released (Handler.onCancel s.handler))]) := by
    simp only [proceed, call?_busy, finish_busy]
  simp only [perform, hBegin, longestCall, carryOn_busy hRelease, carryOn_busy hCancel,
    carryOn_rested]
  simp [resultOf]

theorem perform_released (hIdle : h.calls = []) {i id : Nat} {client topic : String}
    {s : Subscription H} {f : Facade H} {broker : Broker (Tap H)}
    (hRemove : (h.facade i).remove client topic = .ok (s, f)) (hHandle : s.handle = some id)
    (hUnsubscribe : h.broker.unsubscribe i id = .ok broker) :
    h.perform {} (.unsubscribe i client topic) =
      (rested broker (h.facades.set i f) h.nextCall,
        [.cancelled i s.ticket s.handler,
          .returned h.nextCall ((Handler.onCancel s.handler).mapError .handler)],
        some ((Handler.onCancel s.handler).mapError .handler)) := by
  have hRelease : (busy h.broker (h.facades.set i f) h.nextCall i (.releasing s)).proceed
      h.nextCall .carried =
        (busy broker (h.facades.set i f) h.nextCall i (.cancelling s (.ok ())), []) := by
    have hBroker : (busy h.broker (h.facades.set i f) h.nextCall i (.releasing s)).release i id
        .carried = (.ok (), busy broker (h.facades.set i f) h.nextCall i (.releasing s)) := by
      rw [release, busy, hUnsubscribe]
      rfl
    simp only [proceed, call?_busy, hHandle, hBroker, setCall_busy]
  rw [perform_removed hIdle hRemove hRelease, cancelResult_ok]

omit [Handler H] in
theorem Settled.parted (hSettled : h.Settled links) {l₀ : Link H} (hl₀ : l₀ ∈ links) {i : Nat}
    {client topic : String} (hHolds : l₀.member.holds i client topic = true) {s : Subscription H}
    {f : Facade H} {broker : Broker (Tap H)}
    (hRemove : (h.facade i).remove client topic = .ok (s, f))
    (hUnsubscribe : h.broker.unsubscribe i l₀.id = .ok broker) (n : Nat) :
    (rested broker (h.facades.set i f) n).Settled
      (links.filter fun l => !l.member.holds i client topic) := by
  obtain ⟨hRegistry, hActive, hGroup⟩ := Facade.remove_eq_ok hRemove
  obtain ⟨hOwn, hNext, hPairs⟩ := Registry.remove?_eq_some hRegistry
  obtain ⟨-, -, hRoutes, -⟩ := Broker.unsubscribe_eq_ok hUnsubscribe
  have hTicket : s.ticket = l₀.ticket := by
    have hPair := hSettled.pair_of_holds hl₀ hHolds
    rw [pair?, hOwn] at hPair
    cases hPair
    rfl
  have hPresent : i < h.facades.length := lt_of_pair? hOwn
  have hPair : ∀ j t c, (rested broker (h.facades.set i f) n).pair? j t c =
      if i = j ∧ t = topic ∧ c = client then none else h.pair? j t c := by
    intro j t c
    rw [pair?_rested hPresent, hPairs]
    by_cases hSame : i = j
    · simp only [hSame, true_and, if_true, pair?]
    · simp only [hSame, false_and, if_false]
  have hLeft : ∀ l ∈ links.filter (fun l => !l.member.holds i client topic),
      l ∈ links ∧ ¬(i = l.member.facade ∧ l.member.topic = topic ∧ l.member.client = client) := by
    intro l hl
    obtain ⟨hMem, hOther⟩ := List.mem_filter.mp hl
    refine ⟨hMem, ?_⟩
    rintro ⟨rfl, rfl, rfl⟩
    rw [holds_iff.mpr ⟨rfl, rfl, rfl⟩] at hOther
    cases hOther
  have hOtherTicket : ∀ l ∈ links.filter (fun l => !l.member.holds i client topic),
      l.member.facade = i → l.ticket ≠ l₀.ticket := by
    intro l hl hSame hTwice
    have hFacade₀ := (holds_iff.mp hHolds).1
    -- Stopping the dispatch of one ticket stops one link only.
    have hEqual := hSettled.tickets l (hLeft l hl).1 l₀ hl₀ (hSame.trans hFacade₀.symm) hTwice
    have hOther := (List.mem_filter.mp hl).2
    rw [hEqual, hHolds] at hOther
    cases hOther
  constructor
  · rfl
  · exact (Broker.mailboxes_unsubscribe hUnsubscribe).trans hSettled.mailboxes
  · exact Broker.owned_unsubscribe hSettled.owned hUnsubscribe
  · refine hRoutes.trans ?_
    rw [hSettled.routes, List.filter_map]
    refine congrArg (List.map Link.route) (List.filter_congr fun l hl => ?_)
    -- The broker goes by the handle, the members go by the pair.
    have hSame : (l.id = l₀.id && l.member.facade = i : Bool) =
        l.member.holds i client topic := by
      rw [Bool.eq_iff_iff, ← hSettled.id_iff hl₀ hl hHolds]
      simp
    exact congrArg Bool.not hSame
  · intro j hBound
    exact (Broker.closed_unsubscribe hUnsubscribe j).trans
      (hSettled.connected j (lt_of_lt_of_eq hBound List.length_set))
  · intro j
    rw [facade_rested hPresent]
    split
    · exact hGroup.trans (hSettled.plain i)
    · exact hSettled.plain j
  · intro l hl
    rw [hPair, if_neg (hLeft l hl).2]
    exact hSettled.pair l (hLeft l hl).1
  · intro j t c s' hs
    rw [hPair] at hs
    split at hs
    · cases hs
    · rename_i hKey
      obtain ⟨l, hl, hOwner⟩ := hSettled.linked j t c s' hs
      refine ⟨l, List.mem_filter.mpr ⟨hl, ?_⟩, hOwner⟩
      obtain ⟨rfl, rfl, rfl⟩ := holds_iff.mp hOwner
      rw [Bool.not_eq_true', ← Bool.not_eq_true, holds_iff]
      rintro ⟨hi, hc, ht⟩
      exact hKey ⟨hi.symm, ht, hc⟩
  · intro l hl
    have hBefore := hSettled.active l (hLeft l hl).1
    rw [facade_rested hPresent]
    split
    · rename_i hSame
      rw [hActive, hTicket]
      exact List.mem_filter.mpr ⟨hSame ▸ hBefore, decide_eq_true (hOtherTicket l hl hSame.symm)⟩
    · exact hBefore
  · intro l hl
    have hBefore := hSettled.drawn l (hLeft l hl).1
    rw [facade_rested hPresent]
    split
    · rename_i hSame
      rw [hNext]
      exact hSame ▸ hBefore
    · exact hBefore
  · exact fun l hl l' hl' => hSettled.tickets l (hLeft l hl).1 l' (hLeft l' hl').1

theorem Settled.agrees_unsubscribe (hSettled : h.Settled links) (i : Nat)
    (client topic : String) : h.Agrees links (.unsubscribe i client topic) := by
  cases hNames : Facade.checkNames client topic with
  | error e => exact hSettled.agrees_misnamed hNames (.inr rfl)
  | ok _ =>
    obtain ⟨hTopic, hClient⟩ := Facade.checkNames_eq_ok_iff.mp hNames
    rcases (h.facade i).remove_of_names hTopic hClient with
      ⟨hFree, hRemove⟩ | ⟨s, f, hOwn, hRemove⟩
    · rcases hSettled.find? i client topic with ⟨-, hFind⟩ | ⟨l, -, -, hPair, -⟩
      · refine hSettled.agrees_failed (e := .notSubscribed) ?_ ?_
        · simp only [Request.step, step, beginUnsubscribe, hRemove]
        · simp only [Roster.serve, if_neg hTopic, if_neg hClient, hFind]
      · rw [pair?, hFree] at hPair
        cases hPair
    · rcases hSettled.find? i client topic with ⟨hPair, -⟩ | ⟨l, hl, hHolds, hPair, hFind⟩
      · rw [pair?, hOwn] at hPair
        cases hPair
      rw [pair?, hOwn] at hPair
      cases hPair
      have hMine : l.id ∈ (h.broker.connection i).owned := by
        refine (hSettled.owned.owned_iff i l.id).mpr ⟨l.route, ?_, (holds_iff.mp hHolds).1, rfl⟩
        rw [hSettled.routes]
        exact List.mem_map_of_mem hl
      obtain ⟨broker, hUnsubscribe⟩ := Broker.exists_unsubscribe_iff.mpr hMine
      have hParted := hSettled.parted hl hHolds hRemove hUnsubscribe h.nextCall
      simp only [Agrees, serve, Request.step,
        perform_released hSettled.calls hRemove rfl hUnsubscribe,
        dispatchAll_quiet hParted.mailboxes, Roster.serve, if_neg hTopic, if_neg hClient, hFind]
      refine ⟨rfl, _, hParted, ?_⟩
      rw [List.filter_map]
      rfl

/-! ## Runs -/

theorem Settled.agrees (hSettled : h.Settled links) (hFits : r.Fits h.facades.length) :
    h.Agrees links r := by
  cases r with
  | publish i channel message => exact hSettled.agrees_publish hFits.1 channel hFits.2
  | subscribe i client topic handler => exact hSettled.agrees_subscribe hFits client topic handler
  | unsubscribe i client topic => exact hSettled.agrees_unsubscribe i client topic
  | inject subject data => exact hSettled.agrees_inject subject data

theorem length_step (h : Hub H) (s : Step H) :
    (h.step s).1.facades.length = h.facades.length := by
  have hMove := move_step h s
  generalize (h.step s).1 = h' at hMove
  generalize (h.step s).2 = reports at hMove
  cases hMove with
  | reserved | removed | drained | discarded | attached | detached => exact List.length_set
  | answered => exact congrArg List.length (grant_same h _ _ _ _ _).1
  | returned | released => exact congrArg List.length (onward_release h _ _ _).1
  | _ => rfl

theorem length_carryOn (h : Hub H) (conduct : Conduct) (number steps : Nat) :
    (h.carryOn conduct number steps).1.facades.length = h.facades.length := by
  induction steps generalizing h with
  | zero => rfl
  | succ steps ih =>
    rw [carryOn]
    split
    · rfl
    · split
      · rfl
      · rename_i answer _
        exact (ih _).trans (length_step h (.proceed number answer))

theorem length_dispatchAll (h : Hub H) (count : Nat) :
    (h.dispatchAll count).1.facades.length = h.facades.length := by
  induction count generalizing h with
  | zero => rfl
  | succ count ih =>
    rw [dispatchAll]
    split
    · rfl
    · rename_i route _
      exact (ih _).trans (length_step h (.dispatch route))

theorem length_perform (h : Hub H) (conduct : Conduct) (s : Step H) :
    (h.perform conduct s).1.facades.length = h.facades.length := by
  have hStep := length_step h s
  simp only [perform]
  generalize h.step s = stepped at hStep
  exact (length_carryOn stepped.1 conduct h.nextCall longestCall).trans hStep

theorem length_serve (h : Hub H) (r : Request H) :
    (h.serve r).2.facades.length = h.facades.length := by
  have hPerform := length_perform h {} r.step
  simp only [serve]
  generalize h.perform {} r.step = performed at hPerform
  exact (length_dispatchAll performed.1 performed.1.broker.backlog).trans hPerform

theorem Settled.serveAll (hSettled : h.Settled links) {requests : List (Request H)}
    (hFits : ∀ r ∈ requests, r.Fits h.facades.length) :
    (h.serveAll requests).1 = (Roster.serveAll (links.map Link.member) requests).1 ∧
      ∃ links', (h.serveAll requests).2.Settled links' ∧
        links'.map Link.member = (Roster.serveAll (links.map Link.member) requests).2 := by
  induction requests generalizing h links with
  | nil => exact ⟨rfl, links, hSettled, rfl⟩
  | cons r rest ih =>
    obtain ⟨hHead, hRest⟩ := List.forall_mem_cons.mp hFits
    obtain ⟨hOutcome, links', hSettled', hMembers⟩ := hSettled.agrees hHead
    obtain ⟨hOutcomes, hEnd⟩ :=
      ih hSettled' fun r' hr' => (length_serve h r).symm ▸ hRest r' hr'
    rw [hMembers] at hOutcomes hEnd
    refine ⟨?_, hEnd⟩
    rw [Hub.serveAll, Roster.serveAll]
    exact congrArg₂ List.cons hOutcome hOutcomes

omit [Handler H] in
theorem settled_opened {groups : List (Option String)}
    (hPlain : ∀ group ∈ groups, group = none ∨ group = some "") :
    (opened groups : Hub H).Settled [] := by
  have hNoPair : ∀ i topic client, (opened groups : Hub H).pair? i topic client = none := by
    intro i topic client
    obtain ⟨group, hFacade⟩ := facade_opened (H := H) groups i
    rw [pair?, hFacade, Registry.get?_empty]
  constructor
  · exact (vacant_opened groups).calls
  · rw [opened_eq]
  · exact (vacant_opened groups).owned
  · exact (vacant_opened groups).routes
  · intro i hBound
    rw [length_opened] at hBound
    rw [opened_eq, Broker.connection, List.getD_eq_getElem _ _ (by simpa using hBound)]
    simp
  · intro i
    rw [opened_eq, facade, List.getD_eq_getElem?_getD, List.getElem?_map]
    cases hGroup : groups[i]? with
    | none => rfl
    | some group =>
      rcases hPlain group (List.mem_of_getElem? hGroup) with rfl | rfl
      · rfl
      · rfl
  · exact List.forall_mem_nil _
  · intro i topic client s hs
    rw [hNoPair] at hs
    cases hs
  · exact List.forall_mem_nil _
  · exact List.forall_mem_nil _
  · exact List.forall_mem_nil _

theorem serveAll_opened {groups : List (Option String)}
    (hPlain : ∀ group ∈ groups, group = none ∨ group = some "") {requests : List (Request H)}
    (hFits : ∀ r ∈ requests, r.Fits groups.length) :
    ((opened groups).serveAll requests).1 = (Roster.serveAll [] requests).1 ∧
      ∀ i client topic, (((opened groups).serveAll requests).2.facade i).isSubscribed client topic =
        (Roster.serveAll [] requests).2.any (Member.holds i client topic) := by
  rw [← length_opened (H := H)] at hFits
  obtain ⟨hOutcomes, links, hEnd, hMembers⟩ := (settled_opened hPlain).serveAll hFits
  refine ⟨hOutcomes, fun i client topic => ?_⟩
  rw [hEnd.isSubscribed, hMembers]
  rfl

/-- On facades without a queue group, requests that are answered one after the
other have the outcomes that they have on one flat list of subscriptions, in
which no pair of a facade stands twice; what a facade has subscribed to is what
stands in that list; and no answer of a handler changes who hears of what. -/
theorem served_as_roster {groups : List (Option String)}
    (hPlain : ∀ group ∈ groups, group = none ∨ group = some "") {requests : List (Request H)}
    (hFits : ∀ r ∈ requests, r.Fits groups.length) :
    ((opened groups).serveAll requests).1 = (Roster.serveAll [] requests).1 ∧
      (Roster.serveAll [] requests).2.Distinct ∧
      (∀ i client topic,
        (((opened groups).serveAll requests).2.facade i).isSubscribed client topic =
          (Roster.serveAll [] requests).2.any (Member.holds i client topic)) ∧
      ∀ a b : Handler H,
        (@serveAll H a (opened groups) requests).1.map Outcome.notices =
            (@serveAll H b (opened groups) requests).1.map Outcome.notices ∧
          (@Roster.serveAll H a [] requests).2 = (@Roster.serveAll H b [] requests).2 := by
  obtain ⟨hOutcomes, hPairs⟩ := serveAll_opened hPlain hFits
  refine ⟨hOutcomes, Roster.distinct_serveAll Roster.distinct_nil requests, hPairs, fun a b => ?_⟩
  obtain ⟨hNotices, hRoster⟩ := Roster.serveAll_indifferent a b [] requests
  refine ⟨?_, hRoster⟩
  rw [(@serveAll_opened H a groups hPlain requests hFits).1,
    (@serveAll_opened H b groups hPlain requests hFits).1, hNotices]

end

/-- The handler is named by what it answers to everything. -/
instance : Handler HandlerError where
  onCancel e := .error e
  onMessage e _ := .error e

def note : Envelope :=
  { channel := "a", subtopic := "b", payload := [1] }

/-- Two facades share a subject; one leaves. The handlers take nothing well. -/
def shared : List (Request HandlerError) :=
  [.subscribe 0 "c" "channels.*.>" .closed, .subscribe 1 "d" "channels.a.b" (.failed "gone"),
    .subscribe 1 "d" "channels.a.b" .closed, .inject "channels.a.b" [255], .publish 0 "a" note,
    .unsubscribe 1 "d" "channels.a.b", .publish 1 "a" note, .unsubscribe 1 "d" "channels.a.b"]

theorem served_as_roster_shared :
    (∀ r ∈ shared, r.Fits 2) ∧
      ((opened [none, some ""]).serveAll shared).1.map Outcome.result =
        [some (.ok ()), some (.ok ()), some (.error .alreadySubscribed), none, some (.ok ()),
          some (.error (.handler (.failed "gone"))), some (.ok ()), some (.error .notSubscribed)] ∧
      ((opened [none, some ""]).serveAll shared).1.map Outcome.notices =
        [[], [], [], [], [.received 0 .closed note, .received 1 (.failed "gone") note],
          [.cancelled 1 (.failed "gone")], [.received 0 .closed note], []] ∧
      (((opened [none, some ""]).serveAll shared).2.facade 1).isSubscribed "d" "channels.a.b" =
        false := by
  have hNote : note.Fits := ⟨by decide, by decide, by decide, by decide, by decide⟩
  have hFits : ∀ r ∈ shared, r.Fits 2 := by simp [shared, Request.Fits, hNote]
  have hPlain : ∀ group ∈ [none, some ""], group = none ∨ group = some "" := by simp
  obtain ⟨hOutcomes, -, hPairs, -⟩ := served_as_roster hPlain hFits
  rw [hOutcomes, hPairs]
  exact ⟨hFits, by cbv, by cbv, by decide +kernel⟩

end DeviceBus.Hub
