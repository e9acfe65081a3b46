import DeviceBus.Proofs.Hub.Books

/-! # What each step enters in the books

The steps of `Hub.Move` are taken one by one. As long as nothing is closed and
the backend takes back what it is given, each is a step of one ledger or leaves
all ledgers as they are.
-/

namespace DeviceBus

variable {H : Type}

/-- The handle that a call gives back in its next step. -/
def Call.giving? : Call H → Option Nat
  | .subscribing _ _ _ _ (.surplus handle) => some handle
  | .releasing s => s.handle
  | _ => none

namespace Hub

variable {h h' : Hub H}

/-- What a step gives back to the backend: a facade and its handle. -/
def givenBack? (h : Hub H) : Step H → Option (Nat × Nat)
  | .proceed number _ =>
      (h.call? number).bind fun p => p.call.giving?.map fun handle => (p.facade, handle)
  | _ => none

/-- Nothing is closed, and the backend takes back what it is given. -/
def Obliging (h : Hub H) : Step H → Prop
  | .close _ => False
  | .proceed number answer => h.givenBack? (.proceed number answer) ≠ none → answer = .carried
  | _ => True

instance (h : Hub H) (s : Step H) : Decidable (h.Obliging s) :=
  match s with
  | .subscribe _ _ _ _ => inferInstanceAs (Decidable True)
  | .unsubscribe _ _ _ => inferInstanceAs (Decidable True)
  | .close _ => inferInstanceAs (Decidable False)
  | .publish _ _ _ _ => inferInstanceAs (Decidable True)
  | .proceed number answer =>
      inferInstanceAs (Decidable (h.givenBack? (.proceed number answer) ≠ none → answer = .carried))
  | .route _ _ => inferInstanceAs (Decidable True)
  | .dispatch _ => inferInstanceAs (Decidable True)

/-- The step from one hub to the other is entered in the ledger of facade `j`,
or in none. -/
structure Entered (h h' : Hub H) (j : Nat) : Prop where
  wired : h'.Wired
  onward : h.broker.Onward h'.broker
  facades : h'.facades.length = h.facades.length
  own : j < h.facades.length → h'.ledger j = h.ledger j ∨ (h.ledger j).Step (h'.ledger j)
  other : ∀ i, i ≠ j → h'.ledger i = h.ledger i

theorem entered_of_same (hWired : h.Wired) (hRoutes : h.broker.SameRoutes h'.broker)
    (hFacades : h'.facades = h.facades) (hCalls : h'.calls = h.calls)
    (hNext : h.nextCall ≤ h'.nextCall) : Entered h h' 0 := by
  have hCall : ∀ number, h'.call? number = h.call? number := by
    intro number
    rw [call?, hCalls, ← call?]
  have hLedger : ∀ i, h'.ledger i = h.ledger i := by
    intro i
    have hFacade : h'.facade i = h.facade i := by rw [facade, hFacades, ← facade]
    refine Ledger.ext ?_ ?_ ?_ (funext fun n => propext hRoutes.live_iff)
    · simp only [ledger, hFacade]
    · exact funext fun number => by simp only [ledger, callOf?, hCall]
    · simp only [ledger, hFacade]
  constructor
  · constructor
    · exact hWired.owned.of_sameRoutes hRoutes
    · rw [hRoutes.connections, hFacades, hWired.connections]
    · intro number p hp
      exact Nat.lt_of_lt_of_le (hWired.number_lt number p (hCall number ▸ hp)) hNext
    · intro number p hp
      exact hWired.not_closing number p (hCall number ▸ hp)
    · intro number p hp
      rw [hFacades]
      exact hWired.absent number p (hCall number ▸ hp)
  · exact hRoutes.onward
  · rw [hFacades]
  · exact fun _ => .inl (hLedger 0)
  · exact fun i _ => hLedger i

/-! ## Calls that begin -/

theorem entered_reserved (hWired : h.Wired) {i ticket : Nat} {client topic : String} {handler : H}
    {f : Facade H} (hReserve : (h.facade i).reserve client topic handler = .ok (ticket, f)) :
    Entered h
      ((h.setFacade i f).begin i (.subscribing client topic ticket handler .reserved)) i := by
  have hSet := wired_setFacade hWired i f
  obtain ⟨hRegistry, -, -⟩ := Facade.reserve_eq_ok hReserve
  obtain ⟨rfl, hNext, hFree, hPairs⟩ := Registry.reserve?_eq_some hRegistry
  constructor
  · exact wired_begin hSet (by simp) fun _ => rfl
  · exact .refl h.broker
  · exact List.length_set
  · intro hBound
    right
    rw [ledger_begin_self hSet, ledger_setFacade_self hBound hPairs, hNext]
    exact .reserve hFree (hWired.callOf?_nextCall i)
  · intro j hOther
    rw [ledger_begin_other hSet hOther, ledger_setFacade_other hOther]

theorem entered_removed (hWired : h.Wired) {i : Nat} {client topic : String} {s : Subscription H}
    {f : Facade H} (hRemove : (h.facade i).remove client topic = .ok (s, f)) :
    Entered h ((h.setFacade i f).begin i (.releasing s)) i := by
  have hSet := wired_setFacade hWired i f
  obtain ⟨hRegistry, -, -⟩ := Facade.remove_eq_ok hRemove
  obtain ⟨hPair, hNext, hPairs⟩ := Registry.remove?_eq_some hRegistry
  have hPresent : i < h.facades.length := by
    rcases Nat.lt_or_ge i h.facades.length with hBound | hAbsent
    · exact hBound
    · rw [facade_of_absent hAbsent] at hPair
      cases hPair
  constructor
  · exact wired_begin hSet (by simp) fun hAbsent =>
      (Nat.not_le_of_lt hPresent (List.length_set ▸ hAbsent)).elim
  · exact .refl h.broker
  · exact List.length_set
  · intro hBound
    right
    rw [ledger_begin_self hSet, ledger_setFacade_self hBound hPairs, hNext]
    exact .remove hPair (hWired.callOf?_nextCall i)
  · intro j hOther
    rw [ledger_begin_other hSet hOther, ledger_setFacade_other hOther]

/-! ## Calls that go on -/

/-- A call goes on without bringing or losing anything. -/
theorem entered_setCall (hWired : h.Wired) {number i : Nat} {call call' : Call H}
    (hCall : h.call? number = some ⟨number, i, call⟩) (hClosing : call' ≠ .closing)
    (hHandle : call'.handle? = call.handle?)
    (hReservation : call'.reservation? = call.reservation?) :
    Entered h (h.setCall number call') i := by
  constructor
  · refine wired_setCall hWired hCall hClosing fun hAbsent => ?_
    rw [hHandle]
    exact hWired.absent number _ hCall hAbsent
  · exact .refl h.broker
  · rfl
  · intro _
    right
    rw [ledger_setCall_self hCall]
    exact .goOn (callOf?_eq_some hCall) hHandle hReservation
  · intro j hOther
    rw [ledger_setCall_other hOther hCall]

theorem grant_cases (h : Hub H) (i ticket : Nat) (topic : String) (handler : H) (answer : Answer) :
    (∃ e, h.grant i topic ticket handler answer = (.refused e, h)) ∨
      ∃ handle broker,
        h.broker.subscribe i topic (h.facade i).group { facade := i, ticket, handler } =
          .ok (handle, broker) ∧
        h.grant i topic ticket handler answer = (.granted handle, { h with broker }) := by
  cases answer with
  | failed reason => exact .inl ⟨_, rfl⟩
  | carried =>
    cases hSubscribe : h.broker.subscribe i topic (h.facade i).group
      { facade := i, ticket, handler } with
    | error e => exact .inl ⟨e, by simp [grant, hSubscribe]⟩
    | ok granted => exact .inr ⟨granted.1, granted.2, rfl, by simp [grant, hSubscribe]⟩

theorem grant_same (h : Hub H) (i ticket : Nat) (topic : String) (handler : H) (answer : Answer) :
    (h.grant i topic ticket handler answer).2.facades = h.facades ∧
      (h.grant i topic ticket handler answer).2.calls = h.calls := by
  rcases grant_cases h i ticket topic handler answer with ⟨e, hGrant⟩ | ⟨handle, broker, -, hGrant⟩
  · rw [hGrant]
    exact ⟨rfl, rfl⟩
  · rw [hGrant]
    exact ⟨rfl, rfl⟩

theorem entered_answered (hWired : h.Wired) {number i ticket : Nat} {answer : Answer}
    {client topic : String} {handler : H}
    (hCall : h.call? number = some ⟨number, i, .subscribing client topic ticket handler .asked⟩) :
    Entered h ((h.grant i topic ticket handler answer).2.setCall number
      (.subscribing client topic ticket handler (h.grant i topic ticket handler answer).1)) i := by
  rcases grant_cases h i ticket topic handler answer with
    ⟨e, hGrant⟩ | ⟨handle, broker, hSubscribe, hGrant⟩
  · rw [hGrant]
    exact entered_setCall hWired hCall (by simp) rfl rfl
  · rw [hGrant]
    have hBroker : ({ h with broker } : Hub H).Wired :=
      wired_broker hWired (Broker.owned_subscribe hWired.owned hSubscribe)
        (Broker.connections_subscribe hSubscribe)
    have hLive := Broker.live_subscribe hSubscribe
    obtain ⟨hOpen, hHandle, -⟩ := Broker.subscribe_eq_ok hSubscribe
    have hPresent : i < h.facades.length := by
      rw [← hWired.connections]
      exact Broker.lt_of_open hOpen
    have hCall' : ({ h with broker } : Hub H).call? number =
        some ⟨number, i, .subscribing client topic ticket handler .asked⟩ := hCall
    constructor
    · exact wired_setCall hBroker hCall' (by simp) fun hAbsent =>
        (Nat.not_le_of_lt hPresent hAbsent).elim
    · exact Broker.onward_subscribe hSubscribe
    · rfl
    · intro _
      right
      have hFresh : ¬h.broker.Live i handle := by
        intro hOld
        have hLess := hWired.owned.live_lt hOld
        rw [hHandle] at hLess
        exact Nat.lt_irrefl _ hLess
      have hLedger : ({ h with broker } : Hub H).ledger i = (h.ledger i).grant handle :=
        Ledger.ext rfl rfl rfl (funext fun n => propext (by
          change broker.Live i n ↔ h.broker.Live i n ∨ n = handle
          rw [hLive, eq_self, true_and]))
      rw [ledger_setCall_self hCall', hLedger]
      exact .grant (callOf?_eq_some hCall) rfl rfl rfl hFresh
    · intro j hOther
      rw [ledger_setCall_other hOther hCall', ledger_broker]
      intro n
      rw [hLive]
      simp [hOther]

/-! ## Calls that settle their reservation -/

theorem entered_discarded (hWired : h.Wired) {number i ticket : Nat} {client topic : String}
    {handler : H} {e : BackendError} (result : Except FacadeError Unit)
    (hCall : h.call? number =
      some ⟨number, i, .subscribing client topic ticket handler (.refused e)⟩) :
    Entered h
      ((h.setFacade i ((h.facade i).discard client topic ticket)).finish number result).1 i := by
  have hSet := wired_setFacade hWired i ((h.facade i).discard client topic ticket)
  constructor
  · exact wired_finish hSet number result
  · exact .refl h.broker
  · exact List.length_set
  · intro hBound
    right
    rw [ledger_finish_self]
    by_cases hOwn : ∃ s, (h.facade i).registry.get? topic client = some s ∧ s.ticket = ticket
    · obtain ⟨s, hPair, hTicket⟩ := hOwn
      obtain ⟨hNext, hPairs⟩ := Registry.discard_of_own hPair hTicket
      rw [ledger_setFacade_self hBound hPairs]
      simp only [Facade.discard, hNext]
      exact .discard (callOf?_eq_some hCall) rfl hPair hTicket rfl
    · have hGone : ∀ s, (h.facade i).registry.get? topic client = some s → s.ticket ≠ ticket :=
        fun s hPair hTicket => hOwn ⟨s, hPair, hTicket⟩
      rw [ledger_setFacade_of_registry (Registry.discard_of_other hGone)]
      exact .giveUp (callOf?_eq_some hCall) rfl hGone rfl rfl
  · intro j hOther
    have hCall' : (h.setFacade i ((h.facade i).discard client topic ticket)).call? number =
        some ⟨number, i, .subscribing client topic ticket handler (.refused e)⟩ := hCall
    rw [ledger_finish_other hOther hCall', ledger_setFacade_other hOther]

theorem entered_attached (hWired : h.Wired) {number i ticket handle : Nat} {client topic : String}
    {handler : H} {f : Facade H} (result : Except FacadeError Unit)
    (hCall : h.call? number =
      some ⟨number, i, .subscribing client topic ticket handler (.granted handle)⟩)
    (hAttach : (h.facade i).attach client topic ticket handle = (true, f)) :
    Entered h ((h.setFacade i f).finish number result).1 i := by
  obtain ⟨hRegistry, -, -⟩ := Facade.attach_eq_true hAttach
  obtain ⟨s, hPair, hTicket, hNext, hPairs⟩ := Registry.attach?_eq_some hRegistry
  constructor
  · exact wired_finish (wired_setFacade hWired i f) number result
  · exact .refl h.broker
  · exact List.length_set
  · intro hBound
    right
    rw [ledger_finish_self, ledger_setFacade_self hBound hPairs, hNext]
    exact .attach (callOf?_eq_some hCall) rfl hPair hTicket rfl
  · intro j hOther
    have hCall' : (h.setFacade i f).call? number =
        some ⟨number, i, .subscribing client topic ticket handler (.granted handle)⟩ := hCall
    rw [ledger_finish_other hOther hCall', ledger_setFacade_other hOther]

theorem entered_detached (hWired : h.Wired) {number i ticket handle : Nat} {client topic : String}
    {handler : H} {f : Facade H}
    (hCall : h.call? number =
      some ⟨number, i, .subscribing client topic ticket handler (.granted handle)⟩)
    (hAttach : (h.facade i).attach client topic ticket handle = (false, f)) :
    Entered h ((h.setFacade i f).setCall number
      (.subscribing client topic ticket handler (.surplus handle))) i := by
  obtain ⟨hRegistry, rfl⟩ := Facade.attach_eq_false hAttach
  have hCall' : (h.setFacade i ((h.facade i).deactivate ticket)).call? number =
      some ⟨number, i, .subscribing client topic ticket handler (.granted handle)⟩ := hCall
  constructor
  · refine wired_setCall (wired_setFacade hWired i _) hCall' (by simp) fun hAbsent => ?_
    exact hWired.absent number _ hCall (List.length_set ▸ hAbsent)
  · exact .refl h.broker
  · exact List.length_set
  · intro hBound
    right
    have hSame : ((h.facade i).deactivate ticket).registry = (h.facade i).registry := rfl
    rw [ledger_setCall_self hCall', ledger_setFacade_of_registry hSame]
    exact .giveUp (callOf?_eq_some hCall) rfl (Registry.attach?_eq_none_iff.mp hRegistry) rfl rfl
  · intro j hOther
    rw [ledger_setCall_other hOther hCall', ledger_setFacade_other hOther]

/-! ## Handles that are given back -/

theorem release_carried {i handle : Nat} (hOwned : h.broker.Owned)
    (hLive : h.broker.Live i handle) :
    ∃ broker, h.broker.unsubscribe i handle = .ok broker ∧
      h.release i handle .carried = (.ok (), { h with broker }) := by
  obtain ⟨broker, hUnsubscribe⟩ :=
    Broker.exists_unsubscribe_iff.mpr ((hOwned.owned_iff i handle).mpr hLive)
  exact ⟨broker, hUnsubscribe, by simp [release, hUnsubscribe]⟩

theorem wired_unsubscribe (hWired : h.Wired) {i handle : Nat} {broker : Broker (Tap H)}
    (hUnsubscribe : h.broker.unsubscribe i handle = .ok broker) :
    ({ h with broker } : Hub H).Wired :=
  wired_broker hWired (Broker.owned_unsubscribe hWired.owned hUnsubscribe)
    (Broker.connections_unsubscribe hUnsubscribe)

theorem ledger_unsubscribe_self {i handle : Nat} {broker : Broker (Tap H)}
    (hUnsubscribe : h.broker.unsubscribe i handle = .ok broker) :
    ({ h with broker } : Hub H).ledger i = (h.ledger i).takeBack handle :=
  Ledger.ext rfl rfl rfl (funext fun n => propext (by
    change broker.Live i n ↔ h.broker.Live i n ∧ n ≠ handle
    rw [Broker.live_unsubscribe hUnsubscribe, eq_self, true_and]))

theorem ledger_unsubscribe_other {i j handle : Nat} {broker : Broker (Tap H)} (hOther : i ≠ j)
    (hUnsubscribe : h.broker.unsubscribe j handle = .ok broker) :
    ({ h with broker } : Hub H).ledger i = h.ledger i := by
  refine ledger_broker fun n => ?_
  rw [Broker.live_unsubscribe hUnsubscribe]
  simp [hOther]

theorem entered_returned (hWired : h.Wired) {number i ticket handle : Nat} {client topic : String}
    {handler : H} {broker : Broker (Tap H)} (result : Except FacadeError Unit)
    (hCall : h.call? number =
      some ⟨number, i, .subscribing client topic ticket handler (.surplus handle)⟩)
    (hUnsubscribe : h.broker.unsubscribe i handle = .ok broker) :
    Entered h (({ h with broker } : Hub H).finish number result).1 i := by
  constructor
  · exact wired_finish (wired_unsubscribe hWired hUnsubscribe) number result
  · exact Broker.onward_unsubscribe hUnsubscribe
  · rfl
  · intro _
    right
    rw [ledger_finish_self, ledger_unsubscribe_self hUnsubscribe]
    exact .giveBack (callOf?_eq_some hCall) rfl rfl rfl rfl
  · intro j hOther
    have hCall' : ({ h with broker } : Hub H).call? number =
        some ⟨number, i, .subscribing client topic ticket handler (.surplus handle)⟩ := hCall
    rw [ledger_finish_other hOther hCall', ledger_unsubscribe_other hOther hUnsubscribe]

theorem entered_released (hWired : h.Wired) {number i handle : Nat} {s : Subscription H}
    {broker : Broker (Tap H)} (released : Except BackendError Unit)
    (hCall : h.call? number = some ⟨number, i, .releasing s⟩) (hHandle : s.handle = some handle)
    (hUnsubscribe : h.broker.unsubscribe i handle = .ok broker) :
    Entered h (({ h with broker } : Hub H).setCall number (.cancelling s released)) i := by
  have hBroker := wired_unsubscribe hWired hUnsubscribe
  have hCall' : ({ h with broker } : Hub H).call? number = some ⟨number, i, .releasing s⟩ := hCall
  constructor
  · exact wired_setCall hBroker hCall' (by simp) fun _ => rfl
  · exact Broker.onward_unsubscribe hUnsubscribe
  · rfl
  · intro _
    right
    rw [ledger_setCall_self hCall', ledger_unsubscribe_self hUnsubscribe]
    exact .giveBack (callOf?_eq_some hCall) hHandle rfl rfl rfl
  · intro j hOther
    rw [ledger_setCall_other hOther hCall', ledger_unsubscribe_other hOther hUnsubscribe]

theorem entered_cancelled (hWired : h.Wired) {number i : Nat} {s : Subscription H}
    {released : Except BackendError Unit} (result : Except FacadeError Unit)
    (hCall : h.call? number = some ⟨number, i, .cancelling s released⟩) :
    Entered h (h.finish number result).1 i := by
  constructor
  · exact wired_finish hWired number result
  · exact .refl h.broker
  · rfl
  · intro _
    right
    rw [ledger_finish_self]
    exact .finish (callOf?_eq_some hCall) rfl rfl
  · intro j hOther
    rw [ledger_finish_other hOther hCall]

end Hub

end DeviceBus
