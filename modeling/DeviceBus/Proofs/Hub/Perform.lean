import DeviceBus.Hub.Call
import DeviceBus.Proofs.Hub.Entries

/-! # Calls that nothing interrupts

What a call does to the registry of its facade when it is carried to its end at
once, on a hub without other calls and with a backend that answers.
-/

namespace DeviceBus.Hub

variable {H : Type} {h h' : Hub H} {number i : Nat} {call : Call H}

/-- What the facade has under a pair. -/
def pair? (h : Hub H) (i : Nat) (topic client : String) : Option (Subscription H) :=
  (h.facade i).registry.get? topic client

theorem lt_of_pair? {topic client : String} {s : Subscription H}
    (hPair : h.pair? i topic client = some s) : i < h.facades.length := by
  rcases Nat.lt_or_ge i h.facades.length with hBound | hAbsent
  · exact hBound
  · rw [pair?, facade_of_absent hAbsent, Registry.get?_empty] at hPair
    cases hPair

theorem call?_of_calls (hCalls : h.calls = [⟨number, i, call⟩]) :
    h.call? number = some ⟨number, i, call⟩ := by
  rw [call?, hCalls, List.find?_cons]
  simp

theorem calls_setCall (hCalls : h.calls = [⟨number, i, call⟩]) (call' : Call H) :
    (h.setCall number call').calls = [⟨number, i, call'⟩] := by
  rw [setCall, hCalls]
  simp

theorem calls_finish (hCalls : h.calls = [⟨number, i, call⟩]) (result : Except FacadeError Unit) :
    (h.finish number result).1.calls = [] := by
  rw [finish, hCalls]
  simp

theorem nextAnswer?_default (call : Call H) : nextAnswer? {} call = some .carried := by
  cases call with
  | subscribing client topic ticket handler stage =>
    cases stage with
    | _ => rfl
  | _ => rfl

theorem pair?_setFacade (hBound : i < h.facades.length) {f : Facade H} (topic client : String) :
    (h.setFacade i f).pair? i topic client = f.registry.get? topic client := by
  rw [pair?, facade_setFacade, if_pos ⟨rfl, hBound⟩]

theorem resultOf_cancelled (subs : List (Subscription H)) (i number : Nat)
    (result : Except FacadeError Unit) :
    resultOf number ((subs.map fun s => .cancelled i s.ticket s.handler) ++
      [.returned number result]) = some result := by
  induction subs with
  | nil => simp [resultOf]
  | cons s rest ih => exact ih

section

variable [Handler H]

theorem carryOn_idle (hIdle : h.calls = []) (number steps : Nat) :
    h.carryOn {} number steps = (h, []) := by
  cases steps with
  | zero => rfl
  | succ steps =>
    have hCall : h.call? number = none := by rw [call?, hIdle, List.find?_nil]
    simp only [carryOn, hCall]

theorem carryOn_proceed (hCalls : h.calls = [⟨number, i, call⟩]) {first : List (Report H)}
    (hProceed : h.proceed number .carried = (h', first)) (steps : Nat) :
    h.carryOn {} number (steps + 1) =
      ((h'.carryOn {} number steps).1, first ++ (h'.carryOn {} number steps).2) := by
  simp only [carryOn, call?_of_calls hCalls, nextAnswer?_default, hProceed]

/-- The last step of a call leaves no call behind. -/
theorem carryOn_finish {result : Except FacadeError Unit} {reports : List (Report H)}
    (hCalls : h.calls = [⟨number, i, call⟩])
    (hProceed : h.proceed number .carried = ((h'.finish number result).1, reports))
    (hSame : h'.calls = h.calls) (steps : Nat) :
    h.carryOn {} number (steps + 1) = ((h'.finish number result).1, reports) ∧
      (h'.finish number result).1.calls = [] := by
  have hFinish : (h'.finish number result).1.calls = [] := calls_finish (hSame.trans hCalls) result
  constructor
  · rw [carryOn_proceed hCalls hProceed, carryOn_idle hFinish]
    simp
  · exact hFinish

/-! ## Subscribing -/

section

variable {client topic : String} {ticket : Nat} {handler : H} {s : Subscription H}

theorem carryOn_granted {handle : Nat} (hBound : i < h.facades.length)
    (hCalls : h.calls = [⟨number, i, .subscribing client topic ticket handler (.granted handle)⟩])
    (hPair : h.pair? i topic client = some s) (hTicket : s.ticket = ticket) (steps : Nat) :
    ∃ h', h.carryOn {} number (steps + 1) = (h', [.returned number (.ok ())]) ∧ h'.calls = [] ∧
      h'.facades.length = h.facades.length ∧ ∀ t c, h'.pair? i t c =
        if t = topic ∧ c = client then some { s with handle := some handle }
        else h.pair? i t c := by
  cases hAttach : (h.facade i).attach client topic ticket handle with
  | mk attached f =>
    cases attached with
    | true =>
      obtain ⟨hRegistry, -, -⟩ := Facade.attach_eq_true hAttach
      obtain ⟨s', hPair', -, -, hPairs⟩ := Registry.attach?_eq_some hRegistry
      have hSame : s = s' := Option.some.inj (hPair.symm.trans hPair')
      subst hSame
      have hProceed : h.proceed number .carried =
          (((h.setFacade i f).finish number (.ok ())).1, [.returned number (.ok ())]) := by
        simp only [proceed, call?_of_calls hCalls, proceedSubscribe, hAttach]
        rfl
      have hCarry := carryOn_finish hCalls hProceed rfl steps
      exact ⟨_, hCarry.1, hCarry.2, List.length_set, fun t c =>
        (pair?_setFacade hBound t c).trans (hPairs t c)⟩
    | false =>
      obtain ⟨hRegistry, -⟩ := Facade.attach_eq_false hAttach
      exact (Registry.attach?_eq_none_iff.mp hRegistry s hPair hTicket).elim

theorem carryOn_refused {e : BackendError} (hBound : i < h.facades.length)
    (hCalls : h.calls = [⟨number, i, .subscribing client topic ticket handler (.refused e)⟩])
    (hPair : h.pair? i topic client = some s) (hTicket : s.ticket = ticket) (steps : Nat) :
    ∃ h', h.carryOn {} number (steps + 1) = (h', [.returned number (.error (.backend e))]) ∧
      h'.calls = [] ∧ h'.facades.length = h.facades.length ∧ ∀ t c, h'.pair? i t c =
        if t = topic ∧ c = client then none else h.pair? i t c := by
  obtain ⟨-, hPairs⟩ := Registry.discard_of_own hPair hTicket
  have hProceed : h.proceed number .carried =
      (((h.setFacade i ((h.facade i).discard client topic ticket)).finish number
        (.error (.backend e))).1, [.returned number (.error (.backend e))]) := by
    simp only [proceed, call?_of_calls hCalls, proceedSubscribe]
    rfl
  have hCarry := carryOn_finish hCalls hProceed rfl steps
  exact ⟨_, hCarry.1, hCarry.2, List.length_set, fun t c =>
    (pair?_setFacade hBound t c).trans (hPairs t c)⟩

/-- The backend grants the request and the handle is stored, or it refuses and
the pair is free again. -/
theorem carryOn_asked (hBound : i < h.facades.length)
    (hCalls : h.calls = [⟨number, i, .subscribing client topic ticket handler .asked⟩])
    (hPair : h.pair? i topic client = some s) (hTicket : s.ticket = ticket) (steps : Nat) :
    ∃ h' result after, h.carryOn {} number (steps + 2) = (h', [.returned number result]) ∧
      h'.calls = [] ∧ h'.facades.length = h.facades.length ∧
      ((result = .ok () ∧ ∃ handle, after = some { s with handle := some handle }) ∨
        (∃ e, result = .error e) ∧ after = none) ∧
      ∀ t c, h'.pair? i t c = if t = topic ∧ c = client then after else h.pair? i t c := by
  rcases grant_cases h i ticket topic handler .carried with
    ⟨e, hGrant⟩ | ⟨handle, broker, hSubscribe, hGrant⟩
  · have hProceed : h.proceed number .carried =
        (h.setCall number (.subscribing client topic ticket handler (.refused e)), []) := by
      simp only [proceed, call?_of_calls hCalls, proceedSubscribe, hGrant]
    obtain ⟨h', hCarry, hIdle, hLength, hPairs⟩ :=
      carryOn_refused
        (h := h.setCall number (.subscribing client topic ticket handler (.refused e)))
        hBound (calls_setCall hCalls _) hPair hTicket steps
    refine ⟨h', .error (.backend e), none, ?_, hIdle, hLength, .inr ⟨⟨_, rfl⟩, rfl⟩, hPairs⟩
    rw [carryOn_proceed hCalls hProceed, hCarry, List.nil_append]
  · have hProceed : h.proceed number .carried = (({ h with broker } : Hub H).setCall number
        (.subscribing client topic ticket handler (.granted handle)), []) := by
      simp only [proceed, call?_of_calls hCalls, proceedSubscribe, hGrant]
    obtain ⟨h', hCarry, hIdle, hLength, hPairs⟩ :=
      carryOn_granted (h := ({ h with broker } : Hub H).setCall number
        (.subscribing client topic ticket handler (.granted handle)))
        hBound (calls_setCall (h := { h with broker }) hCalls _) hPair hTicket steps
    refine ⟨h', .ok (), _, ?_, hIdle, hLength, .inl ⟨rfl, handle, rfl⟩, hPairs⟩
    rw [carryOn_proceed hCalls hProceed, hCarry, List.nil_append]

theorem carryOn_reserved (hBound : i < h.facades.length)
    (hCalls : h.calls = [⟨number, i, .subscribing client topic ticket handler .reserved⟩])
    (hPair : h.pair? i topic client = some s) (hTicket : s.ticket = ticket) (steps : Nat) :
    ∃ h' result after, h.carryOn {} number (steps + 3) = (h', [.returned number result]) ∧
      h'.calls = [] ∧ h'.facades.length = h.facades.length ∧
      ((result = .ok () ∧ ∃ handle, after = some { s with handle := some handle }) ∨
        (∃ e, result = .error e) ∧ after = none) ∧
      ∀ t c, h'.pair? i t c = if t = topic ∧ c = client then after else h.pair? i t c := by
  have hProceed : h.proceed number .carried =
      (h.setCall number (.subscribing client topic ticket handler .asked), []) := by
    simp only [proceed, call?_of_calls hCalls, proceedSubscribe]
  obtain ⟨h', result, after, hCarry, hRest⟩ :=
    carryOn_asked (h := h.setCall number (.subscribing client topic ticket handler .asked))
      hBound (calls_setCall hCalls _) hPair hTicket steps
  refine ⟨h', result, after, ?_, hRest⟩
  rw [carryOn_proceed hCalls hProceed, hCarry, List.nil_append]

end

/-- A subscribe call that is carried to its end takes a free pair, or fails and
leaves the registry as it was. -/
theorem perform_subscribe (hIdle : h.calls = []) (hBound : i < h.facades.length)
    (client topic : String) (handler : H) :
    ∃ h' result, h.perform {} (.subscribe i client topic handler) =
        (h', [.returned h.nextCall result], some result) ∧
      h'.calls = [] ∧ h'.facades.length = h.facades.length ∧
      ((result = .ok () ∧ h.pair? i topic client = none ∧ topic ≠ "" ∧ client ≠ "" ∧
          ∃ s : Subscription H, s.handler = handler ∧ ∀ t c, h'.pair? i t c =
            if t = topic ∧ c = client then some s else h.pair? i t c) ∨
        ((∃ e, result = .error e) ∧ ∀ t c, h'.pair? i t c = h.pair? i t c)) := by
  cases hReserve : (h.facade i).reserve client topic handler with
  | error e =>
    refine ⟨{ h with nextCall := h.nextCall + 1 }, .error e, ?_, hIdle, rfl, .inr ⟨⟨e, rfl⟩, ?_⟩⟩
    · simp [perform, step, beginSubscribe, hReserve, immediate,
        carryOn_idle (h := { h with nextCall := h.nextCall + 1 }) hIdle, resultOf]
    · exact fun t c => rfl
  | ok reserved =>
    obtain ⟨ticket, f⟩ := reserved
    obtain ⟨hRegistry, -, -⟩ := Facade.reserve_eq_ok hReserve
    obtain ⟨-, -, hFree, hPairs⟩ := Registry.reserve?_eq_some hRegistry
    obtain ⟨hTopic, hClient⟩ := Facade.names_of_reserve hReserve
    have hCalls : ((h.setFacade i f).begin i
        (.subscribing client topic ticket handler .reserved)).calls =
          [⟨h.nextCall, i, .subscribing client topic ticket handler .reserved⟩] := by
      simp [begin, setFacade, hIdle]
    have hBegun : ∀ t c, ((h.setFacade i f).begin i
        (.subscribing client topic ticket handler .reserved)).pair? i t c =
          if t = topic ∧ c = client then some { ticket, handler } else h.pair? i t c :=
      fun t c => (pair?_setFacade hBound t c).trans (hPairs t c)
    obtain ⟨h', result, after, hCarry, hIdle', hLength, hOutcome, hAfter⟩ :=
      carryOn_reserved (List.length_set.symm ▸ hBound) hCalls
        ((hBegun topic client).trans (if_pos ⟨rfl, rfl⟩)) rfl 2
    have hFinal : ∀ t c, h'.pair? i t c =
        if t = topic ∧ c = client then after else h.pair? i t c := by
      intro t c
      rw [hAfter]
      split
      · rfl
      · rename_i hOther
        exact (hBegun t c).trans (if_neg hOther)
    refine ⟨h', result, ?_, hIdle', hLength.trans List.length_set, ?_⟩
    · simp [perform, step, beginSubscribe, hReserve, longestCall, hCarry, resultOf]
    · rcases hOutcome with ⟨hOk, handle, hHandle⟩ | ⟨hError, hNone⟩
      · refine .inl ⟨hOk, hFree, hTopic, hClient, { ticket, handler, handle := some handle },
          rfl, ?_⟩
        intro t c
        rw [hFinal, hHandle]
      · refine .inr ⟨hError, fun t c => ?_⟩
        rw [hFinal, hNone]
        split
        · rename_i hSame
          rw [hSame.1, hSame.2]
          exact hFree.symm
        · rfl

/-! ## Unsubscribing -/

theorem carryOn_cancelling {s : Subscription H} {released : Except BackendError Unit}
    (hCalls : h.calls = [⟨number, i, .cancelling s released⟩]) (steps : Nat) :
    ∃ h' result, h.carryOn {} number (steps + 1) =
        (h', [.cancelled i s.ticket s.handler, .returned number result]) ∧
      h'.calls = [] ∧ h'.facades = h.facades := by
  have hProceed : h.proceed number .carried =
      ((h.finish number (cancelResult released (Handler.onCancel s.handler))).1,
        [.cancelled i s.ticket s.handler,
          .returned number (cancelResult released (Handler.onCancel s.handler))]) := by
    simp only [proceed, call?_of_calls hCalls]
    rfl
  have hCarry := carryOn_finish hCalls hProceed rfl steps
  exact ⟨_, _, hCarry.1, hCarry.2, rfl⟩

theorem carryOn_releasing {s : Subscription H} (hCalls : h.calls = [⟨number, i, .releasing s⟩])
    (steps : Nat) :
    ∃ h' result, h.carryOn {} number (steps + 2) =
        (h', [.cancelled i s.ticket s.handler, .returned number result]) ∧
      h'.calls = [] ∧ h'.facades = h.facades := by
  have hProceed : ∃ (h₁ : Hub H) (released : Except BackendError Unit), h.proceed number .carried =
      (h₁.setCall number (.cancelling s released), []) ∧
        h₁.calls = h.calls ∧ h₁.facades = h.facades := by
    cases hHandle : s.handle with
    | none =>
      refine ⟨h, .ok (), ?_, rfl, rfl⟩
      simp only [proceed, call?_of_calls hCalls, hHandle]
    | some handle =>
      have hSame : (h.release i handle .carried).2.calls = h.calls ∧
          (h.release i handle .carried).2.facades = h.facades := by
        simp only [release]
        split
        · exact ⟨rfl, rfl⟩
        · exact ⟨rfl, rfl⟩
      refine ⟨(h.release i handle .carried).2, (h.release i handle .carried).1, ?_, hSame⟩
      simp only [proceed, call?_of_calls hCalls, hHandle]
  obtain ⟨h₁, released, hProceed, hSameCalls, hSameFacades⟩ := hProceed
  obtain ⟨h', result, hCarry, hIdle, hFacades⟩ :=
    carryOn_cancelling (h := h₁.setCall number (.cancelling s released))
      (calls_setCall (hSameCalls.trans hCalls) _) steps
  refine ⟨h', result, ?_, hIdle, hFacades.trans hSameFacades⟩
  rw [carryOn_proceed hCalls hProceed, hCarry, List.nil_append]

/-- An unsubscribe call takes a pair out and cancels its handler, or fails. -/
theorem perform_unsubscribe (hIdle : h.calls = []) (hBound : i < h.facades.length)
    (client topic : String) :
    (∃ e, h.perform {} (.unsubscribe i client topic) =
        ({ h with nextCall := h.nextCall + 1 }, [.returned h.nextCall (.error e)],
          some (.error e)) ∧
        (h.pair? i topic client = none ∨ topic = "" ∨ client = "")) ∨
      ∃ s h' result, h.pair? i topic client = some s ∧
        h.perform {} (.unsubscribe i client topic) =
          (h', [.cancelled i s.ticket s.handler, .returned h.nextCall result], some result) ∧
        h'.calls = [] ∧ h'.facades.length = h.facades.length ∧
        ∀ t c, h'.pair? i t c = if t = topic ∧ c = client then none else h.pair? i t c := by
  rcases (h.facade i).remove_cases client topic with
    ⟨e, hRemove, hCause⟩ | ⟨s, registry, hPair, hRegistry, hRemove⟩
  · refine .inl ⟨e, ?_, hCause⟩
    simp [perform, step, beginUnsubscribe, hRemove, immediate,
      carryOn_idle (h := { h with nextCall := h.nextCall + 1 }) hIdle, resultOf]
  · obtain ⟨-, -, hPairs⟩ := Registry.remove?_eq_some hRegistry
    have hCalls : ((h.setFacade i ({ h.facade i with registry }.deactivate s.ticket)).begin i
        (.releasing s)).calls = [⟨h.nextCall, i, .releasing s⟩] := by
      simp [begin, setFacade, hIdle]
    obtain ⟨h', result, hCarry, hIdle', hFacades⟩ := carryOn_releasing hCalls 3
    refine .inr ⟨s, h', result, hPair, ?_, hIdle', ?_, ?_⟩
    · simp [perform, step, beginUnsubscribe, hRemove, longestCall, hCarry, resultOf]
    · rw [hFacades]
      exact List.length_set
    · intro t c
      rw [pair?, facade, hFacades, ← facade]
      exact (pair?_setFacade hBound t c).trans (hPairs t c)

/-! ## Publishing and closing -/

theorem perform_publish (hIdle : h.calls = []) (i : Nat) (channel : String) (message : Envelope)
    (answer : Answer) :
    ∃ h' result, h.perform {} (.publish i channel message answer) =
        (h', [.returned h.nextCall result], some result) ∧
      h'.calls = [] ∧ h'.facades = h.facades := by
  have hStep : ∃ (h' : Hub H) (result : Except FacadeError Unit),
      h.publish i channel message answer = (h', [.returned h.nextCall result]) ∧
        h'.calls = [] ∧ h'.facades = h.facades := by
    have hMove := move_publish h i channel message answer
    generalize hPublish : h.publish i channel message answer = published at hMove
    obtain ⟨h', reports⟩ := published
    cases hMove with
    | declined hCause => exact ⟨_, _, rfl, hIdle, rfl⟩
    | published hSubject hOpen => exact ⟨_, _, rfl, hIdle, rfl⟩
  obtain ⟨h', result, hPublish, hIdle', hFacades⟩ := hStep
  refine ⟨h', result, ?_, hIdle', hFacades⟩
  simp [perform, step, hPublish, carryOn_idle hIdle', resultOf]

theorem carryOn_closing (hCalls : h.calls = [⟨number, i, .closing⟩]) (steps : Nat) :
    ∃ h', h.carryOn {} number (steps + 1) = (h', [.returned number (.ok ())]) ∧
      h'.calls = [] ∧ h'.facades = h.facades := by
  have hProceed : h.proceed number .carried =
      ((({ h with broker := h.broker.close i } : Hub H).finish number (.ok ())).1,
        [.returned number (.ok ())]) := by
    simp only [proceed, call?_of_calls hCalls]
    rfl
  have hCarry := carryOn_finish hCalls hProceed rfl steps
  exact ⟨_, hCarry.1, hCarry.2, rfl⟩

/-- Closing takes every pair out and cancels its handler. -/
theorem perform_close (hIdle : h.calls = []) (hBound : i < h.facades.length) :
    ∃ h', h.perform {} (.close i) =
        (h', ((h.facade i).drain.1.map fun s => .cancelled i s.ticket s.handler) ++
          [.returned h.nextCall (.ok ())], some (.ok ())) ∧
      h'.calls = [] ∧ h'.facades.length = h.facades.length ∧ ∀ t c, h'.pair? i t c = none := by
  have hCalls : ((h.setFacade i (h.facade i).drain.2).begin i .closing).calls =
      [⟨h.nextCall, i, .closing⟩] := by
    simp [begin, setFacade, hIdle]
  obtain ⟨h', hCarry, hIdle', hFacades⟩ := carryOn_closing hCalls 4
  refine ⟨h', ?_, hIdle', ?_, fun t c => ?_⟩
  · simp only [perform, step, beginClose, longestCall, hCarry, resultOf_cancelled]
  · rw [hFacades]
    exact List.length_set
  · rw [pair?, facade, hFacades, ← facade]
    refine (pair?_setFacade hBound t c).trans ?_
    rw [Facade.registry_drain, Registry.get?_drain]

end

end DeviceBus.Hub
