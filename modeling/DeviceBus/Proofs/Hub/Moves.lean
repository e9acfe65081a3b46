import DeviceBus.Hub
import DeviceBus.Proofs.Positions
import DeviceBus.Proofs.Registry

/-! # What one step of a hub does

A step of a hub is one of the moves below, each with the condition under which
it happens. What holds along all runs is shown move by move; the stages of a
call are taken apart here and nowhere else.
-/

namespace DeviceBus.Hub

variable {H : Type}

/-! ## The parts of a hub after a change -/

theorem facade_setFacade (h : Hub H) (i j : Nat) (f : Facade H) :
    (h.setFacade i f).facade j = if i = j ∧ i < h.facades.length then f else h.facade j :=
  Positions.getD_set h.facades i f j _

theorem facade_of_absent {h : Hub H} {i : Nat} (hAbsent : h.facades.length ≤ i) :
    h.facade i = {} :=
  List.getD_eq_default _ _ hAbsent

theorem call?_begin {h : Hub H} (hNew : h.call? h.nextCall = none) (i : Nat) (call : Call H)
    (number : Nat) :
    (h.begin i call).call? number =
      if number = h.nextCall then some { number := h.nextCall, facade := i, call }
      else h.call? number := by
  simp only [call?, begin, List.find?_append] at hNew ⊢
  by_cases hSame : number = h.nextCall
  · subst hSame
    simp [hNew]
  · simp [hSame, Ne.symm hSame]

theorem call?_setCall (h : Hub H) (number : Nat) (call : Call H) (number' : Nat) :
    (h.setCall number call).call? number' =
      if number' = number then (h.call? number').map fun p => { p with call }
      else h.call? number' := by
  simp only [call?, setCall]
  induction h.calls with
  | nil => simp
  | cons p rest ih =>
    simp only [List.map_cons, List.find?_cons]
    by_cases hp : p.number = number
    · by_cases hSame : number' = number
      · simp [hp, hSame]
      · simp only [hp, if_true, decide_eq_false (Ne.symm hSame), ih, hSame, if_false]
    · by_cases hFound : p.number = number'
      · have hSame : number' ≠ number := hFound ▸ hp
        simp [hFound, hSame]
      · simp only [hp, if_false, decide_eq_false hFound, ih]

theorem call?_finish (h : Hub H) (number : Nat) (result : Except FacadeError Unit)
    (number' : Nat) :
    (h.finish number result).1.call? number' =
      if number' = number then none else h.call? number' := by
  simp only [call?, finish]
  induction h.calls with
  | nil => simp
  | cons p rest ih =>
    by_cases hp : p.number = number
    · rw [List.filter_cons_of_neg (by simpa using hp), ih, List.find?_cons]
      by_cases hSame : number' = number
      · simp [hSame]
      · have hOther : p.number ≠ number' := by rw [hp]; exact Ne.symm hSame
        simp [hSame, hOther]
    · rw [List.filter_cons_of_pos (by simpa using hp), List.find?_cons, List.find?_cons, ih]
      by_cases hFound : p.number = number'
      · have hSame : number' ≠ number := hFound ▸ hp
        simp [hFound, hSame]
      · simp [hFound]

theorem facade_congr {h g : Hub H} (hSame : g.facades = h.facades) (i : Nat) :
    g.facade i = h.facade i := by
  rw [facade, hSame, ← facade]

theorem facade_broker (h : Hub H) (broker : Broker (Tap H)) (i : Nat) :
    ({ h with broker } : Hub H).facade i = h.facade i := rfl

@[simp]
theorem handed_eq [Handler H] (tap : Tap H) (message : Envelope) :
    handed tap message = .handled tap.facade tap.ticket tap.handler message := by
  unfold handed
  split
  · rfl
  · rfl

/-! ## Moves -/

/-- A step leads to a hub and to reports. The backend's part in it is left as
the model has it: `grant` and `release`. -/
inductive Move [Handler H] (h : Hub H) : Step H → Hub H → List (Report H) → Prop
  /-- A call that fails at once, and a message that is not published. -/
  | declined {s : Step H} {e : FacadeError}
      (hCause : match s with
        | .subscribe i client topic handler => (h.facade i).reserve client topic handler = .error e
        | .unsubscribe i client topic => (h.facade i).remove client topic = .error e
        | .publish _ _ _ _ => True
        | _ => False) :
      Move h s { h with nextCall := h.nextCall + 1 } [.returned h.nextCall (.error e)]
  | reserved {i ticket : Nat} {client topic : String} {handler : H} {f : Facade H}
      (hReserve : (h.facade i).reserve client topic handler = .ok (ticket, f)) :
      Move h (.subscribe i client topic handler)
        ((h.setFacade i f).begin i (.subscribing client topic ticket handler .reserved)) []
  | removed {i : Nat} {client topic : String} {s : Subscription H} {f : Facade H}
      (hRemove : (h.facade i).remove client topic = .ok (s, f)) :
      Move h (.unsubscribe i client topic) ((h.setFacade i f).begin i (.releasing s)) []
  | drained (i : Nat) :
      Move h (.close i) ((h.setFacade i (h.facade i).drain.2).begin i .closing)
        ((h.facade i).drain.1.map fun s => .cancelled i s.ticket s.handler)
  | published {i : Nat} {channel subject : String} {message : Envelope} {answer : Answer}
      (hSubject : Facade.subjectOf channel message = .ok subject)
      (hOpen : (h.broker.connection i).closed = false) :
      Move h (.publish i channel message answer)
        { h with
          broker := (h.broker.route subject message.toBytes).2
          nextCall := h.nextCall + 1 }
        [.returned h.nextCall (.ok ())]
  | routed (subject : String) (data : Bytes) :
      Move h (.route subject data) { h with broker := (h.broker.route subject data).2 } []
  | undisturbed {route : Nat} (hTake : h.broker.takeFrom? route = none) :
      Move h (.dispatch route) h []
  | dispatched {route : Nat} {tap : Tap H} {data : Bytes} {broker : Broker (Tap H)}
      (hTake : h.broker.takeFrom? route = some (tap, data, broker)) :
      Move h (.dispatch route) { h with broker }
        (((h.facade tap.facade).receive? tap.ticket data).toList.map fun message =>
          .handled tap.facade tap.ticket tap.handler message)
  | idle {number : Nat} {answer : Answer} (hCall : h.call? number = none) :
      Move h (.proceed number answer) h []
  | asked {number i ticket : Nat} {answer : Answer} {client topic : String} {handler : H}
      (hCall : h.call? number =
        some ⟨number, i, .subscribing client topic ticket handler .reserved⟩) :
      Move h (.proceed number answer)
        (h.setCall number (.subscribing client topic ticket handler .asked)) []
  | answered {number i ticket : Nat} {answer : Answer} {client topic : String} {handler : H}
      (hCall : h.call? number =
        some ⟨number, i, .subscribing client topic ticket handler .asked⟩) :
      Move h (.proceed number answer)
        ((h.grant i topic ticket handler answer).2.setCall number
          (.subscribing client topic ticket handler (h.grant i topic ticket handler answer).1)) []
  | discarded {number i ticket : Nat} {answer : Answer} {client topic : String} {handler : H}
      {e : BackendError}
      (hCall : h.call? number =
        some ⟨number, i, .subscribing client topic ticket handler (.refused e)⟩) :
      Move h (.proceed number answer)
        ((h.setFacade i ((h.facade i).discard client topic ticket)).finish number
          (.error (.backend e))).1
        [.returned number (.error (.backend e))]
  | attached {number i ticket handle : Nat} {answer : Answer} {client topic : String}
      {handler : H} {f : Facade H}
      (hCall : h.call? number =
        some ⟨number, i, .subscribing client topic ticket handler (.granted handle)⟩)
      (hAttach : (h.facade i).attach client topic ticket handle = (true, f)) :
      Move h (.proceed number answer) ((h.setFacade i f).finish number (.ok ())).1
        [.returned number (.ok ())]
  | detached {number i ticket handle : Nat} {answer : Answer} {client topic : String}
      {handler : H} {f : Facade H}
      (hCall : h.call? number =
        some ⟨number, i, .subscribing client topic ticket handler (.granted handle)⟩)
      (hAttach : (h.facade i).attach client topic ticket handle = (false, f)) :
      Move h (.proceed number answer)
        ((h.setFacade i f).setCall number
          (.subscribing client topic ticket handler (.surplus handle))) []
  | returned {number i ticket handle : Nat} {answer : Answer} {client topic : String} {handler : H}
      (hCall : h.call? number =
        some ⟨number, i, .subscribing client topic ticket handler (.surplus handle)⟩) :
      Move h (.proceed number answer)
        ((h.release i handle answer).2.finish number
          (backendResult (h.release i handle answer).1)).1
        [.returned number (backendResult (h.release i handle answer).1)]
  | unheld {number i : Nat} {answer : Answer} {s : Subscription H}
      (hCall : h.call? number = some ⟨number, i, .releasing s⟩) (hHandle : s.handle = none) :
      Move h (.proceed number answer) (h.setCall number (.cancelling s (.ok ()))) []
  | released {number i handle : Nat} {answer : Answer} {s : Subscription H}
      (hCall : h.call? number = some ⟨number, i, .releasing s⟩) (hHandle : s.handle = some handle) :
      Move h (.proceed number answer)
        ((h.release i handle answer).2.setCall number
          (.cancelling s (h.release i handle answer).1)) []
  | cancelled {number i : Nat} {answer : Answer} {s : Subscription H}
      {released : Except BackendError Unit}
      (hCall : h.call? number = some ⟨number, i, .cancelling s released⟩) :
      Move h (.proceed number answer)
        (h.finish number (cancelResult released (Handler.onCancel s.handler))).1
        [.cancelled i s.ticket s.handler,
          .returned number (cancelResult released (Handler.onCancel s.handler))]
  | closed {number i : Nat} {answer : Answer}
      (hCall : h.call? number = some ⟨number, i, .closing⟩) :
      Move h (.proceed number answer)
        (({ h with broker := h.broker.close i } : Hub H).finish number (.ok ())).1
        [.returned number (.ok ())]

theorem number_of_call? {h : Hub H} {number : Nat} {p : Pending H}
    (hCall : h.call? number = some p) : p.number = number := by
  simpa using List.find?_some hCall

theorem move_publish [Handler H] (h : Hub H) (i : Nat) (channel : String) (message : Envelope)
    (answer : Answer) :
    Move h (.publish i channel message answer) (h.publish i channel message answer).1
      (h.publish i channel message answer).2 := by
  unfold publish
  cases hSubject : Facade.subjectOf channel message with
  | error e => exact .declined trivial
  | ok subject =>
    cases answer with
    | failed reason => exact .declined trivial
    | carried =>
      by_cases hClosed : (h.broker.connection i).closed = true
      · simp only [Broker.publish, hClosed, if_true]
        exact .declined trivial
      · simp only [Broker.publish, hClosed, Bool.false_eq_true, if_false]
        exact .published hSubject (eq_false_of_ne_true hClosed)

theorem move_proceed [Handler H] (h : Hub H) (number : Nat) (answer : Answer) :
    Move h (.proceed number answer) (h.proceed number answer).1 (h.proceed number answer).2 := by
  unfold proceed
  cases hCall : h.call? number with
  | none => exact .idle hCall
  | some p =>
    have hNumber := number_of_call? hCall
    obtain ⟨_, i, call⟩ := p
    subst hNumber
    cases call with
    | subscribing client topic ticket handler stage =>
      cases stage with
      | reserved => exact .asked hCall
      | asked => exact .answered hCall
      | refused e => exact .discarded hCall
      | granted handle =>
        simp only [proceedSubscribe]
        split
        · rename_i f hAttach
          exact .attached hCall hAttach
        · rename_i f hAttach
          exact .detached hCall hAttach
      | surplus handle => exact .returned hCall
    | releasing s =>
      cases hHandle : s.handle with
      | none =>
        simp only [hHandle]
        exact .unheld hCall hHandle
      | some handle =>
        simp only [hHandle]
        exact .released hCall hHandle
    | cancelling s released => exact .cancelled hCall
    | closing => exact .closed hCall

/-- Every step is a move. -/
theorem move_step [Handler H] (h : Hub H) (s : Step H) : Move h s (h.step s).1 (h.step s).2 := by
  cases s with
  | subscribe i client topic handler =>
    simp only [step, beginSubscribe]
    cases hReserve : (h.facade i).reserve client topic handler with
    | error e => exact .declined hReserve
    | ok reserved => exact .reserved hReserve
  | unsubscribe i client topic =>
    simp only [step, beginUnsubscribe]
    cases hRemove : (h.facade i).remove client topic with
    | error e => exact .declined hRemove
    | ok removed => exact .removed hRemove
  | close i => exact .drained i
  | publish i channel message answer => exact move_publish h i channel message answer
  | proceed number answer => exact move_proceed h number answer
  | route subject data => exact .routed subject data
  | dispatch route =>
    simp only [step, dispatch, handed_eq]
    cases hTake : h.broker.takeFrom? route with
    | none => exact .undisturbed hTake
    | some taken =>
      obtain ⟨tap, data, broker⟩ := taken
      have hMove := Move.dispatched hTake
      simp only [facade_broker]
      cases hReceive : (h.facade tap.facade).receive? tap.ticket data with
      | none =>
        rw [hReceive] at hMove
        exact hMove
      | some message =>
        rw [hReceive] at hMove
        exact hMove

end DeviceBus.Hub
