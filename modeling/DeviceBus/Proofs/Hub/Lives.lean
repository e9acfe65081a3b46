import DeviceBus.Proofs.Hub.Claims

/-! # The life of a reservation

A claim is in one of four phases. It is held while the pair carries its ticket.
An unsubscribe call takes it out and then cancels its handler, a closing does
both at once, and a call whose backend has refused drops it without a word. No
phase leads back, and the handler hears of the end once, on entering the phase
`cancelled`.
-/

namespace DeviceBus

variable {H : Type}

inductive Phase where
  | held
  /-- This call has taken the claim out and is still to cancel the handler. -/
  | leaving (call : Nat)
  | cancelled
  | dropped
  deriving DecidableEq

namespace Phase

def cancels : Phase → Nat
  | .cancelled => 1
  | _ => 0

def Reaches : Phase → Phase → Prop
  | .held, _ => True
  | .leaving n, q => q = .leaving n ∨ q = .cancelled
  | .cancelled, q => q = .cancelled
  | .dropped, q => q = .dropped

theorem Reaches.refl (p : Phase) : p.Reaches p := by
  cases p with
  | held => trivial
  | leaving n => exact .inl rfl
  | cancelled => rfl
  | dropped => rfl

theorem Reaches.trans {p q r : Phase} (hFirst : p.Reaches q) (hNext : q.Reaches r) :
    p.Reaches r := by
  cases p with
  | held => trivial
  | leaving n =>
    rcases hFirst with rfl | rfl
    · exact hNext
    · exact .inr hNext
  | cancelled =>
    cases hFirst
    exact hNext
  | dropped =>
    cases hFirst
    exact hNext

end Phase

namespace Hub

variable {h h' : Hub H} {c : Claim H} {s : Step H} {n : Nat} {p : Phase}

/-- An unsubscribe or close call takes the claim out of the registry. -/
def TakesOut (h : Hub H) (s : Step H) (c : Claim H) : Prop :=
  (s = .unsubscribe c.facade c.client c.topic ∨ s = .close c.facade) ∧ h.Holds c

def Active (h : Hub H) (c : Claim H) : Prop :=
  c.ticket ∈ (h.facade c.facade).active

/-- No route and no message leads to the claim's handler. -/
def Untapped (h : Hub H) (c : Claim H) : Prop :=
  ∀ tap, h.broker.Leads tap → tap.facade = c.facade → tap.ticket ≠ c.ticket

inductive InPhase (h : Hub H) (c : Claim H) : Phase → Prop
  | held (hServes : (h.facade c.facade).Serves c.client c.topic c.ticket)
      (hIn : ∀ n, ¬h.Leaving c n) : InPhase h c .held
  | leaving {n : Nat} (hOut : ¬h.Holds c) (hStill : ¬h.Active c) (hLeaving : h.Leaving c n)
      (hAlone : ∀ m, h.Leaving c m → m = n) : InPhase h c (.leaving n)
  | cancelled (hOut : ¬h.Holds c) (hStill : ¬h.Active c) (hGone : ∀ n, ¬h.Leaving c n) :
      InPhase h c .cancelled
  | dropped (hOut : ¬h.Holds c) (hReturned : h.call? c.call = none) (hUntapped : h.Untapped c)
      (hGone : ∀ n, ¬h.Leaving c n) : InPhase h c .dropped

theorem InPhase.held_iff (hPhase : h.InPhase c p) : p = .held ↔ h.Holds c := by
  cases hPhase with
  | held hServes hIn => exact iff_of_true rfl hServes.pair
  | leaving hOut hStill hLeaving hAlone => exact iff_of_false (by simp) hOut
  | cancelled hOut hStill hGone => exact iff_of_false (by simp) hOut
  | dropped hOut hReturned hUntapped hGone => exact iff_of_false (by simp) hOut

/-- What a step may make of a claim's phase, and how often it cancels the handler. -/
inductive Turn (h : Hub H) (s : Step H) (c : Claim H) : Phase → Phase → Nat → Prop
  | stays (p : Phase) (hKept : ¬h.TakesOut s c) : Turn h s c p p 0
  | unsubscribed (hTaken : h.TakesOut s c) : Turn h s c .held (.leaving h.nextCall) 0
  | drained (hTaken : h.TakesOut s c) : Turn h s c .held .cancelled 1
  | cancelled (n : Nat) (hKept : ¬h.TakesOut s c) : Turn h s c (.leaving n) .cancelled 1
  | dropped {e : BackendError} {answer : Answer} (hStep : s = .proceed c.call answer)
      (hCall : h.call? c.call = some (c.pending (.refused e))) : Turn h s c .held .dropped 0

theorem Turn.reaches {q : Phase} {count : Nat} (hTurn : h.Turn s c p q count) :
    p.Reaches q ∧ count + p.cancels = q.cancels := by
  cases hTurn with
  | stays p hKept => exact ⟨.refl p, Nat.zero_add _⟩
  | unsubscribed hTaken => exact ⟨trivial, rfl⟩
  | drained hTaken => exact ⟨trivial, rfl⟩
  | cancelled n hKept => exact ⟨.inr rfl, rfl⟩
  | dropped hStep hCall => exact ⟨trivial, rfl⟩

/-! ## What is lost stays lost -/

section

variable (hTraced : h.Traced c) (hOnward : h.Onward h')

include hTraced hOnward

theorem holds_of_onward (hHolds : h'.Holds c) : h.Holds c := by
  obtain ⟨s', hs', hTicket⟩ := hHolds
  rcases (hOnward.facade c.facade).pair _ _ s' hs' with ⟨s, hs, hSame, -⟩ | hDraws
  · exact ⟨s, hs, hSame.trans hTicket⟩
  · exact (Draws.ne_of_traced hTraced hDraws hTicket).elim

theorem active_of_onward (hActive : h'.Active c) : h.Active c := by
  rcases (hOnward.facade c.facade).active c.ticket hActive with hOld | hDraws
  · exact hOld
  · exact (Draws.ne_of_traced hTraced hDraws rfl).elim

theorem leaving_of_onward (hLeaving : h'.Leaving c n) :
    h.Leaving c n ∨ h.nextCall ≤ n ∧ n < h'.nextCall ∧ h.Holds c ∧ ¬h'.Holds c := by
  obtain ⟨call', s, hFound, hTaking, hTicket⟩ := hLeaving
  rcases hOnward.call _ _ _ hFound with ⟨call, hOld, hNext⟩ | ⟨hLate, hLess, hBegun⟩
  · exact .inl ⟨call, s, hOld, hNext.taking? hTaking, hTicket⟩
  · -- The call begins in this step, and takes the claim out with it.
    obtain ⟨topic, client, hPair, hGone⟩ := hBegun.taking? hTaking
    obtain ⟨rfl, rfl, -⟩ := hTraced.pair topic client s hPair hTicket
    refine .inr ⟨hLate, hLess, ⟨s, hPair, hTicket⟩, ?_⟩
    rintro ⟨s', hs', -⟩
    rw [hGone] at hs'
    cases hs'

theorem returned_of_onward (hReturned : h.call? c.call = none) : h'.call? c.call = none :=
  hOnward.returned hTraced.numbered hReturned

theorem untapped_of_onward (hUntapped : h.Untapped c) (hReturned : h.call? c.call = none) :
    h'.Untapped c := by
  intro tap hLeads hFacade hTicket
  rcases hOnward.tap tap hLeads with hOld | ⟨n, client, topic, handle, hAsked, -⟩
  · exact hUntapped tap hOld hFacade hTicket
  · rw [hFacade, hTicket] at hAsked
    obtain ⟨rfl, -⟩ := hTraced.subscribing n client topic tap.handler .asked hAsked
    rw [hReturned] at hAsked
    cases hAsked

end

/-! ## A claim in place -/

theorem remove_of_holds (hTraced : h.Traced c) (hHolds : h.Holds c) :
    ∃ sub f, sub.ticket = c.ticket ∧
      (h.facade c.facade).remove c.client c.topic = .ok (sub, f) := by
  obtain ⟨sub, hPair, hTicket⟩ := hHolds
  rcases (h.facade c.facade).remove_cases c.client c.topic with
    ⟨e, -, hCause⟩ | ⟨sub', registry, hPair', -, hRemove⟩
  · rcases hCause with hNone | hTopic | hClient
    · rw [pair?, hNone] at hPair
      cases hPair
    · exact (hTraced.names.1 hTopic).elim
    · exact (hTraced.names.2 hClient).elim
  · rw [pair?, hPair'] at hPair
    cases hPair
    exact ⟨_, _, hTicket, hRemove⟩

theorem serves_setFacade {i : Nat} {f : Facade H} {client topic : String} {ticket j : Nat}
    (hServes : (h.facade j).Serves client topic ticket)
    (hOwn : i = j → f.Serves client topic ticket) :
    ((h.setFacade i f).facade j).Serves client topic ticket := by
  rw [facade_setFacade]
  split
  · rename_i hSame
    exact hOwn hSame.1
  · exact hServes

/-! ## Reports -/

section

variable [Handler H]

/-- A handler is cancelled by a closing that finds its pair, or at the end of the
call that has taken the pair out. -/
theorem mem_cancelled_step {i k : Nat} {handler : H}
    (hMem : .cancelled i k handler ∈ (h.step s).2) :
    (s = .close i ∧ ∃ topic client sub, h.pair? i topic client = some sub ∧ sub.ticket = k ∧
        sub.handler = handler) ∨
      ∃ n answer call sub, s = .proceed n answer ∧ h.call? n = some ⟨n, i, call⟩ ∧
        call.taking? = some sub ∧ sub.ticket = k ∧ sub.handler = handler := by
  have hMove := move_step h s
  generalize (h.step s).1 = h' at hMove
  generalize (h.step s).2 = reports at hMove hMem
  cases hMove with
  | drained j =>
    obtain ⟨sub, hSub, hReport⟩ := List.mem_map.mp hMem
    cases hReport
    obtain ⟨topic, client, hPair⟩ := Registry.mem_drain_iff.mp hSub
    exact .inl ⟨rfl, topic, client, sub, hPair, rfl, rfl⟩
  | cancelled hCall =>
    rcases List.mem_cons.mp hMem with hReport | hLast
    · cases hReport
      exact .inr ⟨_, _, _, _, rfl, hCall, rfl, rfl, rfl⟩
    · cases List.mem_singleton.mp hLast
  | dispatched hTake =>
    obtain ⟨message, -, hReport⟩ := List.mem_map.mp hMem
    cases hReport
  | _ => simp at hMem

theorem mem_handled_step {i k : Nat} {handler : H} {message : Envelope}
    (hMem : .handled i k handler message ∈ (h.step s).2) :
    k ∈ (h.facade i).active ∧ h.broker.Leads ⟨i, k, handler⟩ ∧ ∃ route, s = .dispatch route := by
  have hMove := move_step h s
  generalize (h.step s).1 = h' at hMove
  generalize (h.step s).2 = reports at hMove hMem
  cases hMove with
  | drained j =>
    obtain ⟨sub, -, hReport⟩ := List.mem_map.mp hMem
    cases hReport
  | cancelled hCall => simp at hMem
  | @dispatched route tap data broker hTake =>
    obtain ⟨message', hReceive, hReport⟩ := List.mem_map.mp hMem
    cases hReport
    have hActive : tap.ticket ∈ (h.facade tap.facade).active := by
      refine Decidable.byContradiction fun hIdle => ?_
      rw [Facade.receive?, if_neg hIdle] at hReceive
      cases hReceive
    exact ⟨hActive, (Broker.leads_takeFrom? hTake).1, route, rfl⟩
  | _ => simp at hMem

theorem cancels_eq_zero (hTraced : h.Traced c) (hKept : ¬h.TakesOut s c)
    (hIdle : ∀ n answer, s = .proceed n answer → ¬h.Leaving c n) : c.cancels (h.step s).2 = 0 := by
  rw [Claim.cancels_eq_zero_iff]
  intro handler hMem
  rcases mem_cancelled_step hMem with
    ⟨rfl, topic, client, sub, hPair, hTicket, -⟩ |
    ⟨n, answer, call, sub, rfl, hCall, hTaking, hTicket, -⟩
  · obtain ⟨rfl, rfl, -⟩ := hTraced.pair topic client sub hPair hTicket
    exact hKept ⟨.inr rfl, sub, hPair, hTicket⟩
  · exact hIdle n answer rfl ⟨call, sub, hCall, hTaking, hTicket⟩

/-! ## A claim on its way out -/

theorem call?_step_other (hNumbered : h.Numbered) {q : Pending H} (hCall : h.call? n = some q)
    (hOther : ∀ answer, s ≠ .proceed n answer) : (h.step s).1.call? n = some q := by
  have hMove := move_step h s
  generalize (h.step s).1 = h' at hMove
  generalize (h.step s).2 = reports at hMove
  have hOld : n ≠ h.nextCall := Nat.ne_of_lt (hNumbered n q hCall)
  have hSet : ∀ (h₁ : Hub H) (number : Nat) (call : Call H), h₁.calls = h.calls → n ≠ number →
      (h₁.setCall number call).call? n = some q := by
    intro h₁ number call hSame hDiffers
    rw [call?_setCall, if_neg hDiffers, call?_congr hSame, hCall]
  have hFinish : ∀ (h₁ : Hub H) (number : Nat) (result : Except FacadeError Unit),
      h₁.calls = h.calls → n ≠ number → (h₁.finish number result).1.call? n = some q := by
    intro h₁ number result hSame hDiffers
    rw [call?_finish, if_neg hDiffers, call?_congr hSame, hCall]
  have hBegin : ∀ (i : Nat) (f : Facade H) (call : Call H),
      ((h.setFacade i f).begin i call).call? n = some q := by
    intro i f call
    rw [call?_begin (h := h.setFacade i f) hNumbered.fresh]
    exact (if_neg hOld).trans hCall
  have hNumber : ∀ {number : Nat} {answer : Answer}, s = .proceed number answer → n ≠ number := by
    rintro number answer hStep rfl
    exact hOther answer hStep
  cases hMove with
  | declined hCause => exact hCall
  | reserved hReserve => exact hBegin _ _ _
  | removed hRemove => exact hBegin _ _ _
  | drained i => exact hBegin _ _ _
  | published hSubject hOpen => exact hCall
  | routed subject data => exact hCall
  | undisturbed hTake => exact hCall
  | dispatched hTake => exact hCall
  | idle hNone => exact hCall
  | asked hFound => exact hSet h _ _ rfl (hNumber rfl)
  | answered hFound => exact hSet _ _ _ (grant_same h _ _ _ _ _).2 (hNumber rfl)
  | discarded hFound => exact hFinish (h.setFacade _ _) _ _ rfl (hNumber rfl)
  | attached hFound hAttach => exact hFinish (h.setFacade _ _) _ _ rfl (hNumber rfl)
  | detached hFound hAttach => exact hSet (h.setFacade _ _) _ _ rfl (hNumber rfl)
  | returned hFound => exact hFinish _ _ _ (onward_release h _ _ _).2.1 (hNumber rfl)
  | unheld hFound hHandle => exact hSet h _ _ rfl (hNumber rfl)
  | released hFound hHandle => exact hSet _ _ _ (onward_release h _ _ _).2.1 (hNumber rfl)
  | cancelled hFound => exact hFinish h _ _ rfl (hNumber rfl)
  | @closed number i answer hFound =>
    exact hFinish { h with broker := h.broker.close i } _ _ rfl (hNumber rfl)

theorem proceed_leaving {i : Nat} {call : Call H} {sub : Subscription H} (answer : Answer)
    (hCall : h.call? n = some ⟨n, i, call⟩) (hTaking : call.taking? = some sub) :
    (∃ released, (h.step (.proceed n answer)).1.call? n = some ⟨n, i, .cancelling sub released⟩ ∧
        (h.step (.proceed n answer)).2 = []) ∨
      (h.step (.proceed n answer)).1.call? n = none ∧
        ∃ result, (h.step (.proceed n answer)).2 =
          [.cancelled i sub.ticket sub.handler, .returned n result] := by
  cases call with
  | releasing s =>
    cases hTaking
    left
    cases hHandle : sub.handle with
    | none =>
      refine ⟨.ok (), ?_⟩
      simp only [step, proceed, hCall, hHandle, and_true]
      exact call?_setCall_self rfl hCall _
    | some handle =>
      refine ⟨(h.release i handle answer).1, ?_⟩
      simp only [step, proceed, hCall, hHandle, and_true]
      exact call?_setCall_self (onward_release h i handle answer).2.1 hCall _
  | cancelling s released =>
    cases hTaking
    right
    simp only [step, proceed, hCall]
    exact ⟨(call?_finish h n _ n).trans (if_pos rfl), _, rfl⟩
  | _ => cases hTaking

/-! ## Taking a claim out -/

theorem unsubscribe_step (hDrawn : h.Drawn) (hTraced : h.Traced c) (hHolds : h.Holds c)
    (hIn : ∀ n, ¬h.Leaving c n) :
    (h.step (.unsubscribe c.facade c.client c.topic)).1.InPhase c (.leaving h.nextCall) ∧
      (h.step (.unsubscribe c.facade c.client c.topic)).2 = [] := by
  obtain ⟨sub, f, hTicket, hRemove⟩ := remove_of_holds hTraced hHolds
  have hOnward := onward_step hDrawn.numbered (.unsubscribe c.facade c.client c.topic)
  have hStep : h.step (.unsubscribe c.facade c.client c.topic) =
      ((h.setFacade c.facade f).begin c.facade (.releasing sub), []) := by
    simp only [step, beginUnsubscribe, hRemove]
  rw [hStep] at hOnward ⊢
  obtain ⟨hRegistry, hActive, -⟩ := Facade.remove_eq_ok hRemove
  obtain ⟨-, -, hPairs⟩ := Registry.remove?_eq_some hRegistry
  have hFacade : (h.setFacade c.facade f).facade c.facade = f :=
    (facade_setFacade h _ _ f).trans (if_pos ⟨rfl, hTraced.present⟩)
  have hNew : ((h.setFacade c.facade f).begin c.facade (.releasing sub)).call? h.nextCall =
      some ⟨h.nextCall, c.facade, .releasing sub⟩ :=
    (call?_begin (h := h.setFacade c.facade f) hDrawn.numbered.fresh _ _ _).trans (if_pos rfl)
  refine ⟨.leaving ?_ ?_ ⟨_, sub, hNew, rfl, hTicket⟩ ?_, rfl⟩
  · rintro ⟨s', hs', -⟩
    have hNone := (pair?_setFacade hTraced.present c.topic c.client).trans
      ((hPairs c.topic c.client).trans (if_pos ⟨rfl, rfl⟩))
    exact Option.some_ne_none s' (hs'.symm.trans hNone)
  · intro hMem
    have hMem : c.ticket ∈ f.active := hFacade ▸ hMem
    rw [hActive, List.mem_filter, decide_eq_true_eq] at hMem
    exact hMem.2 hTicket.symm
  · intro m hLeaving
    rcases leaving_of_onward hTraced hOnward hLeaving with hOld | ⟨hLate, hLess, -, -⟩
    · exact (hIn m hOld).elim
    · exact Nat.le_antisymm (Nat.le_of_lt_succ hLess) hLate

theorem pair?_close (h : Hub H) (i : Nat) (topic client : String) :
    (h.step (.close i)).1.pair? i topic client = none := by
  have hDrained : ∀ f : Facade H, f = (h.facade i).drain.2 ∨ f = {} →
      f.registry.get? topic client = none := by
    rintro f (rfl | rfl)
    · rw [Facade.registry_drain, Registry.get?_drain]
    · exact Registry.get?_empty topic client
  rcases Nat.lt_or_ge i h.facades.length with hBound | hAbsent
  · exact (pair?_setFacade hBound topic client).trans (hDrained _ (.inl rfl))
  · have hLength : (h.step (.close i)).1.facades.length = h.facades.length := List.length_set
    exact hDrained _ (.inr (facade_of_absent (hLength.symm ▸ hAbsent)))

theorem close_step (hDrawn : h.Drawn) (hTraced : h.Traced c) (hHolds : h.Holds c)
    (hIn : ∀ n, ¬h.Leaving c n) :
    (h.step (.close c.facade)).1.InPhase c .cancelled ∧
      c.cancels (h.step (.close c.facade)).2 = 1 := by
  obtain ⟨sub, hPair, hTicket⟩ := hHolds
  have hOnward := onward_step hDrawn.numbered (.close c.facade)
  have hFacade : (h.step (.close c.facade)).1.facade c.facade = (h.facade c.facade).drain.2 :=
    (facade_setFacade h _ _ _).trans (if_pos ⟨rfl, hTraced.present⟩)
  have hCall : (h.step (.close c.facade)).1.call? h.nextCall =
      some ⟨h.nextCall, c.facade, .closing⟩ :=
    (call?_begin (h := h.setFacade c.facade _) hDrawn.numbered.fresh _ _ _).trans (if_pos rfl)
  refine ⟨.cancelled ?_ ?_ ?_, ?_⟩
  · rintro ⟨s', hs', -⟩
    exact Option.some_ne_none s' (hs'.symm.trans (pair?_close h _ _ _))
  · intro hMem
    rw [Active, hFacade, Facade.mem_active_drain] at hMem
    exact hMem.2 sub (Registry.mem_drain_iff.mpr ⟨_, _, hPair⟩) hTicket
  · intro m hLeaving
    rcases leaving_of_onward hTraced hOnward hLeaving with hOld | ⟨hLate, hLess, -, -⟩
    · exact hIn m hOld
    · obtain rfl : m = h.nextCall := Nat.le_antisymm (Nat.le_of_lt_succ hLess) hLate
      obtain ⟨call, s', hFound, hTaking, -⟩ := hLeaving
      rw [hCall] at hFound
      cases hFound
      cases hTaking
  · -- The pair alone has the ticket, so that one report of the closing is about the claim.
    have hReports : (h.step (.close c.facade)).2 = (h.facade c.facade).registry.subscriptions.map
        fun s => .cancelled c.facade s.ticket s.handler := rfl
    rw [hReports, Claim.cancels, List.countP_map]
    refine Registry.countP_subscriptions hPair _ (by simp [Claim.isCancel, hTicket]) ?_
    intro topic client s' hs' hOwn
    have hSame : s'.ticket = c.ticket := by simpa [Claim.isCancel] using hOwn
    exact (hTraced.pair topic client s' hs' hSame).imp_right And.left

/-! ## A claim that nobody takes out -/

theorem step_of_refused {e : BackendError} (answer : Answer)
    (hCall : h.call? c.call = some (c.pending (.refused e))) :
    h.step (.proceed c.call answer) =
      (h.setFacade c.facade ((h.facade c.facade).discard c.client c.topic c.ticket)).finish c.call
        (.error (.backend e)) := by
  simp only [step, proceed, hCall]
  rfl

theorem not_holds_of_refused {e : BackendError} (answer : Answer) (hDrawn : h.Drawn)
    (hTraced : h.Traced c) (hCall : h.call? c.call = some (c.pending (.refused e))) :
    ¬(h.step (.proceed c.call answer)).1.Holds c := by
  intro hHolds
  obtain ⟨sub, hPair, hTicket⟩ :=
    holds_of_onward hTraced (onward_step hDrawn.numbered (.proceed c.call answer)) hHolds
  obtain ⟨s', hs', -⟩ := hHolds
  have hNone : ((h.facade c.facade).discard c.client c.topic c.ticket).registry.get? c.topic
      c.client = none :=
    ((Registry.discard_of_own hPair hTicket).2 c.topic c.client).trans (if_pos ⟨rfl, rfl⟩)
  have hPair' := (pair?_setFacade hTraced.present c.topic c.client).trans hNone
  rw [step_of_refused answer hCall] at hs'
  exact Option.some_ne_none s' (hs'.symm.trans hPair')

theorem discard_step {e : BackendError} (answer : Answer) (hDrawn : h.Drawn) (hTraced : h.Traced c)
    (hIn : ∀ n, ¬h.Leaving c n) (hCall : h.call? c.call = some (c.pending (.refused e))) :
    (h.step (.proceed c.call answer)).1.InPhase c .dropped ∧
      (h.step (.proceed c.call answer)).2 = [.returned c.call (.error (.backend e))] := by
  have hOnward := onward_step hDrawn.numbered (.proceed c.call answer)
  have hOut := not_holds_of_refused answer hDrawn hTraced hCall
  rw [step_of_refused answer hCall] at hOnward hOut ⊢
  refine ⟨.dropped hOut ((call?_finish _ _ _ _).trans (if_pos rfl)) ?_ ?_, rfl⟩
  · exact hTraced.untapped (.refused e) hCall rfl
  · intro m hLeaving
    rcases leaving_of_onward hTraced hOnward hLeaving with hOld | ⟨hLate, hLess, -, -⟩
    · exact hIn m hOld
    · exact Nat.not_le_of_lt hLess hLate

theorem held_step (hTraced : h.Traced c)
    (hServes : (h.facade c.facade).Serves c.client c.topic c.ticket) (hKept : ¬h.TakesOut s c) :
    ((h.step s).1.facade c.facade).Serves c.client c.topic c.ticket ∨
      ∃ e answer, s = .proceed c.call answer ∧ h.call? c.call = some (c.pending (.refused e)) := by
  have hMove := move_step h s
  generalize (h.step s).1 = h' at hMove
  generalize (h.step s).2 = reports at hMove
  cases hMove with
  | @reserved i ticket client topic handler f hReserve =>
    refine .inl (serves_setFacade hServes ?_)
    rintro rfl
    exact Facade.serves_reserve hServes hReserve
  | @removed i client topic sub f hRemove =>
    refine .inl (serves_setFacade hServes ?_)
    rintro rfl
    refine Facade.serves_remove hServes hRemove fun hTicket => ?_
    obtain ⟨hRegistry, -, -⟩ := Facade.remove_eq_ok hRemove
    obtain ⟨rfl, rfl, -⟩ :=
      hTraced.pair topic client sub (Registry.remove?_eq_some hRegistry).1 hTicket
    exact hKept ⟨.inl rfl, hServes.pair⟩
  | drained i =>
    refine .inl (serves_setFacade hServes ?_)
    rintro rfl
    exact (hKept ⟨.inr rfl, hServes.pair⟩).elim
  | @discarded number i ticket answer client topic handler e hCall =>
    -- Discarding is guarded by the ticket; only the claim's own call has it.
    by_cases hOwn : i = c.facade ∧ ticket = c.ticket
    · obtain ⟨rfl, rfl⟩ := hOwn
      obtain ⟨rfl, rfl, rfl, rfl⟩ := hTraced.subscribing _ _ _ _ _ hCall
      exact .inr ⟨e, answer, rfl, hCall⟩
    · refine .inl (serves_setFacade hServes ?_)
      rintro rfl
      exact Facade.serves_discard hServes fun hTicket => hOwn ⟨rfl, hTicket⟩
  | @attached number i ticket handle answer client topic handler f hCall hAttach =>
    refine .inl (serves_setFacade hServes ?_)
    rintro rfl
    exact Facade.serves_attach hServes hAttach
  | @detached number i ticket handle answer client topic handler f hCall hAttach =>
    refine .inl (serves_setFacade hServes ?_)
    rintro rfl
    refine Facade.serves_detach hServes hAttach ?_
    rintro rfl
    obtain ⟨-, hClient, hTopic, -⟩ := hTraced.subscribing _ _ _ _ _ hCall
    exact ⟨hTopic, hClient⟩
  | answered hCall =>
    rw [← facade_congr (grant_same h _ _ _ _ _).1] at hServes
    exact .inl hServes
  | returned hCall =>
    rw [← facade_congr (onward_release h _ _ _).1] at hServes
    exact .inl hServes
  | released hCall hHandle =>
    rw [← facade_congr (onward_release h _ _ _).1] at hServes
    exact .inl hServes
  | _ => exact .inl hServes

/-! ## Every step and every run -/

theorem InPhase.not_handled (hPhase : h.InPhase c p) (hOut : p ≠ .held) (s : Step H) :
    ¬c.HandledIn (h.step s).2 := by
  rintro ⟨handler, message, hMem⟩
  obtain ⟨hActive, hLeads, -⟩ := mem_handled_step hMem
  -- The dispatcher is switched off, or nothing comes to it.
  cases hPhase with
  | held hServes hIn => exact hOut rfl
  | leaving hNot hStill hLeaving hAlone => exact hStill hActive
  | cancelled hNot hStill hGone => exact hStill hActive
  | dropped hNot hReturned hUntapped hGone => exact hUntapped _ hLeads rfl rfl

theorem turn_held (hDrawn : h.Drawn) (hTraced : h.Traced c)
    (hServes : (h.facade c.facade).Serves c.client c.topic c.ticket) (hIn : ∀ n, ¬h.Leaving c n)
    (s : Step H) :
    ∃ q, h.Turn s c .held q (c.cancels (h.step s).2) ∧ (h.step s).1.InPhase c q ∧
      (c.HandledIn (h.step s).2 → q = .held) := by
  have hOnward := onward_step hDrawn.numbered s
  by_cases hTaken : h.TakesOut s c
  · rcases hTaken with ⟨rfl | rfl, hHolds⟩
    · obtain ⟨hPhase, hReports⟩ := unsubscribe_step hDrawn hTraced hHolds hIn
      rw [hReports]
      refine ⟨_, .unsubscribed ⟨.inl rfl, hHolds⟩, hPhase, ?_⟩
      rintro ⟨handler, message, hMem⟩
      cases hMem
    · obtain ⟨hPhase, hCancels⟩ := close_step hDrawn hTraced hHolds hIn
      rw [hCancels]
      refine ⟨_, .drained ⟨.inr rfl, hHolds⟩, hPhase, ?_⟩
      rintro ⟨handler, message, hMem⟩
      obtain ⟨-, -, route, hStep⟩ := mem_handled_step hMem
      cases hStep
  · have hNone : c.cancels (h.step s).2 = 0 :=
      cancels_eq_zero hTraced hTaken fun n _ _ => hIn n
    rw [hNone]
    rcases held_step hTraced hServes hTaken with hServes' | ⟨e, answer, rfl, hCall⟩
    · refine ⟨_, .stays .held hTaken, .held hServes' fun n hLeaving => ?_, fun _ => rfl⟩
      rcases leaving_of_onward hTraced hOnward hLeaving with hOld | ⟨-, -, -, hGone⟩
      · exact hIn n hOld
      · exact hGone hServes'.pair
    · obtain ⟨hPhase, hReports⟩ := discard_step answer hDrawn hTraced hIn hCall
      refine ⟨_, .dropped rfl hCall, hPhase, ?_⟩
      rintro ⟨handler, message, hMem⟩
      rw [hReports] at hMem
      cases List.mem_singleton.mp hMem

theorem turn_leaving (hDrawn : h.Drawn) (hTraced : h.Traced c) (hOut : ¬h.Holds c)
    (hStill : ¬h.Active c) (hLeaving : h.Leaving c n) (hAlone : ∀ m, h.Leaving c m → m = n)
    (s : Step H) :
    ∃ q, h.Turn s c (.leaving n) q (c.cancels (h.step s).2) ∧ (h.step s).1.InPhase c q := by
  have hOnward := onward_step hDrawn.numbered s
  have hKept : ¬h.TakesOut s c := fun hTaken => hOut hTaken.2
  have hOut' : ¬(h.step s).1.Holds c := fun hHolds => hOut (holds_of_onward hTraced hOnward hHolds)
  have hStill' : ¬(h.step s).1.Active c :=
    fun hActive => hStill (active_of_onward hTraced hOnward hActive)
  have hAlone' : ∀ m, (h.step s).1.Leaving c m → m = n := by
    intro m hLater
    rcases leaving_of_onward hTraced hOnward hLater with hOld | ⟨-, -, hHolds, -⟩
    · exact hAlone m hOld
    · exact (hOut hHolds).elim
  obtain ⟨call, sub, hCall, hTaking, hTicket⟩ := hLeaving
  -- Only the call that has taken the claim out can cancel it.
  by_cases hTold : ∃ answer, s = .proceed n answer
  · obtain ⟨answer, rfl⟩ := hTold
    rcases proceed_leaving answer hCall hTaking with
      ⟨released, hCall', hReports⟩ | ⟨hReturned, result, hReports⟩
    · rw [hReports]
      exact ⟨_, .stays _ hKept, .leaving hOut' hStill' ⟨_, sub, hCall', rfl, hTicket⟩ hAlone'⟩
    · have hOnce : c.cancels (h.step (.proceed n answer)).2 = 1 := by
        rw [hReports]
        simp [Claim.cancels, Claim.isCancel, hTicket]
      rw [hOnce]
      refine ⟨_, .cancelled n hKept, .cancelled hOut' hStill' fun m hLater => ?_⟩
      obtain rfl := hAlone' m hLater
      obtain ⟨call', sub', hFound, -⟩ := hLater
      rw [hReturned] at hFound
      cases hFound
  · have hCall' := call?_step_other hDrawn.numbered hCall fun answer hStep => hTold ⟨answer, hStep⟩
    have hNone : c.cancels (h.step s).2 = 0 := by
      refine cancels_eq_zero hTraced hKept fun m answer hStep hOther => hTold ⟨answer, ?_⟩
      rw [hStep, hAlone m hOther]
    rw [hNone]
    exact ⟨_, .stays _ hKept, .leaving hOut' hStill' ⟨call, sub, hCall', hTaking, hTicket⟩ hAlone'⟩

/-- Whatever is done, a claim goes from one phase to the next, and only one that is
held is given messages. -/
theorem turn_step (hDrawn : h.Drawn) (hTraced : h.Traced c) (hPhase : h.InPhase c p) (s : Step H) :
    ∃ q, h.Turn s c p q (c.cancels (h.step s).2) ∧ (h.step s).1.InPhase c q ∧
      (c.HandledIn (h.step s).2 → q = .held) := by
  have hOnward := onward_step hDrawn.numbered s
  have hSilent := hPhase.not_handled (s := s)
  have hGone : ¬h.Holds c → (∀ n, ¬h.Leaving c n) → ∀ n, ¬(h.step s).1.Leaving c n := by
    intro hOut hNone n hLeaving
    rcases leaving_of_onward hTraced hOnward hLeaving with hOld | ⟨-, -, hHolds, -⟩
    · exact hNone n hOld
    · exact hOut hHolds
  cases hPhase with
  | held hServes hIn => exact turn_held hDrawn hTraced hServes hIn s
  | leaving hOut hStill hLeaving hAlone =>
    obtain ⟨q, hTurn, hAfter⟩ := turn_leaving hDrawn hTraced hOut hStill hLeaving hAlone s
    exact ⟨q, hTurn, hAfter, fun hHandled => (hSilent (by simp) hHandled).elim⟩
  | cancelled hOut hStill hNone =>
    have hKept : ¬h.TakesOut s c := fun hTaken => hOut hTaken.2
    rw [cancels_eq_zero hTraced hKept fun n _ _ => hNone n]
    refine ⟨_, .stays _ hKept, .cancelled ?_ ?_ (hGone hOut hNone), ?_⟩
    · exact fun hHolds => hOut (holds_of_onward hTraced hOnward hHolds)
    · exact fun hActive => hStill (active_of_onward hTraced hOnward hActive)
    · exact fun hHandled => (hSilent (by simp) hHandled).elim
  | dropped hOut hReturned hUntapped hNone =>
    have hKept : ¬h.TakesOut s c := fun hTaken => hOut hTaken.2
    rw [cancels_eq_zero hTraced hKept fun n _ _ => hNone n]
    refine ⟨_, .stays _ hKept, .dropped ?_ ?_ ?_ (hGone hOut hNone), ?_⟩
    · exact fun hHolds => hOut (holds_of_onward hTraced hOnward hHolds)
    · exact returned_of_onward hTraced hOnward hReturned
    · exact untapped_of_onward hTraced hOnward hUntapped hReturned
    · exact fun hHandled => (hSilent (by simp) hHandled).elim

theorem life_run (hDrawn : h.Drawn) (hTraced : h.Traced c) (hPhase : h.InPhase c p)
    (steps : List (Step H)) :
    ∃ q, (h.run steps).1.InPhase c q ∧ p.Reaches q ∧
      c.cancels (h.run steps).2 + p.cancels = q.cancels ∧
      (p ≠ .held → ¬c.HandledIn (h.run steps).2) := by
  induction steps generalizing h p with
  | nil =>
    refine ⟨p, hPhase, .refl p, Nat.zero_add _, fun _ hHandled => ?_⟩
    obtain ⟨handler, message, hMem⟩ := hHandled
    cases hMem
  | cons s rest ih =>
    obtain ⟨q, hTurn, hNext, hHandled⟩ := turn_step hDrawn hTraced hPhase s
    obtain ⟨hReaches, hCount⟩ := hTurn.reaches
    have hOnward := onward_step hDrawn.numbered s
    obtain ⟨r, hLast, hReaches', hCount', hHandled'⟩ :=
      ih (hDrawn.onward hOnward) (hTraced.onward hOnward) hNext
    refine ⟨r, hLast, hReaches.trans hReaches', ?_, fun hOut hBoth => ?_⟩
    · rw [run, Claim.cancels_append]
      omega
    · -- A phase that is not `held` leads to no phase `held`.
      have hStays : q ≠ .held := by
        rintro rfl
        cases p with
        | held => exact hOut rfl
        | leaving n => rcases hReaches with hSame | hSame <;> cases hSame
        | cancelled => cases hReaches
        | dropped => cases hReaches
      rcases Claim.handledIn_append.mp hBoth with hFirst | hRest
      · exact hStays (hHandled hFirst)
      · exact hHandled' hStays hRest

theorem untaken_run (hDrawn : h.Drawn) (hTraced : h.Traced c) (hPhase : h.InPhase c .held)
    {steps : List (Step H)} (hKept : ∀ before s after, steps = before ++ s :: after →
      ¬(h.run before).1.TakesOut s c) :
    ((h.run steps).1.InPhase c .held ∨ (h.run steps).1.InPhase c .dropped) ∧
      c.cancels (h.run steps).2 = 0 := by
  induction steps generalizing h with
  | nil => exact ⟨.inl hPhase, rfl⟩
  | cons s rest ih =>
    obtain ⟨q, hTurn, hNext, -⟩ := turn_step hDrawn hTraced hPhase s
    have hOnward := onward_step hDrawn.numbered s
    have hFirst : ¬h.TakesOut s c := hKept [] s rest rfl
    rw [run, Claim.cancels_append]
    generalize c.cancels (h.step s).2 = count at hTurn
    cases hTurn with
    | stays =>
      have hRest : ∀ before s' after, rest = before ++ s' :: after →
          ¬((h.step s).1.run before).1.TakesOut s' c := by
        rintro before s' after rfl
        exact hKept (s :: before) s' after rfl
      obtain ⟨hLast, hNone⟩ := ih (hDrawn.onward hOnward) (hTraced.onward hOnward) hNext hRest
      exact ⟨hLast, by omega⟩
    | unsubscribed hTaken => exact (hFirst hTaken).elim
    | drained hTaken => exact (hFirst hTaken).elim
    | dropped hStep hCall =>
      obtain ⟨q, hLast, hReaches, hCount, -⟩ :=
        life_run (hDrawn.onward hOnward) (hTraced.onward hOnward) hNext rest
      obtain rfl : q = .dropped := hReaches
      exact ⟨.inr hLast, by simpa [Phase.cancels] using hCount⟩

theorem begun_of_mem_claims (hDrawn : h.Drawn) {steps : List (Step H)}
    (hMem : c ∈ h.claims steps) (hPresent : c.facade < h.facades.length) :
    ∃ before s after, steps = before ++ s :: after ∧ (h.run before).1.claim? s = some c ∧
      ((h.run before).1.step s).1.Drawn ∧ ((h.run before).1.step s).1.Traced c ∧
      ((h.run before).1.step s).1.InPhase c .held := by
  obtain ⟨before, s, after, rfl, hClaim⟩ := exists_step_of_mem_claims hMem
  have hBefore := drawn_run hDrawn before
  obtain ⟨hTraced, hHolds, hActive, hIn⟩ :=
    traced_claim hBefore hClaim ((length_run h hDrawn before).symm ▸ hPresent)
  exact ⟨before, s, after, rfl, hClaim, hBefore.onward (onward_step hBefore.numbered s), hTraced,
    .held ⟨hHolds, hActive⟩ hIn⟩

theorem phase_of_mem_claims (hDrawn : h.Drawn) {steps : List (Step H)}
    (hMem : c ∈ h.claims steps) (hPresent : c.facade < h.facades.length) :
    (h.run steps).1.Traced c ∧ ∃ p, (h.run steps).1.InPhase c p := by
  obtain ⟨before, s, after, rfl, -, hDrawn', hTraced, hPhase⟩ :=
    begun_of_mem_claims hDrawn hMem hPresent
  obtain ⟨p, hLast, -⟩ := life_run hDrawn' hTraced hPhase after
  rw [(run_append h before (s :: after)).1]
  exact ⟨traced_run hDrawn' hTraced after, p, hLast⟩

end

end Hub

end DeviceBus
