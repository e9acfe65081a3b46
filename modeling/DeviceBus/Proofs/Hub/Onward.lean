import DeviceBus.Proofs.Broker.Changes
import DeviceBus.Proofs.Hub.Perform

/-! # Nothing comes back

Tickets and call numbers are drawn once. Whatever carries a ticket after a step
carried it before, or the ticket was drawn in this step; and a call is one of
those before, gone on by one stage at most, or it has begun in this step. All
that is lost therefore stays lost, which is how later modules use it.
-/

namespace DeviceBus

variable {H : Type}

inductive Stage.Next : Stage → Stage → Prop
  | asked : Next .reserved .asked
  | granted (handle : Nat) : Next .asked (.granted handle)
  | refused (e : BackendError) : Next .asked (.refused e)
  | detached (handle : Nat) : Next (.granted handle) (.surplus handle)

inductive Call.Next : Call H → Call H → Prop
  | same (call : Call H) : Next call call
  | stage {client topic : String} {ticket : Nat} {handler : H} {stage stage' : Stage}
      (hStage : stage.Next stage') :
      Next (.subscribing client topic ticket handler stage)
        (.subscribing client topic ticket handler stage')
  | released (s : Subscription H) (answer : Except BackendError Unit) :
      Next (.releasing s) (.cancelling s answer)

/-- The subscription that a call is taking down. -/
def Call.taking? : Call H → Option (Subscription H)
  | .releasing s => some s
  | .cancelling s _ => some s
  | _ => none

theorem Call.Next.taking? {call call' : Call H} {s : Subscription H} (h : call.Next call')
    (hTaking : call'.taking? = some s) : call.taking? = some s := by
  cases h with
  | same => exact hTaking
  | stage hStage => exact hTaking
  | released s answer => exact hTaking

namespace Hub

variable {h h' g : Hub H} {number i : Nat}

/-- How a call of facade `i` begins in the step from one hub to the other. -/
inductive Begun (h h' : Hub H) (i : Nat) : Call H → Prop
  | subscribing {client topic : String} {ticket : Nat} {handler : H}
      (hDraws : i < h.facades.length → (h.facade i).Draws (h'.facade i) ticket) :
      Begun h h' i (.subscribing client topic ticket handler .reserved)
  | releasing {client topic : String} {s : Subscription H}
      (hPair : h.pair? i topic client = some s) (hGone : h'.pair? i topic client = none) :
      Begun h h' i (.releasing s)
  | closing : Begun h h' i .closing

theorem Begun.taking? {call : Call H} {s : Subscription H} (hBegun : Begun h h' i call)
    (hTaking : call.taking? = some s) :
    ∃ topic client, h.pair? i topic client = some s ∧ h'.pair? i topic client = none := by
  cases hBegun with
  | subscribing hDraws => cases hTaking
  | releasing hPair hGone =>
    cases hTaking
    exact ⟨_, _, hPair, hGone⟩
  | closing => cases hTaking

structure Onward (h h' : Hub H) : Prop where
  length : h'.facades.length = h.facades.length
  nextCall_le : h.nextCall ≤ h'.nextCall
  facade : ∀ i, (h.facade i).Onward (h'.facade i)
  broker : Broker.Change h.broker h'.broker
  call : ∀ n i call', h'.call? n = some ⟨n, i, call'⟩ →
    (∃ call, h.call? n = some ⟨n, i, call⟩ ∧ call.Next call') ∨
      h.nextCall ≤ n ∧ n < h'.nextCall ∧ Begun h h' i call'
  /-- The backend gets a new tap from a call that it grants. -/
  tap : ∀ tap, h'.broker.Leads tap → h.broker.Leads tap ∨ ∃ n client topic handle,
    h.call? n = some ⟨n, tap.facade, .subscribing client topic tap.ticket tap.handler .asked⟩ ∧
    h'.call? n =
      some ⟨n, tap.facade, .subscribing client topic tap.ticket tap.handler (.granted handle)⟩

def Numbered (h : Hub H) : Prop :=
  ∀ number p, h.call? number = some p → number < h.nextCall

theorem Numbered.absent (hNumbered : h.Numbered) (hLate : h.nextCall ≤ number) :
    h.call? number = none := by
  cases hCall : h.call? number with
  | none => rfl
  | some p => exact (Nat.not_le_of_lt (hNumbered _ p hCall) hLate).elim

theorem Numbered.fresh (hNumbered : h.Numbered) : h.call? h.nextCall = none :=
  hNumbered.absent (Nat.le_refl _)

/-! ## Calls before and after -/

theorem call?_congr (hSame : g.calls = h.calls) (n : Nat) : g.call? n = h.call? n := by
  rw [call?, hSame, ← call?]

theorem call?_setCall_self {call : Call H} (hSame : g.calls = h.calls)
    (hCall : h.call? number = some ⟨number, i, call⟩) (call' : Call H) :
    (g.setCall number call').call? number = some ⟨number, i, call'⟩ := by
  rw [call?_setCall, if_pos rfl, call?_congr hSame, hCall]
  rfl

theorem call_of_same (hSame : g.calls = h.calls) (n i : Nat) (call' : Call H)
    (hFound : g.call? n = some ⟨n, i, call'⟩) :
    ∃ call, h.call? n = some ⟨n, i, call⟩ ∧ call.Next call' :=
  ⟨call', (call?_congr hSame n).symm.trans hFound, .same call'⟩

theorem call_of_setCall {call call' : Call H} (hSame : g.calls = h.calls)
    (hCall : h.call? number = some ⟨number, i, call⟩) (hNext : call.Next call') (n j : Nat)
    (call'' : Call H) (hFound : (g.setCall number call').call? n = some ⟨n, j, call''⟩) :
    ∃ call₀, h.call? n = some ⟨n, j, call₀⟩ ∧ call₀.Next call'' := by
  rw [call?_setCall, call?_congr hSame] at hFound
  split at hFound
  · rename_i hn
    subst hn
    rw [hCall] at hFound
    cases hFound
    exact ⟨call, hCall, hNext⟩
  · exact ⟨call'', hFound, .same call''⟩

theorem call_of_finish {result : Except FacadeError Unit} (hSame : g.calls = h.calls) (n j : Nat)
    (call' : Call H) (hFound : (g.finish number result).1.call? n = some ⟨n, j, call'⟩) :
    ∃ call, h.call? n = some ⟨n, j, call⟩ ∧ call.Next call' := by
  rw [call?_finish, call?_congr hSame] at hFound
  split at hFound
  · cases hFound
  · exact ⟨call', hFound, .same call'⟩

theorem onward_setFacade {f : Facade H} (hOnward : (h.facade i).Onward f) (j : Nat) :
    (h.facade j).Onward ((h.setFacade i f).facade j) := by
  rw [facade_setFacade]
  split
  · rename_i hSame
    rw [← hSame.1]
    exact hOnward
  · exact .refl _

/-! ## Steps of one sort -/

theorem onward_of_calls (hLength : h'.facades.length = h.facades.length)
    (hFacades : ∀ i, (h.facade i).Onward (h'.facade i)) (hBroker : h'.broker = h.broker)
    (hNext : h'.nextCall = h.nextCall)
    (hCalls : ∀ n i call', h'.call? n = some ⟨n, i, call'⟩ →
      ∃ call, h.call? n = some ⟨n, i, call⟩ ∧ call.Next call') : h.Onward h' where
  length := hLength
  nextCall_le := Nat.le_of_eq hNext.symm
  facade := hFacades
  broker := hBroker ▸ .same
  call n i call' hFound := .inl (hCalls n i call' hFound)
  tap _ hLeads := .inl (hBroker ▸ hLeads)

theorem onward_of_broker (hFacades : h'.facades = h.facades)
    (hBroker : Broker.Change h.broker h'.broker)
    (hLeads : ∀ tap, h'.broker.Leads tap → h.broker.Leads tap) (hNext : h.nextCall ≤ h'.nextCall)
    (hCalls : ∀ n i call', h'.call? n = some ⟨n, i, call'⟩ →
      ∃ call, h.call? n = some ⟨n, i, call⟩ ∧ call.Next call') : h.Onward h' where
  length := by rw [hFacades]
  nextCall_le := hNext
  facade i := by
    rw [facade, facade, hFacades]
    exact .refl _
  broker := hBroker
  call n i call' hFound := .inl (hCalls n i call' hFound)
  tap tap hTap := .inl (hLeads tap hTap)

theorem onward_begin (hNumbered : h.Numbered) {f : Facade H} (hOnward : (h.facade i).Onward f)
    {call : Call H} (hBegun : Begun h ((h.setFacade i f).begin i call) i call) :
    h.Onward ((h.setFacade i f).begin i call) where
  length := List.length_set
  nextCall_le := Nat.le_succ _
  facade := onward_setFacade hOnward
  broker := .same
  call n j call' hFound := by
    rw [call?_begin (h := h.setFacade i f) hNumbered.fresh] at hFound
    split at hFound
    · rename_i hNew
      cases hFound
      exact .inr ⟨Nat.le_of_eq hNew.symm, hNew ▸ Nat.lt_succ_self _, hBegun⟩
    · exact .inl ⟨call', hFound, .same call'⟩
  tap _ hLeads := .inl hLeads

theorem release_cases (h : Hub H) (i handle : Nat) (answer : Answer) :
    (∃ e, h.release i handle answer = (.error e, h)) ∨
      ∃ broker, h.broker.unsubscribe i handle = .ok broker ∧
        h.release i handle answer = (.ok (), { h with broker }) := by
  cases answer with
  | failed reason => exact .inl ⟨_, rfl⟩
  | carried =>
    cases hUnsubscribe : h.broker.unsubscribe i handle with
    | error e => exact .inl ⟨e, by simp [release, hUnsubscribe]⟩
    | ok broker => exact .inr ⟨broker, rfl, by simp [release, hUnsubscribe]⟩

theorem onward_release (h : Hub H) (i handle : Nat) (answer : Answer) :
    (h.release i handle answer).2.facades = h.facades ∧
      (h.release i handle answer).2.calls = h.calls ∧
      (h.release i handle answer).2.nextCall = h.nextCall ∧
      Broker.Change h.broker (h.release i handle answer).2.broker ∧
      ∀ tap, (h.release i handle answer).2.broker.Leads tap → h.broker.Leads tap := by
  rcases release_cases h i handle answer with ⟨e, hRelease⟩ | ⟨broker, hUnsubscribe, hRelease⟩
  · rw [hRelease]
    exact ⟨rfl, rfl, rfl, .same, fun _ hLeads => hLeads⟩
  · rw [hRelease]
    exact ⟨rfl, rfl, rfl, .unsubscribed hUnsubscribe,
      fun _ hLeads => Broker.leads_unsubscribe hUnsubscribe hLeads⟩

theorem onward_answered {ticket : Nat} {answer : Answer} {client topic : String} {handler : H}
    (hCall : h.call? number = some ⟨number, i, .subscribing client topic ticket handler .asked⟩) :
    h.Onward ((h.grant i topic ticket handler answer).2.setCall number
      (.subscribing client topic ticket handler (h.grant i topic ticket handler answer).1)) := by
  rcases grant_cases h i ticket topic handler answer with
    ⟨e, hGrant⟩ | ⟨handle, broker, hSubscribe, hGrant⟩
  · rw [hGrant]
    exact onward_of_calls rfl (fun j => .refl _) rfl rfl
      (call_of_setCall rfl hCall (.stage (.refused e)))
  · rw [hGrant]
    refine ⟨rfl, Nat.le_refl _, fun j => .refl _, .subscribed hSubscribe, ?_, ?_⟩
    · intro n j call' hFound
      exact .inl (call_of_setCall (g := { h with broker }) rfl hCall (.stage (.granted handle))
        n j call' hFound)
    · intro tap hLeads
      rcases Broker.leads_subscribe hSubscribe hLeads with hOld | rfl
      · exact .inl hOld
      · exact .inr ⟨number, client, topic, handle, hCall,
          call?_setCall_self (g := { h with broker }) rfl hCall _⟩

/-! ## Every step -/

theorem onward_step [Handler H] (hNumbered : h.Numbered) (s : Step H) :
    h.Onward (h.step s).1 := by
  have hMove := move_step h s
  generalize (h.step s).1 = h' at hMove
  generalize (h.step s).2 = reports at hMove
  cases hMove with
  | declined hCause =>
    exact onward_of_broker rfl .same (fun _ hLeads => hLeads) (Nat.le_succ _) (call_of_same rfl)
  | @reserved i ticket client topic handler f hReserve =>
    have hOnward := Facade.onward_reserve hReserve
    obtain ⟨hRegistry, -, -⟩ := Facade.reserve_eq_ok hReserve
    obtain ⟨rfl, hNext, -, -⟩ := Registry.reserve?_eq_some hRegistry
    refine onward_begin hNumbered hOnward (.subscribing fun hBound => ?_)
    have hFacade : ((h.setFacade i f).begin i (.subscribing client topic
        (h.facade i).registry.nextTicket handler .reserved)).facade i = f :=
      (facade_setFacade h i i f).trans (if_pos ⟨rfl, hBound⟩)
    rw [hFacade]
    exact ⟨Nat.le_refl _, by rw [hNext]; exact Nat.lt_succ_self _⟩
  | @removed i client topic s f hRemove =>
    obtain ⟨hRegistry, -, -⟩ := Facade.remove_eq_ok hRemove
    obtain ⟨hPair, -, hPairs⟩ := Registry.remove?_eq_some hRegistry
    have hGone : (h.setFacade i f).pair? i topic client = none :=
      (pair?_setFacade (lt_of_pair? hPair) topic client).trans
        ((hPairs topic client).trans (if_pos ⟨rfl, rfl⟩))
    exact onward_begin hNumbered (Facade.onward_remove hRemove) (.releasing hPair hGone)
  | drained i => exact onward_begin hNumbered (Facade.onward_drain _) .closing
  | published hSubject hOpen =>
    exact onward_of_broker rfl (.routed _ _) (fun _ => Broker.leads_route) (Nat.le_succ _)
      (call_of_same rfl)
  | routed subject data =>
    exact onward_of_broker rfl (.routed _ _) (fun _ => Broker.leads_route) (Nat.le_refl _)
      (call_of_same rfl)
  | undisturbed hTake =>
    exact onward_of_broker rfl .same (fun _ hLeads => hLeads) (Nat.le_refl _) (call_of_same rfl)
  | dispatched hTake =>
    exact onward_of_broker rfl (.taken hTake) (Broker.leads_takeFrom? hTake).2 (Nat.le_refl _)
      (call_of_same rfl)
  | idle hCall =>
    exact onward_of_broker rfl .same (fun _ hLeads => hLeads) (Nat.le_refl _) (call_of_same rfl)
  | asked hCall =>
    exact onward_of_calls rfl (fun j => .refl _) rfl rfl (call_of_setCall rfl hCall (.stage .asked))
  | answered hCall => exact onward_answered hCall
  | discarded hCall =>
    exact onward_of_calls List.length_set (onward_setFacade (Facade.onward_discard _ _ _ _)) rfl rfl
      (call_of_finish (g := h.setFacade _ _) rfl)
  | attached hCall hAttach =>
    exact onward_of_calls List.length_set (onward_setFacade (Facade.onward_attach hAttach)) rfl rfl
      (call_of_finish (g := h.setFacade _ _) rfl)
  | detached hCall hAttach =>
    exact onward_of_calls List.length_set (onward_setFacade (Facade.onward_detach hAttach)) rfl rfl
      (call_of_setCall (g := h.setFacade _ _) rfl hCall (.stage (.detached _)))
  | @returned number i ticket handle answer client topic handler hCall =>
    obtain ⟨hFacades, hCalls, hNext, hBroker, hLeads⟩ := onward_release h i handle answer
    exact onward_of_broker hFacades hBroker hLeads (Nat.le_of_eq hNext.symm) (call_of_finish hCalls)
  | unheld hCall hHandle =>
    exact onward_of_calls rfl (fun j => .refl _) rfl rfl
      (call_of_setCall rfl hCall (.released _ _))
  | @released number i handle answer s hCall hHandle =>
    obtain ⟨hFacades, hCalls, hNext, hBroker, hLeads⟩ := onward_release h i handle answer
    exact onward_of_broker hFacades hBroker hLeads (Nat.le_of_eq hNext.symm)
      (call_of_setCall hCalls hCall (.released _ _))
  | cancelled hCall =>
    exact onward_of_calls rfl (fun j => .refl _) rfl rfl (call_of_finish rfl)
  | @closed number i answer hCall =>
    exact onward_of_broker rfl (.closed i) (fun _ => Broker.leads_close) (Nat.le_refl _)
      (call_of_finish (g := { h with broker := h.broker.close i }) rfl)

/-! ## All numbers have been drawn -/

def nextTicket (h : Hub H) (i : Nat) : Nat :=
  (h.facade i).registry.nextTicket

/-- Every ticket of a hub lies below the counter of its facade, and every call
number below the counter of the hub. -/
structure Drawn (h : Hub H) : Prop where
  numbered : h.Numbered
  pair : ∀ i t c s, h.pair? i t c = some s → s.ticket < h.nextTicket i
  active : ∀ i, ∀ k ∈ (h.facade i).active, k < h.nextTicket i
  subscribing : ∀ n i client topic ticket handler stage, i < h.facades.length →
    h.call? n = some ⟨n, i, .subscribing client topic ticket handler stage⟩ →
    ticket < h.nextTicket i
  taking : ∀ n i call s, h.call? n = some ⟨n, i, call⟩ → call.taking? = some s →
    s.ticket < h.nextTicket i
  tap : ∀ tap, h.broker.Leads tap → tap.facade < h.facades.length →
    tap.ticket < h.nextTicket tap.facade

theorem Onward.nextTicket_le (hOnward : h.Onward h') (i : Nat) :
    h.nextTicket i ≤ h'.nextTicket i :=
  (hOnward.facade i).nextTicket_le

/-- A call that has returned does not begin again. -/
theorem Onward.returned (hOnward : h.Onward h') (hOld : number < h.nextCall)
    (hReturned : h.call? number = none) : h'.call? number = none := by
  cases hFound : h'.call? number with
  | none => rfl
  | some p =>
    obtain ⟨n, i, call'⟩ := p
    obtain rfl : n = number := number_of_call? hFound
    rcases hOnward.call _ _ _ hFound with ⟨call, hCall, -⟩ | ⟨hLate, -, -⟩
    · rw [hReturned] at hCall
      cases hCall
    · exact (Nat.not_le_of_lt hOld hLate).elim

theorem Drawn.onward (hDrawn : h.Drawn) (hOnward : h.Onward h') : h'.Drawn where
  numbered n p hFound := by
    obtain rfl := number_of_call? hFound
    rcases hOnward.call _ _ _ hFound with ⟨call, hOld, -⟩ | ⟨-, hLess, -⟩
    · exact Nat.lt_of_lt_of_le (hDrawn.numbered _ _ hOld) hOnward.nextCall_le
    · exact hLess
  pair i t c s hs := by
    rcases (hOnward.facade i).pair t c s hs with ⟨s₀, hOld, hTicket, -⟩ | hNew
    · exact hTicket ▸ Nat.lt_of_lt_of_le (hDrawn.pair i t c s₀ hOld) (hOnward.nextTicket_le i)
    · exact hNew.2
  active i k hk := by
    rcases (hOnward.facade i).active k hk with hOld | hNew
    · exact Nat.lt_of_lt_of_le (hDrawn.active i k hOld) (hOnward.nextTicket_le i)
    · exact hNew.2
  subscribing n i client topic ticket handler stage hBound hFound := by
    rw [hOnward.length] at hBound
    rcases hOnward.call _ _ _ hFound with ⟨call, hOld, hNext⟩ | ⟨-, -, hBegun⟩
    · refine Nat.lt_of_lt_of_le ?_ (hOnward.nextTicket_le i)
      cases hNext with
      | same => exact hDrawn.subscribing _ _ _ _ _ _ _ hBound hOld
      | stage hStage => exact hDrawn.subscribing _ _ _ _ _ _ _ hBound hOld
    · cases hBegun with
      | subscribing hDraws => exact (hDraws hBound).2
  taking n i call' s hFound hTaking := by
    refine Nat.lt_of_lt_of_le ?_ (hOnward.nextTicket_le i)
    rcases hOnward.call _ _ _ hFound with ⟨call, hOld, hNext⟩ | ⟨-, -, hBegun⟩
    · exact hDrawn.taking n i call s hOld (hNext.taking? hTaking)
    · obtain ⟨t, c, hPair, -⟩ := hBegun.taking? hTaking
      exact hDrawn.pair i t c s hPair
  tap tap hLeads hBound := by
    rw [hOnward.length] at hBound
    refine Nat.lt_of_lt_of_le ?_ (hOnward.nextTicket_le tap.facade)
    rcases hOnward.tap tap hLeads with hOld | ⟨n, client, topic, handle, hAsked, -⟩
    · exact hDrawn.tap tap hOld hBound
    · exact hDrawn.subscribing _ _ _ _ _ _ _ hBound hAsked

/-! ## The start -/

theorem foldl_join (groups : List (Option String)) (h : Hub H) :
    groups.foldl join h =
      { h with
        broker := { h.broker with
          connections := h.broker.connections ++ groups.map fun _ => {} }
        facades := h.facades ++ groups.map Facade.opened } := by
  induction groups generalizing h with
  | nil => simp
  | cons group rest ih =>
    rw [List.foldl_cons, ih]
    simp [join, Broker.connect]

theorem opened_eq (groups : List (Option String)) :
    (opened groups : Hub H) =
      { broker := { connections := groups.map fun _ => {} }
        facades := groups.map Facade.opened } := by
  rw [opened, foldl_join]
  simp

theorem facade_opened (groups : List (Option String)) (i : Nat) :
    ∃ group, (opened groups : Hub H).facade i = { group } := by
  rw [opened_eq, facade, List.getD_eq_getElem?_getD, List.getElem?_map]
  cases groups[i]? with
  | none => exact ⟨none, rfl⟩
  | some group => exact ⟨_, rfl⟩

theorem length_opened (groups : List (Option String)) :
    (opened groups : Hub H).facades.length = groups.length := by
  rw [opened_eq, List.length_map]

theorem call?_opened (groups : List (Option String)) (n : Nat) :
    (opened groups : Hub H).call? n = none := by
  rw [opened_eq]
  rfl

theorem nextTicket_opened (groups : List (Option String)) (i : Nat) :
    (opened groups : Hub H).nextTicket i = 0 := by
  obtain ⟨group, hFacade⟩ := facade_opened (H := H) groups i
  rw [nextTicket, hFacade]

theorem not_leads_opened (groups : List (Option String)) (tap : Tap H) :
    ¬(opened groups : Hub H).broker.Leads tap := by
  rw [opened_eq]
  rintro (⟨r, hr, -⟩ | ⟨m, hm, -⟩)
  · cases hr
  · cases hm

theorem drawn_opened (groups : List (Option String)) : (opened groups : Hub H).Drawn where
  numbered n p hFound := by
    rw [call?_opened] at hFound
    cases hFound
  pair i t c s hs := by
    obtain ⟨group, hFacade⟩ := facade_opened (H := H) groups i
    rw [pair?, hFacade, Registry.get?_empty] at hs
    cases hs
  active i k hk := by
    obtain ⟨group, hFacade⟩ := facade_opened (H := H) groups i
    rw [hFacade] at hk
    cases hk
  subscribing n i client topic ticket handler stage hBound hFound := by
    rw [call?_opened] at hFound
    cases hFound
  taking n i call s hFound := by
    rw [call?_opened] at hFound
    cases hFound
  tap tap hLeads := (not_leads_opened groups tap hLeads).elim

/-! ## Runs -/

section

variable [Handler H]

theorem run_append (h : Hub H) (before after : List (Step H)) :
    (h.run (before ++ after)).1 = ((h.run before).1.run after).1 ∧
      (h.run (before ++ after)).2 = (h.run before).2 ++ ((h.run before).1.run after).2 := by
  induction before generalizing h with
  | nil => exact ⟨rfl, rfl⟩
  | cons s rest ih =>
    obtain ⟨hHub, hReports⟩ := ih (h.step s).1
    refine ⟨hHub, ?_⟩
    simp only [List.cons_append, run, hReports, List.append_assoc]

theorem drawn_run (hDrawn : h.Drawn) (steps : List (Step H)) : (h.run steps).1.Drawn := by
  induction steps generalizing h with
  | nil => exact hDrawn
  | cons s rest ih => exact ih (hDrawn.onward (onward_step hDrawn.numbered s))

/-- What every step keeps, from a hub whose numbers are drawn, holds after every run. -/
theorem run_induction {P : Hub H → Prop} (hDrawn : h.Drawn) (hStart : P h)
    (hKept : ∀ (h : Hub H) (s : Step H), h.Drawn → h.Onward (h.step s).1 → P h → P (h.step s).1)
    (steps : List (Step H)) : P (h.run steps).1 := by
  induction steps generalizing h with
  | nil => exact hStart
  | cons s rest ih =>
    have hOnward := onward_step hDrawn.numbered s
    exact ih (hDrawn.onward hOnward) (hKept h s hDrawn hOnward hStart)

end

end Hub

end DeviceBus
