import Mathlib
import DeviceBus.Proofs.Hub.Cancels

/-! # What a close call leaves behind

A close call first takes all reservations out and cancels their handlers, and
closes the connection in a later step. When it has returned, and all other calls
have, the connection has no route. Nothing else is left either but what subscribe
calls have claimed between those two steps: these find the connection still open,
or end without a word.
-/

namespace DeviceBus.Hub

variable {H : Type} {h : Hub H} {c : Claim H} {i : Nat}

/-- A close call has taken all pairs out and has not closed the connection yet. -/
def Closing (h : Hub H) (i : Nat) : Prop :=
  ∃ n, h.call? n = some ⟨n, i, .closing⟩

theorem not_holds_of_registry (hNone : ∀ topic client, h.pair? c.facade topic client = none) :
    ¬h.Holds c := by
  rintro ⟨s, hs, -⟩
  rw [hNone] at hs
  cases hs

/-- The broker's side of a hub: connections own their routes, closed ones none. -/
structure Tidy (h : Hub H) : Prop where
  owned : h.broker.Owned
  released : h.broker.Released

theorem tidy_opened (groups : List (Option String)) : (opened groups : Hub H).Tidy := by
  refine ⟨(vacant_opened groups).owned, fun d hClosed => ⟨hClosed, ?_⟩⟩
  rw [opened_eq, Broker.connection, List.getD_eq_getElem?_getD, List.getElem?_map]
  cases groups[d]? with
  | none => rfl
  | some group => rfl

section

variable [Handler H]

/-- The claim is made while its facade is being closed. -/
def Late (h : Hub H) (steps : List (Step H)) (c : Claim H) : Prop :=
  ∃ before s after, steps = before ++ s :: after ∧ (h.run before).1.claim? s = some c ∧
    (h.run before).1.Closing c.facade

theorem tidy_run (hDrawn : h.Drawn) (hTidy : h.Tidy) (steps : List (Step H)) :
    (h.run steps).1.Tidy :=
  run_induction (P := Tidy) hDrawn hTidy
    (fun _ _ _ hOnward hTidy =>
      ⟨hTidy.owned.change hOnward.broker, hTidy.released.change hOnward.broker⟩) steps

/-! ## The two steps of a close call -/

theorem closing_step (hDrawn : h.Drawn) (i : Nat) : (h.step (.close i)).1.Closing i :=
  ⟨h.nextCall, (call?_begin (h := h.setFacade i _) hDrawn.numbered.fresh _ _ _).trans (if_pos rfl)⟩

theorem ending_step (hDrawn : h.Drawn) (hReleased : h.broker.Released)
    (hEnding : h.Closing i ∨ h.broker.Shut i) (s : Step H) :
    (h.step s).1.Closing i ∨ (h.step s).1.broker.Shut i := by
  rcases hEnding with ⟨n, hCall⟩ | hShut
  · -- The close call stays where it is until it is told to go on.
    by_cases hTold : ∃ answer, s = .proceed n answer
    · obtain ⟨answer, rfl⟩ := hTold
      refine .inr ?_
      simp only [step, proceed, hCall]
      exact Broker.shut_close hReleased i
    · exact .inl
        ⟨n, call?_step_other hDrawn.numbered hCall fun answer hStep => hTold ⟨answer, hStep⟩⟩
  · exact .inr (hShut.change (onward_step hDrawn.numbered s).broker)

theorem ending_run (hDrawn : h.Drawn) (hTidy : h.Tidy) {steps : List (Step H)}
    (hClose : .close i ∈ steps) : (h.run steps).1.Closing i ∨ (h.run steps).1.broker.Shut i := by
  obtain ⟨before, after, rfl⟩ := List.append_of_mem hClose
  have hBefore := drawn_run hDrawn before
  have hOnward := onward_step hBefore.numbered (.close i)
  rw [(run_append h before (.close i :: after)).1]
  refine (run_induction (P := fun h => h.Tidy ∧ (h.Closing i ∨ h.broker.Shut i))
    (hBefore.onward hOnward) ⟨?_, .inl (closing_step hBefore i)⟩ ?_ after).2
  · have hTidy' := tidy_run hDrawn hTidy before
    exact ⟨hTidy'.owned.change hOnward.broker, hTidy'.released.change hOnward.broker⟩
  · intro h' s hDrawn' hOnward' hKept
    exact ⟨⟨hKept.1.owned.change hOnward'.broker, hKept.1.released.change hOnward'.broker⟩,
      ending_step hDrawn' hKept.1.released hKept.2 s⟩

/-! ## A claim that meets a closed connection -/

theorem refused_step (hDrawn : h.Drawn) (hTraced : h.Traced c) (hShut : h.broker.Shut c.facade)
    {stage : Stage} (hCall : h.call? c.call = some (c.pending stage))
    (hBare : (c.pending stage).call.handle? = none) (s : Step H)
    (hHolds : (h.step s).1.Holds c) :
    ∃ stage', (h.step s).1.call? c.call = some (c.pending stage') ∧
      (c.pending stage').call.handle? = none := by
  by_cases hTold : ∃ answer, s = .proceed c.call answer
  · obtain ⟨answer, rfl⟩ := hTold
    have hPending : h.call? c.call =
        some ⟨c.call, c.facade, .subscribing c.client c.topic c.ticket c.handler stage⟩ := hCall
    cases stage with
    | reserved =>
      refine ⟨.asked, ?_, rfl⟩
      simp only [step, proceed, hPending, proceedSubscribe]
      exact call?_setCall_self rfl hPending _
    | asked =>
      have hGrant : ∃ e, h.grant c.facade c.topic c.ticket c.handler answer = (.refused e, h) := by
        cases answer with
        | failed reason => exact ⟨_, rfl⟩
        | carried => exact ⟨.closed, by simp only [grant, Broker.subscribe, hShut.1, if_true]⟩
      obtain ⟨e, hGrant⟩ := hGrant
      refine ⟨.refused e, ?_, rfl⟩
      simp only [step, proceed, hPending, proceedSubscribe, hGrant]
      exact call?_setCall_self rfl hPending _
    | refused e =>
      -- The call gives its pair up, so that the claim is not held after it.
      exact (not_holds_of_refused answer hDrawn hTraced hPending hHolds).elim
    | granted handle => cases hBare
    | surplus handle => cases hBare
  · exact ⟨stage, call?_step_other hDrawn.numbered hCall fun answer hStep => hTold ⟨answer, hStep⟩,
      hBare⟩

theorem refused_run (hDrawn : h.Drawn) (hTraced : h.Traced c) (hShut : h.broker.Shut c.facade)
    (hCall : h.call? c.call = some (c.pending .reserved)) (steps : List (Step H))
    (hReturned : (h.run steps).1.call? c.call = none) : ¬(h.run steps).1.Holds c := by
  intro hHolds
  have hKept : (h.run steps).1.Traced c ∧ (h.run steps).1.broker.Shut c.facade ∧
      ((h.run steps).1.Holds c → ∃ stage, (h.run steps).1.call? c.call = some (c.pending stage) ∧
        (c.pending stage).call.handle? = none) := by
    refine run_induction (P := fun h => h.Traced c ∧ h.broker.Shut c.facade ∧
      (h.Holds c → ∃ stage, h.call? c.call = some (c.pending stage) ∧
        (c.pending stage).call.handle? = none)) hDrawn
      ⟨hTraced, hShut, fun _ => ⟨.reserved, hCall, rfl⟩⟩ ?_ steps
    rintro h s hDrawn hOnward ⟨hTraced, hShut, hInFlight⟩
    refine ⟨hTraced.onward hOnward, hShut.change hOnward.broker, fun hHolds => ?_⟩
    obtain ⟨stage, hStage, hBare⟩ := hInFlight (holds_of_onward hTraced hOnward hHolds)
    exact refused_step hDrawn hTraced hShut hStage hBare s hHolds
  obtain ⟨stage, hStage, -⟩ := hKept.2.2 hHolds
  rw [hReturned] at hStage
  cases hStage

theorem holds_of_run (hDrawn : h.Drawn) (hTraced : h.Traced c) (steps : List (Step H))
    (hHolds : (h.run steps).1.Holds c) : h.Holds c :=
  (run_induction (P := fun h' => h'.Traced c ∧ (h'.Holds c → h.Holds c)) hDrawn
    ⟨hTraced, fun hHolds => hHolds⟩ (fun _ _ _ hOnward hKept => ⟨hKept.1.onward hOnward,
      fun hHolds => hKept.2 (holds_of_onward hKept.1 hOnward hHolds)⟩) steps).2 hHolds

/-- Of the claims on a closed facade only late ones can be held when all calls have
returned. -/
theorem late_of_holds (hDrawn : h.Drawn) (hTidy : h.Tidy) {steps : List (Step H)}
    (hMem : c ∈ h.claims steps) (hPresent : c.facade < h.facades.length)
    (hClose : .close c.facade ∈ steps) (hReturned : (h.run steps).1.calls = [])
    (hHolds : (h.run steps).1.Holds c) : h.Late steps c := by
  obtain ⟨before, s, after, rfl, hClaim, hDrawn', hTraced, -⟩ :=
    begun_of_mem_claims hDrawn hMem hPresent
  obtain ⟨f, -, hStep⟩ := step_of_claim? hClaim
  have hEnd : (h.run (before ++ s :: after)).1 = (((h.run before).1.step s).1.run after).1 :=
    (run_append h before (s :: after)).1
  rw [hEnd] at hHolds hReturned
  rcases List.mem_append.mp hClose with hEarlier | hLater
  · -- The connection is closed already, or the claim is late.
    have hBefore := drawn_run hDrawn before
    rcases ending_run hDrawn hTidy hEarlier with hClosing | hShut
    · exact ⟨before, s, after, rfl, hClaim, hClosing⟩
    · have hCall : ((h.run before).1.step s).1.call? c.call = some (c.pending .reserved) := by
        rw [hStep, (claim?_eq_some hClaim).2.1]
        refine (call?_begin (h := (h.run before).1.setFacade c.facade f) hBefore.numbered.fresh
          _ _ _).trans ((if_pos rfl).trans ?_)
        rw [Claim.pending, (claim?_eq_some hClaim).2.1]
        rfl
      have hShut' := hShut.change (onward_step hBefore.numbered s).broker
      have hNone : (((h.run before).1.step s).1.run after).1.call? c.call = none := by
        rw [call?, hReturned, List.find?_nil]
      exact (refused_run hDrawn' hTraced hShut' hCall after hNone hHolds).elim
  · rcases List.mem_cons.mp hLater with hSame | hRest
    · rw [(claim?_eq_some hClaim).1] at hSame
      cases hSame
    · -- The closing finds the claim and takes it out.
      obtain ⟨between, last, rfl⟩ := List.append_of_mem hRest
      have hDrawn'' := drawn_run hDrawn' between
      have hTraced' := traced_run hDrawn' hTraced between
      have hOnward := onward_step hDrawn''.numbered (.close c.facade)
      rw [(run_append _ between (.close c.facade :: last)).1] at hHolds
      have hStill := holds_of_run (hDrawn''.onward hOnward) (hTraced'.onward hOnward) last hHolds
      exact (not_holds_of_registry (pair?_close _ c.facade) hStill).elim

/-! ## Calls that return `ok` -/

theorem mem_returned_step (hNumbered : h.Numbered) {s : Step H} {n : Nat}
    {result : Except FacadeError Unit} (hMem : .returned n result ∈ (h.step s).2) :
    n < (h.step s).1.nextCall ∧ (h.call? n = none → n = h.nextCall) ∧
      (h.step s).1.call? n = none := by
  have hMove := move_step h s
  generalize (h.step s).1 = h' at hMove
  generalize (h.step s).2 = reports at hMove hMem
  have hFinish : ∀ {g : Hub H} {number : Nat} {p : Pending H} {result : Except FacadeError Unit},
      g.nextCall = h.nextCall → h.call? number = some p → n = number →
        n < (g.finish number result).1.nextCall ∧ (h.call? n = none → n = h.nextCall) ∧
          (g.finish number result).1.call? n = none := by
    rintro g number p result hSame hCall rfl
    refine ⟨hSame ▸ hNumbered n p hCall, fun hNone => ?_, (call?_finish _ _ _ _).trans (if_pos rfl)⟩
    rw [hCall] at hNone
    cases hNone
  cases hMove with
  | declined hCause =>
    cases List.mem_singleton.mp hMem
    exact ⟨Nat.lt_succ_self _, fun _ => rfl, hNumbered.fresh⟩
  | published hSubject hOpen =>
    cases List.mem_singleton.mp hMem
    exact ⟨Nat.lt_succ_self _, fun _ => rfl, hNumbered.fresh⟩
  | drained i =>
    obtain ⟨sub, -, hReport⟩ := List.mem_map.mp hMem
    cases hReport
  | dispatched hTake =>
    obtain ⟨message, -, hReport⟩ := List.mem_map.mp hMem
    cases hReport
  | discarded hCall =>
    cases List.mem_singleton.mp hMem
    exact hFinish (g := h.setFacade _ _) rfl hCall rfl
  | attached hCall hAttach =>
    cases List.mem_singleton.mp hMem
    exact hFinish (g := h.setFacade _ _) rfl hCall rfl
  | returned hCall =>
    cases List.mem_singleton.mp hMem
    exact hFinish (onward_release h _ _ _).2.2.1 hCall rfl
  | cancelled hCall =>
    rcases List.mem_cons.mp hMem with hReport | hLast
    · cases hReport
    · cases List.mem_singleton.mp hLast
      exact hFinish rfl hCall rfl
  | @closed number j answer hCall =>
    cases List.mem_singleton.mp hMem
    exact hFinish (g := { h with broker := h.broker.close j }) rfl hCall rfl
  | _ => cases hMem

theorem lt_nextCall_of_returned (hDrawn : h.Drawn) {steps : List (Step H)} {n : Nat}
    {result : Except FacadeError Unit} (hMem : .returned n result ∈ (h.run steps).2) :
    n < (h.run steps).1.nextCall := by
  obtain ⟨before, s, after, rfl, hReport⟩ := mem_reports_run hMem
  have hBefore := drawn_run hDrawn before
  have hLess := (mem_returned_step hBefore.numbered hReport).1
  have hLe := run_induction (P := fun h' => ((h.run before).1.step s).1.nextCall ≤ h'.nextCall)
    (hBefore.onward (onward_step hBefore.numbered s)) (Nat.le_refl _)
    (fun _ _ _ hOnward hLe => Nat.le_trans hLe hOnward.nextCall_le) after
  rw [(run_append h before (s :: after)).1]
  exact Nat.lt_of_lt_of_le hLess hLe

theorem not_returned_run (hDrawn : h.Drawn) (hTraced : h.Traced c)
    (hReturned : h.call? c.call = none) {steps : List (Step H)} {result : Except FacadeError Unit} :
    .returned c.call result ∉ (h.run steps).2 := by
  intro hMem
  obtain ⟨before, s, after, rfl, hReport⟩ := mem_reports_run hMem
  have hKept : (h.run before).1.Traced c ∧ (h.run before).1.call? c.call = none :=
    run_induction (P := fun h => h.Traced c ∧ h.call? c.call = none) hDrawn ⟨hTraced, hReturned⟩
      (fun _ _ _ hOnward hKept => ⟨hKept.1.onward hOnward,
        returned_of_onward hKept.1 hOnward hKept.2⟩) before
  obtain ⟨-, hNumber, -⟩ := mem_returned_step (drawn_run hDrawn before).numbered hReport
  exact Nat.ne_of_lt hKept.1.numbered (hNumber hKept.2)

/-- The call of the claim has returned, or it returns `ok` along the run. -/
def Succeeds (h : Hub H) (steps : List (Step H)) (c : Claim H) : Prop :=
  h.call? c.call = none ∨ .returned c.call (.ok ()) ∈ (h.run steps).2

theorem Succeeds.step {s : Step H} {rest : List (Step H)} (hOk : h.Succeeds (s :: rest) c)
    (hDrawn : h.Drawn) (hTraced : h.Traced c) : (h.step s).1.Succeeds rest c := by
  rcases hOk with hNone | hMem
  · exact .inl (returned_of_onward hTraced (onward_step hDrawn.numbered s) hNone)
  · rcases List.mem_append.mp hMem with hFirst | hRest
    · exact .inl (mem_returned_step hDrawn.numbered hFirst).2.2
    · exact .inr hRest

theorem Succeeds.not_dropped {s : Step H} {rest : List (Step H)} {p q : Phase} {count : Nat}
    (hOk : h.Succeeds (s :: rest) c) (hDrawn : h.Drawn) (hTraced : h.Traced c)
    (hTurn : h.Turn s c p q count) (hAlive : p ≠ .dropped) : q ≠ .dropped := by
  rintro rfl
  cases hTurn with
  | stays p hKept => exact hAlive rfl
  | @dropped e answer hStep hCall =>
    subst hStep
    rcases hOk with hNone | hMem
    · cases hNone.symm.trans hCall
    · -- The call has returned an error, and it returns once.
      have hOnward := onward_step hDrawn.numbered (.proceed c.call answer)
      rw [run, List.mem_append] at hMem
      rcases hMem with hFirst | hRest
      · rw [step_of_refused answer hCall] at hFirst
        cases List.mem_singleton.mp hFirst
      · have hReturned : (h.step (.proceed c.call answer)).1.call? c.call = none := by
          rw [step_of_refused answer hCall]
          exact (call?_finish _ _ _ _).trans (if_pos rfl)
        exact not_returned_run (hDrawn.onward hOnward) (hTraced.onward hOnward) hReturned hRest

theorem Succeeds.run {p : Phase} {steps : List (Step H)} (hOk : h.Succeeds steps c)
    (hDrawn : h.Drawn) (hTraced : h.Traced c) (hPhase : h.InPhase c p) (hAlive : p ≠ .dropped) :
    ∃ q, q ≠ .dropped ∧ (h.run steps).1.InPhase c q ∧
      c.cancels (h.run steps).2 + p.cancels = q.cancels := by
  induction steps generalizing h p with
  | nil => exact ⟨p, hAlive, hPhase, Nat.zero_add _⟩
  | cons s rest ih =>
    obtain ⟨q, hTurn, hNext, -⟩ := turn_step hDrawn hTraced hPhase s
    obtain ⟨-, hCount⟩ := hTurn.reaches
    have hOnward := onward_step hDrawn.numbered s
    obtain ⟨r, hLast, hPhase', hCount'⟩ :=
      ih (hOk.step hDrawn hTraced) (hDrawn.onward hOnward) (hTraced.onward hOnward) hNext
        (hOk.not_dropped hDrawn hTraced hTurn hAlive)
    refine ⟨r, hLast, hPhase', ?_⟩
    rw [Hub.run, Claim.cancels_append]
    omega

theorem ok_of_claim (hDrawn : h.Drawn) {steps : List (Step H)} (hMem : c ∈ h.claims steps)
    (hPresent : c.facade < h.facades.length) (hOk : .returned c.call (.ok ()) ∈ (h.run steps).2) :
    ∃ q, q ≠ .dropped ∧ (h.run steps).1.InPhase c q ∧ c.cancels (h.run steps).2 = q.cancels := by
  obtain ⟨before, s, after, rfl, hClaim, hDrawn', hTraced, hPhase⟩ :=
    begun_of_mem_claims hDrawn hMem hPresent
  have hBefore := cancels_before hDrawn hPresent hClaim
  obtain ⟨f, -, hStep⟩ := step_of_claim? hClaim
  obtain ⟨hRun, hReports⟩ := run_append h before (s :: after)
  have hLater : .returned c.call (.ok ()) ∈ (((h.run before).1.step s).1.run after).2 := by
    rw [hReports, run, List.mem_append, List.mem_append] at hOk
    rcases hOk with hEarly | hFirst | hLater
    · have hLess := lt_nextCall_of_returned hDrawn hEarly
      rw [(claim?_eq_some hClaim).2.1] at hLess
      exact (Nat.lt_irrefl _ hLess).elim
    · rw [hStep] at hFirst
      cases hFirst
    · exact hLater
  have hOk' : ((h.run before).1.step s).1.Succeeds after c := .inr hLater
  obtain ⟨q, hAlive, hLast, hCount⟩ := hOk'.run hDrawn' hTraced hPhase (by simp)
  rw [hRun]
  refine ⟨q, hAlive, hLast, ?_⟩
  rw [hReports, run, Claim.cancels_append, Claim.cancels_append]
  have hHeld : Phase.held.cancels = 0 := rfl
  omega

/-! ## A closed facade -/

/-- Nothing is left of facade `i`, and the handler of each subscription has been cancelled
once. -/
structure ClosedUp (h : Hub H) (steps : List (Step H)) (i : Nat) : Prop where
  count : ((h.run steps).1.facade i).subscriptionCount = 0
  once : ∀ c ∈ h.claims steps, c.facade = i → .returned c.call (.ok ()) ∈ (h.run steps).2 →
    c.cancels (h.run steps).2 = 1
  routes : ∀ r ∈ (h.run steps).1.broker.routes, r.connection ≠ i

/-- How a claim on facade `i` has ended: it is held only if it was late, and its handler has
been cancelled once, or never if it is held. -/
structure Settles (h : Hub H) (steps : List (Step H)) (c : Claim H) : Prop where
  late : (h.run steps).1.Holds c → h.Late steps c
  cancelled : .returned c.call (.ok ()) ∈ (h.run steps).2 →
    ((h.run steps).1.Holds c → c.cancels (h.run steps).2 = 0) ∧
      (¬(h.run steps).1.Holds c → c.cancels (h.run steps).2 = 1)

theorem count_eq_zero (hDrawn : h.Drawn) (hPresent : i < h.facades.length)
    (hNew : h.nextTicket i = 0) {steps : List (Step H)}
    (hNone : ∀ c ∈ h.claims steps, c.facade = i → ¬(h.run steps).1.Holds c) :
    ((h.run steps).1.facade i).subscriptionCount = 0 := by
  refine Registry.size_eq_zero_iff.mpr fun topic client => ?_
  cases hPair : ((h.run steps).1.facade i).registry.get? topic client with
  | none => rfl
  | some s =>
    have hLess := (drawn_run hDrawn steps).pair i topic client s hPair
    obtain ⟨c, hMem, rfl, hTicket⟩ := exists_claim_of_ticket hPresent
      (hNew ▸ Nat.zero_le s.ticket) hDrawn steps hLess
    obtain ⟨rfl, rfl, -⟩ := (phase_of_mem_claims hDrawn hMem hPresent).1.pair topic client s hPair
      hTicket.symm
    exact (hNone c hMem rfl ⟨s, hPair, hTicket.symm⟩).elim

/-- What is left of facade `i` when a close call and all other calls have returned, in whatever
order their steps came: no route, and of its pairs only such as were claimed between the two
steps of a close call. Without one of these the facade is closed up. -/
theorem close_complete (groups : List (Option String)) (steps : List (Step H)) {i : Nat}
    (hPresent : i < groups.length) (hClose : .close i ∈ steps)
    (hReturned : ((opened groups).run steps).1.calls = []) :
    (∀ r ∈ ((opened groups).run steps).1.broker.routes, r.connection ≠ i) ∧
    (∀ c ∈ (opened groups).claims steps, c.facade = i → (opened groups).Settles steps c) ∧
    ((opened groups).ClosedUp steps i ↔ ∀ c ∈ (opened groups).claims steps, c.facade = i →
      ¬((opened groups).run steps).1.Holds c) := by
  have hDrawn : (opened groups : Hub H).Drawn := drawn_opened groups
  have hTidy : (opened groups : Hub H).Tidy := tidy_opened groups
  have hBound : i < (opened groups : Hub H).facades.length := (length_opened groups).symm ▸ hPresent
  have hCalls : ∀ n, ((opened groups).run steps).1.call? n = none := by
    intro n
    rw [call?, hReturned, List.find?_nil]
  have hRoutes : ∀ r ∈ ((opened groups).run steps).1.broker.routes, r.connection ≠ i := by
    intro r hr hOwn
    rcases ending_run hDrawn hTidy hClose with ⟨n, hCall⟩ | hShut
    · rw [hCalls] at hCall
      cases hCall
    · exact hShut.not_live (tidy_run hDrawn hTidy steps).owned ⟨r, hr, hOwn, rfl⟩
  have hSettles : ∀ c ∈ (opened groups).claims steps, c.facade = i →
      (opened groups).Settles steps c := by
    rintro c hMem rfl
    refine ⟨late_of_holds hDrawn hTidy hMem hBound hClose hReturned, fun hOk => ?_⟩
    obtain ⟨q, hAlive, hPhase, hCount⟩ := ok_of_claim hDrawn hMem hBound hOk
    rw [hCount]
    -- With all calls back and none of them refused, two phases are left.
    cases hPhase with
    | held hServes hIn => exact ⟨fun _ => rfl, fun hOut => (hOut hServes.pair).elim⟩
    | leaving hOut hStill hLeaving hAlone =>
      obtain ⟨call, sub, hFound, -⟩ := hLeaving
      rw [hCalls] at hFound
      cases hFound
    | cancelled hOut hStill hNone => exact ⟨fun hHolds => (hOut hHolds).elim, fun _ => rfl⟩
    | dropped hOut hBack hUntapped hNone => exact (hAlive rfl).elim
  refine ⟨hRoutes, hSettles, fun hClosed c hMem hOwn => ?_, fun hNone => ⟨?_, ?_, hRoutes⟩⟩
  · have hPairs := Registry.size_eq_zero_iff.mp hClosed.count
    exact not_holds_of_registry (hOwn ▸ hPairs)
  · exact count_eq_zero hDrawn hBound (nextTicket_opened groups i) hNone
  · exact fun c hMem hOwn hOk => ((hSettles c hMem hOwn).cancelled hOk).2 (hNone c hMem hOwn)

end

/-- The facade is closed while the backend is busy with a subscription. -/
def closedInFlight : List (Step Unit) :=
  [.subscribe 0 "c" "t" (), .proceed 0 .carried, .close 0, .proceed 0 .carried,
    .proceed 0 .carried, .proceed 0 .carried, .proceed 1 .carried]

theorem close_complete_closedInFlight :
    0 < [(none : Option String)].length ∧ .close 0 ∈ closedInFlight ∧
      ((opened [none]).run closedInFlight).1.calls = [] ∧
      (opened [none]).ClosedUp closedInFlight 0 ∧
      .returned 0 (.ok ()) ∈ ((opened [none]).run closedInFlight).2 := by
  have hClose : .close 0 ∈ closedInFlight := by simp [closedInFlight]
  obtain ⟨-, hSettles, hClosed⟩ := close_complete [none] closedInFlight (by decide) hClose rfl
  have hOk : .returned 0 (.ok ()) ∈ ((opened [none]).run closedInFlight).2 := .tail _ (.head _)
  refine ⟨by decide, hClose, rfl, hClosed.mpr fun c hMem hOwn hHolds => ?_, hOk⟩
  obtain ⟨before, s, after, hSplit, hClaim, n, hCall⟩ := (hSettles c hMem hOwn).late hHolds
  obtain ⟨rfl, -⟩ := claim?_eq_some hClaim
  -- The only subscribe call is the first step, when no call is in flight.
  cases before with
  | nil => cases hCall
  | cons first before =>
    obtain ⟨-, hRest⟩ := List.cons.inj hSplit
    have hLater := List.mem_append_right before
      (List.mem_cons_self (a := Step.subscribe c.facade c.client c.topic c.handler) (l := after))
    have hSame : before ++ Step.subscribe c.facade c.client c.topic c.handler :: after =
        closedInFlight.tail := hRest.symm
    rw [hSame] at hLater
    simp [closedInFlight] at hLater

/-! ## What closing does not do -/

/-- A subscribe call finds its place between the two steps of a close call. -/
def slippedIn : List (Step Unit) :=
  [.close 0, .subscribe 0 "c" "channels.t" (), .proceed 1 .carried, .proceed 1 .carried,
    .proceed 1 .carried, .proceed 0 .carried]

/-- A message is published before the connection is closed, and taken from its mailbox after
that. -/
def slippedInAndHeard : List (Step Unit) :=
  [.close 0, .subscribe 0 "c" "channels.t" (), .proceed 1 .carried, .proceed 1 .carried,
    .proceed 1 .carried, .publish 0 "t" { channel := "t" } .carried, .proceed 0 .carried,
    .dispatch 0]

/-- A pair that has slipped in stays in the registry, and its handler is never cancelled. It
is even given a message after the close call has returned. -/
theorem not_closedUp :
    ((opened [none]).run slippedIn).1.calls = [] ∧ ¬(opened [none]).ClosedUp slippedIn 0 ∧
      (((opened [none]).run slippedIn).1.facade 0).subscriptionCount = 1 ∧
      ((opened [none]).run slippedIn).2 = [.returned 1 (.ok ()), .returned 0 (.ok ())] ∧
      ((opened [none]).run slippedInAndHeard).2 = [.returned 1 (.ok ()), .returned 2 (.ok ()),
        .returned 0 (.ok ()), .handled 0 0 () { channel := "t" }] := by
  have hCount : (((opened [none]).run slippedIn).1.facade 0).subscriptionCount = 1 := rfl
  refine ⟨rfl, fun hClosed => ?_, hCount, rfl, by cbv⟩
  cases hCount.symm.trans hClosed.count

end DeviceBus.Hub
