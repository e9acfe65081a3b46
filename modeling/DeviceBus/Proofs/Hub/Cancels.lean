import DeviceBus.Proofs.Hub.Handles
import DeviceBus.Proofs.Hub.Lives

/-! # A handler is cancelled once

When a reservation is taken out its handler is cancelled, once, before the call
that took it out returns, and from that step on it is given no message. A
reservation that nobody takes out has its handler never cancelled.
-/

namespace DeviceBus.Hub

variable {H : Type} [Handler H] {h : Hub H} {c : Claim H} {s : Step H}

theorem mem_reports_run {steps : List (Step H)} {report : Report H}
    (hMem : report ∈ (h.run steps).2) :
    ∃ before s after, steps = before ++ s :: after ∧ report ∈ ((h.run before).1.step s).2 := by
  induction steps generalizing h with
  | nil => cases hMem
  | cons s rest ih =>
    rcases List.mem_append.mp hMem with hFirst | hRest
    · exact ⟨[], s, rest, rfl, hFirst⟩
    · obtain ⟨before, s', after, rfl, hReport⟩ := ih hRest
      exact ⟨s :: before, s', after, rfl, hReport⟩

theorem claims_append (h : Hub H) (before after : List (Step H)) :
    h.claims (before ++ after) = h.claims before ++ (h.run before).1.claims after := by
  induction before generalizing h with
  | nil => rfl
  | cons s rest ih => rw [List.cons_append, claims, claims, ih, List.append_assoc, run]

theorem claim_of_cancelled {i k : Nat} {handler : H} (hDrawn : h.Drawn)
    (hBound : i < h.facades.length) (hMem : .cancelled i k handler ∈ (h.step s).2) :
    k < h.nextTicket i ∧
      ∀ c : Claim H, h.Traced c → c.facade = i → c.ticket = k → c.handler = handler := by
  rcases mem_cancelled_step hMem with
    ⟨rfl, topic, client, sub, hPair, rfl, rfl⟩ |
    ⟨n, answer, call, sub, rfl, hCall, hTaking, rfl, rfl⟩
  · refine ⟨hDrawn.pair _ _ _ _ hPair, ?_⟩
    rintro c hTraced rfl hTicket
    exact (hTraced.pair topic client sub hPair hTicket.symm).2.2.symm
  · refine ⟨hDrawn.taking _ _ _ _ hCall hTaking, ?_⟩
    rintro c hTraced rfl hTicket
    exact (hTraced.taking n call sub hCall hTaking hTicket.symm).symm

/-! ## Before the claim -/

theorem nextTicket_le_run (hDrawn : h.Drawn) (i : Nat) (steps : List (Step H)) :
    h.nextTicket i ≤ (h.run steps).1.nextTicket i :=
  run_induction (P := fun h' => h.nextTicket i ≤ h'.nextTicket i) hDrawn (Nat.le_refl _)
    (fun _ _ _ hOnward hLe => Nat.le_trans hLe (hOnward.nextTicket_le i)) steps

theorem cancels_before (hDrawn : h.Drawn) (hPresent : c.facade < h.facades.length)
    {before : List (Step H)} (hClaim : (h.run before).1.claim? s = some c) :
    c.cancels (h.run before).2 + c.cancels ((h.run before).1.step s).2 = 0 := by
  obtain ⟨f, -, hStep⟩ := step_of_claim? hClaim
  have hNone : c.cancels (h.run before).2 = 0 := by
    rw [Claim.cancels_eq_zero_iff]
    intro handler hMem
    obtain ⟨early, s', late, rfl, hReport⟩ := mem_reports_run hMem
    have hEarly := drawn_run hDrawn early
    have hBound := (length_run h hDrawn early).symm ▸ hPresent
    have hLess := (claim_of_cancelled hEarly hBound hReport).1
    have hLe := nextTicket_le_run hEarly c.facade (s' :: late)
    rw [← (run_append h early (s' :: late)).1, ← ticket_of_claim? hClaim] at hLe
    exact Nat.not_le_of_lt hLess hLe
  rw [hNone, hStep]
  rfl

theorem taken_after_claim (hDrawn : h.Drawn) {s' : Step H}
    {before after before' after' : List (Step H)}
    (hSplit : before ++ s :: after = before' ++ s' :: after')
    (hClaim : (h.run before).1.claim? s = some c) (hTaken : (h.run before').1.TakesOut s' c) :
    ∃ between, before' = before ++ s :: between ∧ after = between ++ s' :: after' := by
  rcases List.append_eq_append_iff.mp hSplit with ⟨between, hBefore, hAfter⟩ | ⟨between, hBefore, -⟩
  · cases between with
    | nil =>
      -- The step that makes the claim is no unsubscribe or close call.
      cases hAfter
      obtain ⟨hStep, -⟩ := claim?_eq_some hClaim
      rcases hTaken.1 with hSame | hSame
      · rw [hStep] at hSame
        cases hSame
      · rw [hStep] at hSame
        cases hSame
    | cons s₀ between =>
      obtain ⟨rfl, hRest⟩ := List.cons.inj hAfter
      exact ⟨between, hBefore, hRest⟩
  · obtain ⟨sub, hPair, hTicket⟩ := hTaken.2
    have hDrawn' := drawn_run hDrawn before'
    have hLess := hDrawn'.pair _ _ _ _ hPair
    have hLe := nextTicket_le_run hDrawn' c.facade between
    rw [← (run_append h before' between).1, ← hBefore, ← ticket_of_claim? hClaim, ← hTicket] at hLe
    exact (Nat.not_le_of_lt hLess hLe).elim

/-! ## From the step that takes it out -/

theorem taken_run {p : Phase} (hDrawn : h.Drawn) (hTraced : h.Traced c) (hPhase : h.InPhase c p)
    (hTaken : h.TakesOut s c) (after : List (Step H)) :
    p = .held ∧ ¬c.HandledIn (h.run (s :: after)).2 ∧
      ((h.run (s :: after)).1.call? h.nextCall = none → c.cancels (h.run (s :: after)).2 = 1) := by
  obtain rfl := hPhase.held_iff.mpr hTaken.2
  obtain ⟨q, hTurn, hNext, hHandled⟩ := turn_step hDrawn hTraced hPhase s
  have hOnward := onward_step hDrawn.numbered s
  obtain ⟨r, hLast, hReaches, hCount, hSilent⟩ :=
    life_run (hDrawn.onward hOnward) (hTraced.onward hOnward) hNext after
  rw [run, Claim.handledIn_append, Claim.cancels_append]
  generalize c.cancels (h.step s).2 = count at hTurn
  cases hTurn with
  | stays p hKept => exact (hKept hTaken).elim
  | dropped hStep hCall =>
    rcases hTaken.1 with hSame | hSame
    · rw [hStep] at hSame
      cases hSame
    · rw [hStep] at hSame
      cases hSame
  | unsubscribed hTaken =>
    refine ⟨rfl, ?_, fun hReturned => ?_⟩
    · rintro (hFirst | hRest)
      · cases hHandled hFirst
      · exact hSilent (by simp) hRest
    · -- The call that took the claim out has returned, so that the claim is not leaving.
      rcases hReaches with rfl | rfl
      · cases hLast with
        | leaving hOut hStill hLeaving hAlone =>
          obtain ⟨call, sub, hFound, -⟩ := hLeaving
          rw [hReturned] at hFound
          cases hFound
      · simpa [Phase.cancels] using hCount
  | drained hTaken =>
    refine ⟨rfl, ?_, fun _ => ?_⟩
    · rintro (hFirst | hRest)
      · cases hHandled hFirst
      · exact hSilent (by simp) hRest
    · obtain rfl : r = .cancelled := hReaches
      have hNone : c.cancels ((h.step s).1.run after).2 = 0 := by simpa [Phase.cancels] using hCount
      rw [hNone]

theorem cancels_of_claim (hDrawn : h.Drawn) {steps : List (Step H)} (hMem : c ∈ h.claims steps)
    (hPresent : c.facade < h.facades.length) :
    c.cancels (h.run steps).2 ≤ 1 ∧
      ((∀ before s after, steps = before ++ s :: after → ¬(h.run before).1.TakesOut s c) →
        c.cancels (h.run steps).2 = 0) ∧
      ∀ before s after, steps = before ++ s :: after → (h.run before).1.TakesOut s c →
        ¬c.HandledIn ((h.run before).1.run (s :: after)).2 ∧
          ((h.run steps).1.call? (h.run before).1.nextCall = none →
            c.cancels (h.run steps).2 = 1) := by
  obtain ⟨before, s, after, rfl, hClaim, hDrawn', hTraced, hPhase⟩ :=
    begun_of_mem_claims hDrawn hMem hPresent
  have hBefore := cancels_before hDrawn hPresent hClaim
  obtain ⟨hRun, hReports⟩ := run_append h before (s :: after)
  have hCancels : c.cancels (h.run (before ++ s :: after)).2 =
      c.cancels (((h.run before).1.step s).1.run after).2 := by
    rw [hReports, run, Claim.cancels_append, Claim.cancels_append]
    omega
  rw [hCancels]
  refine ⟨?_, fun hKept => ?_, fun before' s' after' hSplit hTaken => ?_⟩
  · obtain ⟨q, -, -, hCount, -⟩ := life_run hDrawn' hTraced hPhase after
    have hOnce : q.cancels ≤ 1 := by
      cases q with
      | cancelled => exact Nat.le_refl 1
      | _ => exact Nat.zero_le 1
    omega
  · refine (untaken_run hDrawn' hTraced hPhase ?_).2
    rintro between s' after' rfl hTaken
    refine hKept (before ++ s :: between) s' after' (by simp) ?_
    rw [(run_append h before (s :: between)).1]
    exact hTaken
  · obtain ⟨between, rfl, rfl⟩ := taken_after_claim hDrawn hSplit hClaim hTaken
    obtain ⟨p, hNext, -, hCount, -⟩ := life_run hDrawn' hTraced hPhase between
    obtain ⟨hRun', hReports'⟩ := run_append ((h.run before).1.step s).1 between (s' :: after')
    have hState : (h.run (before ++ s :: between)).1 =
        (((h.run before).1.step s).1.run between).1 := (run_append h before (s :: between)).1
    have hEnd : (h.run (before ++ s :: (between ++ s' :: after'))).1 =
        ((((h.run before).1.step s).1.run between).1.run (s' :: after')).1 := hRun.trans hRun'
    rw [hState] at hTaken
    obtain ⟨rfl, hSilent, hOnce⟩ := taken_run (drawn_run hDrawn' between)
      (traced_run hDrawn' hTraced between) hNext hTaken after'
    rw [hState, hEnd, hReports', Claim.cancels_append]
    refine ⟨hSilent, fun hReturned => ?_⟩
    have hNone : c.cancels (((h.run before).1.step s).1.run between).2 = 0 := hCount
    rw [hNone, hOnce hReturned]

/-- In every order of the steps of any calls, publications and dispatches: a cancel is
that of one claim which an unsubscribe or close call has taken out. Its handler is
cancelled once by the time that call returns, and given nothing from that step on. -/
theorem cancelled_once (groups : List (Option String)) (steps : List (Step H)) :
    (∀ i k handler, i < groups.length →
      .cancelled i k handler ∈ ((opened groups).run steps).2 →
        ∃ c ∈ (opened groups).claims steps, c.facade = i ∧ c.ticket = k ∧ c.handler = handler ∧
          ∃ before s after, steps = before ++ s :: after ∧
            ((opened groups).run before).1.TakesOut s c) ∧
    ∀ c ∈ (opened groups).claims steps, c.facade < groups.length →
      c.cancels ((opened groups).run steps).2 ≤ 1 ∧
      ((∀ before s after, steps = before ++ s :: after →
          ¬((opened groups).run before).1.TakesOut s c) →
        c.cancels ((opened groups).run steps).2 = 0) ∧
      ∀ before s after, steps = before ++ s :: after →
        ((opened groups).run before).1.TakesOut s c →
          ¬c.HandledIn (((opened groups).run before).1.run (s :: after)).2 ∧
          (((opened groups).run steps).1.call? ((opened groups).run before).1.nextCall = none →
            c.cancels ((opened groups).run steps).2 = 1) := by
  have hDrawn : (opened groups : Hub H).Drawn := drawn_opened groups
  have hLength := length_opened (H := H) groups
  refine ⟨fun i k handler hBound hMem => ?_, fun c hMem hBound =>
    cancels_of_claim hDrawn hMem (hLength.symm ▸ hBound)⟩
  obtain ⟨before, s, after, rfl, hReport⟩ := mem_reports_run hMem
  have hBefore := drawn_run hDrawn before
  have hPresent : i < ((opened groups).run before).1.facades.length := by
    rwa [length_run _ hDrawn, hLength]
  obtain ⟨hLess, hHandler⟩ := claim_of_cancelled hBefore hPresent hReport
  obtain ⟨c, hClaim, rfl, rfl⟩ := exists_claim_of_ticket (hLength.symm ▸ hBound)
    (nextTicket_opened groups i ▸ Nat.zero_le k) hDrawn before hLess
  have hMade : c ∈ (opened groups).claims (before ++ s :: after) := by
    rw [claims_append]
    exact List.mem_append_left _ hClaim
  have hTraced := (phase_of_mem_claims hDrawn hClaim (hLength.symm ▸ hBound)).1
  refine ⟨c, hMade, rfl, rfl, hHandler c hTraced rfl rfl, ?_⟩
  -- Had nobody taken the claim out, there would be no cancel.
  refine Classical.byContradiction fun hNever => ?_
  have hKept : ∀ early s' late, before ++ s :: after = early ++ s' :: late →
      ¬((opened groups).run early).1.TakesOut s' c :=
    fun early s' late hSplit hTaken => hNever ⟨early, s', late, hSplit, hTaken⟩
  have hNone := (cancels_of_claim hDrawn hMade (hLength.symm ▸ hBound)).2.1 hKept
  exact Claim.cancels_eq_zero_iff.mp hNone handler hMem

/-- A message waits when the pair is given up, and the backend does not take the
handle back. -/
def givenUpLate : List (Step Unit) :=
  [.subscribe 0 "c" "t" (), .proceed 0 .carried, .proceed 0 .carried, .proceed 0 .carried,
    .route "t" [], .unsubscribe 0 "c" "t", .dispatch 0, .proceed 1 (.failed "busy"),
    .proceed 1 .carried]

theorem cancelled_once_givenUpLate :
    ∃ c ∈ (opened [none]).claims givenUpLate, c.cancels ((opened [none]).run givenUpLate).2 = 1 ∧
      ¬c.HandledIn (((opened [none]).run (givenUpLate.take 5)).1.run (givenUpLate.drop 5)).2 ∧
      ((opened [none]).run (givenUpLate.take 5)).1.broker.mailboxes.length = 1 := by
  have hMem : (⟨0, 0, "c", "t", 0, ()⟩ : Claim Unit) ∈ (opened [none]).claims givenUpLate := .head _
  have hTaken : ((opened [none]).run (givenUpLate.take 5)).1.TakesOut (.unsubscribe 0 "c" "t")
      ⟨0, 0, "c", "t", 0, ()⟩ := ⟨.inl rfl, _, rfl, rfl⟩
  obtain ⟨hSilent, hOnce⟩ := ((cancelled_once [none] givenUpLate).2 _ hMem (by decide)).2.2
    (givenUpLate.take 5) _ (givenUpLate.drop 6) rfl hTaken
  exact ⟨_, hMem, hOnce rfl, hSilent, rfl⟩

end DeviceBus.Hub
