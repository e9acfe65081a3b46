import DeviceBus.Proofs.Hub.Handles
import DeviceBus.Proofs.Hub.Lives

/-! # Tickets keep reservations apart

Several subscribe calls for one pair can be in flight at once, all but one of
them for reservations that are gone. A dispatcher that the backend may call and
that hands messages on is that of the reservation in the registry; and a call
whose reservation is gone touches no other.
-/

namespace DeviceBus

/-- The stages at which the backend has the dispatcher of a subscribe call. -/
def Stage.handedOver : Stage → Bool
  | .asked => true
  | .granted _ => true
  | .surplus _ => true
  | _ => false

namespace Hub

variable {H : Type} {h h' : Hub H} {c : Claim H}

/-- The backend may call the dispatcher with this ticket: it has a route or a
message for it, or the request that brings the dispatcher is with it. -/
def Callable (h : Hub H) (i ticket : Nat) : Prop :=
  (∃ tap, h.broker.Leads tap ∧ tap.facade = i ∧ tap.ticket = ticket) ∨
    ∃ n client topic handler stage,
      h.call? n = some ⟨n, i, .subscribing client topic ticket handler stage⟩ ∧
        stage.handedOver = true

def Armed (h : Hub H) (i ticket : Nat) : Prop :=
  ticket ∈ (h.facade i).active ∧ h.Callable i ticket

/-- Between the two states nothing has been done to any reservation, nor to any
dispatcher but that of the claim. -/
structure Spares (h h' : Hub H) (c : Claim H) : Prop where
  registry : ∀ i, (h'.facade i).registry = (h.facade i).registry
  active : ∀ i k, ¬(i = c.facade ∧ k = c.ticket) →
    (k ∈ (h'.facade i).active ↔ k ∈ (h.facade i).active)

theorem Spares.of_facades (hSame : h'.facades = h.facades) : h.Spares h' c where
  registry i := by rw [facade, facade, hSame]
  active i k _ := by rw [facade, facade, hSame]

theorem Spares.of_setFacade {f : Facade H} (hFacades : h'.facades = h.facades.set c.facade f)
    (hRegistry : f.registry = (h.facade c.facade).registry)
    (hActive : ∀ k, k ≠ c.ticket → (k ∈ f.active ↔ k ∈ (h.facade c.facade).active)) :
    h.Spares h' c := by
  have hAfter : ∀ i, h'.facade i = if c.facade = i ∧ c.facade < h.facades.length then f
      else h.facade i := by
    intro i
    rw [facade, hFacades]
    exact facade_setFacade h c.facade i f
  constructor
  · intro i
    rw [hAfter]
    split
    · rename_i hOwn
      rw [hRegistry, hOwn.1]
    · rfl
  · intro i k hOther
    rw [hAfter]
    split
    · rename_i hOwn
      obtain ⟨rfl, -⟩ := hOwn
      exact hActive k fun hTicket => hOther ⟨rfl, hTicket⟩
    · rfl

theorem InPhase.holds_of_armed {p : Phase} (hTraced : h.Traced c) (hPhase : h.InPhase c p)
    (hArmed : h.Armed c.facade c.ticket) : h.Holds c := by
  obtain ⟨hActive, hCallable⟩ := hArmed
  cases hPhase with
  | held hServes hIn => exact hServes.pair
  | leaving hOut hStill hLeaving hAlone => exact (hStill hActive).elim
  | cancelled hOut hStill hGone => exact (hStill hActive).elim
  | dropped hOut hReturned hUntapped hGone =>
    rcases hCallable with
      ⟨tap, hLeads, hFacade, hTicket⟩ | ⟨n, client, topic, handler, stage, hCall, -⟩
    · exact (hUntapped tap hLeads hFacade hTicket).elim
    · obtain ⟨rfl, -⟩ := hTraced.subscribing n client topic handler stage hCall
      rw [hReturned] at hCall
      cases hCall

theorem lt_nextTicket_of_callable (hDrawn : h.Drawn) {i k : Nat} (hBound : i < h.facades.length)
    (hCallable : h.Callable i k) : k < h.nextTicket i := by
  rcases hCallable with ⟨tap, hLeads, rfl, rfl⟩ | ⟨n, client, topic, handler, stage, hCall, -⟩
  · exact hDrawn.tap tap hLeads hBound
  · exact hDrawn.subscribing n i client topic k handler stage hBound hCall

section

variable [Handler H]

theorem spares_step (hTraced : h.Traced c) (hOut : ¬h.Holds c) (answer : Answer) :
    h.Spares (h.step (.proceed c.call answer)).1 c := by
  have hGone : ∀ s, (h.facade c.facade).registry.get? c.topic c.client = some s →
      s.ticket ≠ c.ticket := fun s hs hTicket => hOut ⟨s, hs, hTicket⟩
  cases hCall : h.call? c.call with
  | none =>
    simp only [step, proceed, hCall]
    exact .of_facades rfl
  | some p =>
    obtain ⟨stage, rfl⟩ := hTraced.number p hCall
    simp only [step, proceed, hCall, Claim.pending]
    cases stage with
    | reserved => exact .of_facades rfl
    | asked => exact .of_facades (grant_same h _ _ _ _ _).1
    | refused e =>
      have hSame : (h.facade c.facade).registry.discard c.topic c.client c.ticket =
          (h.facade c.facade).registry := Registry.discard_of_other hGone
      exact .of_setFacade (f := (h.facade c.facade).discard c.client c.topic c.ticket) rfl hSame
        fun _ _ => Iff.rfl
    | granted handle =>
      have hLate : (h.facade c.facade).attach c.client c.topic c.ticket handle =
          (false, (h.facade c.facade).deactivate c.ticket) := by
        simp only [Facade.attach, Registry.attach?_eq_none_iff.mpr hGone]
      simp only [proceedSubscribe, hLate]
      refine .of_setFacade (f := (h.facade c.facade).deactivate c.ticket) rfl rfl ?_
      exact fun k hOther => Facade.mem_deactivate.trans (and_iff_left hOther)
    | surplus handle =>
      exact .of_facades (onward_release h c.facade handle answer).1

/-- Of all dispatchers for a pair the backend has at most one that hands messages on,
that of the reservation in the registry; and a subscribe call whose reservation is
gone neither attaches to, discards nor stops a later one. -/
theorem dispatchers_guarded (groups : List (Option String)) (steps : List (Step H)) :
    (∀ i < groups.length, ∀ k, ((opened groups).run steps).1.Armed i k →
      ∃ c ∈ (opened groups).claims steps, c.facade = i ∧ c.ticket = k ∧
        ((opened groups).run steps).1.Holds c) ∧
    (∀ c ∈ (opened groups).claims steps, ∀ c' ∈ (opened groups).claims steps,
      c.facade < groups.length → c.facade = c'.facade → c.client = c'.client →
      c.topic = c'.topic → ((opened groups).run steps).1.Armed c.facade c.ticket →
      ((opened groups).run steps).1.Armed c'.facade c'.ticket → c = c') ∧
    ∀ c ∈ (opened groups).claims steps, c.facade < groups.length →
      ¬((opened groups).run steps).1.Holds c → ∀ (more : List (Step H)) (answer : Answer),
        ¬((opened groups).run (steps ++ more)).1.Holds c ∧
        ((opened groups).run (steps ++ more)).1.Spares
          (((opened groups).run (steps ++ more)).1.step (.proceed c.call answer)).1 c := by
  have hStart : (opened groups : Hub H).Drawn := drawn_opened groups
  have hLength := length_opened (H := H) groups
  have hDrawn := drawn_run hStart steps
  have hHolds : ∀ c ∈ (opened groups).claims steps, c.facade < groups.length →
      ((opened groups).run steps).1.Armed c.facade c.ticket →
        ((opened groups).run steps).1.Holds c := by
    intro c hMem hBound hArmed
    obtain ⟨hTraced, p, hPhase⟩ := phase_of_mem_claims hStart hMem (hLength.symm ▸ hBound)
    exact hPhase.holds_of_armed hTraced hArmed
  refine ⟨?_, ?_, ?_⟩
  · intro i hBound k hArmed
    have hPresent : i < ((opened groups).run steps).1.facades.length := by
      rwa [length_run _ hStart, hLength]
    obtain ⟨c, hMem, rfl, rfl⟩ := exists_claim_of_ticket (hLength.symm ▸ hBound)
      (nextTicket_opened groups i ▸ Nat.zero_le k) hStart steps
      (lt_nextTicket_of_callable hDrawn hPresent hArmed.2)
    exact ⟨c, hMem, rfl, rfl, hHolds c hMem hBound hArmed⟩
  · intro c hMem c' hMem' hBound hFacade hClient hTopic hArmed hArmed'
    obtain ⟨s, hs, hTicket⟩ := hHolds c hMem hBound hArmed
    obtain ⟨s', hs', hTicket'⟩ := hHolds c' hMem' (hFacade ▸ hBound) hArmed'
    rw [← hFacade, ← hClient, ← hTopic, hs] at hs'
    cases hs'
    exact claim_unique hStart hMem hMem' (hLength.symm ▸ hBound) hFacade
      (hTicket.symm.trans hTicket')
  · intro c hMem hBound hOut more answer
    obtain ⟨hTraced, -⟩ := phase_of_mem_claims hStart hMem (hLength.symm ▸ hBound)
    rw [(run_append _ steps more).1]
    have hLater : (((opened groups).run steps).1.run more).1.Traced c ∧
        ¬(((opened groups).run steps).1.run more).1.Holds c :=
      run_induction (P := fun h => h.Traced c ∧ ¬h.Holds c) hDrawn ⟨hTraced, hOut⟩
        (fun _ _ _ hOnward hKept => ⟨hKept.1.onward hOnward,
          fun hHolds => hKept.2 (holds_of_onward hKept.1 hOnward hHolds)⟩) more
    exact ⟨hLater.2, spares_step hLater.1 hLater.2 answer⟩

end

/-- The first of the two reservations that follow each other in `overtaken`. -/
def overtakenFirst : Claim Unit :=
  { call := 0, facade := 0, client := "c", topic := "t", ticket := 0, handler := () }

theorem dispatchers_guarded_overtaken :
    (∃ c ∈ (opened [none]).claims (overtaken.take 7), c.facade = 0 ∧ c.ticket = 1 ∧
      ((opened [none]).run (overtaken.take 7)).1.Holds c) ∧
    overtakenFirst ∈ (opened [none]).claims (overtaken.take 7) ∧
    ((opened [none]).run (overtaken.take 7)).1.Callable 0 0 ∧
    ((opened [none]).run (overtaken.take 7 ++ [])).1.Spares
      (((opened [none]).run (overtaken.take 7 ++ [])).1.step (.proceed 0 .carried)).1
      overtakenFirst := by
  have hArmed : ((opened [none]).run (overtaken.take 7)).1.Armed 0 1 :=
    ⟨by decide, .inr ⟨2, "c", "t", (), .asked, rfl, rfl⟩⟩
  have hMem : overtakenFirst ∈ (opened [none]).claims (overtaken.take 7) := .head _
  have hOut : ¬((opened [none]).run (overtaken.take 7)).1.Holds overtakenFirst := by
    rintro ⟨s, hs, hTicket⟩
    have hSecond : ((opened [none]).run (overtaken.take 7)).1.pair? 0 "t" "c" =
        some { ticket := 1, handler := () } := rfl
    cases hSecond.symm.trans hs
    cases hTicket
  obtain ⟨hFirst, -, hLast⟩ := dispatchers_guarded [none] (overtaken.take 7)
  exact ⟨hFirst 0 (by decide) 1 hArmed, hMem, .inr ⟨0, "c", "t", (), .surplus 0, rfl, rfl⟩,
    (hLast overtakenFirst hMem (by decide) hOut [] .carried).2⟩

end Hub

end DeviceBus
