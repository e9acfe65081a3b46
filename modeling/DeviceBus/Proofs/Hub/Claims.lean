import DeviceBus.Proofs.Hub.Onward

/-! # Reservations by their tickets

A subscribe call that is not refused at once claims its pair under a new ticket.
Whatever carries the ticket from then on belongs to this claim: a pair of the
registry, a call in flight, a route or a message on its way. Every ticket that
is in use after a run is that of one claim made in the run.
-/

namespace DeviceBus

variable {H : Type}

/-- A reservation that a subscribe call has made. -/
structure Claim (H : Type) where
  call : Nat
  facade : Nat
  client : String
  topic : String
  ticket : Nat
  handler : H

namespace Claim

def isCancel (c : Claim H) : Report H → Bool
  | .cancelled i ticket _ => i = c.facade && ticket = c.ticket
  | _ => false

def cancels (c : Claim H) (reports : List (Report H)) : Nat :=
  reports.countP c.isCancel

def HandledIn (c : Claim H) (reports : List (Report H)) : Prop :=
  ∃ handler message, .handled c.facade c.ticket handler message ∈ reports

def pending (c : Claim H) (stage : Stage) : Pending H :=
  ⟨c.call, c.facade, .subscribing c.client c.topic c.ticket c.handler stage⟩

theorem cancels_append (c : Claim H) (first others : List (Report H)) :
    c.cancels (first ++ others) = c.cancels first + c.cancels others :=
  List.countP_append

theorem handledIn_append {c : Claim H} {first others : List (Report H)} :
    c.HandledIn (first ++ others) ↔ c.HandledIn first ∨ c.HandledIn others := by
  simp only [HandledIn, List.mem_append, exists_or]

theorem cancels_eq_zero_iff {c : Claim H} {reports : List (Report H)} :
    c.cancels reports = 0 ↔ ∀ handler, .cancelled c.facade c.ticket handler ∉ reports := by
  rw [cancels, List.countP_eq_zero]
  constructor
  · intro hNone handler hMem
    exact hNone _ hMem (by simp [isCancel])
  · intro hNone report hMem
    cases report with
    | cancelled i ticket handler =>
      simp only [isCancel, Bool.and_eq_true, decide_eq_true_eq]
      rintro ⟨rfl, rfl⟩
      exact hNone handler hMem
    | handled => simp [isCancel]
    | returned => simp [isCancel]

end Claim

namespace Hub

variable {h h' : Hub H} {c : Claim H} {s : Step H}

/-! ## Claims -/

/-- The claim that a step makes. Calls that fail at once make none. -/
def claim? (h : Hub H) : Step H → Option (Claim H)
  | .subscribe i client topic handler =>
      match (h.facade i).reserve client topic handler with
      | .error _ => none
      | .ok (ticket, _) => some { call := h.nextCall, facade := i, client, topic, ticket, handler }
  | _ => none

def claims [Handler H] (h : Hub H) : List (Step H) → List (Claim H)
  | [] => []
  | s :: rest => (h.claim? s).toList ++ (h.step s).1.claims rest

/-- The pair of the claim carries its ticket. -/
def Holds (h : Hub H) (c : Claim H) : Prop :=
  ∃ s, h.pair? c.facade c.topic c.client = some s ∧ s.ticket = c.ticket

/-- Call `n` has taken the claim out and not yet cancelled its handler. -/
def Leaving (h : Hub H) (c : Claim H) (n : Nat) : Prop :=
  ∃ call s, h.call? n = some ⟨n, c.facade, call⟩ ∧ call.taking? = some s ∧ s.ticket = c.ticket

/-- All that carries the claim's ticket belongs to the claim. -/
structure Traced (h : Hub H) (c : Claim H) : Prop where
  present : c.facade < h.facades.length
  names : c.topic ≠ "" ∧ c.client ≠ ""
  drawn : c.ticket < h.nextTicket c.facade
  numbered : c.call < h.nextCall
  pair : ∀ topic client s, h.pair? c.facade topic client = some s → s.ticket = c.ticket →
    topic = c.topic ∧ client = c.client ∧ s.handler = c.handler
  subscribing : ∀ n client topic handler stage,
    h.call? n = some ⟨n, c.facade, .subscribing client topic c.ticket handler stage⟩ →
      n = c.call ∧ client = c.client ∧ topic = c.topic ∧ handler = c.handler
  number : ∀ p, h.call? c.call = some p → ∃ stage, p = c.pending stage
  taking : ∀ n call s, h.call? n = some ⟨n, c.facade, call⟩ → call.taking? = some s →
    s.ticket = c.ticket → s.handler = c.handler
  tap : ∀ tap, h.broker.Leads tap → tap.facade = c.facade → tap.ticket = c.ticket →
    tap.handler = c.handler
  untapped : ∀ stage, h.call? c.call = some (c.pending stage) →
    (c.pending stage).call.handle? = none →
      ∀ tap, h.broker.Leads tap → tap.facade = c.facade → tap.ticket ≠ c.ticket

theorem Draws.ne_of_traced (hTraced : h.Traced c) {ticket : Nat}
    (hDraws : (h.facade c.facade).Draws (h'.facade c.facade) ticket) : ticket ≠ c.ticket := by
  rintro rfl
  exact Nat.lt_irrefl _ (Nat.lt_of_lt_of_le hTraced.drawn hDraws.1)

theorem Traced.onward (hTraced : h.Traced c) (hOnward : h.Onward h') : h'.Traced c where
  present := hOnward.length ▸ hTraced.present
  names := hTraced.names
  drawn := Nat.lt_of_lt_of_le hTraced.drawn (hOnward.nextTicket_le c.facade)
  numbered := Nat.lt_of_lt_of_le hTraced.numbered hOnward.nextCall_le
  pair topic client s' hs hTicket := by
    rcases (hOnward.facade c.facade).pair topic client s' hs with
      ⟨s, hOld, hSame, hHandler⟩ | hDraws
    · exact hHandler ▸ hTraced.pair topic client s hOld (hSame.trans hTicket)
    · exact (Draws.ne_of_traced hTraced hDraws hTicket).elim
  subscribing n client topic handler stage hFound := by
    rcases hOnward.call _ _ _ hFound with ⟨call, hOld, hNext⟩ | ⟨-, -, hBegun⟩
    · cases hNext with
      | same => exact hTraced.subscribing n client topic handler stage hOld
      | stage hStage => exact hTraced.subscribing n client topic handler _ hOld
    · cases hBegun with
      | subscribing hDraws =>
        exact (Draws.ne_of_traced hTraced (hDraws hTraced.present) rfl).elim
  number p hFound := by
    obtain ⟨n, i, call'⟩ := p
    obtain rfl : n = c.call := number_of_call? hFound
    rcases hOnward.call _ _ _ hFound with ⟨call, hOld, hNext⟩ | ⟨hLate, -, -⟩
    · obtain ⟨stage, hPending⟩ := hTraced.number _ hOld
      cases hPending
      cases hNext with
      | same => exact ⟨stage, rfl⟩
      | stage hStage => exact ⟨_, rfl⟩
    · exact (Nat.not_le_of_lt hTraced.numbered hLate).elim
  taking n call' s hFound hTaking hTicket := by
    rcases hOnward.call _ _ _ hFound with ⟨call, hOld, hNext⟩ | ⟨-, -, hBegun⟩
    · exact hTraced.taking n call s hOld (hNext.taking? hTaking) hTicket
    · obtain ⟨topic, client, hPair, -⟩ := hBegun.taking? hTaking
      exact (hTraced.pair topic client s hPair hTicket).2.2
  tap tap hLeads hFacade hTicket := by
    rcases hOnward.tap tap hLeads with hOld | ⟨n, client, topic, handle, hAsked, -⟩
    · exact hTraced.tap tap hOld hFacade hTicket
    · rw [hFacade, hTicket] at hAsked
      exact (hTraced.subscribing n client topic tap.handler .asked hAsked).2.2.2
  untapped stage hFound hBare tap hLeads hFacade hTicket := by
    rcases hOnward.tap tap hLeads with hOld | ⟨n, client, topic, handle, hAsked, hGranted⟩
    · -- A call that has no handle yet had none before.
      rcases hOnward.call _ _ _ hFound with ⟨call, hCall, hNext⟩ | ⟨hLate, -, -⟩
      · obtain ⟨stage₀, hPending⟩ := hTraced.number _ hCall
        cases hPending
        refine hTraced.untapped stage₀ hCall ?_ tap hOld hFacade hTicket
        cases hNext with
        | same => exact hBare
        | stage hStage =>
          cases hStage with
          | detached handle => cases hBare
          | _ => rfl
      · exact Nat.not_le_of_lt hTraced.numbered hLate
    · rw [hFacade, hTicket] at hAsked hGranted
      obtain ⟨rfl, -⟩ := hTraced.subscribing n client topic tap.handler .asked hAsked
      have hStage : stage = .granted handle := by
        rw [hFound] at hGranted
        simp only [Claim.pending, Option.some.injEq, Pending.mk.injEq, Call.subscribing.injEq]
          at hGranted
        exact hGranted.2.2.2.2.2.2
      rw [hStage] at hBare
      cases hBare

theorem claim?_eq_some (hClaim : h.claim? s = some c) :
    s = .subscribe c.facade c.client c.topic c.handler ∧ c.call = h.nextCall ∧
      ∃ f, (h.facade c.facade).reserve c.client c.topic c.handler = .ok (c.ticket, f) := by
  cases s with
  | subscribe i client topic handler =>
    simp only [claim?] at hClaim
    split at hClaim
    · cases hClaim
    · rename_i ticket f hReserve
      cases hClaim
      exact ⟨rfl, rfl, f, hReserve⟩
  | _ => cases hClaim

theorem ticket_of_claim? (hClaim : h.claim? s = some c) : c.ticket = h.nextTicket c.facade := by
  obtain ⟨-, -, f, hReserve⟩ := claim?_eq_some hClaim
  obtain ⟨hRegistry, -, -⟩ := Facade.reserve_eq_ok hReserve
  exact (Registry.reserve?_eq_some hRegistry).1

theorem step_of_claim? [Handler H] (hClaim : h.claim? s = some c) :
    ∃ f, (h.facade c.facade).reserve c.client c.topic c.handler = .ok (c.ticket, f) ∧
      h.step s = ((h.setFacade c.facade f).begin c.facade (c.pending .reserved).call, []) := by
  obtain ⟨rfl, -, f, hReserve⟩ := claim?_eq_some hClaim
  refine ⟨f, hReserve, ?_⟩
  simp only [step, beginSubscribe, hReserve]
  rfl

theorem traced_claim [Handler H] (hDrawn : h.Drawn) (hClaim : h.claim? s = some c)
    (hPresent : c.facade < h.facades.length) :
    (h.step s).1.Traced c ∧ (h.step s).1.Holds c ∧
      c.ticket ∈ ((h.step s).1.facade c.facade).active ∧ ∀ n, ¬(h.step s).1.Leaving c n := by
  obtain ⟨f, hReserve, hStep⟩ := step_of_claim? hClaim
  obtain ⟨-, hNumber, -⟩ := claim?_eq_some hClaim
  obtain ⟨hRegistry, hActive, -⟩ := Facade.reserve_eq_ok hReserve
  obtain ⟨hTicket, hNext, -, hPairs⟩ := Registry.reserve?_eq_some hRegistry
  rw [hStep]
  dsimp only
  have hLength : ((h.setFacade c.facade f).begin c.facade
      (c.pending .reserved).call).facades.length = h.facades.length := List.length_set
  have hNextCall : ((h.setFacade c.facade f).begin c.facade (c.pending .reserved).call).nextCall =
      c.call + 1 := congrArg (· + 1) hNumber.symm
  have hBroker : ((h.setFacade c.facade f).begin c.facade (c.pending .reserved).call).broker =
      h.broker := rfl
  have hFacade : ((h.setFacade c.facade f).begin c.facade (c.pending .reserved).call).facade
      c.facade = f := (facade_setFacade h c.facade c.facade f).trans (if_pos ⟨rfl, hPresent⟩)
  have hCalls : ∀ n, ((h.setFacade c.facade f).begin c.facade (c.pending .reserved).call).call? n =
      if n = c.call then some (c.pending .reserved) else h.call? n := by
    intro n
    have hSame : (h.setFacade c.facade f).nextCall = c.call := hNumber.symm
    rw [call?_begin (h := h.setFacade c.facade f) hDrawn.numbered.fresh, hSame]
    rfl
  generalize (h.setFacade c.facade f).begin c.facade (c.pending .reserved).call = h' at *
  have hFresh : ∀ k, k < h.nextTicket c.facade → k ≠ c.ticket := by
    rintro k hLess rfl
    exact Nat.lt_irrefl _ (hTicket ▸ hLess)
  have hPair : ∀ topic client, h'.pair? c.facade topic client =
      if topic = c.topic ∧ client = c.client then some { ticket := c.ticket, handler := c.handler }
      else h.pair? c.facade topic client := by
    intro topic client
    rw [pair?, hFacade, hPairs, ← pair?]
  refine ⟨?_, ⟨_, (hPair _ _).trans (if_pos ⟨rfl, rfl⟩), rfl⟩, ?_, ?_⟩
  · constructor
    · exact hLength ▸ hPresent
    · exact Facade.names_of_reserve hReserve
    · rw [nextTicket, hFacade, hNext, ← hTicket]
      exact Nat.lt_succ_self _
    · rw [hNextCall]
      exact Nat.lt_succ_self _
    · intro topic client s hs hSame
      rw [hPair] at hs
      split at hs
      · rename_i hOwn
        cases hs
        exact ⟨hOwn.1, hOwn.2, rfl⟩
      · exact (hFresh _ (hDrawn.pair _ _ _ _ hs) hSame).elim
    · intro n client topic handler stage hFound
      rw [hCalls] at hFound
      split at hFound
      · rename_i hOwn
        cases hFound
        exact ⟨hOwn, rfl, rfl, rfl⟩
      · exact (hFresh _ (hDrawn.subscribing _ _ _ _ _ _ _ hPresent hFound) rfl).elim
    · intro p hFound
      rw [hCalls, if_pos rfl] at hFound
      exact ⟨.reserved, (Option.some.inj hFound).symm⟩
    · intro n call s hFound hTaking hSame
      rw [hCalls] at hFound
      split at hFound
      · cases hFound
        cases hTaking
      · exact (hFresh _ (hDrawn.taking _ _ _ _ hFound hTaking) hSame).elim
    · intro tap hLeads hOwn hSame
      rw [hBroker] at hLeads
      exact (hFresh _ (hOwn ▸ hDrawn.tap tap hLeads (hOwn ▸ hPresent)) hSame).elim
    · intro stage hFound hBare tap hLeads hOwn
      rw [hBroker] at hLeads
      exact hFresh _ (hOwn ▸ hDrawn.tap tap hLeads (hOwn ▸ hPresent))
  · rw [hFacade, hActive]
    exact List.mem_cons_self
  · rintro n ⟨call, s, hFound, hTaking, hSame⟩
    rw [hCalls] at hFound
    split at hFound
    · cases hFound
      cases hTaking
    · exact hFresh _ (hDrawn.taking _ _ _ _ hFound hTaking) hSame

/-! ## Every ticket is that of a claim -/

theorem nextTicket_congr (hSame : h'.facades = h.facades) (i : Nat) :
    h'.nextTicket i = h.nextTicket i := by
  rw [nextTicket, facade_congr hSame, ← nextTicket]

theorem nextTicket_setFacade {i : Nat} {f : Facade H}
    (hSame : f.registry.nextTicket = h.nextTicket i) (j : Nat) :
    (h.setFacade i f).nextTicket j = h.nextTicket j := by
  rw [nextTicket, facade_setFacade]
  split
  · rename_i hOwn
    exact hOwn.1 ▸ hSame
  · rfl

section

variable [Handler H]

theorem nextTicket_step (h : Hub H) (s : Step H) {i : Nat} (hBound : i < h.facades.length) :
    (h.step s).1.nextTicket i = h.nextTicket i ∨
      ∃ c, h.claim? s = some c ∧ c.facade = i ∧ c.ticket = h.nextTicket i ∧
        (h.step s).1.nextTicket i = h.nextTicket i + 1 := by
  have hMove := move_step h s
  generalize (h.step s).1 = h' at hMove
  generalize (h.step s).2 = reports at hMove
  cases hMove with
  | @reserved j ticket client topic handler f hReserve =>
    obtain ⟨hRegistry, -, -⟩ := Facade.reserve_eq_ok hReserve
    obtain ⟨rfl, hNext, -, -⟩ := Registry.reserve?_eq_some hRegistry
    by_cases hSame : j = i
    · subst hSame
      have hFacade : (h.setFacade j f).facade j = f :=
        (facade_setFacade h j j f).trans (if_pos ⟨rfl, hBound⟩)
      refine .inr ⟨_, by simp only [claim?, hReserve]; rfl, rfl, rfl, ?_⟩
      exact (congrArg (fun f : Facade H => f.registry.nextTicket) hFacade).trans hNext
    · have hFacade : (h.setFacade j f).facade i = h.facade i :=
        (facade_setFacade h j i f).trans (if_neg fun h => hSame h.1)
      exact .inl (congrArg (fun f : Facade H => f.registry.nextTicket) hFacade)
  | removed hRemove =>
    obtain ⟨hRegistry, -, -⟩ := Facade.remove_eq_ok hRemove
    exact .inl (nextTicket_setFacade (Registry.remove?_eq_some hRegistry).2.1 i)
  | drained j =>
    refine .inl (nextTicket_setFacade (i := j) ?_ i)
    rw [Facade.registry_drain]
    rfl
  | discarded hCall => exact .inl (nextTicket_setFacade (Registry.nextTicket_discard _ _ _ _) i)
  | attached hCall hAttach =>
    obtain ⟨hRegistry, -, -⟩ := Facade.attach_eq_true hAttach
    obtain ⟨-, -, -, hNext, -⟩ := Registry.attach?_eq_some hRegistry
    exact .inl (nextTicket_setFacade hNext i)
  | @detached number j ticket handle answer client topic handler f hCall hAttach =>
    obtain ⟨-, rfl⟩ := Facade.attach_eq_false hAttach
    exact .inl (nextTicket_setFacade (f := (h.facade j).deactivate ticket) rfl i)
  | returned hCall => exact .inl (nextTicket_congr (onward_release h _ _ _).1 i)
  | released hCall hHandle => exact .inl (nextTicket_congr (onward_release h _ _ _).1 i)
  | answered hCall => exact .inl (nextTicket_congr (grant_same h _ _ _ _ _).1 i)
  | _ => exact .inl rfl

theorem exists_claim_of_ticket {i k : Nat} (hBound : i < h.facades.length)
    (hNew : h.nextTicket i ≤ k) (hDrawn : h.Drawn) (steps : List (Step H))
    (hLess : k < (h.run steps).1.nextTicket i) :
    ∃ c ∈ h.claims steps, c.facade = i ∧ c.ticket = k := by
  induction steps generalizing h with
  | nil => exact (Nat.not_le_of_lt hLess hNew).elim
  | cons s rest ih =>
    have hOnward := onward_step hDrawn.numbered s
    have hLater : (h.step s).1.nextTicket i ≤ k →
        ∃ c ∈ h.claims (s :: rest), c.facade = i ∧ c.ticket = k := by
      intro hLe
      obtain ⟨c, hMem, hOwn⟩ := ih (hOnward.length ▸ hBound) hLe (hDrawn.onward hOnward) hLess
      exact ⟨c, List.mem_append_right _ hMem, hOwn⟩
    -- A step draws no ticket of the facade or one, for the claim that it makes.
    rcases nextTicket_step h s hBound with hSame | ⟨c, hClaim, hFacade, hTicket, hNext⟩
    · exact hLater (hSame ▸ hNew)
    · rcases Nat.eq_or_lt_of_le hNew with hOwn | hOther
      · refine ⟨c, List.mem_append_left _ ?_, hFacade, hTicket.trans hOwn⟩
        rw [hClaim, Option.toList_some]
        exact List.mem_singleton_self c
      · exact hLater (hNext ▸ hOther)

theorem exists_step_of_mem_claims {steps : List (Step H)} (hMem : c ∈ h.claims steps) :
    ∃ before s after, steps = before ++ s :: after ∧ (h.run before).1.claim? s = some c := by
  induction steps generalizing h with
  | nil => cases hMem
  | cons s rest ih =>
    rcases List.mem_append.mp hMem with hHead | hRest
    · exact ⟨[], s, rest, rfl, Option.mem_toList.mp hHead⟩
    · obtain ⟨before, s', after, rfl, hClaim⟩ := ih hRest
      exact ⟨s :: before, s', after, rfl, hClaim⟩

theorem traced_run (hDrawn : h.Drawn) (hTraced : h.Traced c) (steps : List (Step H)) :
    (h.run steps).1.Traced c :=
  run_induction (P := fun h => h.Traced c) hDrawn hTraced
    (fun _ _ _ hOnward hTraced => hTraced.onward hOnward) steps

theorem length_run (h : Hub H) (hDrawn : h.Drawn) (steps : List (Step H)) :
    (h.run steps).1.facades.length = h.facades.length :=
  run_induction (P := fun h' => h'.facades.length = h.facades.length) hDrawn rfl
    (fun _ _ _ hOnward hLength => hOnward.length.trans hLength) steps

theorem nextTicket_le_of_mem_claims (hDrawn : h.Drawn) {steps : List (Step H)}
    (hMem : c ∈ h.claims steps) : h.nextTicket c.facade ≤ c.ticket := by
  induction steps generalizing h with
  | nil => cases hMem
  | cons s rest ih =>
    rcases List.mem_append.mp hMem with hHead | hRest
    · exact Nat.le_of_eq (ticket_of_claim? (Option.mem_toList.mp hHead)).symm
    · have hOnward := onward_step hDrawn.numbered s
      exact Nat.le_trans (hOnward.nextTicket_le c.facade) (ih (hDrawn.onward hOnward) hRest)

theorem claim_unique (hDrawn : h.Drawn) {c' : Claim H} {steps : List (Step H)}
    (hMem : c ∈ h.claims steps) (hMem' : c' ∈ h.claims steps)
    (hPresent : c.facade < h.facades.length) (hFacade : c.facade = c'.facade)
    (hTicket : c.ticket = c'.ticket) : c = c' := by
  induction steps generalizing h with
  | nil => cases hMem
  | cons s rest ih =>
    have hOnward := onward_step hDrawn.numbered s
    -- Later claims draw their tickets from a counter that is past the first one's.
    have hLater : ∀ d d' : Claim H, h.claim? s = some d → d.facade < h.facades.length →
        d' ∈ (h.step s).1.claims rest → d.facade = d'.facade → d.ticket ≠ d'.ticket := by
      intro d d' hClaim hBound hRest hSame
      have hLess := (traced_claim hDrawn hClaim hBound).1.drawn
      have hLe := nextTicket_le_of_mem_claims (hDrawn.onward hOnward) hRest
      rw [← hSame] at hLe
      exact Nat.ne_of_lt (Nat.lt_of_lt_of_le hLess hLe)
    rcases List.mem_append.mp hMem with hHead | hRest
    · have hClaim := Option.mem_toList.mp hHead
      rcases List.mem_append.mp hMem' with hHead' | hRest'
      · exact Option.some.inj (hClaim.symm.trans (Option.mem_toList.mp hHead'))
      · exact (hLater c c' hClaim hPresent hRest' hFacade hTicket).elim
    · rcases List.mem_append.mp hMem' with hHead' | hRest'
      · exact (hLater c' c (Option.mem_toList.mp hHead') (hFacade ▸ hPresent) hRest hFacade.symm
          hTicket.symm).elim
      · exact ih (hDrawn.onward hOnward) hRest hRest' (hOnward.length ▸ hPresent)

end

end Hub

end DeviceBus
