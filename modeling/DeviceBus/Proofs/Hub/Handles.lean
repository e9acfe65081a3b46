import DeviceBus.Proofs.Hub.Entries

/-! # No handle is lost or given back twice

Runs of any number of facades with any number of calls between them. What every
step keeps is that the ledgers balance. When no call is left in flight, only the
registries can hold a handle.
-/

namespace DeviceBus.Hub

variable {H : Type} {h : Hub H}

/-- The ledgers of all facades balance. -/
structure Sane (h : Hub H) : Prop where
  wired : h.Wired
  balanced : ∀ i < h.facades.length, (h.ledger i).Balanced

/-! ## The start -/

structure Vacant (h : Hub H) : Prop where
  calls : h.calls = []
  registries : ∀ f ∈ h.facades, f.registry = {}
  routes : h.broker.routes = []
  owned : h.broker.Owned
  connections : h.broker.connections.length = h.facades.length

theorem Vacant.join (hVacant : h.Vacant) (group : Option String) : (h.join group).Vacant where
  calls := hVacant.calls
  registries f hf := by
    rcases List.mem_append.mp hf with hOld | hNew
    · exact hVacant.registries f hOld
    · rw [List.mem_singleton.mp hNew]
      rfl
  routes := hVacant.routes
  owned := Broker.owned_connect hVacant.owned
  connections := by
    simp only [Hub.join, Broker.connect, List.length_append, hVacant.connections,
      List.length_singleton]

theorem vacant_opened (groups : List (Option String)) : (opened groups : Hub H).Vacant := by
  have hFold : ∀ h : Hub H, h.Vacant → (groups.foldl Hub.join h).Vacant := by
    induction groups with
    | nil => exact fun h hVacant => hVacant
    | cons group rest ih => exact fun h hVacant => ih _ (hVacant.join group)
  refine hFold {} ⟨rfl, ?_, rfl, Broker.owned_empty, rfl⟩
  intro f hf
  cases hf

theorem Vacant.sane (hVacant : h.Vacant) : h.Sane := by
  have hCall : ∀ number, h.call? number = none := by
    intro number
    rw [call?, hVacant.calls, List.find?_nil]
  constructor
  · refine ⟨hVacant.owned, hVacant.connections, ?_, ?_, ?_⟩
    all_goals
      intro number p hp
      rw [hCall] at hp
      cases hp
  · intro i hBound
    have hRegistry : (h.facade i).registry = {} := by
      rw [facade, List.getD_eq_getElem _ _ hBound]
      exact hVacant.registries _ (List.getElem_mem hBound)
    refine Ledger.balanced_of_empty (fun t c => ?_) (fun number => ?_) (fun n => ?_)
    · change (h.facade i).registry.get? t c = none
      rw [hRegistry, Registry.get?_empty]
    · change h.callOf? i number = none
      rw [callOf?, hCall, Option.bind_none]
    · rintro ⟨r, hr, -⟩
      rw [hVacant.routes] at hr
      cases hr

/-! ## One step -/

theorem Sane.live_of_call (hSane : h.Sane) {number i handle : Nat} {call : Call H}
    (hCall : h.call? number = some ⟨number, i, call⟩) (hHandle : call.handle? = some handle) :
    h.broker.Live i handle := by
  rcases Nat.lt_or_ge i h.facades.length with hBound | hAbsent
  · have hHeld : (h.ledger i).held (.call number) = some handle :=
      (Ledger.held_call (callOf?_eq_some hCall)).trans hHandle
    exact ((hSane.balanced i hBound).accounted.live_iff handle).mpr ⟨_, hHeld⟩
  · have hNone := hSane.wired.absent number _ hCall hAbsent
    rw [hHandle] at hNone
    cases hNone

theorem handle?_of_giving? {call : Call H} {handle : Nat} (h : call.giving? = some handle) :
    call.handle? = some handle := by
  cases call with
  | subscribing client topic ticket handler stage =>
    cases stage with
    | surplus other => exact h
    | _ => cases h
  | releasing s => exact h
  | _ => cases h

theorem givenBack?_eq_some {number i handle : Nat} {answer : Answer}
    (hGiven : h.givenBack? (.proceed number answer) = some (i, handle)) :
    ∃ call, h.call? number = some ⟨number, i, call⟩ ∧ call.giving? = some handle := by
  obtain ⟨p, hCall, hGiving⟩ := Option.bind_eq_some_iff.mp hGiven
  obtain ⟨n, hn, hPair⟩ := Option.map_eq_some_iff.mp hGiving
  have hNumber := number_of_call? hCall
  obtain ⟨_, j, call⟩ := p
  cases hPair
  subst hNumber
  exact ⟨call, hCall, hn⟩

theorem givenBack?_of_giving? {number i handle : Nat} {answer : Answer} {call : Call H}
    (hCall : h.call? number = some ⟨number, i, call⟩) (hGiving : call.giving? = some handle) :
    h.givenBack? (.proceed number answer) = some (i, handle) := by
  rw [givenBack?, hCall, Option.bind_some, hGiving, Option.map_some]

section

variable [Handler H]

theorem entered_step (hSane : h.Sane) {s : Step H} (hObliging : h.Obliging s) :
    ∃ j, Entered h (h.step s).1 j := by
  have hWired := hSane.wired
  have hMove := move_step h s
  generalize (h.step s).1 = h' at hMove
  generalize (h.step s).2 = reports at hMove
  cases hMove with
  | declined hCause => exact ⟨0, entered_of_same hWired ⟨rfl, rfl, rfl⟩ rfl rfl (Nat.le_succ _)⟩
  | reserved hReserve => exact ⟨_, entered_reserved hWired hReserve⟩
  | removed hRemove => exact ⟨_, entered_removed hWired hRemove⟩
  | drained i => exact hObliging.elim
  | published hSubject hOpen =>
    exact ⟨0, entered_of_same hWired (Broker.sameRoutes_route _ _ _) rfl rfl (Nat.le_succ _)⟩
  | routed subject data =>
    exact ⟨0, entered_of_same hWired (Broker.sameRoutes_route _ _ _) rfl rfl (Nat.le_refl _)⟩
  | undisturbed hTake =>
    exact ⟨0, entered_of_same hWired ⟨rfl, rfl, rfl⟩ rfl rfl (Nat.le_refl _)⟩
  | dispatched hTake =>
    exact ⟨0, entered_of_same hWired (Broker.sameRoutes_takeFrom? hTake) rfl rfl (Nat.le_refl _)⟩
  | idle hCall => exact ⟨0, entered_of_same hWired ⟨rfl, rfl, rfl⟩ rfl rfl (Nat.le_refl _)⟩
  | asked hCall => exact ⟨_, entered_setCall hWired hCall (by simp) rfl rfl⟩
  | answered hCall => exact ⟨_, entered_answered hWired hCall⟩
  | discarded hCall => exact ⟨_, entered_discarded hWired _ hCall⟩
  | attached hCall hAttach => exact ⟨_, entered_attached hWired _ hCall hAttach⟩
  | detached hCall hAttach => exact ⟨_, entered_detached hWired hCall hAttach⟩
  | returned hCall =>
    have hCarried := hObliging (by rw [givenBack?_of_giving? hCall rfl]; simp)
    have hLive := hSane.live_of_call hCall rfl
    obtain ⟨broker, hUnsubscribe, hRelease⟩ := release_carried hWired.owned hLive
    rw [hCarried, hRelease]
    exact ⟨_, entered_returned hWired _ hCall hUnsubscribe⟩
  | unheld hCall hHandle => exact ⟨_, entered_setCall hWired hCall (by simp) hHandle.symm rfl⟩
  | released hCall hHandle =>
    have hCarried := hObliging (by rw [givenBack?_of_giving? hCall hHandle]; simp)
    have hLive := hSane.live_of_call hCall hHandle
    obtain ⟨broker, hUnsubscribe, hRelease⟩ := release_carried hWired.owned hLive
    rw [hCarried, hRelease]
    exact ⟨_, entered_released hWired _ hCall hHandle hUnsubscribe⟩
  | cancelled hCall => exact ⟨_, entered_cancelled hWired _ hCall⟩
  | closed hCall => exact (hWired.not_closing _ _ hCall rfl).elim

theorem sane_step (hSane : h.Sane) {s : Step H} (hObliging : h.Obliging s) :
    (h.step s).1.Sane := by
  obtain ⟨j, hEntered⟩ := entered_step hSane hObliging
  refine ⟨hEntered.wired, fun i hBound => ?_⟩
  rw [hEntered.facades] at hBound
  have hBalanced := hSane.balanced i hBound
  by_cases hSame : i = j
  · subst hSame
    rcases hEntered.own hBound with hLedger | hStep
    · rw [hLedger]
      exact hBalanced
    · exact Ledger.balanced_step hBalanced hStep
  · rw [hEntered.other i hSame]
    exact hBalanced

/-- What a step gives back was live before and is not live after. -/
theorem live_givenBack? (hSane : h.Sane) {s : Step H} (hObliging : h.Obliging s) {i handle : Nat}
    (hGiven : h.givenBack? s = some (i, handle)) :
    h.broker.Live i handle ∧ ¬(h.step s).1.broker.Live i handle := by
  cases s with
  | proceed number answer =>
    obtain ⟨call, hCall, hGiving⟩ := givenBack?_eq_some hGiven
    have hLive := hSane.live_of_call hCall (handle?_of_giving? hGiving)
    obtain ⟨broker, hUnsubscribe, hRelease⟩ := release_carried hSane.wired.owned hLive
    have hCarried : answer = .carried := hObliging (by rw [hGiven]; simp)
    have hBroker : (h.step (.proceed number answer)).1.broker = broker := by
      subst hCarried
      cases call with
      | subscribing client topic ticket handler stage =>
        cases stage with
        | surplus other =>
          cases hGiving
          simp [step, proceed, hCall, proceedSubscribe, hRelease, finish]
        | _ => cases hGiving
      | releasing s =>
        have hHandle : s.handle = some handle := hGiving
        simp [step, proceed, hCall, hHandle, hRelease, setCall]
      | _ => cases hGiving
    refine ⟨hLive, ?_⟩
    rw [hBroker, Broker.live_unsubscribe hUnsubscribe]
    exact fun hStill => hStill.2 ⟨rfl, rfl⟩
  | _ => cases hGiven

/-! ## Runs -/

/-- The handles that a run gives back, in order. -/
def givenBack (h : Hub H) : List (Step H) → List (Nat × Nat)
  | [] => []
  | s :: rest => (h.givenBack? s).toList ++ (h.step s).1.givenBack rest

/-- Each step of a run is obliging where it is taken. -/
def Obliges (h : Hub H) : List (Step H) → Prop
  | [] => True
  | s :: rest => h.Obliging s ∧ (h.step s).1.Obliges rest

instance decidableObliges (h : Hub H) : (steps : List (Step H)) → Decidable (h.Obliges steps)
  | [] => inferInstanceAs (Decidable True)
  | s :: rest =>
      have := decidableObliges (h.step s).1 rest
      inferInstanceAs (Decidable (h.Obliging s ∧ (h.step s).1.Obliges rest))

theorem sane_run (hSane : h.Sane) {steps : List (Step H)} (hObliges : h.Obliges steps) :
    (h.run steps).1.Sane := by
  induction steps generalizing h with
  | nil => exact hSane
  | cons s rest ih => exact ih (sane_step hSane hObliges.1) hObliges.2

theorem live_of_mem_givenBack (hSane : h.Sane) {steps : List (Step H)}
    (hObliges : h.Obliges steps) {i handle : Nat} (hMem : (i, handle) ∈ h.givenBack steps) :
    h.broker.Live i handle ∨ h.broker.nextRoute ≤ handle := by
  induction steps generalizing h with
  | nil => cases hMem
  | cons s rest ih =>
    rcases List.mem_append.mp hMem with hFirst | hRest
    · exact .inl (live_givenBack? hSane hObliges.1 (Option.mem_toList.mp hFirst)).1
    · obtain ⟨j, hEntered⟩ := entered_step hSane hObliges.1
      rcases ih (sane_step hSane hObliges.1) hObliges.2 hRest with hLive | hLater
      · exact hEntered.onward.live i handle hLive
      · exact .inr (Nat.le_trans hEntered.onward.nextRoute_le hLater)

theorem nodup_givenBack (hSane : h.Sane) {steps : List (Step H)} (hObliges : h.Obliges steps) :
    (h.givenBack steps).Nodup := by
  induction steps generalizing h with
  | nil => exact List.nodup_nil
  | cons s rest ih =>
    have hAfter := sane_step hSane hObliges.1
    have hRest := ih hAfter hObliges.2
    simp only [givenBack]
    cases hGiven : h.givenBack? s with
    | none => exact hRest
    | some given =>
      obtain ⟨i, handle⟩ := given
      obtain ⟨hLive, hGone⟩ := live_givenBack? hSane hObliges.1 hGiven
      refine List.nodup_cons.mpr ⟨?_, hRest⟩
      intro hAgain
      rcases live_of_mem_givenBack hAfter hObliges.2 hAgain with hStill | hLater
      · exact hGone hStill
      · obtain ⟨j, hEntered⟩ := entered_step hSane hObliges.1
        have hLess := hSane.wired.owned.live_lt hLive
        have hMonotone := hEntered.onward.nextRoute_le
        omega

end

/-! ## When all calls have returned -/

/-- The live handles of a facade are those in its registry, one for each pair. -/
structure Kept (h : Hub H) (i : Nat) : Prop where
  live_iff : ∀ handle, h.broker.Live i handle ↔
    ∃ topic client s, (h.facade i).registry.get? topic client = some s ∧ s.handle = some handle
  attached : ∀ topic client s, (h.facade i).registry.get? topic client = some s → s.handle ≠ none
  one_pair : ∀ topic client topic' client' s s',
    (h.facade i).registry.get? topic client = some s →
    (h.facade i).registry.get? topic' client' = some s' →
    s.handle = s'.handle → topic = topic' ∧ client = client'

theorem Sane.kept (hSane : h.Sane) (hReturned : h.calls = []) (i : Nat) : h.Kept i := by
  rcases Nat.lt_or_ge i h.facades.length with hBound | hAbsent
  · have hBalanced := hSane.balanced i hBound
    have hCalls : ∀ number, (h.ledger i).call number = none := by
      intro number
      change h.callOf? i number = none
      rw [callOf?, call?, hReturned, List.find?_nil, Option.bind_none]
    constructor
    · exact hBalanced.live_iff hCalls
    · exact fun topic client s hPair => hBalanced.attached hCalls hPair
    · intro topic client topic' client' s s' hPair hPair' hSame
      obtain ⟨handle, hHandle⟩ := Option.ne_none_iff_exists'.mp (hBalanced.attached hCalls hPair)
      exact hBalanced.one_pair hPair hHandle hPair' (hSame ▸ hHandle)
  · have hNoPair : ∀ topic client, (h.facade i).registry.get? topic client = none := by
      intro topic client
      rw [facade_of_absent hAbsent, Registry.get?_empty]
    constructor
    · intro handle
      constructor
      · intro hLive
        have hBound := hSane.wired.owned.live_bound hLive
        rw [hSane.wired.connections] at hBound
        exact (Nat.not_le_of_lt hBound hAbsent).elim
      · rintro ⟨topic, client, s, hPair, -⟩
        rw [hNoPair] at hPair
        cases hPair
    · intro topic client s hPair
      rw [hNoPair] at hPair
      cases hPair
    · intro topic client topic' client' s s' hPair
      rw [hNoPair] at hPair
      cases hPair

/-- In every order of the steps of any calls, no handle is given back twice; and
when all calls have returned, none is left but those in the registries. -/
theorem handles_accounted [Handler H] (groups : List (Option String)) (steps : List (Step H))
    (hObliges : (opened groups).Obliges steps) :
    ((opened groups).givenBack steps).Nodup ∧
      (((opened groups).run steps).1.calls = [] → ∀ i, ((opened groups).run steps).1.Kept i) := by
  have hSane : (opened groups : Hub H).Sane := (vacant_opened groups).sane
  constructor
  · exact nodup_givenBack hSane hObliges
  · exact fun hReturned => (sane_run hSane hObliges).kept hReturned

instance : Handler Unit where
  onCancel _ := .ok ()

/-- While the backend is busy with a first subscription, the pair is given up and
taken again; the first call then gives its handle back. -/
def overtaken : List (Step Unit) :=
  [.subscribe 0 "c" "t" (), .proceed 0 .carried, .unsubscribe 0 "c" "t", .subscribe 0 "c" "t" (),
    .proceed 0 .carried, .proceed 0 .carried, .proceed 2 .carried, .proceed 2 .carried,
    .proceed 0 .carried, .proceed 1 .carried, .proceed 1 .carried, .proceed 2 .carried]

theorem handles_accounted_overtaken :
    (opened [none]).Obliges overtaken ∧ ((opened [none]).run overtaken).1.calls = [] ∧
      (opened [none]).givenBack overtaken = [(0, 0)] ∧ ((opened [none]).run overtaken).1.Kept 0 ∧
      ((((opened [none]).run overtaken).1.facade 0).registry.get? "t" "c").bind
        Subscription.handle = some 1 :=
  ⟨by decide, rfl, by decide, (handles_accounted [none] overtaken (by decide)).2 rfl 0, by decide⟩

end DeviceBus.Hub
