import DeviceBus.Facade
import DeviceBus.Proofs.Registry

/-! # What the steps of a facade do to its registry -/

namespace DeviceBus.Facade

variable {H : Type} {f f' : Facade H} {client topic : String} {ticket handle : Nat}

theorem reserve_eq_ok {handler : H} (h : f.reserve client topic handler = .ok (ticket, f')) :
    f.registry.reserve? topic client handler = some (ticket, f'.registry) ∧
      f'.active = ticket :: f.active ∧ f'.group = f.group := by
  unfold reserve at h
  split at h
  · cases h
  · split at h
    · cases h
    · rename_i hReserve
      cases h
      exact ⟨hReserve, rfl, rfl⟩

theorem checkNames_eq_ok_iff : checkNames client topic = .ok () ↔ topic ≠ "" ∧ client ≠ "" := by
  unfold checkNames
  split
  · rename_i hTopic
    simp [hTopic]
  · rename_i hTopic
    split
    · rename_i hClient
      simp [hClient]
    · rename_i hClient
      simp [hTopic, hClient]

theorem checkNames_eq_error {e : FacadeError} (h : checkNames client topic = .error e) :
    topic = "" ∧ e = .emptyTopic ∨ topic ≠ "" ∧ client = "" ∧ e = .emptyId := by
  unfold checkNames at h
  split at h
  · rename_i hTopic
    cases h
    exact .inl ⟨hTopic, rfl⟩
  · rename_i hTopic
    split at h
    · rename_i hClient
      cases h
      exact .inr ⟨hTopic, hClient, rfl⟩
    · cases h

theorem names_of_reserve {handler : H} (h : f.reserve client topic handler = .ok (ticket, f')) :
    topic ≠ "" ∧ client ≠ "" := by
  unfold reserve at h
  split at h
  · cases h
  · rename_i hNames
    exact checkNames_eq_ok_iff.mp hNames

theorem reserve_of_names (f : Facade H) (hTopic : topic ≠ "") (hClient : client ≠ "")
    (handler : H) :
    (f.registry.get? topic client ≠ none ∧
        f.reserve client topic handler = .error .alreadySubscribed) ∨
      f.registry.get? topic client = none ∧
        ∃ ticket f', f.reserve client topic handler = .ok (ticket, f') := by
  have hNames : checkNames client topic = .ok () := checkNames_eq_ok_iff.mpr ⟨hTopic, hClient⟩
  simp only [reserve, hNames]
  cases hReserve : f.registry.reserve? topic client handler with
  | none => exact .inl ⟨Registry.reserve?_eq_none_iff.mp hReserve, rfl⟩
  | some reserved =>
    obtain ⟨ticket, registry⟩ := reserved
    exact .inr ⟨(Registry.reserve?_eq_some hReserve).2.2.1, _, _, rfl⟩

/-- Only a pair that is taken is refused as such. -/
theorem taken_of_reserve {handler : H}
    (hRefused : f.reserve client topic handler = .error .alreadySubscribed) :
    f.registry.get? topic client ≠ none := by
  unfold reserve at hRefused
  cases hNames : checkNames client topic with
  | error e =>
    rw [hNames] at hRefused
    cases hRefused
    unfold checkNames at hNames
    split at hNames
    · cases hNames
    · split at hNames
      · cases hNames
      · cases hNames
  | ok names =>
    rw [hNames] at hRefused
    dsimp only at hRefused
    cases hReserve : f.registry.reserve? topic client handler with
    | none => exact Registry.reserve?_eq_none_iff.mp hReserve
    | some reserved =>
      rw [hReserve] at hRefused
      cases hRefused

theorem reserve_eq_error {handler : H} {e : FacadeError}
    (h : f.reserve client topic handler = .error e) :
    e = .emptyTopic ∨ e = .emptyId ∨ e = .alreadySubscribed := by
  unfold reserve at h
  split at h
  · rename_i hNames
    cases h
    rcases checkNames_eq_error hNames with ⟨-, rfl⟩ | ⟨-, -, rfl⟩
    · exact .inl rfl
    · exact .inr (.inl rfl)
  · split at h
    · cases h
      exact .inr (.inr rfl)
    · cases h

theorem remove_of_names (f : Facade H) (hTopic : topic ≠ "") (hClient : client ≠ "") :
    (f.registry.get? topic client = none ∧ f.remove client topic = .error .notSubscribed) ∨
      ∃ s f', f.registry.get? topic client = some s ∧
        f.remove client topic = .ok (s, f') := by
  have hNames : checkNames client topic = .ok () := checkNames_eq_ok_iff.mpr ⟨hTopic, hClient⟩
  simp only [remove, hNames]
  cases hRemove : f.registry.remove? topic client with
  | none => exact .inl ⟨Registry.remove?_eq_none_iff.mp hRemove, rfl⟩
  | some removed =>
    obtain ⟨s, registry⟩ := removed
    exact .inr ⟨s, _, (Registry.remove?_eq_some hRemove).1, rfl⟩

theorem exists_attach {s : Subscription H} (hPair : f.registry.get? topic client = some s)
    (hTicket : s.ticket = ticket) (handle : Nat) :
    ∃ f', f.attach client topic ticket handle = (true, f') := by
  unfold attach
  split
  · exact ⟨_, rfl⟩
  · rename_i hAttach
    exact (Registry.attach?_eq_none_iff.mp hAttach s hPair hTicket).elim

theorem remove_cases (f : Facade H) (client topic : String) :
    (∃ e, f.remove client topic = .error e ∧
        (f.registry.get? topic client = none ∨ topic = "" ∨ client = "")) ∨
      ∃ s registry, f.registry.get? topic client = some s ∧
        f.registry.remove? topic client = some (s, registry) ∧
        f.remove client topic = .ok (s, { f with registry }.deactivate s.ticket) := by
  unfold remove
  split
  · rename_i e hNames
    refine .inl ⟨e, rfl, .inr ?_⟩
    have hBad : ¬(topic ≠ "" ∧ client ≠ "") := by
      rw [← checkNames_eq_ok_iff, hNames]
      simp
    simpa only [ne_eq, Decidable.not_and_iff_or_not, Decidable.not_not] using hBad
  · cases hRemove : f.registry.remove? topic client with
    | none => exact .inl ⟨_, rfl, .inl (Registry.remove?_eq_none_iff.mp hRemove)⟩
    | some removed =>
      obtain ⟨s, registry⟩ := removed
      exact .inr ⟨s, registry, (Registry.remove?_eq_some hRemove).1, rfl, rfl⟩

theorem attach_eq_true (h : f.attach client topic ticket handle = (true, f')) :
    f.registry.attach? topic client ticket handle = some f'.registry ∧
      f'.active = f.active ∧ f'.group = f.group := by
  unfold attach at h
  split at h
  · rename_i hAttach
    cases h
    exact ⟨hAttach, rfl, rfl⟩
  · cases h

theorem reserve_attach {f'' : Facade H} {handler : H}
    (hReserve : f.reserve client topic handler = .ok (ticket, f'))
    (hAttach : f'.attach client topic ticket handle = (true, f'')) :
    f''.active = ticket :: f.active ∧ f''.group = f.group ∧
      f''.registry.nextTicket = f.registry.nextTicket + 1 ∧
      ∀ t c, f''.registry.get? t c =
        if t = topic ∧ c = client then some { ticket, handle := some handle, handler }
        else f.registry.get? t c := by
  obtain ⟨hReserved, hOnce, hGroup⟩ := reserve_eq_ok hReserve
  obtain ⟨-, hNext, -, hPairs⟩ := Registry.reserve?_eq_some hReserved
  obtain ⟨hAttached, hActive, hGroup'⟩ := attach_eq_true hAttach
  obtain ⟨s, hOwn, -, hNext', hPairs'⟩ := Registry.attach?_eq_some hAttached
  rw [hPairs, if_pos ⟨rfl, rfl⟩] at hOwn
  cases hOwn
  refine ⟨hActive.trans hOnce, hGroup'.trans hGroup, hNext'.trans hNext, fun t c => ?_⟩
  rw [hPairs']
  split
  · rfl
  · rename_i hOther
    rw [hPairs, if_neg hOther]

theorem attach_eq_false (h : f.attach client topic ticket handle = (false, f')) :
    f.registry.attach? topic client ticket handle = none ∧ f' = f.deactivate ticket := by
  unfold attach at h
  split at h
  · cases h
  · rename_i hAttach
    cases h
    exact ⟨hAttach, rfl⟩

theorem remove_eq_ok {s : Subscription H} (h : f.remove client topic = .ok (s, f')) :
    f.registry.remove? topic client = some (s, f'.registry) ∧
      f'.active = (f.active.filter fun t => t ≠ s.ticket) ∧ f'.group = f.group := by
  unfold remove at h
  split at h
  · cases h
  · split at h
    · cases h
    · rename_i hRemove
      cases h
      exact ⟨hRemove, rfl, rfl⟩

theorem registry_drain (f : Facade H) : f.drain.2.registry = f.registry.drain.2 := by
  have hFold : ∀ (subs : List (Subscription H)) (g : Facade H),
      (subs.foldl (fun g s => g.deactivate s.ticket) g).registry = g.registry := by
    intro subs
    induction subs with
    | nil => exact fun g => rfl
    | cons s rest ih => exact fun g => ih (g.deactivate s.ticket)
  exact hFold _ _

theorem group_drain (f : Facade H) : f.drain.2.group = f.group := by
  have hFold : ∀ (subs : List (Subscription H)) (g : Facade H),
      (subs.foldl (fun g s => g.deactivate s.ticket) g).group = g.group := by
    intro subs
    induction subs with
    | nil => exact fun g => rfl
    | cons s rest ih => exact fun g => ih (g.deactivate s.ticket)
  exact hFold _ _

theorem mem_deactivate {k : Nat} :
    k ∈ (f.deactivate ticket).active ↔ k ∈ f.active ∧ k ≠ ticket := by
  simp [deactivate]

theorem mem_active_drain {k : Nat} :
    k ∈ f.drain.2.active ↔ k ∈ f.active ∧ ∀ s ∈ f.registry.drain.1, s.ticket ≠ k := by
  have hFold : ∀ (subs : List (Subscription H)) (g : Facade H),
      k ∈ (subs.foldl (fun g s => g.deactivate s.ticket) g).active ↔
        k ∈ g.active ∧ ∀ s ∈ subs, s.ticket ≠ k := by
    intro subs
    induction subs with
    | nil => simp
    | cons s rest ih =>
      intro g
      rw [List.foldl_cons, ih, mem_deactivate, List.forall_mem_cons, and_assoc, ne_comm]
  exact hFold _ _

/-! ## What a facade can come to -/

/-- The ticket has been drawn between the two states. -/
def Draws (f f' : Facade H) (ticket : Nat) : Prop :=
  f.registry.nextTicket ≤ ticket ∧ ticket < f'.registry.nextTicket

/-- What the later facade has and the earlier has not carries a new ticket. -/
structure Onward (f f' : Facade H) : Prop where
  nextTicket_le : f.registry.nextTicket ≤ f'.registry.nextTicket
  pair : ∀ t c s', f'.registry.get? t c = some s' →
    (∃ s, f.registry.get? t c = some s ∧ s.ticket = s'.ticket ∧ s.handler = s'.handler) ∨
      f.Draws f' s'.ticket
  active : ∀ k ∈ f'.active, k ∈ f.active ∨ f.Draws f' k

theorem Onward.refl (f : Facade H) : f.Onward f where
  nextTicket_le := Nat.le_refl _
  pair _ _ s hs := .inl ⟨s, hs, rfl, rfl⟩
  active _ hk := .inl hk

/-- A facade that only loses pairs. -/
theorem onward_of_loss (hNext : f'.registry.nextTicket = f.registry.nextTicket)
    (hPair : ∀ t c s, f'.registry.get? t c = some s → f.registry.get? t c = some s)
    (hActive : ∀ k ∈ f'.active, k ∈ f.active) : f.Onward f' where
  nextTicket_le := Nat.le_of_eq hNext.symm
  pair t c s hs := .inl ⟨s, hPair t c s hs, rfl, rfl⟩
  active k hk := .inl (hActive k hk)

theorem onward_reserve {handler : H} (h : f.reserve client topic handler = .ok (ticket, f')) :
    f.Onward f' := by
  obtain ⟨hRegistry, hActive, -⟩ := reserve_eq_ok h
  obtain ⟨rfl, hNext, -, hPairs⟩ := Registry.reserve?_eq_some hRegistry
  have hLess : f.registry.nextTicket < f'.registry.nextTicket := by
    rw [hNext]
    exact Nat.lt_succ_self _
  have hDrawn : f.Draws f' f.registry.nextTicket := ⟨Nat.le_refl _, hLess⟩
  constructor
  · exact Nat.le_of_lt hLess
  · intro t c s hs
    rw [hPairs] at hs
    split at hs
    · cases hs
      exact .inr hDrawn
    · exact .inl ⟨s, hs, rfl, rfl⟩
  · intro k hk
    rw [hActive] at hk
    rcases List.mem_cons.mp hk with rfl | hOld
    · exact .inr hDrawn
    · exact .inl hOld

theorem onward_remove {s : Subscription H} (h : f.remove client topic = .ok (s, f')) :
    f.Onward f' := by
  obtain ⟨hRegistry, hActive, -⟩ := remove_eq_ok h
  obtain ⟨-, hNext, hPairs⟩ := Registry.remove?_eq_some hRegistry
  refine onward_of_loss hNext (fun t c s' hs => ?_) (fun k hk => ?_)
  · rw [hPairs] at hs
    split at hs
    · cases hs
    · exact hs
  · rw [hActive] at hk
    exact (List.mem_filter.mp hk).1

theorem onward_drain (f : Facade H) : f.Onward f.drain.2 := by
  refine onward_of_loss ?_ (fun t c s hs => ?_) (fun k hk => (mem_active_drain.mp hk).1)
  · rw [registry_drain]
    rfl
  · rw [registry_drain, Registry.get?_drain] at hs
    cases hs

theorem onward_attach (h : f.attach client topic ticket handle = (true, f')) : f.Onward f' := by
  obtain ⟨hRegistry, hActive, -⟩ := attach_eq_true h
  obtain ⟨s, hPair, -, hNext, hPairs⟩ := Registry.attach?_eq_some hRegistry
  constructor
  · exact Nat.le_of_eq hNext.symm
  · intro t c s' hs
    rw [hPairs] at hs
    split at hs
    · rename_i hSame
      cases hs
      exact .inl ⟨s, hSame.1 ▸ hSame.2 ▸ hPair, rfl, rfl⟩
    · exact .inl ⟨s', hs, rfl, rfl⟩
  · intro k hk
    exact .inl (hActive ▸ hk)

theorem onward_detach (h : f.attach client topic ticket handle = (false, f')) : f.Onward f' := by
  obtain ⟨-, rfl⟩ := attach_eq_false h
  exact onward_of_loss rfl (fun t c s hs => hs) fun k hk => (mem_deactivate.mp hk).1

theorem onward_discard (f : Facade H) (client topic : String) (ticket : Nat) :
    f.Onward (f.discard client topic ticket) := by
  by_cases hOwn : ∃ s, f.registry.get? topic client = some s ∧ s.ticket = ticket
  · obtain ⟨s, hPair, hTicket⟩ := hOwn
    obtain ⟨hNext, hPairs⟩ := Registry.discard_of_own hPair hTicket
    refine onward_of_loss hNext (fun t c s' hs => ?_) fun k hk => hk
    rw [discard, hPairs] at hs
    split at hs
    · cases hs
    · exact hs
  · have hOther := Registry.discard_of_other fun s hs hTicket => hOwn ⟨s, hs, hTicket⟩
    rw [discard, hOther]
    exact .refl f

/-! ## Whose pair it is -/

/-- The pair carries this ticket, and its messages are dispatched. -/
structure Serves (f : Facade H) (client topic : String) (ticket : Nat) : Prop where
  pair : ∃ s, f.registry.get? topic client = some s ∧ s.ticket = ticket
  active : ticket ∈ f.active

section

variable {client' topic' : String} {ticket' : Nat}

theorem serves_reserve {handler : H} (hServes : f.Serves client topic ticket)
    (h : f.reserve client' topic' handler = .ok (ticket', f')) :
    f'.Serves client topic ticket := by
  obtain ⟨hRegistry, hActive, -⟩ := reserve_eq_ok h
  obtain ⟨-, -, hFree, hPairs⟩ := Registry.reserve?_eq_some hRegistry
  obtain ⟨⟨s, hPair, hTicket⟩, hMem⟩ := hServes
  refine ⟨⟨s, ?_, hTicket⟩, hActive ▸ List.mem_cons_of_mem _ hMem⟩
  rw [hPairs, if_neg, hPair]
  rintro ⟨rfl, rfl⟩
  rw [hFree] at hPair
  cases hPair

theorem serves_remove {s : Subscription H} (hServes : f.Serves client topic ticket)
    (h : f.remove client' topic' = .ok (s, f')) (hOther : s.ticket ≠ ticket) :
    f'.Serves client topic ticket := by
  obtain ⟨hRegistry, hActive, -⟩ := remove_eq_ok h
  obtain ⟨hGone, -, hPairs⟩ := Registry.remove?_eq_some hRegistry
  obtain ⟨⟨s', hPair, hTicket⟩, hMem⟩ := hServes
  refine ⟨⟨s', ?_, hTicket⟩, ?_⟩
  · rw [hPairs, if_neg, hPair]
    rintro ⟨rfl, rfl⟩
    rw [hGone] at hPair
    cases hPair
    exact hOther hTicket
  · rw [hActive]
    exact List.mem_filter.mpr ⟨hMem, decide_eq_true (Ne.symm hOther)⟩

theorem serves_attach (hServes : f.Serves client topic ticket)
    (h : f.attach client' topic' ticket' handle = (true, f')) :
    f'.Serves client topic ticket := by
  obtain ⟨hRegistry, hActive, -⟩ := attach_eq_true h
  obtain ⟨s, hOld, -, -, hPairs⟩ := Registry.attach?_eq_some hRegistry
  obtain ⟨⟨s', hPair, hTicket⟩, hMem⟩ := hServes
  refine ⟨?_, hActive ▸ hMem⟩
  by_cases hSame : topic = topic' ∧ client = client'
  · obtain ⟨rfl, rfl⟩ := hSame
    rw [hOld] at hPair
    cases hPair
    exact ⟨_, (hPairs _ _).trans (if_pos ⟨rfl, rfl⟩), hTicket⟩
  · exact ⟨s', (hPairs _ _).trans ((if_neg hSame).trans hPair), hTicket⟩

/-- A ticket whose handle comes too late is not that of its own pair. -/
theorem serves_detach (hServes : f.Serves client topic ticket)
    (h : f.attach client' topic' ticket' handle = (false, f'))
    (hOwn : ticket' = ticket → topic' = topic ∧ client' = client) :
    f'.Serves client topic ticket := by
  obtain ⟨hRegistry, rfl⟩ := attach_eq_false h
  obtain ⟨⟨s, hPair, hTicket⟩, hMem⟩ := hServes
  refine ⟨⟨s, hPair, hTicket⟩, mem_deactivate.mpr ⟨hMem, fun hSame => ?_⟩⟩
  obtain ⟨rfl, rfl⟩ := hOwn hSame.symm
  exact Registry.attach?_eq_none_iff.mp hRegistry s hPair (hTicket.trans hSame)

theorem serves_discard (hServes : f.Serves client topic ticket) (hOther : ticket' ≠ ticket) :
    (f.discard client' topic' ticket').Serves client topic ticket := by
  obtain ⟨⟨s, hPair, hTicket⟩, hMem⟩ := hServes
  refine ⟨⟨s, ?_, hTicket⟩, hMem⟩
  by_cases hOwn : ∃ s', f.registry.get? topic' client' = some s' ∧ s'.ticket = ticket'
  · obtain ⟨s', hPair', hTicket'⟩ := hOwn
    rw [discard, (Registry.discard_of_own hPair' hTicket').2, if_neg, hPair]
    rintro ⟨rfl, rfl⟩
    rw [hPair'] at hPair
    cases hPair
    exact hOther (hTicket'.symm.trans hTicket)
  · rw [discard, Registry.discard_of_other fun s' hs hSame => hOwn ⟨s', hs, hSame⟩]
    exact hPair

end

end DeviceBus.Facade
