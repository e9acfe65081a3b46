import DeviceBus.Proofs.Broker.Taps
import DeviceBus.Proofs.Hub.Effects

/-! # Subscriptions that stand

Between calls every pair of a facade without a queue group has a route of its own: with the
topic of the pair, leading to its handler, under a ticket that is still dispatched and that
no other pair has. Calls and messages keep it so, and a pair that stays keeps its route.
-/

namespace DeviceBus

/-- A message that comes to a broker or leaves it. -/
inductive Mail where
  | none
  | posted (subject : String) (data : Bytes)
  | taken (route : Nat)

namespace Hub

variable {H : Type} {h : Hub H} {i : Nat} {f f' : Facade H} {b b' : Broker (Tap H)} {mail : Mail}

/-- What a message, or a call that is carried to its end, makes of a facade and the broker. -/
inductive Effect (i : Nat) (f : Facade H) (b : Broker (Tap H)) :
    Mail → Facade H → Broker (Tap H) → Prop
  | rests : Effect i f b .none f b
  | posts (subject : String) (data : Bytes) :
      Effect i f b (.posted subject data) f (b.route subject data).2
  | hands {route : Nat} {tap : Tap H} {data : Bytes} {b' : Broker (Tap H)}
      (hTake : b.takeFrom? route = some (tap, data, b')) : Effect i f b (.taken route) f b'
  | misses {route : Nat} (hNone : b.takeFrom? route = none) : Effect i f b (.taken route) f b
  | joins {client topic : String} {handler : H} {ticket id : Nat} {f₁ f' : Facade H}
      {b' : Broker (Tap H)} (hReserve : f.reserve client topic handler = .ok (ticket, f₁))
      (hSubscribe : b.subscribe i topic f₁.group ⟨i, ticket, handler⟩ = .ok (id, b'))
      (hAttach : f₁.attach client topic ticket id = (true, f')) : Effect i f b .none f' b'
  | refuses {client topic : String} {handler : H} {ticket : Nat} {f₁ : Facade H}
      (hReserve : f.reserve client topic handler = .ok (ticket, f₁)) :
      Effect i f b .none (f₁.discard client topic ticket) b
  | parts {client topic : String} {s : Subscription H} {f' : Facade H} {b' : Broker (Tap H)}
      (hRemove : f.remove client topic = .ok (s, f'))
      (hBroker : b' = b ∨ ∃ id, s.handle = some id ∧ b.unsubscribe i id = .ok b') :
      Effect i f b .none f' b'
  | drains : Effect i f b .none f.drain.2 (b.close i)

/-! ## Calls -/

section

variable [Handler H]

theorem effect_subscribe (hIdle : h.calls = []) (hPresent : i < h.facades.length)
    (client topic : String) (handler : H) :
    Effect i (h.facade i) h.broker .none
      ((h.perform {} (.subscribe i client topic handler)).1.facade i)
      (h.perform {} (.subscribe i client topic handler)).1.broker := by
  cases hReserve : (h.facade i).reserve client topic handler with
  | error e =>
    have hStep : h.step (.subscribe i client topic handler) = h.immediate (.error e) := by
      simp only [step, beginSubscribe, hReserve]
    rw [perform_immediate hStep rfl hIdle]
    exact .rests
  | ok reserved =>
    obtain ⟨ticket, f⟩ := reserved
    cases hSubscribe : h.broker.subscribe i topic f.group ⟨i, ticket, handler⟩ with
    | error e =>
      rw [perform_refused hIdle hPresent hReserve hSubscribe, facade_rested hPresent, if_pos rfl]
      exact .refuses hReserve
    | ok granted =>
      obtain ⟨id, broker⟩ := granted
      have hPairs := (Registry.reserve?_eq_some (Facade.reserve_eq_ok hReserve).1).2.2.2
      obtain ⟨f', hAttach⟩ :=
        Facade.exists_attach ((hPairs topic client).trans (if_pos ⟨rfl, rfl⟩)) rfl id
      rw [perform_granted hIdle hPresent hReserve hSubscribe hAttach, facade_rested hPresent,
        if_pos rfl]
      exact .joins hReserve hSubscribe hAttach

theorem effect_unsubscribe (hIdle : h.calls = []) (hPresent : i < h.facades.length)
    (client topic : String) :
    Effect i (h.facade i) h.broker .none
      ((h.perform {} (.unsubscribe i client topic)).1.facade i)
      (h.perform {} (.unsubscribe i client topic)).1.broker := by
  cases hRemove : (h.facade i).remove client topic with
  | error e =>
    have hStep : h.step (.unsubscribe i client topic) = h.immediate (.error e) := by
      simp only [step, beginUnsubscribe, hRemove]
    rw [perform_immediate hStep rfl hIdle]
    exact .rests
  | ok removed =>
    obtain ⟨s, f⟩ := removed
    obtain ⟨broker, reports, result, hPerform, hBroker⟩ := removed_eq hIdle hRemove
    rw [hPerform, facade_rested hPresent, if_pos rfl]
    exact .parts hRemove hBroker

theorem effect_close (hIdle : h.calls = []) (hPresent : i < h.facades.length) :
    Effect i (h.facade i) h.broker .none ((h.perform {} (.close i)).1.facade i)
      (h.perform {} (.close i)).1.broker := by
  obtain ⟨reports, result, hPerform⟩ := close_eq hIdle i
  rw [hPerform, facade_rested hPresent, if_pos rfl]
  exact .drains

/-- The message of a publish call goes to the broker if the call succeeds. -/
theorem effect_publish (hIdle : h.calls = []) (i : Nat) (channel : String) (message : Envelope) :
    ∃ result, (h.perform {} (.publish i channel message .carried)).2.2 = some result ∧
      Effect i (h.facade i) h.broker
        (match result with
          | .ok () => .posted (Subject.topicName channel message.subtopic) message.toBytes
          | .error _ => .none)
        ((h.perform {} (.publish i channel message .carried)).1.facade i)
        (h.perform {} (.publish i channel message .carried)).1.broker := by
  obtain ⟨broker, result, hPerform, hOutcome⟩ := publish_cases hIdle i channel message
  refine ⟨result, by rw [hPerform], ?_⟩
  rw [hPerform]
  rcases hOutcome with ⟨⟨e, rfl⟩, rfl⟩ | ⟨rfl, rfl⟩
  · exact .rests
  · exact .posts _ _

end

/-! ## What the facade and the broker agree on -/

structure Standing (i : Nat) (f : Facade H) (b : Broker (Tap H)) : Prop where
  reached : b.Reached
  plain : f.group = none
  route : ∀ topic client s, f.registry.get? topic client = some s → ∃ id, s.handle = some id ∧
    ⟨id, i, topic, none, ⟨i, s.ticket, s.handler⟩⟩ ∈ b.routes
  active : ∀ topic client s, f.registry.get? topic client = some s → s.ticket ∈ f.active
  drawn : ∀ topic client s, f.registry.get? topic client = some s →
    s.ticket < f.registry.nextTicket
  tickets : ∀ topic client s topic' client' s', f.registry.get? topic client = some s →
    f.registry.get? topic' client' = some s' → s.ticket = s'.ticket →
      topic = topic' ∧ client = client'

theorem standing_opened :
    Standing i (Facade.opened none : Facade H) ({} : Broker (Tap H)).connect.2 where
  reached := .connected .empty
  plain := rfl
  route topic client s hPair := by cases hPair
  active topic client s hPair := by cases hPair
  drawn topic client s hPair := by cases hPair
  tickets topic client s topic' client' s' hPair := by cases hPair

theorem Effect.change (h : Effect i f b mail f' b') : b.Change b' := by
  cases h with
  | rests => exact .same
  | posts subject data => exact .routed subject data
  | hands hTake => exact .taken hTake
  | misses hNone => exact .same
  | joins hReserve hSubscribe hAttach => exact .subscribed hSubscribe
  | refuses hReserve => exact .same
  | parts hRemove hBroker =>
    rcases hBroker with rfl | ⟨id, -, hUnsubscribe⟩
    · exact .same
    · exact .unsubscribed hUnsubscribe
  | drains => exact .closed i

/-- What is left of the registry when a pair was claimed in vain. -/
theorem registry_refused {client topic : String} {handler : H} {ticket : Nat} {f₁ : Facade H}
    (hReserve : f.reserve client topic handler = .ok (ticket, f₁)) :
    (f₁.discard client topic ticket).registry.nextTicket = f.registry.nextTicket + 1 ∧
      ∀ t c, (f₁.discard client topic ticket).registry.get? t c = f.registry.get? t c := by
  obtain ⟨-, hNext, hFree, hPairs⟩ :=
    Registry.reserve?_eq_some (Facade.reserve_eq_ok hReserve).1
  obtain ⟨hKept, hLeft⟩ := Registry.discard_of_own ((hPairs topic client).trans (if_pos ⟨rfl, rfl⟩))
    rfl
  refine ⟨hKept.trans hNext, fun t c => (hLeft t c).trans ?_⟩
  split
  · rename_i hSame
    rw [hSame.1, hSame.2, hFree]
  · rename_i hOther
    rw [hPairs, if_neg hOther]

/-- A facade whose registry has the same pairs, or fewer, as long as their routes and tickets
are kept. -/
theorem Standing.fewer (h : Standing i f b) (hChange : b.Change b') (hGroup : f'.group = f.group)
    (hNext : f.registry.nextTicket ≤ f'.registry.nextTicket)
    (hPairs : ∀ t c s, f'.registry.get? t c = some s → f.registry.get? t c = some s)
    (hActive : ∀ t c s, f'.registry.get? t c = some s → s.ticket ∈ f.active → s.ticket ∈ f'.active)
    (hRoutes : ∀ t c s id, f'.registry.get? t c = some s → s.handle = some id →
      ⟨id, i, t, none, ⟨i, s.ticket, s.handler⟩⟩ ∈ b.routes →
        ⟨id, i, t, none, ⟨i, s.ticket, s.handler⟩⟩ ∈ b'.routes) : Standing i f' b' where
  reached := h.reached.changed hChange
  plain := hGroup.trans h.plain
  route t c s hs := by
    obtain ⟨id, hHandle, hr⟩ := h.route t c s (hPairs t c s hs)
    exact ⟨id, hHandle, hRoutes t c s id hs hHandle hr⟩
  active t c s hs := hActive t c s hs (h.active t c s (hPairs t c s hs))
  drawn t c s hs := Nat.lt_of_lt_of_le (h.drawn t c s (hPairs t c s hs)) hNext
  tickets t c s t' c' s' hs hs' := h.tickets t c s t' c' s' (hPairs t c s hs) (hPairs t' c' s' hs')

theorem Standing.joined (h : Standing i f b) {client topic : String} {handler : H}
    {ticket id : Nat} {f₁ : Facade H} (hReserve : f.reserve client topic handler = .ok (ticket, f₁))
    (hSubscribe : b.subscribe i topic f₁.group ⟨i, ticket, handler⟩ = .ok (id, b'))
    (hAttach : f₁.attach client topic ticket id = (true, f')) : Standing i f' b' := by
  obtain ⟨hActive, hGroup, hNext, hPairs⟩ := Facade.reserve_attach hReserve hAttach
  obtain ⟨hReserved, -, hGroup₁⟩ := Facade.reserve_eq_ok hReserve
  have hTicket := (Registry.reserve?_eq_some hReserved).1
  obtain ⟨-, -, -, hRoutes, -⟩ := Broker.subscribe_eq_ok hSubscribe
  rw [hGroup₁, h.plain] at hRoutes
  have hCases : ∀ t c s, f'.registry.get? t c = some s →
      t = topic ∧ c = client ∧ s = ⟨ticket, some id, handler⟩ ∨
        f.registry.get? t c = some s ∧ s.ticket < ticket := by
    intro t c s hs
    rw [hPairs] at hs
    split at hs
    · rename_i hSame
      cases hs
      exact .inl ⟨hSame.1, hSame.2, rfl⟩
    · exact .inr ⟨hs, hTicket ▸ h.drawn t c s hs⟩
  constructor
  · exact h.reached.changed (.subscribed hSubscribe)
  · exact hGroup.trans h.plain
  · intro t c s hs
    rw [hRoutes]
    rcases hCases t c s hs with ⟨rfl, rfl, rfl⟩ | ⟨hOld, -⟩
    · exact ⟨id, rfl, List.mem_append_right _ (List.mem_singleton_self _)⟩
    · obtain ⟨id', hHandle, hr⟩ := h.route t c s hOld
      exact ⟨id', hHandle, List.mem_append_left _ hr⟩
  · intro t c s hs
    rw [hActive]
    rcases hCases t c s hs with ⟨rfl, rfl, rfl⟩ | ⟨hOld, -⟩
    · exact List.mem_cons_self
    · exact List.mem_cons_of_mem _ (h.active t c s hOld)
  · intro t c s hs
    rw [hNext, ← hTicket]
    rcases hCases t c s hs with ⟨rfl, rfl, rfl⟩ | ⟨-, hLess⟩
    · exact Nat.lt_succ_self _
    · exact Nat.lt_succ_of_lt hLess
  · -- The new ticket lies above all that were drawn before.
    intro t c s t' c' s' hs hs' hSame
    rcases hCases t c s hs with ⟨rfl, rfl, rfl⟩ | ⟨hOld, hLess⟩
    · rcases hCases t' c' s' hs' with ⟨rfl, rfl, -⟩ | ⟨-, hLess'⟩
      · exact ⟨rfl, rfl⟩
      · exact (Nat.ne_of_lt hLess' hSame.symm).elim
    · rcases hCases t' c' s' hs' with ⟨-, -, rfl⟩ | ⟨hOld', -⟩
      · exact (Nat.ne_of_lt hLess hSame).elim
      · exact h.tickets t c s t' c' s' hOld hOld' hSame

theorem Standing.parted (h : Standing i f b) {client topic : String} {s : Subscription H}
    (hRemove : f.remove client topic = .ok (s, f'))
    (hBroker : b' = b ∨ ∃ id, s.handle = some id ∧ b.unsubscribe i id = .ok b') :
    Standing i f' b' := by
  obtain ⟨hRegistry, hActive, hGroup⟩ := Facade.remove_eq_ok hRemove
  obtain ⟨hOwn, hNext, hPairs⟩ := Registry.remove?_eq_some hRegistry
  have hOthers : ∀ t c s', f'.registry.get? t c = some s' →
      f.registry.get? t c = some s' ∧ s'.ticket ≠ s.ticket := by
    intro t c s' hs'
    rw [hPairs] at hs'
    split at hs'
    · cases hs'
    · rename_i hOther
      exact ⟨hs', fun hSame => hOther (h.tickets t c s' topic client s hs' hOwn hSame)⟩
  have hChange : b.Change b' := Effect.change (.parts hRemove hBroker)
  refine h.fewer hChange hGroup (Nat.le_of_eq hNext.symm) (fun t c s' hs' => (hOthers t c s' hs').1)
    (fun t c s' hs' hIn => ?_) (fun t c s' id hs' hHandle hr => ?_)
  · rw [hActive]
    exact List.mem_filter.mpr ⟨hIn, decide_eq_true (hOthers t c s' hs').2⟩
  · rcases hBroker with rfl | ⟨gone, hGone, hUnsubscribe⟩
    · exact hr
    · obtain ⟨-, -, hRoutes, -⟩ := Broker.unsubscribe_eq_ok hUnsubscribe
      obtain ⟨id', hHandle', hr'⟩ := h.route topic client s hOwn
      cases hHandle'.symm.trans hGone
      rw [hRoutes, List.mem_filter]
      refine ⟨hr, ?_⟩
      -- Under one number there is one route, and it has one ticket.
      have hApart : id ≠ gone := by
        intro hSame
        have hEqual := List.inj_on_of_nodup_map h.reached.owned.ids_nodup hr hr' hSame
        exact (hOthers t c s' hs').2 (congrArg (fun r => r.tap.ticket) hEqual)
      simp [hApart]

theorem Standing.effect (h : Standing i f b) (hEffect : Effect i f b mail f' b') :
    Standing i f' b' := by
  have hChange := hEffect.change
  have hSame : Broker.SameRoutes b b' → f' = f → Standing i f' b' := by
    rintro hRoutes rfl
    exact h.fewer hChange rfl (Nat.le_refl _) (fun _ _ _ hs => hs) (fun _ _ _ _ hIn => hIn)
      fun _ _ _ _ _ _ hr => hRoutes.routes ▸ hr
  cases hEffect with
  | rests => exact h
  | posts subject data => exact hSame (Broker.sameRoutes_route b subject data) rfl
  | hands hTake => exact hSame (Broker.sameRoutes_takeFrom? hTake) rfl
  | misses hNone => exact h
  | joins hReserve hSubscribe hAttach => exact h.joined hReserve hSubscribe hAttach
  | refuses hReserve =>
    obtain ⟨hNext, hPairs⟩ := registry_refused hReserve
    obtain ⟨-, hActive, hGroup⟩ := Facade.reserve_eq_ok hReserve
    refine h.fewer hChange hGroup (hNext.symm ▸ Nat.le_succ _)
      (fun t c s hs => (hPairs t c).symm.trans hs) (fun t c s hs hIn => ?_)
      fun _ _ _ _ _ _ hr => hr
    exact hActive.symm ▸ List.mem_cons_of_mem _ hIn
  | parts hRemove hBroker => exact h.parted hRemove hBroker
  | drains =>
    have hNone : ∀ t c, f.drain.2.registry.get? t c = none := by
      intro t c
      rw [Facade.registry_drain, Registry.get?_drain]
    refine h.fewer hChange (Facade.group_drain f) ?_ ?_ ?_ ?_
    · rw [Facade.registry_drain]
      exact Nat.le_refl _
    · intro t c s hs
      cases (hNone t c).symm.trans hs
    · intro t c s hs
      cases (hNone t c).symm.trans hs
    · intro t c s id hs
      cases (hNone t c).symm.trans hs

/-- A pair that stays is the one that was there. -/
theorem Effect.pair_eq (h : Effect i f b mail f' b') {topic client : String}
    {s s' : Subscription H} (hBefore : f.registry.get? topic client = some s)
    (hAfter : f'.registry.get? topic client = some s') : s' = s := by
  have hSame : f'.registry.get? topic client = f.registry.get? topic client → s' = s := by
    intro hPair
    rw [hPair, hBefore] at hAfter
    exact (Option.some.inj hAfter).symm
  cases h with
  | rests => exact hSame rfl
  | posts subject data => exact hSame rfl
  | hands hTake => exact hSame rfl
  | misses hNone => exact hSame rfl
  | joins hReserve hSubscribe hAttach =>
    obtain ⟨-, -, -, hPairs⟩ := Facade.reserve_attach hReserve hAttach
    obtain ⟨-, -, hFree, -⟩ := Registry.reserve?_eq_some (Facade.reserve_eq_ok hReserve).1
    refine hSame ((hPairs topic client).trans (if_neg ?_))
    rintro ⟨rfl, rfl⟩
    cases hFree.symm.trans hBefore
  | refuses hReserve => exact hSame ((registry_refused hReserve).2 topic client)
  | parts hRemove hBroker =>
    obtain ⟨-, -, hPairs⟩ := Registry.remove?_eq_some (Facade.remove_eq_ok hRemove).1
    rw [hPairs] at hAfter
    split at hAfter
    · cases hAfter
    · rw [hBefore] at hAfter
      exact (Option.some.inj hAfter).symm
  | drains =>
    rw [Facade.registry_drain, Registry.get?_drain] at hAfter
    cases hAfter

/-- A number leads to a tap that it led to before, or it is the next number and leads to the
handler of a new pair. -/
theorem Effect.bound (h : Effect i f b mail f' b') (hReached : b.Reached) (id : Nat) (tap : Tap H)
    (hBound : b'.Bound id tap) : b.Bound id tap ∨ id = b.nextRoute ∧
      ∃ topic client s, f.registry.get? topic client = none ∧
        f'.registry.get? topic client = some s ∧ s.handler = tap.handler := by
  cases h with
  | rests => exact .inl hBound
  | posts subject data => exact .inl (Broker.bound_route hBound)
  | hands hTake => exact .inl (Broker.bound_takeFrom? hReached.stocked hTake hBound)
  | misses hNone => exact .inl hBound
  | @joins client topic handler ticket new f₁ f' b' hReserve hSubscribe hAttach =>
    refine (Broker.bound_subscribe hSubscribe hBound).imp_right fun ⟨hNext, hTap⟩ => ⟨hNext, ?_⟩
    obtain ⟨-, -, -, hPairs⟩ := Facade.reserve_attach hReserve hAttach
    obtain ⟨-, -, hFree, -⟩ := Registry.reserve?_eq_some (Facade.reserve_eq_ok hReserve).1
    exact ⟨topic, client, _, hFree, (hPairs topic client).trans (if_pos ⟨rfl, rfl⟩), hTap ▸ rfl⟩
  | refuses hReserve => exact .inl hBound
  | parts hRemove hBroker =>
    rcases hBroker with rfl | ⟨gone, -, hUnsubscribe⟩
    · exact .inl hBound
    · obtain ⟨-, -, hRoutes, -⟩ := Broker.unsubscribe_eq_ok hUnsubscribe
      refine .inl (Broker.bound_of_routes hBound (fun r hr => ?_)
        (Broker.mailboxes_unsubscribe hUnsubscribe))
      rw [hRoutes] at hr
      exact (List.mem_filter.mp hr).1
  | drains =>
    exact .inl (Broker.bound_of_routes hBound (fun r hr => Broker.routes_close_subset hr)
      (Broker.mailboxes_close b i))

/-! ## What waits for a pair -/

theorem Effect.mailboxes (h : Effect i f b .none f' b') : b'.mailboxes = b.mailboxes := by
  cases h with
  | rests => rfl
  | joins hReserve hSubscribe hAttach => exact Broker.mailboxes_subscribe hSubscribe
  | refuses hReserve => rfl
  | parts hRemove hBroker =>
    rcases hBroker with rfl | ⟨gone, -, hUnsubscribe⟩
    · rfl
    · exact Broker.mailboxes_unsubscribe hUnsubscribe
  | drains => exact Broker.mailboxes_close b i

section

variable {topic client : String} {s : Subscription H} {id : Nat}

/-- The route of a pair is plain, so it is handed every message that the topic selects. -/
theorem Standing.waiting_route (h : Standing i f b)
    (hPair : f.registry.get? topic client = some s) (hHandle : s.handle = some id)
    (subject : String) (data : Bytes) : (b.route subject data).2.waiting id =
      b.waiting id ++ if Subject.selects topic subject = true then [data] else [] := by
  obtain ⟨id', hHandle', hr⟩ := h.route topic client s hPair
  cases hHandle'.symm.trans hHandle
  have hOwned := h.reached.owned
  have hHanded : id ∈ (b.recipients subject).map Route.id ↔
      Subject.selects topic subject = true := by
    constructor
    · intro hMem
      obtain ⟨r, hRecipient, hNumber⟩ := List.mem_map.mp hMem
      obtain ⟨hListed, hSelects⟩ := List.mem_filter.mp (Broker.mem_matching_of_recipient hRecipient)
      have hEqual := List.inj_on_of_nodup_map hOwned.ids_nodup hListed hr hNumber
      rwa [hEqual] at hSelects
    · intro hSelects
      have hMatching : _ ∈ b.matching subject := List.mem_filter.mpr ⟨hr, hSelects⟩
      exact List.mem_map.mpr ⟨_, (Broker.mem_recipients_of_plain rfl).mpr hMatching, rfl⟩
  simp only [Broker.waiting_route hOwned, hHanded]

/-- What comes out of the mailbox of a pair goes to its handler. -/
theorem Standing.tap_eq (h : Standing i f b) (hPair : f.registry.get? topic client = some s)
    (hHandle : s.handle = some id) {tap : Tap H} {data : Bytes}
    (hTake : b.takeFrom? id = some (tap, data, b')) : tap = ⟨i, s.ticket, s.handler⟩ := by
  obtain ⟨id', hHandle', hr⟩ := h.route topic client s hPair
  cases hHandle'.symm.trans hHandle
  obtain ⟨before, m, after, rest, hMailboxes, hRoute, hTap, -⟩ :=
    Broker.takeFrom?_split h.reached.stocked hTake
  have hm : m ∈ b.mailboxes := by
    rw [hMailboxes]
    exact List.mem_append_right _ List.mem_cons_self
  exact hTap.symm.trans ((h.reached.tapped m hm).2 _ hr hRoute.symm).symm

/-- A pair that is new has the next route, and nothing waits there. -/
theorem Effect.waiting_new (h : Effect i f b mail f' b') (hReached : b.Reached)
    (hFree : f.registry.get? topic client = none)
    (hPair : f'.registry.get? topic client = some s) :
    s.handle = some b.nextRoute ∧ b'.waiting b.nextRoute = [] := by
  have hAbsent : f'.registry.get? topic client = f.registry.get? topic client → False := by
    intro hSame
    cases (hPair.symm.trans hSame).trans hFree
  cases h with
  | rests => exact (hAbsent rfl).elim
  | posts subject data => exact (hAbsent rfl).elim
  | hands hTake => exact (hAbsent rfl).elim
  | misses hNone => exact (hAbsent rfl).elim
  | joins hReserve hSubscribe hAttach =>
    obtain ⟨-, -, -, hPairs⟩ := Facade.reserve_attach hReserve hAttach
    obtain ⟨-, hNext, -, -, -⟩ := Broker.subscribe_eq_ok hSubscribe
    rw [hPairs] at hPair
    split at hPair
    · cases hPair
      refine ⟨congrArg some hNext, ?_⟩
      rw [Broker.waiting, Broker.mailboxes_subscribe hSubscribe, ← Broker.waiting]
      exact Broker.waiting_nextRoute hReached
    · cases hPair.symm.trans hFree
  | refuses hReserve => exact (hAbsent ((registry_refused hReserve).2 topic client)).elim
  | parts hRemove hBroker =>
    obtain ⟨-, -, hPairs⟩ := Registry.remove?_eq_some (Facade.remove_eq_ok hRemove).1
    rw [hPairs] at hPair
    split at hPair
    · cases hPair
    · cases hPair.symm.trans hFree
  | drains =>
    rw [Facade.registry_drain, Registry.get?_drain] at hPair
    cases hPair

end

end Hub

end DeviceBus
