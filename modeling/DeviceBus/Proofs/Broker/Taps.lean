import DeviceBus.Proofs.Broker.Mailboxes

/-! # Where waiting messages come from

All mailboxes of a route lead to the route's own tap. What waits for a tap after a
message has come waited for it before, or is the message and came over a route with
that tap whose pattern selects its subject.
-/

namespace DeviceBus.Broker

variable {T : Type} {b b' : Broker T} {mailboxes : List (Mailbox T)} {m : Mailbox T} {r : Route T}
  {tap : T} {subject : String} {data data' : Bytes} {c id : Nat}

/-- Some octets are on their way to a tap. -/
def Carries (b : Broker T) (tap : T) (data : Bytes) : Prop :=
  ∃ m ∈ b.mailboxes, m.tap = tap ∧ data ∈ m.waiting

/-! ## Messages -/

theorem mem_waiting_post (hm : m ∈ post mailboxes r data) (hData : data' ∈ m.waiting) :
    (data' = data ∧ m.route = r.id) ∨
      ∃ m' ∈ mailboxes, m'.route = m.route ∧ m'.tap = m.tap ∧ data' ∈ m'.waiting := by
  unfold post at hm
  split at hm
  · obtain ⟨m', hm', rfl⟩ := List.mem_map.mp hm
    by_cases hSame : m'.route = r.id
    · rw [if_pos hSame] at hData ⊢
      rcases List.mem_append.mp hData with hOld | hNew
      · exact .inr ⟨m', hm', rfl, rfl, hOld⟩
      · exact .inl ⟨List.mem_singleton.mp hNew, hSame⟩
    · rw [if_neg hSame] at hData ⊢
      exact .inr ⟨m', hm', rfl, rfl, hData⟩
  · rcases List.mem_append.mp hm with hOld | hNew
    · exact .inr ⟨m, hOld, rfl, rfl, hData⟩
    · rw [List.mem_singleton.mp hNew] at hData ⊢
      exact .inl ⟨List.mem_singleton.mp hData, rfl⟩

theorem mem_waiting_foldl_post {targets : List (Route T)}
    (hm : m ∈ targets.foldl (fun ms r => post ms r data) mailboxes) (hData : data' ∈ m.waiting) :
    (data' = data ∧ ∃ r ∈ targets, r.id = m.route) ∨
      ∃ m' ∈ mailboxes, m'.route = m.route ∧ m'.tap = m.tap ∧ data' ∈ m'.waiting := by
  induction targets generalizing mailboxes with
  | nil => exact .inr ⟨m, hm, rfl, rfl, hData⟩
  | cons r rest ih =>
    rcases ih hm with ⟨hNew, r', hr', hRoute⟩ | ⟨m', hm', hRoute, hTap, hData'⟩
    · exact .inl ⟨hNew, r', List.mem_cons_of_mem r hr', hRoute⟩
    · rcases mem_waiting_post hm' hData' with ⟨hNew, hOwn⟩ | ⟨m'', hm'', hRoute', hTap', hData''⟩
      · exact .inl ⟨hNew, r, List.mem_cons_self, hOwn.symm.trans hRoute⟩
      · exact .inr ⟨m'', hm'', hRoute'.trans hRoute, hTap'.trans hTap, hData''⟩

theorem mem_mailboxes_takeFrom? (hStocked : Stocked b.mailboxes)
    (hTake : b.takeFrom? id = some (tap, data, b')) :
    b.Carries tap data ∧ ∀ m ∈ b'.mailboxes, ∃ m' ∈ b.mailboxes,
      m'.route = m.route ∧ m'.tap = m.tap ∧ ∀ data' ∈ m.waiting, data' ∈ m'.waiting := by
  obtain ⟨before, box, after, rest, hMailboxes, -, hTap, hOldest, -, -, hLeft⟩ :=
    takeFrom?_split hStocked hTake
  have hBox : box ∈ b.mailboxes := by
    rw [hMailboxes]
    exact List.mem_append_right _ List.mem_cons_self
  refine ⟨⟨box, hBox, hTap, hOldest ▸ List.mem_cons_self⟩, ?_⟩
  intro m hm
  rw [hLeft] at hm
  rcases List.mem_append.mp hm with hBefore | hRest
  · exact ⟨m, hMailboxes ▸ List.mem_append_left _ hBefore, rfl, rfl, fun _ h => h⟩
  · rcases List.mem_append.mp hRest with hOwn | hAfter
    · split at hOwn
      · cases hOwn
      · rw [List.mem_singleton.mp hOwn]
        exact ⟨box, hBox, rfl, rfl, fun data' hData => hOldest ▸ List.mem_cons_of_mem data hData⟩
    · refine ⟨m, ?_, rfl, rfl, fun _ h => h⟩
      rw [hMailboxes]
      exact List.mem_append_right _ (List.mem_cons_of_mem box hAfter)

/-- A mailbox belongs to a route that has been opened, and leads where the route does. -/
theorem Reached.tapped (hReached : b.Reached) : ∀ m ∈ b.mailboxes,
    m.route < b.nextRoute ∧ ∀ r ∈ b.routes, r.id = m.route → r.tap = m.tap := by
  induction hReached with
  | empty => exact List.forall_mem_nil _
  | connected hReached ih => exact ih
  | @changed b b' hReached hChange ih =>
    have hOwned := hReached.owned
    cases hChange with
    | same => exact ih
    | routed subject data =>
      intro m hm
      rcases mem_mailboxes_route hm with ⟨r, hr, hRoute, hTap⟩ | ⟨m', hm', hRoute, hTap⟩
      · have hListed := mem_recipients hr
        refine ⟨hRoute ▸ hOwned.id_lt r hListed, ?_⟩
        intro r' hr' hSame
        rw [← List.inj_on_of_nodup_map hOwned.ids_nodup hListed hr' (hRoute.trans hSame.symm)]
        exact hTap
      · rw [← hRoute, ← hTap]
        exact ih m' hm'
    | taken hTake =>
      have hSame := sameRoutes_takeFrom? hTake
      intro m hm
      obtain ⟨m', hm', hRoute, hTap, -⟩ :=
        (mem_mailboxes_takeFrom? hReached.stocked hTake).2 m hm
      rw [hSame.nextRoute, hSame.routes, ← hRoute, ← hTap]
      exact ih m' hm'
    | subscribed hSubscribe =>
      obtain ⟨-, rfl, hNext, hRoutes, -⟩ := subscribe_eq_ok hSubscribe
      rw [mailboxes_subscribe hSubscribe, hNext, hRoutes]
      intro m hm
      obtain ⟨hLess, hOld⟩ := ih m hm
      refine ⟨Nat.lt_succ_of_lt hLess, List.forall_mem_append.mpr ⟨hOld, ?_⟩⟩
      refine List.forall_mem_singleton.mpr fun hSame => ?_
      exact (Nat.ne_of_lt hLess hSame.symm).elim
    | unsubscribed hUnsubscribe =>
      obtain ⟨-, hNext, hRoutes, -⟩ := unsubscribe_eq_ok hUnsubscribe
      rw [mailboxes_unsubscribe hUnsubscribe, hNext, hRoutes]
      intro m hm
      obtain ⟨hLess, hOld⟩ := ih m hm
      exact ⟨hLess, fun r hr => hOld r (List.mem_filter.mp hr).1⟩
    | closed c =>
      rw [mailboxes_close, nextRoute_close]
      intro m hm
      obtain ⟨hLess, hOld⟩ := ih m hm
      exact ⟨hLess, fun r hr => hOld r (routes_close_subset hr)⟩

theorem waiting_nextRoute (hReached : b.Reached) : b.waiting b.nextRoute = [] := by
  have hNone : b.mailboxes.find? (fun m => m.route = b.nextRoute) = none := by
    rw [List.find?_eq_none]
    intro m hm hRoute
    exact Nat.ne_of_lt (hReached.tapped m hm).1 (of_decide_eq_true hRoute)
  rw [waiting, waitingIn, hNone]
  rfl

theorem carries_route (hReached : b.Reached)
    (hCarries : (b.route subject data).2.Carries tap data') :
    b.Carries tap data' ∨
      data' = data ∧ ∃ r ∈ b.routes, Subject.selects r.pattern subject = true ∧ r.tap = tap := by
  obtain ⟨m, hm, rfl, hData⟩ := hCarries
  rcases mem_waiting_foldl_post hm hData with ⟨hNew, r, hr, hRoute⟩ | ⟨m', hm', -, hTap, hData'⟩
  · have hLeads := (hReached.changed (.routed subject data)).tapped m hm
    obtain ⟨hListed, hSelects⟩ := List.mem_filter.mp (mem_matching_of_recipient hr)
    exact .inr ⟨hNew, r, hListed, hSelects, hLeads.2 r hListed hRoute⟩
  · exact .inl ⟨m', hm', hTap, hData'⟩

/-! ## Without new routes and messages -/

/-- No route has been opened and no message has come. -/
structure Lessens (b b' : Broker T) : Prop where
  reached : b.Reached → b'.Reached
  routes : ∀ r ∈ b'.routes, r ∈ b.routes
  carries : ∀ tap data, b'.Carries tap data → b.Carries tap data

theorem Lessens.refl (b : Broker T) : b.Lessens b where
  reached hReached := hReached
  routes _ hr := hr
  carries _ _ hCarries := hCarries

theorem Lessens.trans {b'' : Broker T} (h : b.Lessens b') (h' : b'.Lessens b'') :
    b.Lessens b'' where
  reached hReached := h'.reached (h.reached hReached)
  routes r hr := h.routes r (h'.routes r hr)
  carries tap data hCarries := h.carries tap data (h'.carries tap data hCarries)

theorem lessens_unsubscribe (hUnsubscribe : b.unsubscribe c id = .ok b') : b.Lessens b' where
  reached hReached := hReached.changed (.unsubscribed hUnsubscribe)
  routes r hr := by
    obtain ⟨-, -, hRoutes, -⟩ := unsubscribe_eq_ok hUnsubscribe
    rw [hRoutes] at hr
    exact (List.mem_filter.mp hr).1
  carries tap data hCarries := by
    rwa [Carries, mailboxes_unsubscribe hUnsubscribe] at hCarries

theorem lessens_close (b : Broker T) (c : Nat) : b.Lessens (b.close c) where
  reached hReached := hReached.changed (.closed c)
  routes _ hr := routes_close_subset hr
  carries tap data hCarries := by
    rwa [Carries, mailboxes_close] at hCarries

theorem lessens_takeFrom? (hReached : b.Reached)
    (hTake : b.takeFrom? id = some (tap, data, b')) : b.Lessens b' where
  reached _ := hReached.changed (.taken hTake)
  routes r hr := by
    rwa [(sameRoutes_takeFrom? hTake).routes] at hr
  carries tap' data' hCarries := by
    obtain ⟨m, hm, hTap, hData⟩ := hCarries
    obtain ⟨m', hm', -, hSame, hWaiting⟩ :=
      (mem_mailboxes_takeFrom? hReached.stocked hTake).2 m hm
    exact ⟨m', hm', hSame.trans hTap, hWaiting data' hData⟩

/-! ## Numbers and taps -/

/-- A route with this number, or its mailbox, leads to this tap. -/
def Bound (b : Broker T) (id : Nat) (tap : T) : Prop :=
  (∃ r ∈ b.routes, r.id = id ∧ r.tap = tap) ∨ ∃ m ∈ b.mailboxes, m.route = id ∧ m.tap = tap

theorem bound_route {id : Nat} {tap : T} (h : (b.route subject data).2.Bound id tap) :
    b.Bound id tap := by
  rcases h with hRoute | ⟨m, hm, rfl, rfl⟩
  · exact .inl hRoute
  · rcases mem_mailboxes_route hm with ⟨r, hr, hSame⟩ | ⟨m', hm', hSame⟩
    · exact .inl ⟨r, mem_recipients hr, hSame⟩
    · exact .inr ⟨m', hm', hSame⟩

theorem bound_takeFrom? (hStocked : Stocked b.mailboxes) {route id : Nat} {tap tap' : T}
    (hTake : b.takeFrom? route = some (tap, data, b')) (h : b'.Bound id tap') :
    b.Bound id tap' := by
  rcases h with hRoute | ⟨m, hm, rfl, rfl⟩
  · rw [(sameRoutes_takeFrom? hTake).routes] at hRoute
    exact .inl hRoute
  · obtain ⟨m', hm', hNumber, hTap, -⟩ := (mem_mailboxes_takeFrom? hStocked hTake).2 m hm
    exact .inr ⟨m', hm', hNumber, hTap⟩

theorem bound_of_routes {id : Nat} {tap : T} (h : b'.Bound id tap)
    (hRoutes : ∀ r ∈ b'.routes, r ∈ b.routes) (hMailboxes : b'.mailboxes = b.mailboxes) :
    b.Bound id tap := by
  rcases h with ⟨r, hr, hSame⟩ | hMail
  · exact .inl ⟨r, hRoutes r hr, hSame⟩
  · exact .inr (hMailboxes ▸ hMail)

theorem bound_subscribe {c new id : Nat} {pattern : String} {group : Option String} {tap tap' : T}
    (hSubscribe : b.subscribe c pattern group tap = .ok (new, b')) (h : b'.Bound id tap') :
    b.Bound id tap' ∨ id = b.nextRoute ∧ tap' = tap := by
  obtain ⟨-, rfl, -, hRoutes, -⟩ := subscribe_eq_ok hSubscribe
  rcases h with ⟨r, hr, rfl, rfl⟩ | hMail
  · rw [hRoutes] at hr
    rcases List.mem_append.mp hr with hOld | hNew
    · exact .inl (.inl ⟨r, hOld, rfl, rfl⟩)
    · rw [List.mem_singleton.mp hNew]
      exact .inr ⟨rfl, rfl⟩
  · exact .inl (.inr (mailboxes_subscribe hSubscribe ▸ hMail))

end DeviceBus.Broker
