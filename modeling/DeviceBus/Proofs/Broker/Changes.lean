import DeviceBus.Proofs.Broker

/-! # What can happen to a broker

Whatever its connections do, a broker changes in one of six ways. What holds of
every reachable broker is shown change by change. A closed connection owns no
route for good, and a message can come only to a tap that some route had.
-/

namespace DeviceBus.Broker

variable {T : Type} {b b' : Broker T} {c id : Nat}

inductive Change (b : Broker T) : Broker T → Prop
  | same : Change b b
  | routed (subject : String) (data : Bytes) : Change b (b.route subject data).2
  | taken {b' : Broker T} {route : Nat} {tap : T} {data : Bytes}
      (hTake : b.takeFrom? route = some (tap, data, b')) : Change b b'
  | subscribed {b' : Broker T} {c id : Nat} {pattern : String} {group : Option String} {tap : T}
      (hSubscribe : b.subscribe c pattern group tap = .ok (id, b')) : Change b b'
  | unsubscribed {b' : Broker T} {c id : Nat} (hUnsubscribe : b.unsubscribe c id = .ok b') :
      Change b b'
  | closed (c : Nat) : Change b (b.close c)

/-! ## Closing a connection -/

theorem close_of_closed (hClosed : (b.connection c).closed = true) : b.close c = b := by
  simp only [close, hClosed, if_true]

theorem foldl_dropRoute (b : Broker T) (c : Nat) (ids : List Nat) :
    ids.foldl (fun b id => b.dropRoute c id) b =
      { b with routes := b.routes.filter fun r => !(r.id ∈ ids && r.connection = c) } := by
  induction ids generalizing b with
  | nil =>
    have hAll : (b.routes.filter fun r => !(decide (r.id ∈ []) && decide (r.connection = c))) =
        b.routes := List.filter_eq_self.mpr fun r _ => by simp
    rw [hAll, List.foldl_nil]
  | cons id rest ih =>
    rw [List.foldl_cons, ih, dropRoute]
    simp only [List.filter_filter, Broker.mk.injEq, true_and, and_true]
    apply List.filter_congr
    intro r _
    by_cases hConnection : r.connection = c
    · simp [hConnection, Bool.and_comm]
    · simp [hConnection]

theorem close_of_open (hOpen : (b.connection c).closed = false) :
    b.close c = { b.setConnection c { closed := true } with
      routes :=
        b.routes.filter fun r => !(r.id ∈ (b.connection c).owned && r.connection = c) } := by
  simp only [close, hOpen, Bool.false_eq_true, if_false, foldl_dropRoute]
  rfl

theorem connection_close (b : Broker T) (c c' : Nat) :
    (b.close c).connection c' =
      if c' = c ∧ (b.connection c).closed = false then { closed := true } else b.connection c' := by
  cases hClosed : (b.connection c).closed with
  | true => simp [close_of_closed hClosed]
  | false =>
    have hBound := lt_of_open hClosed
    have hSet := connection_setConnection b c c' { closed := true }
    simp only [hBound, and_true, eq_comm (a := c)] at hSet
    rw [close_of_open hClosed]
    exact hSet.trans (by simp)

theorem routes_close (hOwned : b.Owned) (hOpen : (b.connection c).closed = false) :
    (b.close c).routes = b.routes.filter fun r => !decide (r.connection = c) := by
  rw [close_of_open hOpen]
  apply List.filter_congr
  intro r hr
  by_cases hSame : r.connection = c
  · have hMine : r.id ∈ (b.connection c).owned := (hOwned.owned_iff c r.id).mpr ⟨r, hr, hSame, rfl⟩
    simp [hSame, hMine]
  · simp [hSame]

theorem routes_close_subset {r : Route T} (hr : r ∈ (b.close c).routes) : r ∈ b.routes := by
  cases hClosed : (b.connection c).closed with
  | true => rwa [close_of_closed hClosed] at hr
  | false =>
    rw [close_of_open hClosed] at hr
    exact (List.mem_filter.mp hr).1

theorem nextRoute_close (b : Broker T) (c : Nat) : (b.close c).nextRoute = b.nextRoute := by
  cases hClosed : (b.connection c).closed with
  | true => rw [close_of_closed hClosed]
  | false =>
    rw [close_of_open hClosed]
    rfl

theorem live_close (hOwned : b.Owned) (hOpen : (b.connection c).closed = false) (c' id : Nat) :
    (b.close c).Live c' id ↔ b.Live c' id ∧ c' ≠ c := by
  simp only [Live, routes_close hOwned hOpen, List.mem_filter, Bool.not_eq_true',
    decide_eq_false_iff_not]
  constructor
  · rintro ⟨r, ⟨hr, hOther⟩, rfl, rfl⟩
    exact ⟨⟨r, hr, rfl, rfl⟩, hOther⟩
  · rintro ⟨⟨r, hr, rfl, rfl⟩, hOther⟩
    exact ⟨r, ⟨hr, hOther⟩, rfl, rfl⟩

theorem owned_close (hOwned : b.Owned) (c : Nat) : (b.close c).Owned := by
  cases hClosed : (b.connection c).closed with
  | true =>
    rw [close_of_closed hClosed]
    exact hOwned
  | false =>
    have hRoutes := routes_close hOwned hClosed
    constructor
    · intro c' id
      rw [connection_close, live_close hOwned hClosed]
      by_cases hSame : c' = c
      · simp [hSame, hClosed]
      · simp [hSame, hOwned.owned_iff]
    · intro c'
      rw [connection_close]
      split
      · exact List.nodup_nil
      · exact hOwned.owned_nodup c'
    · rw [hRoutes]
      exact hOwned.ids_nodup.sublist (List.filter_sublist.map Route.id)
    · rw [hRoutes, nextRoute_close]
      intro r hr
      exact hOwned.id_lt r (List.mem_filter.mp hr).1

/-! ## Every change -/

theorem Owned.change (hOwned : b.Owned) (hChange : Change b b') : b'.Owned := by
  cases hChange with
  | same => exact hOwned
  | routed subject data => exact hOwned.of_sameRoutes (sameRoutes_route b subject data)
  | taken hTake => exact hOwned.of_sameRoutes (sameRoutes_takeFrom? hTake)
  | subscribed hSubscribe => exact owned_subscribe hOwned hSubscribe
  | unsubscribed hUnsubscribe => exact owned_unsubscribe hOwned hUnsubscribe
  | closed c => exact owned_close hOwned c

/-- The connection is closed and owns nothing. -/
def Shut (b : Broker T) (c : Nat) : Prop :=
  (b.connection c).closed = true ∧ (b.connection c).owned = []

theorem Shut.change (hShut : b.Shut c) (hChange : Change b b') : b'.Shut c := by
  obtain ⟨hClosed, hNone⟩ := hShut
  cases hChange with
  | same => exact ⟨hClosed, hNone⟩
  | routed subject data => exact ⟨hClosed, hNone⟩
  | taken hTake =>
    have hSame := (sameRoutes_takeFrom? hTake).connection c
    exact ⟨hSame ▸ hClosed, hSame ▸ hNone⟩
  | @subscribed b' d id pattern group tap hSubscribe =>
    obtain ⟨hOpen, -, -, -, hConnections⟩ := subscribe_eq_ok hSubscribe
    have hOther : d ≠ c := by
      rintro rfl
      rw [hClosed] at hOpen
      cases hOpen
    have hSame := (hConnections c).trans (if_neg hOther)
    exact ⟨hSame ▸ hClosed, hSame ▸ hNone⟩
  | @unsubscribed b' d id hUnsubscribe =>
    obtain ⟨hMem, -, -, hConnections⟩ := unsubscribe_eq_ok hUnsubscribe
    have hOther : d ≠ c := by
      rintro rfl
      rw [hNone] at hMem
      cases hMem
    have hSame := (hConnections c).trans (if_neg fun h => hOther h.1)
    exact ⟨hSame ▸ hClosed, hSame ▸ hNone⟩
  | closed d =>
    rw [Shut, connection_close]
    split
    · exact ⟨rfl, rfl⟩
    · exact ⟨hClosed, hNone⟩

/-- No connection owns anything once it is closed. -/
def Released (b : Broker T) : Prop :=
  ∀ c, (b.connection c).closed = true → b.Shut c

theorem Released.change (hReleased : b.Released) (hChange : Change b b') : b'.Released := by
  intro c hClosed'
  cases hClosed : (b.connection c).closed with
  | true => exact (hReleased c hClosed).change hChange
  | false =>
    -- Only closing it can have closed the connection.
    cases hChange with
    | same =>
      rw [hClosed] at hClosed'
      cases hClosed'
    | routed subject data =>
      rw [(sameRoutes_route b subject data).connection, hClosed] at hClosed'
      cases hClosed'
    | taken hTake =>
      rw [(sameRoutes_takeFrom? hTake).connection, hClosed] at hClosed'
      cases hClosed'
    | subscribed hSubscribe =>
      rw [closed_subscribe hSubscribe, hClosed] at hClosed'
      cases hClosed'
    | unsubscribed hUnsubscribe =>
      rw [closed_unsubscribe hUnsubscribe, hClosed] at hClosed'
      cases hClosed'
    | closed d =>
      rw [connection_close] at hClosed'
      rw [Shut, connection_close]
      split
      · exact ⟨rfl, rfl⟩
      · rename_i hOther
        rw [if_neg hOther, hClosed] at hClosed'
        cases hClosed'

theorem shut_close (hReleased : b.Released) (c : Nat) : (b.close c).Shut c := by
  cases hClosed : (b.connection c).closed with
  | true =>
    rw [close_of_closed hClosed]
    exact hReleased c hClosed
  | false =>
    rw [Shut, connection_close, if_pos ⟨rfl, hClosed⟩]
    exact ⟨rfl, rfl⟩

theorem Shut.not_live (hShut : b.Shut c) (hOwned : b.Owned) : ¬b.Live c id := by
  intro hLive
  have hMem := (hOwned.owned_iff c id).mpr hLive
  rw [hShut.2] at hMem
  cases hMem

/-! ## Where messages can come -/

/-- A route leads to this tap, or a message is on its way to it. -/
def Leads (b : Broker T) (tap : T) : Prop :=
  (∃ r ∈ b.routes, r.tap = tap) ∨ ∃ m ∈ b.mailboxes, m.tap = tap

theorem mem_recipients {r : Route T} {subject : String} (h : r ∈ b.recipients subject) :
    r ∈ b.routes := by
  have hMatching : ∀ r ∈ b.matching subject, r ∈ b.routes := fun r hr => (List.mem_filter.mp hr).1
  rcases List.mem_append.mp h with hPlain | hGrouped
  · exact hMatching r (List.mem_filter.mp hPlain).1
  · obtain ⟨key, -, hPick⟩ := List.mem_filterMap.mp hGrouped
    exact hMatching r (List.mem_filter.mp (List.mem_of_getElem? hPick)).1

theorem mem_post {mailboxes : List (Mailbox T)} {r : Route T} {data : Bytes} {m : Mailbox T}
    (h : m ∈ post mailboxes r data) :
    (m.route = r.id ∧ m.tap = r.tap) ∨ ∃ m' ∈ mailboxes, m'.route = m.route ∧ m'.tap = m.tap := by
  unfold post at h
  split at h
  · obtain ⟨m', hm', rfl⟩ := List.mem_map.mp h
    refine .inr ⟨m', hm', ?_⟩
    split
    · exact ⟨rfl, rfl⟩
    · exact ⟨rfl, rfl⟩
  · rcases List.mem_append.mp h with hOld | hNew
    · exact .inr ⟨m, hOld, rfl, rfl⟩
    · rw [List.mem_singleton.mp hNew]
      exact .inl ⟨rfl, rfl⟩

theorem mem_foldl_post {targets : List (Route T)} {data : Bytes} {mailboxes : List (Mailbox T)}
    {m : Mailbox T} (h : m ∈ targets.foldl (fun ms r => post ms r data) mailboxes) :
    (∃ r ∈ targets, r.id = m.route ∧ r.tap = m.tap) ∨
      ∃ m' ∈ mailboxes, m'.route = m.route ∧ m'.tap = m.tap := by
  induction targets generalizing mailboxes with
  | nil => exact .inr ⟨m, h, rfl, rfl⟩
  | cons r rest ih =>
    rcases ih h with ⟨r', hr', hSame⟩ | ⟨m', hm', hRoute, hTap⟩
    · exact .inl ⟨r', List.mem_cons_of_mem r hr', hSame⟩
    · rcases mem_post hm' with ⟨hRoute', hTap'⟩ | ⟨m'', hm'', hRoute', hTap'⟩
      · exact .inl ⟨r, List.mem_cons_self, hRoute'.symm.trans hRoute, hTap'.symm.trans hTap⟩
      · exact .inr ⟨m'', hm'', hRoute'.trans hRoute, hTap'.trans hTap⟩

theorem mem_mailboxes_route {subject : String} {data : Bytes} {m : Mailbox T}
    (h : m ∈ (b.route subject data).2.mailboxes) :
    (∃ r ∈ b.recipients subject, r.id = m.route ∧ r.tap = m.tap) ∨
      ∃ m' ∈ b.mailboxes, m'.route = m.route ∧ m'.tap = m.tap :=
  mem_foldl_post h

theorem leads_route {subject : String} {data : Bytes} {tap : T}
    (h : (b.route subject data).2.Leads tap) : b.Leads tap := by
  rcases h with ⟨r, hr, rfl⟩ | ⟨m, hm, rfl⟩
  · exact .inl ⟨r, hr, rfl⟩
  · rcases mem_mailboxes_route hm with ⟨r, hr, -, hTap⟩ | ⟨m', hm', -, hTap⟩
    · exact .inl ⟨r, mem_recipients hr, hTap⟩
    · exact .inr ⟨m', hm', hTap⟩

theorem leads_takeFrom? {route : Nat} {tap : T} {data : Bytes}
    (h : b.takeFrom? route = some (tap, data, b')) :
    b.Leads tap ∧ ∀ tap', b'.Leads tap' → b.Leads tap' := by
  unfold takeFrom? at h
  split at h
  · cases h
  · rename_i m hFind
    have hMem := List.mem_of_find?_eq_some hFind
    split at h
    · cases h
    · rename_i rest _
      cases h
      refine ⟨.inr ⟨m, hMem, rfl⟩, ?_⟩
      rintro tap' (hRoute | ⟨m', hm', rfl⟩)
      · exact .inl hRoute
      · right
        dsimp only at hm'
        split at hm'
        · exact ⟨m', (List.mem_filter.mp hm').1, rfl⟩
        · obtain ⟨m'', hm'', rfl⟩ := List.mem_map.mp hm'
          refine ⟨m'', hm'', ?_⟩
          split
          · rfl
          · rfl

theorem leads_of_routes {tap : T} (h : b'.Leads tap) (hRoutes : ∀ r ∈ b'.routes, r ∈ b.routes)
    (hMailboxes : b'.mailboxes = b.mailboxes) : b.Leads tap := by
  rcases h with ⟨r, hr, rfl⟩ | hMail
  · exact .inl ⟨r, hRoutes r hr, rfl⟩
  · exact .inr (hMailboxes ▸ hMail)

theorem mailboxes_subscribe {pattern : String} {group : Option String} {tap : T}
    (hSubscribe : b.subscribe c pattern group tap = .ok (id, b')) :
    b'.mailboxes = b.mailboxes := by
  unfold subscribe at hSubscribe
  dsimp only at hSubscribe
  split at hSubscribe
  · cases hSubscribe
  · cases hSubscribe
    rfl

theorem mailboxes_unsubscribe (hUnsubscribe : b.unsubscribe c id = .ok b') :
    b'.mailboxes = b.mailboxes := by
  unfold unsubscribe at hUnsubscribe
  dsimp only at hUnsubscribe
  split at hUnsubscribe
  · cases hUnsubscribe
    rfl
  · cases hUnsubscribe

theorem mailboxes_close (b : Broker T) (c : Nat) : (b.close c).mailboxes = b.mailboxes := by
  cases hClosed : (b.connection c).closed with
  | true => rw [close_of_closed hClosed]
  | false =>
    rw [close_of_open hClosed]
    rfl

theorem leads_subscribe {pattern : String} {group : Option String} {tap tap' : T}
    (hSubscribe : b.subscribe c pattern group tap = .ok (id, b')) (h : b'.Leads tap') :
    b.Leads tap' ∨ tap' = tap := by
  obtain ⟨-, -, -, hRoutes, -⟩ := subscribe_eq_ok hSubscribe
  rcases h with ⟨r, hr, rfl⟩ | hMail
  · rw [hRoutes] at hr
    rcases List.mem_append.mp hr with hOld | hNew
    · exact .inl (.inl ⟨r, hOld, rfl⟩)
    · rw [List.mem_singleton.mp hNew]
      exact .inr rfl
  · exact .inl (.inr (mailboxes_subscribe hSubscribe ▸ hMail))

theorem leads_unsubscribe {tap : T} (hUnsubscribe : b.unsubscribe c id = .ok b')
    (h : b'.Leads tap) : b.Leads tap := by
  obtain ⟨-, -, hRoutes, -⟩ := unsubscribe_eq_ok hUnsubscribe
  refine leads_of_routes h (fun r hr => ?_) (mailboxes_unsubscribe hUnsubscribe)
  rw [hRoutes] at hr
  exact (List.mem_filter.mp hr).1

theorem leads_close {tap : T} (h : (b.close c).Leads tap) : b.Leads tap :=
  leads_of_routes h (fun _ hr => routes_close_subset hr) (mailboxes_close b c)

end DeviceBus.Broker
