import DeviceBus.Broker
import DeviceBus.Proofs.Positions

/-! # Whose route is whose

A connection owns exactly the routes that it has opened and not taken back.
Routes are numbered upwards and no number is used twice.
-/

namespace DeviceBus.Broker

variable {T : Type} {b b' : Broker T} {c id : Nat}

/-- The broker has a route of this connection under this number. -/
def Live (b : Broker T) (c id : Nat) : Prop :=
  ∃ r ∈ b.routes, r.connection = c ∧ r.id = id

structure Owned (b : Broker T) : Prop where
  owned_iff : ∀ c id, id ∈ (b.connection c).owned ↔ b.Live c id
  owned_nodup : ∀ c, (b.connection c).owned.Nodup
  ids_nodup : (b.routes.map Route.id).Nodup
  id_lt : ∀ r ∈ b.routes, r.id < b.nextRoute

theorem Owned.live_lt (hOwned : b.Owned) (h : b.Live c id) : id < b.nextRoute := by
  obtain ⟨r, hr, -, rfl⟩ := h
  exact hOwned.id_lt r hr

theorem connection_of_absent (hAbsent : b.connections.length ≤ c) :
    b.connection c = { closed := true } :=
  List.getD_eq_default _ _ hAbsent

theorem Owned.live_bound (hOwned : b.Owned) (h : b.Live c id) : c < b.connections.length := by
  have hMem := (hOwned.owned_iff c id).mpr h
  rcases Nat.lt_or_ge c b.connections.length with hBound | hAbsent
  · exact hBound
  · rw [connection_of_absent hAbsent] at hMem
    cases hMem

theorem owned_empty : ({} : Broker T).Owned where
  owned_iff c id := by simp [connection, Live]
  owned_nodup c := by simp [connection]
  ids_nodup := List.nodup_nil
  id_lt r hr := by cases hr

/-! ## Steps that leave the routes alone -/

/-- Both brokers have the same routes and connections. -/
structure SameRoutes (b b' : Broker T) : Prop where
  routes : b'.routes = b.routes
  connections : b'.connections = b.connections
  nextRoute : b'.nextRoute = b.nextRoute

theorem SameRoutes.live_iff (h : SameRoutes b b') : b'.Live c id ↔ b.Live c id := by
  rw [Live, Live, h.routes]

theorem SameRoutes.connection (h : SameRoutes b b') (c : Nat) :
    b'.connection c = b.connection c := by
  rw [Broker.connection, Broker.connection, h.connections]

theorem Owned.of_sameRoutes (hOwned : b.Owned) (h : SameRoutes b b') : b'.Owned where
  owned_iff c id := by rw [h.connection, h.live_iff, hOwned.owned_iff]
  owned_nodup c := by rw [h.connection]; exact hOwned.owned_nodup c
  ids_nodup := by rw [h.routes]; exact hOwned.ids_nodup
  id_lt := by rw [h.routes, h.nextRoute]; exact hOwned.id_lt

theorem sameRoutes_route (b : Broker T) (subject : String) (data : Bytes) :
    SameRoutes b (b.route subject data).2 := ⟨rfl, rfl, rfl⟩

theorem sameRoutes_takeFrom? {route : Nat} {tap : T} {data : Bytes}
    (h : b.takeFrom? route = some (tap, data, b')) : SameRoutes b b' := by
  unfold takeFrom? at h
  split at h
  · cases h
  · split at h
    · cases h
    · cases h
      exact ⟨rfl, rfl, rfl⟩

/-- Routes come under new numbers only. -/
structure Onward (b b' : Broker T) : Prop where
  nextRoute_le : b.nextRoute ≤ b'.nextRoute
  live : ∀ c id, b'.Live c id → b.Live c id ∨ b.nextRoute ≤ id

theorem Onward.refl (b : Broker T) : b.Onward b where
  nextRoute_le := Nat.le_refl _
  live _ _ hLive := .inl hLive

theorem SameRoutes.onward (h : SameRoutes b b') : b.Onward b' where
  nextRoute_le := Nat.le_of_eq h.nextRoute.symm
  live _ _ hLive := .inl (h.live_iff.mp hLive)

/-! ## Connections -/

theorem connection_setConnection (b : Broker T) (c c' : Nat) (conn : Connection) :
    (b.setConnection c conn).connection c' =
      if c = c' ∧ c < b.connections.length then conn else b.connection c' :=
  Positions.getD_set b.connections c conn c' _

theorem lt_of_open (h : (b.connection c).closed = false) : c < b.connections.length := by
  rcases Nat.lt_or_ge c b.connections.length with hBound | hAbsent
  · exact hBound
  · rw [connection_of_absent hAbsent] at h
    cases h

theorem connection_connect (b : Broker T) (c : Nat) :
    b.connect.2.connection c = if c = b.connections.length then {} else b.connection c := by
  simp only [connection, connect, List.getD_eq_getElem?_getD]
  rcases Nat.lt_trichotomy c b.connections.length with hOld | rfl | hLate
  · rw [List.getElem?_append_left hOld, if_neg (by omega)]
  · simp
  · have hAll : (b.connections ++ [({} : Connection)]).length ≤ c := by
      rw [List.length_append, List.length_singleton]
      exact hLate
    rw [List.getElem?_eq_none hAll, List.getElem?_eq_none (by omega), if_neg (by omega)]

theorem owned_connect (hOwned : b.Owned) : b.connect.2.Owned where
  owned_iff c id := by
    have hLive : b.connect.2.Live c id ↔ b.Live c id := Iff.rfl
    rw [connection_connect, hLive, ← hOwned.owned_iff]
    split
    · rename_i hNew
      subst hNew
      simp [connection]
    · rfl
  owned_nodup c := by
    rw [connection_connect]
    split
    · exact List.nodup_nil
    · exact hOwned.owned_nodup c
  ids_nodup := hOwned.ids_nodup
  id_lt := hOwned.id_lt

/-! ## Opening a route -/

theorem subscribe_eq_ok {pattern : String} {group : Option String} {tap : T}
    (h : b.subscribe c pattern group tap = .ok (id, b')) :
    (b.connection c).closed = false ∧ id = b.nextRoute ∧ b'.nextRoute = b.nextRoute + 1 ∧
    b'.routes = b.routes ++ [{ id, connection := c, pattern, group, tap }] ∧
    ∀ c', b'.connection c' =
      if c = c' then { b.connection c with owned := (b.connection c).owned ++ [id] }
      else b.connection c' := by
  unfold subscribe at h
  dsimp only at h
  split at h
  · cases h
  · rename_i hOpen
    have hOpen : (b.connection c).closed = false := eq_false_of_ne_true hOpen
    cases h
    refine ⟨hOpen, rfl, rfl, rfl, ?_⟩
    intro c'
    have hBound := lt_of_open hOpen
    simp only [connection_setConnection, hBound, and_true]
    rfl

theorem exists_subscribe (hOpen : (b.connection c).closed = false) (pattern : String)
    (group : Option String) (tap : T) :
    ∃ id b', b.subscribe c pattern group tap = .ok (id, b') := by
  unfold subscribe
  simp only [hOpen, Bool.false_eq_true, if_false]
  exact ⟨_, _, rfl⟩

theorem closed_subscribe {pattern : String} {group : Option String} {tap : T}
    (h : b.subscribe c pattern group tap = .ok (id, b')) (c' : Nat) :
    (b'.connection c').closed = (b.connection c').closed := by
  obtain ⟨hOpen, -, -, -, hConnections⟩ := subscribe_eq_ok h
  rw [hConnections]
  split
  · rename_i hSame
    rw [← hSame, hOpen]
  · rfl

theorem live_subscribe {pattern : String} {group : Option String} {tap : T}
    (h : b.subscribe c pattern group tap = .ok (id, b')) (c' id' : Nat) :
    b'.Live c' id' ↔ b.Live c' id' ∨ c' = c ∧ id' = id := by
  obtain ⟨-, -, -, hRoutes, -⟩ := subscribe_eq_ok h
  simp only [Live, hRoutes, List.mem_append, List.mem_singleton, or_and_right, exists_or,
    exists_eq_left]
  constructor
  · rintro (hOld | ⟨rfl, rfl⟩)
    · exact .inl hOld
    · exact .inr ⟨rfl, rfl⟩
  · rintro (hOld | ⟨rfl, rfl⟩)
    · exact .inl hOld
    · exact .inr ⟨rfl, rfl⟩

theorem onward_subscribe {pattern : String} {group : Option String} {tap : T}
    (h : b.subscribe c pattern group tap = .ok (id, b')) : b.Onward b' := by
  obtain ⟨-, hId, hNext, -, -⟩ := subscribe_eq_ok h
  constructor
  · rw [hNext]
    exact Nat.le_succ _
  · intro c' id' hLive
    rcases (live_subscribe h c' id').mp hLive with hOld | ⟨-, hNew⟩
    · exact .inl hOld
    · exact .inr (Nat.le_of_eq (hNew.trans hId).symm)

theorem connections_subscribe {pattern : String} {group : Option String} {tap : T}
    (h : b.subscribe c pattern group tap = .ok (id, b')) :
    b'.connections.length = b.connections.length := by
  unfold subscribe at h
  dsimp only at h
  split at h
  · cases h
  · cases h
    exact List.length_set

theorem owned_subscribe {pattern : String} {group : Option String} {tap : T} (hOwned : b.Owned)
    (h : b.subscribe c pattern group tap = .ok (id, b')) : b'.Owned := by
  obtain ⟨-, rfl, hNext, hRoutes, hConnections⟩ := subscribe_eq_ok h
  have hFresh : b.nextRoute ∉ b.routes.map Route.id := by
    intro hMem
    obtain ⟨r, hr, hId⟩ := List.mem_map.mp hMem
    have hLess := hOwned.id_lt r hr
    omega
  constructor
  · intro c' id'
    rw [live_subscribe h, hConnections]
    split
    · rename_i hSame
      subst hSame
      simp [hOwned.owned_iff]
    · rename_i hOther
      simp [hOwned.owned_iff, Ne.symm hOther]
  · intro c'
    rw [hConnections]
    split
    · have hAbsent : b.nextRoute ∉ (b.connection c).owned := by
        intro hMem
        have hLess := hOwned.live_lt ((hOwned.owned_iff _ _).mp hMem)
        omega
      refine List.nodup_append.mpr ⟨hOwned.owned_nodup c, by simp, ?_⟩
      intro a ha n hn hEq
      rw [List.mem_singleton.mp hn] at hEq
      exact hAbsent (hEq ▸ ha)
    · exact hOwned.owned_nodup c'
  · rw [hRoutes, List.map_append, List.nodup_append]
    refine ⟨hOwned.ids_nodup, by simp, ?_⟩
    intro a ha n hn hEq
    simp only [List.map_cons, List.map_nil, List.mem_singleton] at hn
    exact hFresh (hn ▸ hEq ▸ ha)
  · rw [hRoutes, hNext]
    intro r hr
    rcases List.mem_append.mp hr with hOld | hNew
    · have hLess := hOwned.id_lt r hOld
      omega
    · rw [List.mem_singleton.mp hNew]
      exact Nat.lt_succ_self _

/-! ## Taking a route back -/

theorem unsubscribe_eq_ok (h : b.unsubscribe c id = .ok b') :
    id ∈ (b.connection c).owned ∧ b'.nextRoute = b.nextRoute ∧
    b'.routes = (b.routes.filter fun r => !(r.id = id && r.connection = c)) ∧
    ∀ c', b'.connection c' =
      if c = c' ∧ c < b.connections.length then
        { b.connection c with owned := (b.connection c).owned.erase id }
      else b.connection c' := by
  unfold unsubscribe at h
  dsimp only at h
  split at h
  · rename_i hMem
    cases h
    exact ⟨hMem, rfl, rfl, fun c' => connection_setConnection b c c' _⟩
  · cases h

theorem exists_unsubscribe_iff :
    (∃ b', b.unsubscribe c id = .ok b') ↔ id ∈ (b.connection c).owned := by
  constructor
  · rintro ⟨b', h⟩
    exact (unsubscribe_eq_ok h).1
  · intro h
    unfold unsubscribe
    simp only [h, if_true]
    exact ⟨_, rfl⟩

theorem closed_unsubscribe (h : b.unsubscribe c id = .ok b') (c' : Nat) :
    (b'.connection c').closed = (b.connection c').closed := by
  obtain ⟨-, -, -, hConnections⟩ := unsubscribe_eq_ok h
  rw [hConnections]
  split
  · rename_i hSame
    rw [hSame.1]
  · rfl

theorem live_unsubscribe (h : b.unsubscribe c id = .ok b') (c' id' : Nat) :
    b'.Live c' id' ↔ b.Live c' id' ∧ ¬(c' = c ∧ id' = id) := by
  obtain ⟨-, -, hRoutes, -⟩ := unsubscribe_eq_ok h
  simp only [Live, hRoutes, List.mem_filter, Bool.not_eq_true', Bool.and_eq_false_iff,
    decide_eq_false_iff_not]
  constructor
  · rintro ⟨r, ⟨hr, hKept⟩, rfl, rfl⟩
    refine ⟨⟨r, hr, rfl, rfl⟩, ?_⟩
    rintro ⟨hc, hId⟩
    rcases hKept with hKept | hKept
    · exact hKept hId
    · exact hKept hc
  · rintro ⟨⟨r, hr, rfl, rfl⟩, hOther⟩
    refine ⟨r, ⟨hr, ?_⟩, rfl, rfl⟩
    by_cases hId : r.id = id
    · exact .inr fun hc => hOther ⟨hc, hId⟩
    · exact .inl hId

theorem onward_unsubscribe (h : b.unsubscribe c id = .ok b') : b.Onward b' := by
  obtain ⟨-, hNext, -, -⟩ := unsubscribe_eq_ok h
  exact ⟨Nat.le_of_eq hNext.symm, fun c' id' hLive => .inl ((live_unsubscribe h c' id').mp hLive).1⟩

theorem connections_unsubscribe (h : b.unsubscribe c id = .ok b') :
    b'.connections.length = b.connections.length := by
  unfold unsubscribe at h
  dsimp only at h
  split at h
  · cases h
    exact List.length_set
  · cases h

theorem owned_unsubscribe (hOwned : b.Owned) (h : b.unsubscribe c id = .ok b') : b'.Owned := by
  obtain ⟨hMem, hNext, hRoutes, hConnections⟩ := unsubscribe_eq_ok h
  have hBound : c < b.connections.length :=
    hOwned.live_bound ((hOwned.owned_iff c id).mp hMem)
  simp only [hBound, and_true] at hConnections
  constructor
  · intro c' id'
    rw [live_unsubscribe h, hConnections, ← hOwned.owned_iff]
    split
    · rename_i hSame
      subst hSame
      rw [(hOwned.owned_nodup c).mem_erase_iff, and_comm]
      simp
    · rename_i hOther
      simp [Ne.symm hOther]
  · intro c'
    rw [hConnections]
    split
    · exact (hOwned.owned_nodup c).erase id
    · exact hOwned.owned_nodup c'
  · rw [hRoutes]
    exact hOwned.ids_nodup.sublist (List.filter_sublist.map Route.id)
  · rw [hRoutes, hNext]
    intro r hr
    exact hOwned.id_lt r (List.mem_filter.mp hr).1

end DeviceBus.Broker
