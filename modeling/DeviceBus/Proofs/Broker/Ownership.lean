import DeviceBus.Proofs.Broker.Journal

/-! # What the connections own

The routes are noted twice, in the table and with the connection that opened them. Both
notes agree in every state, so no route has two owners, a handle that is foreign, stale or
made up takes nothing back, and closing a connection takes its own routes out and no others.
-/

namespace DeviceBus.Broker

variable {T : Type} {b b' : Broker T} {j : Journal T} {c c' id : Nat}

/-! ## Closed connections -/

theorem Shut.connected (hShut : b.Shut c) (hOld : c < b.connections.length) :
    b.connect.2.Shut c := by
  rw [Shut, connection_connect, if_neg (Nat.ne_of_lt hOld)]
  exact hShut

theorem Released.connected (hReleased : b.Released) : b.connect.2.Released := by
  intro c hClosed
  rw [Shut, connection_connect]
  rw [connection_connect] at hClosed
  split at hClosed
  · cases hClosed
  · rename_i hOld
    rw [if_neg hOld]
    exact hReleased c hClosed

theorem Reached.released (hReached : b.Reached) : b.Released := by
  induction hReached with
  | empty => exact fun c hClosed => ⟨hClosed, by simp [connection]⟩
  | connected hReached ih => exact ih.connected
  | changed hReached hChange ih => exact ih.change hChange

theorem connections_change (hChange : Change b b') :
    b'.connections.length = b.connections.length := by
  cases hChange with
  | same => rfl
  | routed subject data => rfl
  | taken hTake => rw [(sameRoutes_takeFrom? hTake).connections]
  | subscribed hSubscribe => exact connections_subscribe hSubscribe
  | unsubscribed hUnsubscribe => exact connections_unsubscribe hUnsubscribe
  | closed c =>
    cases hClosed : (b.connection c).closed with
    | true => rw [close_of_closed hClosed]
    | false =>
      rw [close_of_open hClosed]
      exact List.length_set

theorem Shut.connection_eq (hShut : b.Shut c) : b.connection c = { closed := true } := by
  obtain ⟨hClosed, hNone⟩ := hShut
  generalize b.connection c = conn at hClosed hNone
  cases conn
  simp_all

theorem Shut.set_connection (hShut : b.Shut c) :
    b.connections.set c { closed := true } = b.connections := by
  by_cases hOld : c < b.connections.length
  · have hOwn := hShut.connection_eq
    rw [connection, List.getD_eq_getElem?_getD, List.getElem?_eq_getElem hOld,
      Option.getD_some] at hOwn
    rw [← hOwn, List.set_getElem_self]
  · exact List.set_eq_of_length_le (Nat.not_lt.mp hOld)

theorem Shut.routes_kept (hShut : b.Shut c) (hOwned : b.Owned) :
    (b.routes.filter fun r => !decide (r.connection = c)) = b.routes := by
  apply List.filter_eq_self.mpr
  intro r hr
  have hNotLive : ¬b.Live c r.id := hShut.not_live hOwned
  simpa using fun hSame => hNotLive ⟨r, hr, hSame, rfl⟩

/-- Closing takes out the routes of the connection, marks it and does nothing else. -/
theorem Reached.close_eq (hReached : b.Reached) (c : Nat) :
    b.close c = { b with
      routes := b.routes.filter fun r => !decide (r.connection = c)
      connections := b.connections.set c { closed := true } } := by
  cases hClosed : (b.connection c).closed with
  | true =>
    have hShut := hReached.released c hClosed
    rw [close_of_closed hClosed, hShut.routes_kept hReached.owned, hShut.set_connection]
  | false =>
    have hRoutes := routes_close hReached.owned hClosed
    rw [close_of_open hClosed] at hRoutes ⊢
    simp only [setConnection] at hRoutes ⊢
    rw [hRoutes]

/-! ## Runs -/

theorem step_cases (j : Journal T) (a : Act T) :
    (j.step a).broker = j.broker.connect.2 ∨ Change j.broker (j.step a).broker := by
  cases a with
  | connect => exact .inl rfl
  | subscribe c pattern group tap =>
    right
    rw [Journal.step]
    split
    · exact .same
    · exact .subscribed ‹_›
  | unsubscribe c id =>
    right
    rw [Journal.step]
    split
    · exact .same
    · exact .unsubscribed ‹_›
  | publish c subject data =>
    right
    rw [Journal.step, publish]
    split
    · exact .same
    · rename_i hPublish
      split at hPublish
      · cases hPublish
      · cases hPublish
        exact .routed subject data
  | route subject data => exact .inr (.routed subject data)
  | close c => exact .inr (.closed c)
  | dispatch route =>
    right
    rw [Journal.step]
    split
    · exact .same
    · exact .taken ‹_›

theorem Shut.step (hShut : j.broker.Shut c) (hOld : c < j.broker.connections.length) (a : Act T) :
    (j.step a).broker.Shut c ∧ c < (j.step a).broker.connections.length := by
  cases step_cases j a with
  | inl hConnect =>
    rw [hConnect]
    refine ⟨hShut.connected hOld, ?_⟩
    simp only [connect, List.length_append]
    omega
  | inr hChange => exact ⟨hShut.change hChange, (connections_change hChange).symm ▸ hOld⟩

theorem Shut.run (hShut : j.broker.Shut c) (hOld : c < j.broker.connections.length)
    (acts : List (Act T)) : (j.run acts).broker.Shut c := by
  induction acts generalizing j with
  | nil => exact hShut
  | cons a rest ih =>
    obtain ⟨hShut', hOld'⟩ := hShut.step hOld a
    exact ih hShut' hOld'

/-- Who owns which routes, and what taking back and closing does to them. -/
structure Journal.Apportioned (j : Journal T) : Prop where
  disjoint : ∀ c c' id, id ∈ (j.broker.connection c).owned →
    id ∈ (j.broker.connection c').owned → c = c'
  owned_iff : ∀ c id, id ∈ (j.broker.connection c).owned ↔
    ∃ r ∈ j.broker.routes, r.id = id ∧ r.connection = c
  single : (j.broker.routes.map Route.id).Nodup
  closed : ∀ c, (j.broker.connection c).closed = true → (j.broker.connection c).owned = []
  foreign : ∀ c id, id ∉ (j.broker.connection c).owned →
    j.broker.unsubscribe c id = .error (.unknownSubscription id) ∧ j.step (.unsubscribe c id) = j
  close_eq : ∀ c, j.broker.close c = { j.broker with
    routes := j.broker.routes.filter fun r => !decide (r.connection = c)
    connections := j.broker.connections.set c { closed := true } }
  /-- A connection is closed for good, whatever happens in between. -/
  again : ∀ c < j.broker.connections.length, ∀ later,
    ((j.step (.close c)).run later).step (.close c) = (j.step (.close c)).run later

theorem Owned.connection_eq (hOwned : b.Owned) (h : id ∈ (b.connection c).owned)
    (h' : id ∈ (b.connection c').owned) : c = c' := by
  obtain ⟨r, hr, rfl, rfl⟩ := (hOwned.owned_iff c id).mp h
  obtain ⟨r', hr', rfl, hSame⟩ := (hOwned.owned_iff c' r.id).mp h'
  rw [List.inj_on_of_nodup_map hOwned.ids_nodup hr hr' hSame.symm]

theorem unsubscribe_of_foreign (hForeign : id ∉ (b.connection c).owned) :
    b.unsubscribe c id = .error (.unknownSubscription id) := by
  simp only [unsubscribe, hForeign, if_false]

/-- In every state each route has one owner, which alone can take it back. -/
theorem apportioned_run (acts : List (Act T)) : (({} : Journal T).run acts).Apportioned := by
  have hReached := (faithful_run (T := T) faithful_empty acts).reached
  generalize ({} : Journal T).run acts = j at hReached
  have hOwned := hReached.owned
  refine
    { disjoint := fun c c' id => hOwned.connection_eq
      owned_iff := fun c id => ?_
      single := hOwned.ids_nodup
      closed := fun c hClosed => (hReached.released c hClosed).2
      foreign := fun c id hForeign => ?_
      close_eq := hReached.close_eq
      again := fun c hOld later => ?_ }
  · rw [hOwned.owned_iff, Live]
    simp only [and_comm]
  · have hRefused := unsubscribe_of_foreign hForeign
    refine ⟨hRefused, ?_⟩
    rw [Journal.step, hRefused]
  · have hShut : (j.step (.close c)).broker.Shut c := shut_close hReached.released c
    have hOld' : c < (j.step (.close c)).broker.connections.length := by
      rw [Journal.step, connections_change (.closed c)]
      exact hOld
    have hLater := hShut.run hOld' later
    rw [Journal.step, close_of_closed hLater.1]

end DeviceBus.Broker
