import DeviceBus.Proofs.Mqtt.Journal

/-! # Whom a message on a lane reaches

A lane that was handed out for a filter reaches the live subscriptions that have
it: all of them in order for a plain filter, one of them for a shared one. When
they have gone it reaches nobody ever again, also when the filter has got another
lane since.
-/

namespace DeviceBus.Mqtt

variable {H : Type} {j : Journal H} {filter : String} {index : Nat} {lane : Lane H}
  {m : Member H}

namespace Lane

theorem targets_of_plain (hPlain : lane.shared = false) : lane.targets = lane.handlers.values := by
  rw [targets, hPlain, if_neg Bool.false_ne_true]

theorem targets_of_shared (hShared : lane.shared = true) (hUsed : lane.handlers.values ≠ []) :
    ∃ handler ∈ lane.handlers.values, lane.targets = [handler] := by
  have hSize : lane.handlers.values.length = lane.size := List.length_map ..
  have hTurn : lane.cursor.toNat % lane.size < lane.handlers.values.length := by
    rw [hSize]
    refine Nat.mod_lt _ ?_
    rw [← hSize]
    exact List.length_pos_iff.mpr hUsed
  refine ⟨_, List.getElem_mem hTurn, ?_⟩
  rw [targets, if_pos hShared, List.getElem?_eq_getElem hTurn]
  rfl

theorem targets_of_idle (hIdle : lane.handlers.values = []) : lane.targets = [] := by
  rw [targets, hIdle, List.getElem?_nil]
  exact ite_self _

end Lane

/-! ## Lanes that have gone idle -/

namespace Tied

theorem values_eq (h : Tied j) (hLane : j.lanes.lane? index = some lane) :
    lane.handlers.values = (j.users index).map Member.handler := by
  rw [Table.values, h.handlers index lane hLane, List.map_map]
  rfl

theorem add_lane_of_unused (h : Tied j) (hUnused : ∀ m ∈ j.live, m.filter ≠ filter) (handler : H) :
    (j.lanes.add filter handler).1.lane = j.lanes.opened.length := by
  rw [Lanes.add_of_unused (h.unused_iff.mpr hUnused)]

theorem add_lane_of_used (h : Tied j) (hm : m ∈ j.live) (handler : H) :
    (j.lanes.add m.filter handler).1.lane = m.lane := by
  rw [Lanes.add_of_used (h.used hm)]

/-- A lane that was handed out and is idle is not handed out again. -/
theorem add_lane_ne_idle (h : Tied j) (hm : m ∈ j.added) (hIdle : j.users m.lane = [])
    (filter : String) (handler : H) : (j.lanes.add filter handler).1.lane ≠ m.lane := by
  by_cases hUsed : ∃ m' ∈ j.live, m'.filter = filter
  · obtain ⟨m', hm', rfl⟩ := hUsed
    rw [h.add_lane_of_used hm']
    intro hSame
    have hUser : m' ∈ j.users m.lane := mem_users_iff.mpr ⟨hm', hSame⟩
    rw [hIdle] at hUser
    cases hUser
  · rw [h.add_lane_of_unused (fun m' hm' hFilter => hUsed ⟨m', hm', hFilter⟩)]
    exact Nat.ne_of_gt (h.lane_lt hm)

theorem idle_step (h : Tied j) (hm : m ∈ j.added) (hIdle : j.users m.lane = [])
    (request : Request H) :
    m ∈ (j.step request).added ∧ (j.step request).users m.lane = [] := by
  cases request with
  | add filter handler =>
    refine ⟨List.mem_append_left _ hm, ?_⟩
    simp only [Journal.step, users_append, hIdle,
      if_neg (h.add_lane_ne_idle hm hIdle filter handler), List.append_nil]
  | release id =>
    refine ⟨hm, ?_⟩
    simp only [Journal.step, users_release, hIdle, List.filter_nil]
  | dispatch index => exact ⟨hm, hIdle⟩

theorem idle_run (h : Tied j) (hm : m ∈ j.added) (hIdle : j.users m.lane = [])
    (requests : List (Request H)) :
    m ∈ (j.run requests).added ∧ (j.run requests).users m.lane = [] := by
  induction requests generalizing j with
  | nil => exact ⟨hm, hIdle⟩
  | cons request rest ih =>
    obtain ⟨hm', hIdle'⟩ := h.idle_step hm hIdle request
    exact ih (tied_step h request) hm' hIdle'

end Tied

/-! ## Messages -/

/-- What a message on the lane of an added subscription does. -/
structure Journal.Reaches (j : Journal H) (m : Member H) : Prop where
  /-- All who have the lane are live and have the filter that it was handed out for. -/
  own : ∀ u ∈ j.users m.lane, u ∈ j.live ∧ u.filter = m.filter
  ascending : (j.users m.lane).Pairwise fun u u' => u.id < u'.id
  plain : isShared m.filter = false →
    (j.lanes.dispatch m.lane).1 = (j.users m.lane).map Member.handler
  shared : isShared m.filter = true → j.users m.lane ≠ [] →
    ∃ u ∈ j.users m.lane, (j.lanes.dispatch m.lane).1 = [u.handler]
  calls : (j.lanes.dispatch m.lane).1.length =
    if isShared m.filter then min 1 (j.users m.lane).length else (j.users m.lane).length
  /-- Without users it is done for, whatever is asked next. -/
  idle : j.users m.lane = [] → ∀ later, ((j.run later).lanes.dispatch m.lane).1 = []
  /-- Who comes to a filter gets the lane of those who have it, else a lane that nobody had. -/
  joins : ∀ filter handler, (j.lanes.add filter handler).1.lane = m.lane ↔
    m.filter = filter ∧ j.users m.lane ≠ []

namespace Tied

theorem users_own (h : Tied j) (hm : m ∈ j.added) :
    ∀ u ∈ j.users m.lane, u ∈ j.live ∧ u.filter = m.filter := by
  intro u hu
  obtain ⟨hLive, hLane⟩ := mem_users_iff.mp hu
  refine ⟨hLive, ?_⟩
  obtain ⟨lane, hAt, hFilter, -⟩ := h.handed m hm
  obtain ⟨lane', hAt', hFilter', -⟩ := h.handed u (h.sublist.mem hLive)
  cases (hLane ▸ hAt').symm.trans hAt
  exact hFilter'.symm.trans hFilter

theorem users_ascending (h : Tied j) (index : Nat) :
    (j.users index).Pairwise fun u u' => u.id < u'.id := by
  have hAdded : j.added.Pairwise fun u u' => u.id < u'.id := by
    rw [← List.pairwise_map, h.numbered]
    exact List.pairwise_lt_range
  exact (hAdded.sublist h.sublist).filter _

theorem dispatch_of_idle (h : Tied j) (hm : m ∈ j.added) (hIdle : j.users m.lane = []) :
    (j.lanes.dispatch m.lane).1 = [] := by
  obtain ⟨lane, hLane, -⟩ := h.handed m hm
  rw [Lanes.dispatch, hLane]
  refine Lane.targets_of_idle ?_
  rw [h.values_eq hLane, hIdle]
  rfl

theorem dispatch_of_plain (h : Tied j) (hm : m ∈ j.added) (hPlain : isShared m.filter = false) :
    (j.lanes.dispatch m.lane).1 = (j.users m.lane).map Member.handler := by
  obtain ⟨lane, hLane, -, hShared⟩ := h.handed m hm
  rw [Lanes.dispatch, hLane, ← h.values_eq hLane]
  exact Lane.targets_of_plain (hShared.trans hPlain)

theorem dispatch_of_shared (h : Tied j) (hm : m ∈ j.added) (hShared : isShared m.filter = true)
    (hUsed : j.users m.lane ≠ []) :
    ∃ u ∈ j.users m.lane, (j.lanes.dispatch m.lane).1 = [u.handler] := by
  obtain ⟨lane, hLane, -, hLaneShared⟩ := h.handed m hm
  have hValues := h.values_eq hLane
  obtain ⟨handler, hMem, hTargets⟩ := Lane.targets_of_shared (hLaneShared.trans hShared)
    (by rw [hValues]; exact fun hNone => hUsed (List.map_eq_nil_iff.mp hNone))
  rw [hValues] at hMem
  obtain ⟨u, hu, rfl⟩ := List.mem_map.mp hMem
  refine ⟨u, hu, ?_⟩
  rw [Lanes.dispatch, hLane]
  exact hTargets

theorem calls_eq (h : Tied j) (hm : m ∈ j.added) : (j.lanes.dispatch m.lane).1.length =
    if isShared m.filter then min 1 (j.users m.lane).length else (j.users m.lane).length := by
  cases hShared : isShared m.filter with
  | false =>
    rw [if_neg Bool.false_ne_true, h.dispatch_of_plain hm hShared, List.length_map]
  | true =>
    rw [if_pos rfl]
    by_cases hIdle : j.users m.lane = []
    · rw [h.dispatch_of_idle hm hIdle, hIdle]
      rfl
    · obtain ⟨u, -, hCalls⟩ := h.dispatch_of_shared hm hShared hIdle
      rw [hCalls, Nat.min_eq_left (List.length_pos_iff.mpr hIdle)]
      rfl

theorem joins_iff (h : Tied j) (hm : m ∈ j.added) (filter : String) (handler : H) :
    (j.lanes.add filter handler).1.lane = m.lane ↔ m.filter = filter ∧ j.users m.lane ≠ [] := by
  constructor
  · intro hSame
    have hUsed : j.users m.lane ≠ [] := fun hIdle => h.add_lane_ne_idle hm hIdle _ _ hSame
    refine ⟨?_, hUsed⟩
    by_cases hOther : ∃ m' ∈ j.live, m'.filter = filter
    · obtain ⟨m', hm', rfl⟩ := hOther
      rw [h.add_lane_of_used hm'] at hSame
      exact (h.users_own hm m' (mem_users_iff.mpr ⟨hm', hSame⟩)).2.symm
    · rw [h.add_lane_of_unused fun m' hm' hFilter => hOther ⟨m', hm', hFilter⟩] at hSame
      exact (Nat.ne_of_gt (h.lane_lt hm) hSame).elim
  · rintro ⟨rfl, hUsed⟩
    obtain ⟨u, hu⟩ := List.exists_mem_of_ne_nil _ hUsed
    obtain ⟨hLive, hFilter⟩ := h.users_own hm u hu
    rw [← hFilter, h.add_lane_of_used hLive]
    exact (mem_users_iff.mp hu).2

end Tied

/-- After any requests, a message on a lane that was handed out reaches its live users only. -/
theorem reaches_run (requests : List (Request H)) :
    ∀ m ∈ (({} : Journal H).run requests).added, (({} : Journal H).run requests).Reaches m := by
  intro m hm
  have h := tied_run (H := H) tied_empty requests
  exact {
    own := h.users_own hm
    ascending := h.users_ascending m.lane
    plain := h.dispatch_of_plain hm
    shared := h.dispatch_of_shared hm
    calls := h.calls_eq hm
    idle := fun hIdle later => by
      obtain ⟨hm', hIdle'⟩ := h.idle_run hm hIdle later
      exact (tied_run h later).dispatch_of_idle hm' hIdle'
    joins := h.joins_iff hm }

/-- Two come to a group and the first of them goes. -/
def leftBehind : List (Request String) :=
  [.add "$share/g/a" "first", .add "$share/g/a" "second", .release 0]

theorem leftBehind_reaches : ∃ m ∈ (({} : Journal String).run leftBehind).added,
    (({} : Journal String).run leftBehind).Reaches m ∧ isShared m.filter = true ∧
    ((({} : Journal String).run leftBehind).lanes.dispatch m.lane).1 = ["second"] := by
  have hAdded : ⟨0, "$share/g/a", 0, "first"⟩ ∈ (({} : Journal String).run leftBehind).added :=
    List.mem_cons_self
  exact ⟨_, hAdded, reaches_run leftBehind _ hAdded, by decide, by decide⟩

end DeviceBus.Mqtt
