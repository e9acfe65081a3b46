import DeviceBus.Proofs.Mqtt.Journal

/-! # Who uses a filter

The answers to subscriptions and releases tell exactly when a filter comes into
use and when its last subscription goes. So for each filter the two notices take
turns, whatever else is subscribed and released in between.
-/

namespace DeviceBus.Mqtt

variable {H : Type} {j : Journal H} {filter : String} {id index : Nat} {request : Request H}

namespace Journal

/-- Some live subscription uses the filter. -/
def InUse (j : Journal H) (filter : String) : Prop :=
  ∃ m ∈ j.live, m.filter = filter

theorem inUse_add (j : Journal H) (filter' filter : String) (handler : H) :
    (j.step (.add filter' handler)).InUse filter ↔ j.InUse filter ∨ filter' = filter := by
  simp only [InUse, step, List.mem_append, List.mem_singleton, or_and_right, exists_or,
    exists_eq_left]

theorem inUse_release (j : Journal H) (id : Nat) (filter : String) :
    (j.step (.release id)).InUse filter ↔ ∃ m ∈ j.live, m.filter = filter ∧ m.id ≠ id := by
  simp only [InUse, step, List.mem_filter, decide_eq_true_eq, and_assoc, and_comm]

theorem noticesOf_add (j : Journal H) (filter' filter : String) (handler : H) :
    (j.step (.add filter' handler)).noticesOf filter = j.noticesOf filter ++
      if (j.lanes.add filter' handler).1.first = true ∧ filter' = filter then [.first filter]
      else [] := by
  rw [noticesOf, step, List.filter_append]
  refine congrArg (j.noticesOf filter ++ ·) ?_
  cases (j.lanes.add filter' handler).1.first with
  | false => rfl
  | true =>
    rcases eq_or_ne filter' filter with rfl | hOther
    · simp [Notice.filter]
    · simp [Notice.filter, hOther]

theorem noticesOf_release (j : Journal H) (id : Nat) (filter : String) :
    (j.step (.release id)).noticesOf filter = j.noticesOf filter ++
      if (j.lanes.release id).1 = .dropped filter then [.dropped filter] else [] := by
  rw [noticesOf, step, List.filter_append]
  refine congrArg (j.noticesOf filter ++ ·) ?_
  cases (j.lanes.release id).1 with
  | unknown => rfl
  | kept => rfl
  | dropped filter' =>
    rcases eq_or_ne filter' filter with rfl | hOther
    · simp [Notice.filter]
    · simp [Notice.filter, hOther]

end Journal

/-! ## Answers -/

namespace Tied

theorem first_iff (h : Tied j) (filter : String) (handler : H) :
    (j.lanes.add filter handler).1.first = true ↔ ∀ m ∈ j.live, m.filter ≠ filter := by
  rw [← h.unused_iff]
  cases hUsed : j.lanes.current.get? filter with
  | some index => rw [Lanes.add_of_used hUsed]; exact iff_of_false nofun nofun
  | none => rw [Lanes.add_of_unused hUsed]; exact iff_of_true rfl rfl

theorem unknown_iff (h : Tied j) (id : Nat) :
    (j.lanes.release id).1 = .unknown ↔ ∀ m ∈ j.live, m.id ≠ id := by
  rw [← h.owner_eq_none_iff]
  cases hOwner : j.lanes.owners.get? id with
  | none => rw [Lanes.release_of_unknown hOwner]; exact iff_of_true rfl rfl
  | some filter =>
    obtain ⟨m, hm, rfl, rfl⟩ := h.owner_iff.mp hOwner
    obtain ⟨lane, hLane, -⟩ := h.handed m (h.sublist.mem hm)
    rw [Lanes.release_of_owned hOwner (h.used hm) hLane]
    refine iff_of_false ?_ nofun
    split
    · exact nofun
    · exact nofun

theorem dropped_iff (h : Tied j) (id : Nat) (filter : String) :
    (j.lanes.release id).1 = .dropped filter ↔ ∃ m ∈ j.live, m.id = id ∧ m.filter = filter ∧
      ∀ m' ∈ j.live, m'.filter = filter → m'.id = id := by
  cases hOwner : j.lanes.owners.get? id with
  | none =>
    rw [Lanes.release_of_unknown hOwner]
    refine iff_of_false nofun ?_
    rintro ⟨m, hm, hId, -⟩
    exact h.owner_eq_none_iff.mp hOwner m hm hId
  | some filter' =>
    obtain ⟨m, hm, rfl, rfl⟩ := h.owner_iff.mp hOwner
    obtain ⟨lane, hLane, -⟩ := h.handed m (h.sublist.mem hm)
    have hLast := h.size_leave_iff hm hLane
    rw [Lanes.release_of_owned hOwner (h.used hm) hLane]
    constructor
    · split
      · rename_i hEmpty
        rintro ⟨⟩
        exact ⟨m, hm, rfl, rfl, hLast.mp hEmpty⟩
      · rintro ⟨⟩
    · rintro ⟨m', hm', hSame, rfl, hAll⟩
      cases h.eq_of_id hm' hm hSame
      rw [if_pos (hLast.mpr hAll)]

/-- A request tells of a filter exactly if it brings it into use or out of it. -/
theorem noted (h : Tied j) (request : Request H) (filter : String) :
    (j.step request).noticesOf filter = j.noticesOf filter ∧
        ((j.step request).InUse filter ↔ j.InUse filter) ∨
      (j.step request).noticesOf filter = j.noticesOf filter ++ [.first filter] ∧
        ¬ j.InUse filter ∧ (j.step request).InUse filter ∨
      (j.step request).noticesOf filter = j.noticesOf filter ++ [.dropped filter] ∧
        j.InUse filter ∧ ¬ (j.step request).InUse filter := by
  cases request with
  | add filter' handler =>
    rw [Journal.noticesOf_add, Journal.inUse_add]
    split
    · rename_i hFirst
      obtain ⟨hFirst, rfl⟩ := hFirst
      refine .inr (.inl ⟨rfl, ?_, .inr rfl⟩)
      rintro ⟨m, hm, hFilter⟩
      exact (h.first_iff filter' handler).mp hFirst m hm hFilter
    · rename_i hNotFirst
      refine .inl ⟨List.append_nil _, or_iff_left_of_imp ?_⟩
      rintro rfl
      simp only [and_true, h.first_iff, not_forall, not_not] at hNotFirst
      obtain ⟨m, hm, hFilter⟩ := hNotFirst
      exact ⟨m, hm, hFilter⟩
  | release id =>
    rw [Journal.noticesOf_release, Journal.inUse_release]
    split
    · rename_i hDropped
      obtain ⟨m, hm, -, hFilter, hAll⟩ := (h.dropped_iff id filter).mp hDropped
      refine .inr (.inr ⟨rfl, ⟨m, hm, hFilter⟩, ?_⟩)
      rintro ⟨m', hm', hFilter', hOther⟩
      exact hOther (hAll m' hm' hFilter')
    · rename_i hNotDropped
      refine .inl ⟨List.append_nil _, ?_⟩
      constructor
      · rintro ⟨m, hm, hFilter, -⟩
        exact ⟨m, hm, hFilter⟩
      · rintro ⟨m, hm, hFilter⟩
        by_contra hGone
        have hAll : ∀ m' ∈ j.live, m'.filter = filter → m'.id = id := by
          intro m' hm' hFilter'
          by_contra hOther
          exact hGone ⟨m', hm', hFilter', hOther⟩
        exact hNotDropped ((h.dropped_iff id filter).mpr ⟨m, hm, hAll m hm hFilter, hFilter, hAll⟩)
  | dispatch index => exact .inl ⟨rfl, .rfl⟩

end Tied

/-! ## Turns -/

/-- The notices of a filter take turns, and the last tells whether it is in use. -/
structure Journal.TakesTurns (j : Journal H) (filter : String) : Prop where
  turns : ∀ i n, (j.noticesOf filter)[i]? = some n →
    n = if i % 2 = 0 then .first filter else .dropped filter
  inUse : j.InUse filter ↔ (j.noticesOf filter).length % 2 = 1

namespace Journal.TakesTurns

theorem empty (filter : String) : ({} : Journal H).TakesTurns filter where
  turns i n hAt := by cases hAt
  inUse := iff_of_false (fun ⟨_, hm, _⟩ => by cases hm) nofun

/-- The notice whose turn it is comes when the filter is taken into use or out of it. -/
theorem next (h : j.TakesTurns filter) {j' : Journal H} {n : Notice}
    (hNotices : j'.noticesOf filter = j.noticesOf filter ++ [n])
    (hTurn : n = if (j.noticesOf filter).length % 2 = 0 then .first filter else .dropped filter)
    (hChange : j'.InUse filter ↔ ¬ j.InUse filter) : j'.TakesTurns filter := by
  refine ⟨fun i n' hAt => ?_, ?_⟩
  · rw [hNotices, Positions.getElem?_concat_iff] at hAt
    rcases hAt with hOld | ⟨rfl, rfl⟩
    · exact h.turns i n' hOld
    · exact hTurn
  · rw [hChange, h.inUse, hNotices, List.length_append, List.length_singleton]
    omega

theorem step (hTied : Tied j) (h : j.TakesTurns filter) (request : Request H) :
    (j.step request).TakesTurns filter := by
  have hUse := h.inUse
  rcases hTied.noted request filter with
    ⟨hNotices, hSame⟩ | ⟨hNotices, hBefore, hAfter⟩ | ⟨hNotices, hBefore, hAfter⟩
  · exact ⟨hNotices ▸ h.turns, hNotices ▸ hSame.trans hUse⟩
  · refine h.next hNotices ?_ (iff_of_true hAfter hBefore)
    rw [hUse] at hBefore
    rw [if_pos (by omega)]
  · refine h.next hNotices ?_ (iff_of_false hAfter (not_not_intro hBefore))
    rw [hUse] at hBefore
    rw [if_neg (by omega)]

theorem run (hTied : Tied j) (h : j.TakesTurns filter) (requests : List (Request H)) :
    (j.run requests).TakesTurns filter := by
  induction requests generalizing j with
  | nil => exact h
  | cons request rest ih => exact ih (tied_step hTied request) (h.step hTied request)

end Journal.TakesTurns

/-! ## The books -/

/-- What a connection keeps of its subscriptions, and what it answers next. -/
structure Journal.Kept (j : Journal H) : Prop where
  /-- A subscription is owned by a filter if its handler is in the lane of the filter. -/
  owners : ∀ id filter, j.lanes.owners.get? id = some filter ↔
    ∃ index lane m, j.lanes.current.get? filter = some index ∧
      j.lanes.lane? index = some lane ∧ m ∈ j.added ∧ m.id = id ∧
      lane.handlers.get? id = some m.handler
  /-- No filter has an empty lane. -/
  filled : ∀ filter index, j.lanes.current.get? filter = some index →
    ∃ lane, j.lanes.lane? index = some lane ∧ lane.size ≠ 0
  ids : (j.added.map Member.id).Nodup
  size : j.lanes.size = j.live.length
  first : ∀ filter handler, (j.lanes.add filter handler).1.first = true ↔
    ∀ m ∈ j.live, m.filter ≠ filter
  unknown : ∀ id, (j.lanes.release id).1 = .unknown ↔ ∀ m ∈ j.live, m.id ≠ id
  dropped : ∀ id filter, (j.lanes.release id).1 = .dropped filter ↔
    ∃ m ∈ j.live, m.id = id ∧ m.filter = filter ∧
      ∀ m' ∈ j.live, m'.filter = filter → m'.id = id
  turns : ∀ filter i n, (j.noticesOf filter)[i]? = some n →
    n = if i % 2 = 0 then .first filter else .dropped filter

namespace Tied

theorem handler_iff (h : Tied j) {lane : Lane H} (hLane : j.lanes.lane? index = some lane)
    (handler : H) : lane.handlers.get? id = some handler ↔
      ∃ m ∈ j.live, m.lane = index ∧ m.id = id ∧ m.handler = handler := by
  simp only [Table.get?_eq_some_iff, h.handlers index lane hLane, List.mem_map, mem_users_iff,
    Prod.mk.injEq, and_assoc]

theorem owned_iff (h : Tied j) (id : Nat) (filter : String) :
    j.lanes.owners.get? id = some filter ↔
      ∃ index lane m, j.lanes.current.get? filter = some index ∧
        j.lanes.lane? index = some lane ∧ m ∈ j.added ∧ m.id = id ∧
        lane.handlers.get? id = some m.handler := by
  rw [h.owner_iff]
  constructor
  · rintro ⟨m, hm, rfl, rfl⟩
    obtain ⟨lane, hLane, -⟩ := h.handed m (h.sublist.mem hm)
    exact ⟨m.lane, lane, m, h.used hm, hLane, h.sublist.mem hm, rfl,
      (h.handler_iff hLane m.handler).mpr ⟨m, hm, rfl, rfl, rfl⟩⟩
  · rintro ⟨index, lane, m, hUsed, hLane, -, -, hHandler⟩
    obtain ⟨m₀, hm₀, rfl, rfl⟩ := (h.current filter index).mp hUsed
    obtain ⟨m', hm', hSame, hId, -⟩ := (h.handler_iff hLane m.handler).mp hHandler
    exact ⟨m', hm', hId, (h.lane_eq_iff hm' hm₀).mp hSame⟩

theorem lane_filled (h : Tied j) (hUsed : j.lanes.current.get? filter = some index) :
    ∃ lane, j.lanes.lane? index = some lane ∧ lane.size ≠ 0 := by
  obtain ⟨m, hm, rfl, rfl⟩ := (h.current filter index).mp hUsed
  obtain ⟨lane, hLane, -⟩ := h.handed m (h.sublist.mem hm)
  refine ⟨lane, hLane, fun hNone => ?_⟩
  have hHandler := (h.handler_iff hLane m.handler).mpr ⟨m, hm, rfl, rfl, rfl⟩
  rw [Table.get?_eq_some_iff, List.eq_nil_of_length_eq_zero hNone] at hHandler
  cases hHandler

theorem size_eq (h : Tied j) : j.lanes.size = j.live.length := by
  rw [Lanes.size, Table.size, h.owners, List.length_map]

end Tied

/-- The books of a connection are right after any subscriptions and releases. -/
theorem kept_run (requests : List (Request H)) : (({} : Journal H).run requests).Kept := by
  have h := tied_run (H := H) tied_empty requests
  exact {
    owners := h.owned_iff
    filled := fun _ _ => h.lane_filled
    ids := h.ids_nodup
    size := h.size_eq
    first := h.first_iff
    unknown := h.unknown_iff
    dropped := h.dropped_iff
    turns := fun filter => ((Journal.TakesTurns.empty filter).run tied_empty requests).turns }

end DeviceBus.Mqtt
