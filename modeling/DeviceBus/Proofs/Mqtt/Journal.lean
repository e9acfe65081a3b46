import Mathlib.Data.List.Nodup
import DeviceBus.Mqtt.Run
import DeviceBus.Proofs.Positions
import DeviceBus.Proofs.Table

/-! # What the lanes hold

The owners of a connection are its live members, each with its filter, and every
lane that was ever handed out holds the live members that have it. The lane of a
filter is that of its live members; a filter without any has no lane.
-/

namespace DeviceBus.Mqtt

variable {H : Type} {l : Lanes H} {j : Journal H} {filter : String} {id index : Nat}
  {lane : Lane H} {m m' : Member H}

/-! ## Requests -/

namespace Lane

def join (lane : Lane H) (id : Nat) (handler : H) : Lane H :=
  { lane with handlers := lane.handlers.insert id handler }

def leave (lane : Lane H) (id : Nat) : Lane H :=
  { lane with handlers := lane.handlers.erase id }

theorem advance_eq (lane : Lane H) :
    lane.advance = { lane with cursor := lane.advance.cursor } := by
  rw [advance]
  split
  · rfl
  · rfl

theorem handlers_leave (lane : Lane H) (id : Nat) :
    (lane.leave id).handlers.entries = lane.handlers.entries.filter fun entry => entry.1 ≠ id :=
  rfl

end Lane

namespace Lanes

theorem add_of_used (hUsed : l.current.get? filter = some index) (handler : H) :
    l.add filter handler = ({ id := l.nextId, lane := index, first := false },
      { l with
        nextId := l.nextId + 1
        opened := l.opened.modify index fun lane => lane.join l.nextId handler
        owners := l.owners.insert l.nextId filter }) := by
  simp only [add, laneFor, hUsed]
  rfl

theorem add_of_unused (hUnused : l.current.get? filter = none) (handler : H) :
    l.add filter handler = ({ id := l.nextId, lane := l.opened.length, first := true },
      { nextId := l.nextId + 1
        opened := l.opened ++ [({ filter, shared := isShared filter } : Lane H).join l.nextId
          handler]
        current := l.current.insert filter l.opened.length
        owners := l.owners.insert l.nextId filter }) := by
  simp only [add, laneFor, hUnused, Positions.modify_concat]
  rfl

theorem release_of_unknown (hOwner : l.owners.get? id = none) : l.release id = (.unknown, l) := by
  simp only [release, hOwner]

theorem release_of_owned (hOwner : l.owners.get? id = some filter)
    (hUsed : l.current.get? filter = some index) (hLane : l.lane? index = some lane) :
    l.release id =
      if (lane.leave id).size = 0 then
        (.dropped filter,
          { l with
            opened := l.opened.modify index fun lane => lane.leave id
            current := l.current.erase filter
            owners := l.owners.erase id })
      else
        (.kept,
          { l with
            opened := l.opened.modify index fun lane => lane.leave id
            owners := l.owners.erase id }) := by
  have hLeft :
      (l.opened.modify index fun lane => lane.leave id)[index]? = some (lane.leave id) := by
    rw [List.getElem?_modify_eq, show l.opened[index]? = some lane from hLane]
    rfl
  simp only [Lane.leave] at hLeft
  simp only [release, hOwner, hUsed, hLeft, Option.map_some, Option.getD_some, Lane.leave]
  rfl

theorem lane?_modify (l : Lanes H) (f : Lane H → Lane H) (index i : Nat) :
    (l.opened.modify index f)[i]? =
      (l.lane? i).map fun lane => if i = index then f lane else lane := by
  rw [List.getElem?_modify, lane?]
  rcases eq_or_ne index i with rfl | hOther
  · simp
  · simp [hOther, hOther.symm]

end Lanes

/-! ## What a journal says of the lanes -/

/-- A lane as it was handed out for a filter. -/
def Lane.IsFor (lane : Lane H) (filter : String) : Prop :=
  lane.filter = filter ∧ lane.shared = isShared filter

structure Tied (j : Journal H) : Prop where
  numbered : j.added.map Member.id = List.range j.lanes.nextId
  sublist : j.live.Sublist j.added
  owners : j.lanes.owners.entries = j.live.map fun m => (m.id, m.filter)
  handlers : ∀ index lane, j.lanes.lane? index = some lane →
    lane.handlers.entries = (j.users index).map fun m => (m.id, m.handler)
  handed : ∀ m ∈ j.added, ∃ lane, j.lanes.lane? m.lane = some lane ∧ lane.IsFor m.filter
  current : ∀ filter index, j.lanes.current.get? filter = some index ↔
    ∃ m ∈ j.live, m.filter = filter ∧ m.lane = index

theorem tied_empty : Tied ({} : Journal H) where
  numbered := rfl
  sublist := .slnil
  owners := rfl
  handlers index lane hLane := by cases hLane
  handed m hm := by cases hm
  current filter index := by
    refine iff_of_false nofun ?_
    rintro ⟨m, hm, -⟩
    cases hm

theorem mem_users_iff : m ∈ j.users index ↔ m ∈ j.live ∧ m.lane = index := by
  rw [Journal.users, List.mem_filter, decide_eq_true_eq]

namespace Tied

theorem ids_nodup (h : Tied j) : (j.added.map Member.id).Nodup := by
  rw [h.numbered]
  exact List.nodup_range

theorem id_lt (h : Tied j) (hm : m ∈ j.added) : m.id < j.lanes.nextId := by
  rw [← List.mem_range, ← h.numbered]
  exact List.mem_map_of_mem hm

theorem eq_of_id (h : Tied j) (hm : m ∈ j.live) (hm' : m' ∈ j.live) (hSame : m.id = m'.id) :
    m = m' :=
  List.inj_on_of_nodup_map h.ids_nodup (h.sublist.mem hm) (h.sublist.mem hm') hSame

theorem owner_iff (h : Tied j) :
    j.lanes.owners.get? id = some filter ↔ ∃ m ∈ j.live, m.id = id ∧ m.filter = filter := by
  simp only [Table.get?_eq_some_iff, h.owners, List.mem_map, Prod.mk.injEq]

theorem owner_eq_none_iff (h : Tied j) :
    j.lanes.owners.get? id = none ↔ ∀ m ∈ j.live, m.id ≠ id := by
  constructor
  · rintro hNone m hm rfl
    cases hNone.symm.trans (h.owner_iff.mpr ⟨m, hm, rfl, rfl⟩)
  · intro hNone
    rw [Option.eq_none_iff_forall_ne_some]
    intro filter hSome
    obtain ⟨m, hm, hId, -⟩ := h.owner_iff.mp hSome
    exact hNone m hm hId

theorem unused_iff (h : Tied j) :
    j.lanes.current.get? filter = none ↔ ∀ m ∈ j.live, m.filter ≠ filter := by
  constructor
  · rintro hNone m hm rfl
    cases hNone.symm.trans ((h.current _ _).mpr ⟨m, hm, rfl, rfl⟩)
  · intro hNone
    rw [Option.eq_none_iff_forall_ne_some]
    intro index hSome
    obtain ⟨m, hm, hFilter, -⟩ := (h.current _ _).mp hSome
    exact hNone m hm hFilter

theorem used (h : Tied j) (hm : m ∈ j.live) : j.lanes.current.get? m.filter = some m.lane :=
  (h.current _ _).mpr ⟨m, hm, rfl, rfl⟩

/-- Two live members have the same lane exactly if they have the same filter. -/
theorem lane_eq_iff (h : Tied j) (hm : m ∈ j.live) (hm' : m' ∈ j.live) :
    m.lane = m'.lane ↔ m.filter = m'.filter := by
  constructor
  · intro hLane
    obtain ⟨lane, hAt, hFor, -⟩ := h.handed m (h.sublist.mem hm)
    obtain ⟨lane', hAt', hFor', -⟩ := h.handed m' (h.sublist.mem hm')
    rw [hLane, hAt'] at hAt
    cases hAt
    exact hFor.symm.trans hFor'
  · intro hFilter
    have hUsed := h.used hm
    rw [hFilter, h.used hm'] at hUsed
    exact (Option.some.inj hUsed).symm

theorem lane_lt (h : Tied j) (hm : m ∈ j.added) : m.lane < j.lanes.opened.length := by
  obtain ⟨lane, hAt, -⟩ := h.handed m hm
  exact (List.getElem?_eq_some_iff.mp hAt).1

theorem owner_nextId (h : Tied j) : j.lanes.owners.get? j.lanes.nextId = none :=
  h.owner_eq_none_iff.mpr fun _ hm => Nat.ne_of_lt (h.id_lt (h.sublist.mem hm))

/-! ## Steps -/

theorem users_append (j : Journal H) (lanes : Lanes H) (m : Member H) (notices : List Notice)
    (index : Nat) :
    Journal.users ⟨lanes, j.added ++ [m], j.live ++ [m], notices⟩ index =
      j.users index ++ if m.lane = index then [m] else [] := by
  rw [Journal.users, List.filter_append, List.filter_singleton]
  simp [Journal.users]

/-- A member is added, to a lane that is there or to a new one. -/
theorem joined (h : Tied j) {lanes : Lanes H} {notices : List Notice} (hId : m.id = j.lanes.nextId)
    (hNext : lanes.nextId = j.lanes.nextId + 1)
    (hOwners : lanes.owners = j.lanes.owners.insert m.id m.filter)
    (hHandlers : ∀ index lane, lanes.lane? index = some lane → lane.handlers.entries =
      (j.users index ++ if m.lane = index then [m] else []).map fun m => (m.id, m.handler))
    (hOwn : ∃ lane, lanes.lane? m.lane = some lane ∧ lane.IsFor m.filter)
    (hOthers : ∀ index lane, j.lanes.lane? index = some lane → ∃ lane', lanes.lane? index =
      some lane' ∧ lane'.filter = lane.filter ∧ lane'.shared = lane.shared)
    (hCurrent : ∀ filter, lanes.current.get? filter =
      if filter = m.filter then some m.lane else j.lanes.current.get? filter)
    (hUsed : ∀ m' ∈ j.live, m'.filter = m.filter → m'.lane = m.lane) :
    Tied ⟨lanes, j.added ++ [m], j.live ++ [m], notices⟩ where
  numbered := by
    rw [List.map_append, h.numbered, hNext, List.range_succ, ← hId]
    rfl
  sublist := h.sublist.append (.refl _)
  owners := by
    rw [hOwners, Table.entries_insert_of_new (hId ▸ h.owner_nextId), h.owners, List.map_append]
    rfl
  handlers index lane hLane := by
    rw [users_append]
    exact hHandlers index lane hLane
  handed := by
    refine List.forall_mem_append.mpr ⟨fun m' hm' => ?_, List.forall_mem_singleton.mpr hOwn⟩
    obtain ⟨lane, hAt, hFor⟩ := h.handed m' hm'
    obtain ⟨lane', hAt', hFilter, hShared⟩ := hOthers _ lane hAt
    exact ⟨lane', hAt', hFilter.trans hFor.1, hShared.trans hFor.2⟩
  current filter index := by
    simp only [List.mem_append, List.mem_singleton, or_and_right, exists_or, exists_eq_left]
    rw [← h.current, hCurrent]
    split
    · rename_i hSame
      subst hSame
      constructor
      · intro hLane
        exact .inr ⟨rfl, Option.some.inj hLane⟩
      · rintro (hOld | ⟨-, rfl⟩)
        · obtain ⟨m', hm', hFilter, rfl⟩ := (h.current _ _).mp hOld
          rw [hUsed m' hm' hFilter]
        · rfl
    · rename_i hOther
      exact (or_iff_left fun hSame => hOther hSame.1.symm).symm

theorem handler_nextId (h : Tied j) (hLane : j.lanes.lane? index = some lane) :
    lane.handlers.get? j.lanes.nextId = none := by
  rw [Option.eq_none_iff_forall_ne_some]
  intro handler hSome
  rw [Table.get?_eq_some_iff, h.handlers index lane hLane, List.mem_map] at hSome
  obtain ⟨m, hm, hEntry⟩ := hSome
  have hLess := h.id_lt (h.sublist.mem (mem_users_iff.mp hm).1)
  exact Nat.ne_of_lt hLess (Prod.mk.inj hEntry).1

/-- A filter that has users keeps its lane. -/
theorem add_used (h : Tied j) (hm : m ∈ j.live) (handler : H) :
    Tied (j.step (.add m.filter handler)) := by
  have hUsed := h.used hm
  obtain ⟨lane, hAt, hFor⟩ := h.handed m (h.sublist.mem hm)
  have hLanes := Lanes.lane?_modify j.lanes (fun lane => lane.join j.lanes.nextId handler) m.lane
  simp only [Journal.step, Lanes.add_of_used hUsed]
  refine h.joined rfl rfl rfl ?_ ⟨lane.join j.lanes.nextId handler, ?_, hFor⟩ ?_ ?_ ?_
  · intro i lane' hLane'
    obtain ⟨lane₀, hLane₀, rfl⟩ := Option.map_eq_some_iff.mp ((hLanes i).symm.trans hLane')
    have hBefore := h.handlers i lane₀ hLane₀
    rcases eq_or_ne i m.lane with rfl | hOther
    · rw [if_pos rfl, if_pos rfl, List.map_append, ← hBefore]
      exact Table.entries_insert_of_new (h.handler_nextId hLane₀) handler
    · rw [if_neg hOther, if_neg (Ne.symm hOther), List.append_nil, hBefore]
  · exact (hLanes m.lane).trans (by rw [hAt, Option.map_some, if_pos rfl])
  · intro i lane₀ hLane₀
    refine ⟨_, (hLanes i).trans (congrArg _ hLane₀), ?_⟩
    split
    · exact ⟨rfl, rfl⟩
    · exact ⟨rfl, rfl⟩
  · intro filter
    split
    · rename_i hSame
      rw [hSame]
      exact hUsed
    · rfl
  · exact fun m' hm' hFilter => (h.lane_eq_iff hm' hm).mpr hFilter

theorem users_opened (h : Tied j) : j.users j.lanes.opened.length = [] := by
  refine List.filter_eq_nil_iff.mpr fun m hm hLane => ?_
  exact Nat.ne_of_lt (h.lane_lt (h.sublist.mem hm)) (of_decide_eq_true hLane)

/-- A filter without users gets a lane that nobody had. -/
theorem add_unused (h : Tied j) (hUnused : ∀ m ∈ j.live, m.filter ≠ filter) (handler : H) :
    Tied (j.step (.add filter handler)) := by
  simp only [Journal.step, Lanes.add_of_unused (h.unused_iff.mpr hUnused)]
  refine h.joined rfl rfl rfl ?_ ⟨_, List.getElem?_concat_length, rfl, rfl⟩ ?_ ?_ ?_
  · intro i lane hLane
    rcases Positions.getElem?_concat_iff.mp hLane with hOld | ⟨rfl, rfl⟩
    · have hBound := (List.getElem?_eq_some_iff.mp hOld).1
      rw [if_neg (Nat.ne_of_gt hBound), List.append_nil]
      exact h.handlers i lane hOld
    · rw [h.users_opened, if_pos rfl]
      rfl
  · intro i lane hLane
    exact ⟨lane, Positions.getElem?_concat_iff.mpr (.inl hLane), rfl, rfl⟩
  · exact fun filter' => Table.get?_insert ..
  · exact fun m hm hFilter => (hUnused m hm hFilter).elim

theorem add (h : Tied j) (filter : String) (handler : H) :
    Tied (j.step (.add filter handler)) := by
  by_cases hUsed : ∃ m ∈ j.live, m.filter = filter
  · obtain ⟨m, hm, rfl⟩ := hUsed
    exact h.add_used hm handler
  · exact h.add_unused (fun m hm hFilter => hUsed ⟨m, hm, hFilter⟩) handler

/-- The live members without the one that is released. -/
theorem users_release (j : Journal H) (lanes : Lanes H) (id : Nat) (notices : List Notice)
    (index : Nat) :
    Journal.users ⟨lanes, j.added, j.live.filter fun m => m.id ≠ id, notices⟩ index =
      (j.users index).filter fun m => m.id ≠ id :=
  List.filter_comm ..

theorem size_leave_iff (h : Tied j) (hm : m ∈ j.live) (hLane : j.lanes.lane? m.lane = some lane) :
    (lane.leave m.id).size = 0 ↔ ∀ m' ∈ j.live, m'.filter = m.filter → m'.id = m.id := by
  rw [Lane.size, Table.size, List.length_eq_zero_iff, Lane.handlers_leave, h.handlers _ lane hLane]
  simp only [List.filter_eq_nil_iff, List.mem_map, decide_eq_true_eq, not_not]
  constructor
  · intro hAll m' hm' hFilter
    exact hAll _ ⟨m', mem_users_iff.mpr ⟨hm', (h.lane_eq_iff hm' hm).mpr hFilter⟩, rfl⟩
  · rintro hAll _ ⟨m', hUser, rfl⟩
    obtain ⟨hm', hSame⟩ := mem_users_iff.mp hUser
    exact hAll m' hm' ((h.lane_eq_iff hm' hm).mp hSame)

/-- The filters that are used without one of the live members. -/
theorem current_left (h : Tied j) (hm : m ∈ j.live) :
    (if filter = m.filter ∧ ∀ m' ∈ j.live, m'.filter = m.filter → m'.id = m.id then none
      else j.lanes.current.get? filter) = some index ↔
    ∃ m' ∈ j.live.filter fun m' => m'.id ≠ m.id, m'.filter = filter ∧ m'.lane = index := by
  simp only [List.mem_filter, decide_eq_true_eq]
  split
  · rename_i hGone
    refine iff_of_false nofun ?_
    rintro ⟨m', ⟨hm', hOther⟩, hFilter, -⟩
    exact hOther (hGone.2 m' hm' (hFilter.trans hGone.1))
  · rename_i hStays
    rw [h.current]
    constructor
    · rintro ⟨m', hm', hFilter, hLane⟩
      by_cases hSame : m'.id = m.id
      · -- The lane of the one that goes is that of another who stays.
        cases h.eq_of_id hm' hm hSame
        simp only [hFilter, true_and, not_forall] at hStays
        obtain ⟨other, hOther, hSameFilter, hApart⟩ := hStays
        refine ⟨other, ⟨hOther, hApart⟩, hSameFilter, ?_⟩
        rw [← hLane]
        exact (h.lane_eq_iff hOther hm).mpr (hSameFilter.trans hFilter.symm)
      · exact ⟨m', ⟨hm', hSame⟩, hFilter, hLane⟩
    · rintro ⟨m', ⟨hm', -⟩, hFilter, hLane⟩
      exact ⟨m', hm', hFilter, hLane⟩

/-- A live member goes; its filter loses its lane if it was the last. -/
theorem left (h : Tied j) {lanes : Lanes H} {notices : List Notice} (hm : m ∈ j.live)
    (hNext : lanes.nextId = j.lanes.nextId)
    (hOwners : lanes.owners = j.lanes.owners.erase m.id)
    (hOpened : lanes.opened = j.lanes.opened.modify m.lane fun lane => lane.leave m.id)
    (hCurrent : ∀ filter, lanes.current.get? filter =
      if filter = m.filter ∧ ∀ m' ∈ j.live, m'.filter = m.filter → m'.id = m.id then none
      else j.lanes.current.get? filter) :
    Tied ⟨lanes, j.added, j.live.filter fun m' => m'.id ≠ m.id, notices⟩ := by
  have hLanes : ∀ i, lanes.lane? i = _ := fun i => (congrArg (·[i]?) hOpened).trans
    (j.lanes.lane?_modify (fun lane => lane.leave m.id) m.lane i)
  constructor
  · rw [h.numbered, hNext]
  · exact List.filter_sublist.trans h.sublist
  · rw [hOwners, Table.entries_erase, h.owners, List.filter_map]
    rfl
  · intro i lane' hLane'
    obtain ⟨lane, hLane, rfl⟩ := Option.map_eq_some_iff.mp ((hLanes i).symm.trans hLane')
    have hBefore := h.handlers i lane hLane
    rw [users_release]
    rcases eq_or_ne i m.lane with rfl | hOther
    · rw [if_pos rfl, Lane.handlers_leave, hBefore, List.filter_map]
      rfl
    · rw [if_neg hOther, hBefore, List.filter_eq_self.mpr]
      intro m' hUser
      obtain ⟨hm', hLane'⟩ := mem_users_iff.mp hUser
      refine decide_eq_true fun hSame => hOther ?_
      rw [← hLane', h.eq_of_id hm' hm hSame]
  · intro m' hm'
    obtain ⟨lane, hAt, hFor⟩ := h.handed m' hm'
    refine ⟨_, (hLanes m'.lane).trans (congrArg _ hAt), ?_⟩
    split
    · exact hFor
    · exact hFor
  · intro filter index
    rw [hCurrent]
    exact h.current_left hm

theorem release (h : Tied j) (id : Nat) : Tied (j.step (.release id)) := by
  cases hOwner : j.lanes.owners.get? id with
  | none =>
    have hStay : j.live.filter (fun m => m.id ≠ id) = j.live := by
      refine List.filter_eq_self.mpr fun m hm => decide_eq_true ?_
      exact h.owner_eq_none_iff.mp hOwner m hm
    simp only [Journal.step, Lanes.release_of_unknown hOwner, hStay]
    exact ⟨h.numbered, h.sublist, h.owners, h.handlers, h.handed, h.current⟩
  | some filter =>
    obtain ⟨m, hm, rfl, rfl⟩ := h.owner_iff.mp hOwner
    obtain ⟨lane, hLane, -⟩ := h.handed m (h.sublist.mem hm)
    have hLast := h.size_leave_iff hm hLane
    simp only [Journal.step, Lanes.release_of_owned hOwner (h.used hm) hLane]
    split
    · rename_i hEmpty
      refine h.left hm rfl rfl rfl fun filter => ?_
      rw [if_congr (and_iff_left (hLast.mp hEmpty)) rfl rfl]
      exact Table.get?_erase j.lanes.current m.filter filter
    · rename_i hOthers
      refine h.left hm rfl rfl rfl fun filter => ?_
      rw [if_neg]
      rintro ⟨-, hAll⟩
      exact hOthers (hLast.mpr hAll)

/-- Turns do not count. -/
theorem dispatch (h : Tied j) (index : Nat) : Tied (j.step (.dispatch index)) := by
  simp only [Journal.step, Lanes.dispatch]
  split
  · exact h
  · rename_i lane hLane
    have hLanes : ∀ i, (j.lanes.setLane index lane.advance).lane? i =
        if i = index then some lane.advance else j.lanes.lane? i := by
      intro i
      rw [Lanes.lane?, Lanes.setLane, List.getElem?_set]
      split
      · rename_i hSame
        rw [if_pos hSame.symm, if_pos (List.getElem?_eq_some_iff.mp hLane).1]
      · rename_i hOther
        rw [if_neg (Ne.symm hOther), Lanes.lane?]
    refine ⟨h.numbered, h.sublist, h.owners, ?_, ?_, h.current⟩
    · intro i lane' hLane'
      rw [hLanes] at hLane'
      split at hLane'
      · rename_i hSame
        cases hLane'
        rw [lane.advance_eq]
        exact h.handlers i lane (hSame ▸ hLane)
      · exact h.handlers i lane' hLane'
    · intro m hm
      obtain ⟨lane', hAt, hFor⟩ := h.handed m hm
      rw [hLanes]
      split
      · rename_i hSame
        cases hAt.symm.trans (hSame ▸ hLane)
        refine ⟨_, rfl, ?_⟩
        rw [lane.advance_eq]
        exact hFor
      · exact ⟨lane', hAt, hFor⟩

end Tied

theorem tied_step (h : Tied j) (request : Request H) : Tied (j.step request) := by
  cases request with
  | add filter handler => exact h.add filter handler
  | release id => exact h.release id
  | dispatch index => exact h.dispatch index

theorem tied_run (h : Tied j) (requests : List (Request H)) : Tied (j.run requests) := by
  induction requests generalizing j with
  | nil => exact h
  | cons request rest ih => exact ih (tied_step h request)

end DeviceBus.Mqtt
