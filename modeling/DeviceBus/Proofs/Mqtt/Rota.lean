import DeviceBus.Proofs.Mqtt.Dispatch
import DeviceBus.Proofs.Rota

/-! # A shared lane as a rota

A connection with one shared filter hands each message to the member whose turn it is, as
long as the filter is never without members once somebody has come. A filter that is left by
all begins anew with the first turn.
-/

namespace DeviceBus.Mqtt

variable {H : Type} {filter : String} {j : Journal Nat} {r : Rota}

namespace Journal

/-- Who is called for a message. -/
def answer (j : Journal H) : Request H → List (List H)
  | .dispatch lane => [(j.lanes.dispatch lane).1]
  | _ => []

def answers : Journal H → List (Request H) → List (List H)
  | _, [] => []
  | j, request :: rest => j.answer request ++ (j.step request).answers rest

end Journal

/-- What an event asks of the first lane. Members bring their number as handler. -/
def request (filter : String) (r : Rota) : Rota.Event → Request Nat
  | .join => .add filter r.joined
  | .leave member => .release member
  | .message => .dispatch 0

def requests (filter : String) : Rota → List Rota.Event → List (Request Nat)
  | _, [] => []
  | r, event :: rest => request filter r event :: requests filter (r.step event) rest

/-- The member that came as number `n`. -/
def rider (filter : String) (n : Nat) : Member Nat :=
  { id := n, filter, lane := 0, handler := n }

/-- The first lane is the only one and stands where the rota stands. -/
structure Rides (filter : String) (j : Journal Nat) (r : Rota) : Prop where
  tied : Tied j
  added : j.added = (List.range r.joined).map (rider filter)
  live : j.live = r.staff.map (rider filter)
  cursors : j.lanes.opened.map Lane.cursor = if r.joined = 0 then [] else [r.turn]
  unturned : r.joined = 0 → r.turn = 0

/-! ## Turns stay while members come and go -/

theorem Lanes.cursors_release (l : Lanes H) (id : Nat) :
    (l.release id).2.opened.map Lane.cursor = l.opened.map Lane.cursor := by
  have hLeave := Positions.map_modify (fun lane : Lane H => lane.leave id)
    (g := Lane.cursor) (fun _ => rfl) l.opened
  simp only [release]
  split
  · rfl
  · split
    · rfl
    · split
      · exact hLeave _
      · exact hLeave _

theorem Lane.cursor_advance {lane : Lane H} (hShared : lane.shared = true) :
    lane.advance.cursor =
      if lane.handlers.values = [] then lane.cursor else lane.cursor + 1 := by
  have hEmpty : lane.handlers.isEmpty = true ↔ lane.handlers.values = [] := by
    rw [Table.isEmpty, Table.values, List.isEmpty_iff, List.map_eq_nil_iff]
  by_cases hNone : lane.handlers.values = []
  · simp [advance, hNone, hEmpty.mpr hNone]
  · simp [advance, hShared, hNone, eq_false_of_ne_true (mt hEmpty.mp hNone)]

theorem Lane.targets_eq_of_shared {lane : Lane H} (hShared : lane.shared = true) :
    lane.targets =
      (lane.handlers.values[lane.cursor.toNat % lane.handlers.values.length]?).toList := by
  rw [targets, if_pos hShared, size, Table.size, Table.values, List.length_map]

/-! ## Steps -/

namespace Rides

theorem empty (filter : String) : Rides filter {} {} where
  tied := tied_empty
  added := rfl
  live := rfl
  cursors := rfl
  unturned _ := rfl

theorem staff_nil (h : Rides filter j r) (hNew : r.joined = 0) : r.staff = [] := by
  have hSublist := h.tied.sublist
  rw [h.added, h.live, hNew] at hSublist
  exact List.map_eq_nil_iff.mp (List.sublist_nil.mp hSublist)

theorem nextId (h : Rides filter j r) : j.lanes.nextId = r.joined := by
  have hNumbered := congrArg List.length h.tied.numbered
  rw [h.added] at hNumbered
  simpa using hNumbered.symm

theorem opened_nil (h : Rides filter j r) (hNew : r.joined = 0) : j.lanes.opened = [] := by
  have hCursors := h.cursors
  rw [if_pos hNew] at hCursors
  exact List.map_eq_nil_iff.mp hCursors

/-- The one lane there is when somebody has come. -/
theorem exists_lane (h : Rides filter j r) (hOld : r.joined ≠ 0) :
    ∃ lane, j.lanes.opened = [lane] ∧ lane.cursor = r.turn ∧ lane.IsFor filter := by
  have hCursors := h.cursors
  rw [if_neg hOld] at hCursors
  obtain ⟨lane, hOpened, hCursor⟩ := List.map_eq_singleton_iff.mp hCursors
  have hFirst : rider filter 0 ∈ j.added := by
    rw [h.added]
    exact List.mem_map_of_mem (List.mem_range.mpr (Nat.pos_of_ne_zero hOld))
  obtain ⟨lane', hLane, hFor⟩ := h.tied.handed _ hFirst
  rw [Lanes.lane?, hOpened] at hLane
  cases hLane
  exact ⟨lane, hOpened, hCursor, hFor⟩

theorem add_eq (h : Rides filter j r) (hStaffed : r.joined ≠ 0 → r.staff ≠ []) :
    ∃ first lanes, j.lanes.add filter r.joined = ({ id := r.joined, lane := 0, first }, lanes) ∧
      lanes.opened.map Lane.cursor = [r.turn] := by
  -- Who comes first opens the lane, and who comes later finds a member who has it.
  by_cases hNew : r.joined = 0
  · have hUnused : j.lanes.current.get? filter = none := by
      rw [h.tied.unused_iff, h.live, h.staff_nil hNew]
      exact List.forall_mem_nil _
    rw [Lanes.add_of_unused hUnused, h.opened_nil hNew, h.nextId]
    refine ⟨true, _, rfl, ?_⟩
    rw [h.unturned hNew]
    rfl
  · obtain ⟨n, hn⟩ := List.exists_mem_of_ne_nil _ (hStaffed hNew)
    have hLive : rider filter n ∈ j.live := by
      rw [h.live]
      exact List.mem_map_of_mem hn
    have hUsed : j.lanes.current.get? filter = some 0 := h.tied.used hLive
    rw [Lanes.add_of_used hUsed, h.nextId]
    refine ⟨false, _, rfl, ?_⟩
    have hCursors := h.cursors
    rw [if_neg hNew] at hCursors
    rw [← hCursors]
    exact Positions.map_modify (fun lane : Lane Nat => lane.join r.joined r.joined)
      (g := Lane.cursor) (fun _ => rfl) _ _

theorem join (h : Rides filter j r) (hStaffed : r.joined ≠ 0 → r.staff ≠ []) :
    Rides filter (j.step (.add filter r.joined)) (r.step .join) := by
  obtain ⟨first, lanes, hAdd, hCursors⟩ := h.add_eq hStaffed
  constructor
  · exact tied_step h.tied _
  · simp only [Journal.step, hAdd, Rota.step, h.added, List.range_succ, List.map_append]
    rfl
  · simp only [Journal.step, hAdd, Rota.step, h.live, List.map_append]
    rfl
  · simp only [Journal.step, hAdd, Rota.step, hCursors, Nat.add_eq_zero_iff, Nat.one_ne_zero,
      and_false, if_false]
  · exact fun hNone => (Nat.succ_ne_zero _ hNone).elim

theorem leave (h : Rides filter j r) (member : Nat) :
    Rides filter (j.step (.release member)) (r.step (.leave member)) where
  tied := tied_step h.tied _
  added := h.added
  live := by
    simp only [Journal.step, Rota.step, h.live, List.filter_map]
    rfl
  cursors := (Lanes.cursors_release _ member).trans h.cursors
  unturned := h.unturned

theorem values_eq (h : Rides filter j r) {lane : Lane Nat} (hOpened : j.lanes.opened = [lane]) :
    lane.handlers.values = r.staff := by
  have hLane : j.lanes.lane? 0 = some lane := by rw [Lanes.lane?, hOpened]; rfl
  have hUsers : j.users 0 = j.live := by
    rw [Journal.users, List.filter_eq_self, h.live]
    intro m hm
    obtain ⟨n, -, rfl⟩ := List.mem_map.mp hm
    rfl
  rw [h.tied.values_eq hLane, hUsers, h.live, List.map_map]
  exact List.map_id _

/-- The lane calls whom the rota owes the message, and its turn goes on with the rota's. -/
theorem dispatch_eq (h : Rides filter j r) (hShared : isShared filter = true) :
    ∃ lanes, j.lanes.dispatch 0 = (r.due, lanes) ∧ lanes.opened.map Lane.cursor =
      if r.joined = 0 then [] else [(r.step .message).turn] := by
  by_cases hNew : r.joined = 0
  · refine ⟨j.lanes, ?_, ?_⟩
    · rw [Rota.due_of_unstaffed (h.staff_nil hNew), Lanes.dispatch, Lanes.lane?, h.opened_nil hNew]
      rfl
    · rw [if_pos hNew, h.opened_nil hNew]
      rfl
  · obtain ⟨lane, hOpened, hCursor, -, hFor⟩ := h.exists_lane hNew
    rw [hShared] at hFor
    refine ⟨{ j.lanes with opened := [lane.advance] }, ?_, ?_⟩
    · rw [Rota.due, ← h.values_eq hOpened, ← hCursor, ← Lane.targets_eq_of_shared hFor]
      simp [Lanes.dispatch, Lanes.lane?, Lanes.setLane, hOpened]
    · rw [if_neg hNew, List.map_singleton, Lane.cursor_advance hFor, h.values_eq hOpened, hCursor]
      rfl

theorem message (h : Rides filter j r) (hShared : isShared filter = true) :
    Rides filter (j.step (.dispatch 0)) (r.step .message) ∧
      j.answer (.dispatch 0) = r.answer .message := by
  obtain ⟨lanes, hDispatch, hCursors⟩ := h.dispatch_eq hShared
  constructor
  · refine
      { tied := tied_step h.tied _
        added := h.added
        live := h.live
        cursors := ?_
        unturned := fun hNew => ?_ }
    · rw [Journal.step, hDispatch]
      exact hCursors
    · rw [Rota.step, if_pos (h.staff_nil hNew)]
      exact h.unturned hNew
  · rw [Journal.answer, hDispatch, Rota.answer]

theorem step (h : Rides filter j r) (hShared : isShared filter = true)
    (hStaffed : r.joined ≠ 0 → r.staff ≠ []) (event : Rota.Event) :
    Rides filter (j.step (request filter r event)) (r.step event) ∧
      j.answer (request filter r event) = r.answer event := by
  cases event with
  | join => exact ⟨h.join hStaffed, rfl⟩
  | leave member => exact ⟨h.leave member, rfl⟩
  | message => exact h.message hShared

theorem run (h : Rides filter j r) (hShared : isShared filter = true) {events : List Rota.Event}
    (hStaffed : r.Staffed events) :
    Rides filter (j.run (requests filter r events)) (r.run events) ∧
      j.answers (requests filter r events) = r.answers events := by
  induction events generalizing j r with
  | nil => exact ⟨h, rfl⟩
  | cons event rest ih =>
    obtain ⟨hStep, hAnswer⟩ := h.step hShared hStaffed.now event
    obtain ⟨hRun, hAnswers⟩ := ih hStep hStaffed.next
    refine ⟨hRun, ?_⟩
    rw [requests, Journal.answers, hAnswer, hAnswers, Rota.answers]

end Rides

end DeviceBus.Mqtt
