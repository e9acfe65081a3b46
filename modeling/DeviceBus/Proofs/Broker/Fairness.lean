import DeviceBus.Proofs.Broker.Rota
import Mathlib.Data.List.Rotate

/-! # Fair shares of a queue group

As long as nobody joins or leaves a group, its messages go round: as many of them in a row
as there are members go to one member each, on whatever subjects they come and whatever
happens to others meanwhile. Turns are numbers of 64 bits, so this is said of runs with
fewer messages than that.
-/

namespace DeviceBus.Broker

/-! ## Going round -/

section

variable {α : Type} {staff : List α}

/-- Those whose turn it is from the place `t` on, in `n` turns. -/
def turns (staff : List α) : ℕ → ℕ → List α
  | _, 0 => []
  | t, n + 1 => staff[t % staff.length]?.toList ++ turns staff (t + 1) n

theorem turns_add (staff : List α) (t m n : ℕ) :
    turns staff t (m + n) = turns staff t m ++ turns staff (t + m) n := by
  induction m generalizing t with
  | zero => rw [Nat.zero_add]; rfl
  | succ m ih =>
    have hNext : t + (m + 1) = t + 1 + m := by omega
    rw [Nat.add_right_comm, turns, turns, ih, hNext, List.append_assoc]

theorem turn_eq_singleton (hSome : staff ≠ []) (t : ℕ) :
    ∃ a, staff[t % staff.length]? = some a := by
  have hLess : t % staff.length < staff.length := Nat.mod_lt _ (List.length_pos_iff.mpr hSome)
  exact ⟨_, List.getElem?_eq_getElem hLess⟩

end

/-! ## Steps -/

variable {T : Type} {j : Journal T} {m : Posting T} {r : Route T} {key : String × String}
  {acts : List (Act T)}

theorem step_posts (j : Journal T) (a : Act T) :
    (∃ subject data, j.step a = j.posted subject data (j.broker.route subject data).2) ∨
      (j.step a).postings = j.postings ∧ (j.step a).broker.cursors = j.broker.cursors := by
  cases a with
  | connect => exact .inr ⟨rfl, rfl⟩
  | subscribe c pattern group tap =>
    right
    rw [Journal.step]
    split
    · exact ⟨rfl, rfl⟩
    · rename_i hSubscribe
      exact ⟨rfl, cursors_subscribe hSubscribe⟩
  | unsubscribe c id =>
    right
    rw [Journal.step]
    split
    · exact ⟨rfl, rfl⟩
    · rename_i hTaken
      exact ⟨rfl, cursors_unsubscribe hTaken⟩
  | publish c subject data =>
    rw [Journal.step, publish]
    split
    · exact .inr ⟨rfl, rfl⟩
    · rename_i hPublish
      split at hPublish
      · cases hPublish
      · cases hPublish
        exact .inl ⟨subject, data, rfl⟩
  | route subject data => exact .inl ⟨subject, data, rfl⟩
  | close c =>
    refine .inr ⟨rfl, ?_⟩
    rw [Journal.step]
    cases hClosed : (j.broker.connection c).closed with
    | true => rw [close_of_closed hClosed]
    | false =>
      rw [close_of_open hClosed]
      rfl
  | dispatch id =>
    right
    rw [Journal.step]
    split
    · exact ⟨rfl, rfl⟩
    · rename_i hTake
      exact ⟨rfl, cursors_takeFrom? hTake⟩

/-- The members of a group, in the order of their turns. -/
def staff (b : Broker T) (key : String × String) : List Nat :=
  (members b.routes key).map Route.id

/-- The members to whom each message went that the pattern selects. -/
def picked (key : String × String) (ms : List (Posting T)) : List (List Nat) :=
  (ms.filter fun m => Subject.selects key.2 m.subject).map fun m =>
    (members (m.broker.recipients m.subject) key).map Route.id

theorem picked_append (key : String × String) (ms ms' : List (Posting T)) :
    picked key (ms ++ ms') = picked key ms ++ picked key ms' := by
  rw [picked, List.filter_append, List.map_append]
  rfl

theorem staff_eq_nil_iff (b : Broker T) (key : String × String) :
    b.staff key = [] ↔ members b.routes key = [] :=
  List.map_eq_nil_iff

theorem staff_recipients {b : Broker T} {subject : String}
    (hSelects : Subject.selects key.2 subject = true) :
    (members (b.recipients subject) key).map Route.id =
      ((b.staff key)[(b.turn key).toNat % (b.staff key).length]?).toList := by
  rw [members_recipients, pick, members_matching, if_pos hSelects, staff, List.getElem?_map,
    List.length_map]
  cases (members b.routes key)[(b.turn key).toNat % _]? with
  | none => rfl
  | some r => rfl

/-- An act is a message for the group, which takes its turn, or leaves the turn as it is. -/
theorem step_picked (hSome : j.broker.staff key ≠ []) (a : Act T) :
    ∃ fresh, (j.step a).postings = j.postings ++ fresh ∧
      (picked key fresh = [] ∧ (j.step a).broker.turn key = j.broker.turn key ∨
        fresh.length = 1 ∧
          picked key fresh = (turns (j.broker.staff key) (j.broker.turn key).toNat 1).map ([·]) ∧
          (j.step a).broker.turn key = j.broker.turn key + 1) := by
  rcases step_posts j a with ⟨subject, data, hPosted⟩ | ⟨hPostings, hCursors⟩
  · have hTurn := turn_route j.broker subject data key
    rw [hPosted]
    refine ⟨_, rfl, ?_⟩
    cases hSelects : Subject.selects key.2 subject with
    | false =>
      rw [hSelects, if_neg fun h => Bool.false_ne_true h.1] at hTurn
      exact .inl ⟨by simp [picked, hSelects], hTurn⟩
    | true =>
      have hMembers := mt (staff_eq_nil_iff j.broker key).mpr hSome
      rw [if_pos ⟨hSelects, hMembers⟩] at hTurn
      obtain ⟨id, hNext⟩ := turn_eq_singleton hSome (j.broker.turn key).toNat
      refine .inr ⟨rfl, ?_, hTurn⟩
      simp [picked, hSelects, staff_recipients hSelects, turns, hNext]
  · exact ⟨[], by rw [hPostings, List.append_nil], .inl ⟨rfl, turn_congr hCursors key⟩⟩

/-- No more turns have been taken than messages have come. -/
def Journal.Counted (j : Journal T) (key : String × String) : Prop :=
  (j.broker.turn key).toNat ≤ j.postings.length

theorem Journal.Counted.step (h : j.Counted key) (a : Act T) : (j.step a).Counted key := by
  rcases step_posts j a with ⟨subject, data, hPosted⟩ | ⟨hPostings, hCursors⟩
  · have hTurn := turn_route j.broker subject data key
    have hNext : (j.broker.turn key + 1).toNat ≤ (j.broker.turn key).toNat + 1 := by
      rw [UInt64.toNat_add]
      exact Nat.mod_le _ _
    have hLength : (j.step a).postings.length = j.postings.length + 1 := by
      rw [hPosted]
      exact List.length_append
    rw [Counted, hLength, hPosted, posted, hTurn]
    unfold Counted at h
    split
    · omega
    · omega
  · rw [Counted, hPostings, turn_congr hCursors key]
    exact h

theorem Journal.Counted.run (h : j.Counted key) (acts : List (Act T)) :
    (j.run acts).Counted key := by
  induction acts generalizing j with
  | nil => exact h
  | cons a rest ih => exact ih (h.step a)

/-! ## Runs -/

/-- Nobody joins or leaves the group. -/
def Journal.Steady (j : Journal T) (key : String × String) : List (Act T) → Prop
  | [] => True
  | a :: rest =>
      (j.step a).broker.staff key = j.broker.staff key ∧ (j.step a).Steady key rest

theorem Journal.Steady.picked (hSteady : j.Steady key acts) (hSome : j.broker.staff key ≠ [])
    (hCounted : j.Counted key) (hTotal : (j.run acts).postings.length < 2 ^ 64) :
    ∃ fresh n, (j.run acts).postings = j.postings ++ fresh ∧ picked key fresh =
      (turns (j.broker.staff key) (j.broker.turn key).toNat n).map ([·]) := by
  induction acts generalizing j with
  | nil => exact ⟨[], 0, (List.append_nil _).symm, rfl⟩
  | cons a rest ih =>
    obtain ⟨hStaff, hRest⟩ := hSteady
    obtain ⟨later, n, hLater, hPicked⟩ := ih hRest (hStaff ▸ hSome) (hCounted.step a) hTotal
    obtain ⟨fresh, hFresh, hStep⟩ := step_picked hSome a
    refine ⟨fresh ++ later, ?_⟩
    rw [hStaff] at hPicked
    have hPostings : (j.run (a :: rest)).postings = j.postings ++ (fresh ++ later) := by
      rw [← List.append_assoc, ← hFresh]
      exact hLater
    rw [picked_append, hPicked]
    rcases hStep with ⟨hNone, hTurn⟩ | ⟨hOne, hFirst, hTurn⟩
    · refine ⟨n, hPostings, ?_⟩
      rw [hNone, hTurn, List.nil_append]
    · refine ⟨1 + n, hPostings, ?_⟩
      -- The turn has not come to its end: there was a message for each, and one more now.
      have hNext : (j.broker.turn key + 1).toNat = (j.broker.turn key).toNat + 1 := by
        rw [hPostings, List.length_append, List.length_append, hOne] at hTotal
        have hLess : (j.broker.turn key).toNat + 1 < 2 ^ 64 := by
          unfold Counted at hCounted
          omega
        rw [UInt64.toNat_add]
        exact Nat.mod_eq_of_lt hLess
      rw [hFirst, hTurn, hNext, turns_add, List.map_append]

end DeviceBus.Broker
