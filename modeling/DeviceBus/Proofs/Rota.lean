import Mathlib.Data.List.Infix

/-! # A rota

What a queue group is to those who watch it from outside: members who come and go, known by
the order in which they came, and messages of which each goes to the member whose turn it is.
-/

namespace DeviceBus

structure Rota where
  joined : Nat := 0
  /-- The members who have not left, in the order in which they came. -/
  staff : List Nat := []
  turn : UInt64 := 0

namespace Rota

inductive Event where
  | join
  | leave (member : Nat)
  | message
  deriving DecidableEq

/-- The member who is owed the next message, if there is any. -/
def due (r : Rota) : List Nat :=
  (r.staff[r.turn.toNat % r.staff.length]?).toList

/-- Turns go on also while members come and go, but not while there are none. -/
def step (r : Rota) : Event → Rota
  | .join => { r with joined := r.joined + 1, staff := r.staff ++ [r.joined] }
  | .leave member => { r with staff := r.staff.filter fun n => n ≠ member }
  | .message => { r with turn := if r.staff = [] then r.turn else r.turn + 1 }

def run (r : Rota) (events : List Event) : Rota :=
  events.foldl step r

def answer (r : Rota) : Event → List (List Nat)
  | .message => [r.due]
  | _ => []

/-- Who gets each message. -/
def answers : Rota → List Event → List (List Nat)
  | _, [] => []
  | r, event :: rest => r.answer event ++ (r.step event).answers rest

/-- Once somebody has joined, there is always a member. -/
def Staffed (r : Rota) (events : List Event) : Prop :=
  ∀ before ∈ events.inits, (r.run before).joined ≠ 0 → (r.run before).staff ≠ []

variable {r : Rota} {events : List Event}

theorem run_cons (r : Rota) (event : Event) (events : List Event) :
    r.run (event :: events) = (r.step event).run events :=
  rfl

theorem run_append (r : Rota) (events later : List Event) :
    r.run (events ++ later) = (r.run events).run later :=
  List.foldl_append

theorem answers_append (r : Rota) (events later : List Event) :
    r.answers (events ++ later) = r.answers events ++ (r.run events).answers later := by
  induction events generalizing r with
  | nil => rfl
  | cons event rest ih => simp [answers, run, ih]

theorem due_of_unstaffed (hNone : r.staff = []) : r.due = [] := by
  rw [due, hNone]
  rfl

theorem run_leaves (r : Rota) (members : List Nat) :
    r.run (members.map .leave) = { r with staff := r.staff.filter fun n => n ∉ members } := by
  induction members generalizing r with
  | nil => simp [run]
  | cons member rest ih =>
    rw [List.map_cons, run_cons, ih, step, List.filter_filter]
    simp [Bool.and_comm]

theorem answers_leaves (r : Rota) (members : List Nat) : r.answers (members.map .leave) = [] := by
  induction members generalizing r with
  | nil => rfl
  | cons member rest ih => exact ih _

theorem Staffed.now (hStaffed : r.Staffed events) : r.joined ≠ 0 → r.staff ≠ [] :=
  hStaffed [] ((List.mem_inits _ _).mpr List.nil_prefix)

theorem Staffed.next {event : Event} (hStaffed : r.Staffed (event :: events)) :
    (r.step event).Staffed events := by
  intro before hBefore
  have hPrefix := (List.mem_inits _ _).mp hBefore
  apply hStaffed (event :: before)
  exact (List.mem_inits _ _).mpr ((List.prefix_cons_inj event).mpr hPrefix)

end Rota

end DeviceBus
