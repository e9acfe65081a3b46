import DeviceBus.Observe.Retry
import Mathlib.Algebra.BigOperators.Group.Finset.Basic

/-! # The moments of transmissions

A transmission goes out when the waits before it are over. Timers count milliseconds and take
spans that the clock cannot reach for thirty years; where the waits are whole milliseconds and
the clock reaches the end of the last, a transmission is exactly as far from the first as the
waits before it take.
-/

namespace DeviceBus.Observe.RetryPolicy

variable {α : Type} {p : RetryPolicy} {start n attempt now : Nat}

/-! ## Waits -/

/-- When the waits after `n` transmissions are over, of which the first goes out at `start`. -/
def lapse (p : RetryPolicy) (start : Nat) : Nat → Nat
  | 0 => start
  | n + 1 => (p.delay n).due (p.lapse start n)

theorem le_due (span : Duration) (now : Nat) : now ≤ span.due now := by
  unfold Duration.due
  split
  · exact Nat.le_add_right _ _
  · exact Nat.le_add_right _ _

theorem lapse_mono (p : RetryPolicy) (start : Nat) {m n : Nat} (hLe : m ≤ n) :
    p.lapse start m ≤ p.lapse start n := by
  induction n, hLe using Nat.le_induction with
  | base => exact Nat.le_refl _
  | succ n hLe ih => exact Nat.le_trans ih (le_due _ _)

/-- The sum of the waits before the transmission `n`, in nanoseconds. -/
def offset (p : RetryPolicy) (n : Nat) : Nat :=
  ∑ j ∈ Finset.range n, min Duration.maximum.nanos (p.baseDelay.nanos * 2 ^ min j 16)

/-- The waits are whole milliseconds. -/
def Whole (p : RetryPolicy) : Prop :=
  ∃ millis, p.baseDelay = Duration.ofMillis millis

/-- The clock reaches the end of the last wait. -/
def InReach (p : RetryPolicy) (start : Nat) : Prop :=
  start * Duration.nanosPerMilli + p.offset p.maxAttempts <
    Duration.outOfReach * Duration.nanosPerSecond

theorem offset_succ (p : RetryPolicy) (n : Nat) :
    p.offset (n + 1) = p.offset n + (p.delay n).nanos := by
  rw [offset, Finset.sum_range_succ, ← offset, min_comm]
  rfl

theorem offset_mono (p : RetryPolicy) {m n : Nat} (hLe : m ≤ n) : p.offset m ≤ p.offset n := by
  induction n, hLe using Nat.le_induction with
  | base => exact Nat.le_refl _
  | succ n hLe ih =>
    rw [offset_succ]
    exact Nat.le_add_right_of_le ih

/-- A wait that is not cut off is in whole milliseconds. -/
theorem Whole.nanos_delay (h : p.Whole) (hLess : (p.delay n).nanos < Duration.maximum.nanos) :
    ∃ millis, (p.delay n).nanos = millis * Duration.nanosPerMilli := by
  obtain ⟨millis, hBase⟩ := h
  rw [delay, Duration.scale, hBase, Duration.ofMillis] at hLess ⊢
  dsimp only at hLess ⊢
  refine ⟨millis * Nat.pow 2 (min n 16), ?_⟩
  rw [min_eq_left (Nat.le_of_lt (by omega)), Nat.mul_right_comm]

theorem due_of_millis {span : Duration} {now millis : Nat}
    (hSpan : span.nanos = millis * Duration.nanosPerMilli)
    (hReach : now * Duration.nanosPerMilli + span.nanos <
      Duration.outOfReach * Duration.nanosPerSecond) : span.due now = now + millis := by
  have hClock : now / 1000 + span.seconds < Duration.outOfReach := by
    unfold Duration.seconds
    unfold Duration.nanosPerSecond Duration.nanosPerMilli at *
    omega
  rw [Duration.due, if_neg (Nat.not_le.mpr hClock), hSpan]
  unfold Duration.nanosPerMilli
  omega

/-- The clock shows the sum of the waits, to the nanosecond. -/
theorem Whole.lapse_eq (h : p.Whole) (hReach : p.InReach start) (hLe : n ≤ p.maxAttempts) :
    p.lapse start n * Duration.nanosPerMilli =
      start * Duration.nanosPerMilli + p.offset n := by
  induction n with
  | zero => rw [lapse, offset, Finset.range_zero, Finset.sum_empty, Nat.add_zero]
  | succ n ih =>
    have hBefore := ih (Nat.le_of_succ_le hLe)
    have hEnd : p.lapse start n * Duration.nanosPerMilli + (p.delay n).nanos <
        Duration.outOfReach * Duration.nanosPerSecond := by
      calc p.lapse start n * Duration.nanosPerMilli + (p.delay n).nanos
          = start * Duration.nanosPerMilli + p.offset (n + 1) := by
            rw [hBefore, offset_succ, Nat.add_assoc]
        _ ≤ start * Duration.nanosPerMilli + p.offset p.maxAttempts :=
            Nat.add_le_add_left (p.offset_mono hLe) _
        _ < Duration.outOfReach * Duration.nanosPerSecond := hReach
    have hLess : (p.delay n).nanos < Duration.maximum.nanos :=
      Nat.lt_of_lt_of_le (Nat.lt_of_le_of_lt (Nat.le_add_left _ _) hEnd) (by decide)
    obtain ⟨millis, hMillis⟩ := h.nanos_delay hLess
    rw [lapse, due_of_millis hMillis hEnd, Nat.add_mul, hBefore, ← hMillis, offset_succ,
      Nat.add_assoc]

/-! ## Transmissions that are due -/

/-- The transmissions after the one numbered `attempt` that are due by the time `now`. -/
def dueAfter (p : RetryPolicy) (start attempt now : Nat) (sent : α) : List (Nat × α) :=
  ((List.range' (attempt + 1) (p.maxAttempts - (attempt + 1))).filter fun i =>
    p.lapse start i ≤ now).map fun i => (p.lapse start i, sent)

theorem dueAfter_eq_nil (hEarly : ∀ i, attempt < i → i < p.maxAttempts → now < p.lapse start i)
    (sent : α) : p.dueAfter start attempt now sent = [] := by
  refine List.map_eq_nil_iff.mpr (List.filter_eq_nil_iff.mpr fun i hMember => ?_)
  obtain ⟨hAfter, hBound⟩ := List.mem_range'_1.mp hMember
  simpa using hEarly i hAfter (by omega)

theorem dueAfter_eq_cons (hMay : attempt + 1 < p.maxAttempts)
    (hDue : p.lapse start (attempt + 1) ≤ now) (sent : α) :
    p.dueAfter start attempt now sent =
      (p.lapse start (attempt + 1), sent) :: p.dueAfter start (attempt + 1) now sent := by
  have hMore : p.maxAttempts - (attempt + 1) = p.maxAttempts - (attempt + 1 + 1) + 1 := by omega
  rw [dueAfter, hMore, List.range'_succ, List.filter_cons, if_pos (decide_eq_true hDue),
    List.map_cons, dueAfter]

/-- With the first transmission they are all transmissions. -/
theorem cons_dueAfter (hMay : 0 < p.maxAttempts) (hNow : p.lapse start 0 ≤ now) (sent : α) :
    (start, sent) :: p.dueAfter start 0 now sent =
      ((List.range p.maxAttempts).filter fun i => p.lapse start i ≤ now).map fun i =>
        (p.lapse start i, sent) := by
  have hMore : p.maxAttempts = p.maxAttempts - 1 + 1 := by omega
  rw [List.range_eq_range', hMore, List.range'_succ, List.filter_cons,
    if_pos (decide_eq_true hNow), List.map_cons]
  rfl

end DeviceBus.Observe.RetryPolicy
