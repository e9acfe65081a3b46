import DeviceBus.Duration
import DeviceBus.Observe.Sequence
import Mathlib.Algebra.Group.Nat.Defs
import Mathlib.Data.List.Chain

/-! # Observe values, draw by draw

Values in full grow with every draw and are never behind the clock. Packets carry their low 24
bits, which come round in less than five hours. Still a peer takes every value for a newer one
than the value before: a draw either adds one to that value or catches up with the clock, and
the clock does not go half way round within 128 seconds, after which any value counts as newer.
-/

namespace DeviceBus

/-- The whole milliseconds of a duration. -/
def Duration.millis (d : Duration) : Nat :=
  d.nanos / nanosPerMilli

namespace Observe.Sequence

/-- A value as packets carry it. -/
def wire (value : Nat) : UInt32 :=
  UInt32.ofNat (value % modulus)

theorem toNat_wire_eq (value : Nat) : (wire value).toNat = value % 2 ^ 24 := by
  have hSmall : value % modulus < modulus := Nat.mod_lt _ (by decide)
  exact UInt32.toNat_ofNat_of_lt' (Nat.lt_trans hSmall (by decide))

theorem toNat_wire {value : Nat} (hSmall : value < modulus) : (wire value).toNat = value := by
  rw [toNat_wire_eq]
  exact Nat.mod_eq_of_lt hSmall

theorem lt_value {s : Sequence} {last : Nat} (hLast : s.last = some last) (now : Nat) :
    last < s.value now := by
  rw [value, hLast]
  exact Nat.lt_of_lt_of_le (Nat.lt_succ_self last) (Nat.le_max_right _ _)

/-! ## Draws -/

/-- A draw: the time since the sequence began, the value in full and what packets carry. -/
structure Draw where
  elapsed : Duration
  full : Nat
  carried : UInt32
  deriving DecidableEq

/-- A draw that carries the low bits of its value and is not behind the clock. -/
structure Draw.Proper (a : Draw) : Prop where
  carried : a.carried.toNat = a.full % 2 ^ 24
  not_behind : a.elapsed.millis ≤ a.full

/-- What the sequence gives at these times after it began. -/
def draws (s : Sequence) : List Duration → List Draw
  | [] => []
  | elapsed :: rest =>
      let now := s.started + elapsed.millis
      ⟨elapsed, s.value now, (s.next now).1⟩ :: (s.next now).2.draws rest

/-- The draw `b` counts as newer than `a`: it is ahead by less than half of the way round, or
it was made more than 128 seconds later. -/
def Newer (a b : Draw) : Prop :=
  a.carried < b.carried ∧ b.carried.toNat - a.carried.toNat < 2 ^ 23 ∨
    b.carried < a.carried ∧ 2 ^ 23 < a.carried.toNat - b.carried.toNat ∨
      a.elapsed.nanos + 128 * Duration.nanosPerSecond < b.elapsed.nanos

variable {s : Sequence} {last : Nat} {a b : Draw} {times : List Duration}

/-- A value that is one more than the last, or that the clock has come to since. -/
theorem newer_of_value (ha : a.Proper) (hb : b.Proper)
    (hFull : b.full = max b.elapsed.millis (a.full + 1)) : Newer a b := by
  have hFirst := ha.carried
  have hSecond := hb.carried
  unfold Newer
  by_cases hLate : a.elapsed.nanos + 128 * Duration.nanosPerSecond < b.elapsed.nanos
  · exact .inr (.inr hLate)
  · have hClock : b.elapsed.millis ≤ a.elapsed.millis + 128000 := by
      unfold Duration.nanosPerSecond at hLate
      unfold Duration.millis Duration.nanosPerMilli
      omega
    have hStep : a.full < b.full ∧ b.full ≤ a.full + 128000 := by
      have hBehind := ha.not_behind
      omega
    rw [UInt32.lt_iff_toNat_lt, UInt32.lt_iff_toNat_lt]
    omega

/-! ## One draw -/

theorem proper_draw (s : Sequence) (elapsed : Duration) :
    Draw.Proper ⟨elapsed, s.value (s.started + elapsed.millis),
      (s.next (s.started + elapsed.millis)).1⟩ where
  carried := toNat_wire_eq _
  not_behind := by
    unfold value
    split
    · exact Nat.le_trans (Nat.le_of_eq (Nat.add_sub_cancel_left ..).symm) (Nat.le_max_left _ _)
    · exact Nat.le_of_eq (Nat.add_sub_cancel_left ..).symm

theorem value_of_last (hLast : s.last = some last) (elapsed : Duration) :
    s.value (s.started + elapsed.millis) = max elapsed.millis (last + 1) := by
  rw [value, hLast]
  dsimp only
  rw [Nat.add_sub_cancel_left]

/-! ## All draws -/

theorem elapsed_draws (s : Sequence) (times : List Duration) :
    (s.draws times).map Draw.elapsed = times := by
  induction times generalizing s with
  | nil => rfl
  | cons elapsed rest ih => exact congrArg (elapsed :: ·) (ih _)

theorem proper_draws (s : Sequence) (times : List Duration) :
    ∀ x ∈ s.draws times, x.Proper := by
  induction times generalizing s with
  | nil => exact List.forall_mem_nil _
  | cons elapsed rest ih => exact List.forall_mem_cons.mpr ⟨proper_draw s elapsed, ih _⟩

/-- Each draw after the draw `a` is greater than the one before and newer. -/
theorem chain_draws (ha : a.Proper) (hLast : s.last = some a.full) (times : List Duration) :
    (a :: s.draws times).IsChain fun x y => x.full < y.full ∧ Newer x y := by
  induction times generalizing s a with
  | nil => exact .singleton a
  | cons elapsed rest ih =>
    refine .cons_cons ⟨lt_value hLast _, ?_⟩ (ih (proper_draw s elapsed) rfl)
    exact newer_of_value ha (proper_draw s elapsed) (value_of_last hLast elapsed)

theorem isChain_draws (s : Sequence) (times : List Duration) :
    (s.draws times).IsChain fun x y => x.full < y.full ∧ Newer x y := by
  cases times with
  | nil => exact .nil
  | cons elapsed rest => exact chain_draws (proper_draw s elapsed) rfl rest

/-- A value is ahead of the clock by no more than one for each draw before it. -/
theorem draws_lt {bound : Nat} (hLast : ∀ last, s.last = some last → last < bound)
    (hTimes : ∀ elapsed ∈ times, elapsed.millis < bound) :
    ∀ x ∈ s.draws times, x.full < bound + times.length := by
  induction times generalizing s bound with
  | nil => exact List.forall_mem_nil _
  | cons elapsed rest ih =>
    obtain ⟨hFirst, hRest⟩ := List.forall_mem_cons.mp hTimes
    have hValue : s.value (s.started + elapsed.millis) < bound + 1 := by
      cases hDrawn : s.last with
      | none =>
        rw [value, hDrawn]
        dsimp only
        omega
      | some last =>
        rw [value_of_last hDrawn]
        have hBefore := hLast last hDrawn
        omega
    rw [List.length_cons]
    refine List.forall_mem_cons.mpr ⟨by dsimp only; omega, fun x hx => ?_⟩
    have hLater : x.full < bound + 1 + rest.length :=
      ih (s := (s.next (s.started + elapsed.millis)).2)
        (fun last hDrawn => by cases hDrawn; exact hValue)
        (fun later hMember => Nat.lt_succ_of_lt (hRest later hMember)) x hx
    omega

/-- What the draws at these times are like. -/
structure Advance (times : List Duration) (draws : List Draw) : Prop where
  elapsed : draws.map Draw.elapsed = times
  carried : ∀ x ∈ draws, x.carried.toNat = x.full % 2 ^ 24
  small : ∀ x ∈ draws, x.carried.toNat < 2 ^ 24
  not_behind : ∀ x ∈ draws, x.elapsed.millis ≤ x.full
  grows : draws.Pairwise fun x y => x.full < y.full
  newer : draws.IsChain Newer
  /-- Times and numbers of draws that leave one of 64 bits free never use it up. -/
  word : (∀ elapsed ∈ times, elapsed.millis < 2 ^ 63) → times.length < 2 ^ 63 →
    ∀ x ∈ draws, x.full < 2 ^ 64

/-- Whenever a sequence is asked, its values in full grow and are not behind the clock, and
what packets carry of each counts as newer than what the packet before carried. -/
theorem draws_advance (started : Nat) (times : List Duration) :
    Advance times (({ started } : Sequence).draws times) := by
  have hProper := proper_draws { started } times
  have hChain := isChain_draws { started } times
  constructor
  · exact elapsed_draws _ times
  · exact fun x hx => (hProper x hx).carried
  · intro x hx
    rw [(hProper x hx).carried]
    exact Nat.mod_lt _ (by decide)
  · exact fun x hx => (hProper x hx).not_behind
  · have hFull : ((({ started } : Sequence).draws times).map Draw.full).IsChain (· < ·) :=
      List.isChain_map_of_isChain Draw.full (fun _ _ h => h.1) hChain
    exact List.pairwise_map.mp hFull.pairwise
  · exact hChain.imp (fun x y h => h.2)
  · intro hTimes hFew x hx
    have hBound : x.full < 2 ^ 63 + times.length :=
      draws_lt (fun _ hNone => by cases hNone) hTimes x hx
    omega

/-- A value comes round to zero and is newer than the one before. -/
example : (({ started := 0 } : Sequence).draws
    [Duration.ofMillis 16777215, Duration.ofMillis 16777215]).map Draw.carried =
      [16777215, 0] := by decide

end Observe.Sequence

end DeviceBus
