import Mathlib.Data.List.GetD

/-! # Lists whose members are known by position

Connections, facades, feeds and deliveries are never taken out of their lists,
so each keeps its position, and a default stands for what is not there.
-/

namespace DeviceBus.Positions

variable {α : Type} {l : List α} {i : Nat}

theorem getD_set (l : List α) (i : Nat) (a : α) (j : Nat) (default : α) :
    (l.set i a).getD j default = if i = j ∧ i < l.length then a else l.getD j default := by
  rw [List.getD_eq_getElem?_getD, List.getD_eq_getElem?_getD, List.getElem?_set]
  rcases eq_or_ne i j with rfl | hOther
  · rcases Nat.lt_or_ge i l.length with hBound | hAbsent
    · simp [hBound]
    · simp [Nat.not_lt.mpr hAbsent]
  · simp [hOther]

theorem getElem?_concat_iff {a b : α} :
    (l ++ [a])[i]? = some b ↔ l[i]? = some b ∨ i = l.length ∧ b = a := by
  rcases Nat.lt_trichotomy i l.length with hOld | rfl | hLate
  · rw [List.getElem?_append_left hOld]
    constructor
    · exact .inl
    · rintro (hAt | ⟨rfl, -⟩)
      · exact hAt
      · exact (Nat.lt_irrefl _ hOld).elim
  · simp [eq_comm]
  · rw [List.getElem?_append_right (Nat.le_of_lt hLate),
      List.getElem?_eq_none (Nat.le_of_lt hLate), List.getElem?_eq_none]
    · simp [Nat.ne_of_gt hLate]
    · rw [List.length_singleton]
      omega

theorem map_modify {β : Type} (f : α → α) {g : α → β} (hKept : ∀ a, g (f a) = g a)
    (l : List α) (i : Nat) : (l.modify i f).map g = l.map g := by
  induction l generalizing i with
  | nil => simp
  | cons a rest ih =>
    cases i with
    | zero => simp [hKept]
    | succ i => simp [ih]

theorem modify_concat (xs : List α) (x : α) (f : α → α) :
    (xs ++ [x]).modify xs.length f = xs ++ [f x] := by
  induction xs with
  | nil => rfl
  | cons y ys ih => simp [ih]

end DeviceBus.Positions
