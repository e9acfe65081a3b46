import DeviceBus.Observe.Acks
import Mathlib.Logic.Function.Basic
import DeviceBus.Proofs.Positions
import DeviceBus.Proofs.Table

/-! # What becomes of entries and slots

Every entry leads to a slot of its own that waits. So a slot is answered through its entry
or not at all, and an exchange that loses its entry finds its slot closed. The entries are
those of the exchanges whose slots wait, each under its own key. No exchange loses its entry
as long as none begins under the key of one that waits.
-/

namespace DeviceBus.Observe

def Slot.isAnswered : Slot → Bool
  | .answered _ => true
  | _ => false

namespace Acks

variable {a : Acks} {key key' : Peer × UInt16} {peer : Peer} {messageId : UInt16} {index : Nat}

structure Tidy (a : Acks) : Prop where
  waiting : ∀ key index, a.pending.get? key = some index → a.slot index = .waiting
  own : ∀ key key' index, a.pending.get? key = some index → a.pending.get? key' = some index →
    key = key'

theorem slot_setSlot (a : Acks) (index : Nat) (s : Slot) (j : Nat) :
    (a.setSlot index s).slot j = if index = j ∧ index < a.slots.length then s else a.slot j :=
  Positions.getD_set a.slots index s j _

theorem slot_of_late (hLate : a.slots.length ≤ index) : a.slot index = .closed :=
  List.getD_eq_default _ _ hLate

theorem lt_of_waiting (hWaiting : a.slot index = .waiting) : index < a.slots.length := by
  refine Nat.lt_of_not_le fun hLate => ?_
  rw [slot_of_late hLate] at hWaiting
  cases hWaiting

/-! ## Forgetting -/

theorem pending_forget (a : Acks) (peer : Peer) (messageId : UInt16) (key : Peer × UInt16) :
    (a.forget peer messageId).pending.get? key =
      if key = (peer, messageId) then none else a.pending.get? key := by
  unfold forget
  split
  · rename_i hNone
    split
    · rename_i hSame
      rw [hSame, hNone]
    · rfl
  · exact Table.get?_erase _ _ _

theorem length_forget (a : Acks) (peer : Peer) (messageId : UInt16) :
    (a.forget peer messageId).slots.length = a.slots.length := by
  unfold forget
  split
  · rfl
  · unfold closeSlot
    split
    · exact List.length_set
    · rfl

theorem Tidy.slot_forget (h : a.Tidy) (peer : Peer) (messageId : UInt16) (j : Nat) :
    (a.forget peer messageId).slot j =
      if a.pending.get? (peer, messageId) = some j then .closed else a.slot j := by
  unfold forget
  split
  · rename_i hNone
    rw [hNone, if_neg (by simp)]
  · rename_i index hSome
    have hWaiting := h.waiting _ _ hSome
    have hClosed : (a.closeSlot index).slot j =
        if index = j ∧ index < a.slots.length then .closed else a.slot j := by
      rw [closeSlot, if_pos hWaiting, slot_setSlot]
    rw [hSome]
    simp only [Option.some.injEq]
    exact hClosed.trans (if_congr (and_iff_left (lt_of_waiting hWaiting)) rfl rfl)

theorem Tidy.forget (h : a.Tidy) (peer : Peer) (messageId : UInt16) :
    (a.forget peer messageId).Tidy where
  waiting key index hAt := by
    rw [pending_forget] at hAt
    split at hAt
    · cases hAt
    · rename_i hOther
      rw [h.slot_forget, if_neg fun hSame => hOther (h.own _ _ _ hAt hSame)]
      exact h.waiting key index hAt
  own key key' index hAt hAt' := by
    rw [pending_forget] at hAt hAt'
    split at hAt
    · cases hAt
    · split at hAt'
      · cases hAt'
      · exact h.own key key' index hAt hAt'

/-! ## Registering -/

theorem register_fst (a : Acks) (peer : Peer) (messageId : UInt16) :
    (a.register peer messageId).1 = a.slots.length :=
  length_forget a peer messageId

theorem length_register (a : Acks) (peer : Peer) (messageId : UInt16) :
    (a.register peer messageId).2.slots.length = a.slots.length + 1 := by
  simp only [register, List.length_append, length_forget, List.length_singleton]

theorem pending_register (a : Acks) (peer : Peer) (messageId : UInt16) (key : Peer × UInt16) :
    (a.register peer messageId).2.pending.get? key =
      if key = (peer, messageId) then some a.slots.length else a.pending.get? key := by
  simp only [register, Table.get?_insert, length_forget, pending_forget]
  split
  · rfl
  · rfl

/-- The new slot waits; the slot of an exchange that had the same peer and ID is closed. -/
theorem Tidy.slot_register (h : a.Tidy) (peer : Peer) (messageId : UInt16) (j : Nat) :
    (a.register peer messageId).2.slot j = if j = a.slots.length then .waiting
      else if a.pending.get? (peer, messageId) = some j then .closed else a.slot j := by
  rw [← h.slot_forget]
  simp only [register, slot, List.getD_eq_getElem?_getD]
  rcases Nat.lt_trichotomy j (a.forget peer messageId).slots.length with hOld | rfl | hLate
  · rw [List.getElem?_append_left hOld, if_neg]
    rw [length_forget] at hOld
    exact Nat.ne_of_lt hOld
  · rw [List.getElem?_concat_length, if_pos (length_forget a peer messageId)]
    rfl
  · rw [List.getElem?_eq_none (by rw [List.length_append, List.length_singleton]; omega),
      List.getElem?_eq_none (Nat.le_of_lt hLate), if_neg]
    rw [length_forget] at hLate
    exact Nat.ne_of_gt hLate

theorem Tidy.register (h : a.Tidy) (peer : Peer) (messageId : UInt16) :
    (a.register peer messageId).2.Tidy where
  waiting key index hAt := by
    rw [pending_register] at hAt
    rw [h.slot_register]
    split at hAt
    · cases hAt
      rw [if_pos rfl]
    · rename_i hOther
      have hWaiting := h.waiting key index hAt
      rw [if_neg (Nat.ne_of_lt (lt_of_waiting hWaiting)),
        if_neg fun hSame => hOther (h.own _ _ _ hAt hSame), hWaiting]
  own key key' index hAt hAt' := by
    have hNew : ∀ key, a.pending.get? key ≠ some a.slots.length :=
      fun key hSome => Nat.lt_irrefl _ (lt_of_waiting (h.waiting _ _ hSome))
    rw [pending_register] at hAt hAt'
    split at hAt
    · rename_i hFirst
      split at hAt'
      · rename_i hSecond
        rw [hFirst, hSecond]
      · cases hAt
        exact (hNew key' hAt').elim
    · split at hAt'
      · cases hAt'
        exact (hNew key hAt).elim
      · exact h.own key key' index hAt hAt'

/-! ## Answers -/

theorem pending_resolve (a : Acks) (peer : Peer) (messageId : UInt16) (kind : AckKind)
    (key : Peer × UInt16) : (a.resolve peer messageId kind).2.pending.get? key =
      if key = (peer, messageId) then none else a.pending.get? key := by
  unfold resolve
  split
  · rename_i hNone
    split
    · rename_i hSame
      rw [hSame, hNone]
    · rfl
  · dsimp only
    split
    · exact Table.get?_erase _ _ _
    · exact Table.get?_erase _ _ _

theorem length_resolve (a : Acks) (peer : Peer) (messageId : UInt16) (kind : AckKind) :
    (a.resolve peer messageId kind).2.slots.length = a.slots.length := by
  unfold resolve
  split
  · rfl
  · dsimp only
    split
    · exact List.length_set
    · rfl

theorem Tidy.slot_resolve (h : a.Tidy) (peer : Peer) (messageId : UInt16) (kind : AckKind)
    (j : Nat) : (a.resolve peer messageId kind).2.slot j =
      if a.pending.get? (peer, messageId) = some j then .answered kind else a.slot j := by
  unfold resolve
  split
  · rename_i hNone
    rw [hNone, if_neg (by simp)]
  · rename_i index hSome
    have hWaiting := h.waiting _ _ hSome
    have hStill : ({ a with pending := a.pending.erase (peer, messageId) } : Acks).slot index =
        .waiting := hWaiting
    dsimp only
    rw [if_pos hStill, slot_setSlot, hSome]
    simp only [Option.some.injEq]
    exact if_congr (and_iff_left (lt_of_waiting hWaiting)) rfl rfl

theorem Tidy.resolve (h : a.Tidy) (peer : Peer) (messageId : UInt16) (kind : AckKind) :
    (a.resolve peer messageId kind).2.Tidy where
  waiting key index hAt := by
    rw [pending_resolve] at hAt
    split at hAt
    · cases hAt
    · rename_i hOther
      rw [h.slot_resolve, if_neg fun hSame => hOther (h.own _ _ _ hAt hSame)]
      exact h.waiting key index hAt
  own key key' index hAt hAt' := by
    rw [pending_resolve] at hAt hAt'
    split at hAt
    · cases hAt
    · split at hAt'
      · cases hAt'
      · exact h.own key key' index hAt hAt'

/-- An answer for which nothing waits changes nothing. -/
theorem resolve_of_none (hNone : a.pending.get? (peer, messageId) = none) (kind : AckKind) :
    (a.resolve peer messageId kind).2 = a := by
  unfold resolve
  rw [hNone]

/-! ## Slots that are given up -/

theorem slot_drop (a : Acks) (index j : Nat) : (a.drop index).slot j =
    if index = j ∧ index < a.slots.length then .dropped else a.slot j :=
  slot_setSlot a index .dropped j

theorem slot_drop_of_ne {j : Nat} (hOther : j ≠ index) : (a.drop index).slot j = a.slot j := by
  rw [slot_drop, if_neg fun hSame => hOther hSame.1.symm]

theorem Tidy.setSlot (h : a.Tidy) (hFree : a.slot index ≠ .waiting) (s : Slot) :
    (a.setSlot index s).Tidy where
  waiting key j hAt := by
    have hWaiting := h.waiting key j hAt
    rw [slot_setSlot, if_neg, hWaiting]
    rintro ⟨rfl, -⟩
    exact hFree hWaiting
  own := h.own

/-! ## Exchanges -/

/-- Each exchange has a slot of its own, and the entries are those of the exchanges whose
slots wait. An exchange is known by its number, and has a key and a slot. -/
structure Matched (a : Acks) (exchange? : Nat → Option ((Peer × UInt16) × Nat)) : Prop where
  tidy : a.Tidy
  early : ∀ k key index, exchange? k = some (key, index) → index < a.slots.length
  apart : ∀ k k' key key' index, exchange? k = some (key, index) →
    exchange? k' = some (key', index) → k = k'
  owned : ∀ key index, a.pending.get? key = some index → ∃ k, exchange? k = some (key, index)
  held : ∀ k key index, exchange? k = some (key, index) → a.slot index = .waiting →
    a.pending.get? key = some index

variable {exchange? : Nat → Option ((Peer × UInt16) × Nat)} {k : Nat}

theorem Matched.resolve (h : a.Matched exchange?) (peer : Peer) (messageId : UInt16)
    (kind : AckKind) : (a.resolve peer messageId kind).2.Matched exchange? where
  tidy := h.tidy.resolve peer messageId kind
  early k key index hAt := by
    rw [length_resolve]
    exact h.early k key index hAt
  apart := h.apart
  owned key index hEntry := by
    rw [pending_resolve] at hEntry
    split at hEntry
    · cases hEntry
    · exact h.owned key index hEntry
  held k key index hAt hWaiting := by
    rw [h.tidy.slot_resolve] at hWaiting
    split at hWaiting
    · cases hWaiting
    · rename_i hOther
      have hEntry := h.held k key index hAt hWaiting
      rw [pending_resolve, if_neg, hEntry]
      rintro rfl
      exact hOther hEntry

theorem Matched.forget (h : a.Matched exchange?) (peer : Peer) (messageId : UInt16) :
    (a.forget peer messageId).Matched exchange? where
  tidy := h.tidy.forget peer messageId
  early k key index hAt := by
    rw [length_forget]
    exact h.early k key index hAt
  apart := h.apart
  owned key index hEntry := by
    rw [pending_forget] at hEntry
    split at hEntry
    · cases hEntry
    · exact h.owned key index hEntry
  held k key index hAt hWaiting := by
    rw [h.tidy.slot_forget] at hWaiting
    split at hWaiting
    · cases hWaiting
    · rename_i hOther
      have hEntry := h.held k key index hAt hWaiting
      rw [pending_forget, if_neg, hEntry]
      rintro rfl
      exact hOther hEntry

/-- A new exchange. -/
theorem Matched.register (h : a.Matched exchange?) (hNew : exchange? k = none) (peer : Peer)
    (messageId : UInt16) : (a.register peer messageId).2.Matched
      (Function.update exchange? k (some ((peer, messageId), a.slots.length))) where
  tidy := h.tidy.register peer messageId
  early j key index hAt := by
    rw [length_register]
    rw [Function.update_apply] at hAt
    split at hAt
    · cases hAt
      exact Nat.lt_succ_self _
    · exact Nat.lt_succ_of_lt (h.early j key index hAt)
  apart j j' key key' index hAt hAt' := by
    rw [Function.update_apply] at hAt hAt'
    split at hAt
    · rename_i hFirst
      cases hAt
      split at hAt'
      · rename_i hSecond
        rw [hFirst, hSecond]
      · exact (Nat.lt_irrefl _ (h.early j' key' _ hAt')).elim
    · split at hAt'
      · cases hAt'
        exact (Nat.lt_irrefl _ (h.early j key _ hAt)).elim
      · exact h.apart j j' key key' index hAt hAt'
  owned key index hEntry := by
    rw [pending_register] at hEntry
    split at hEntry
    · rename_i hOwn
      cases hEntry
      exact ⟨k, by rw [Function.update_self, hOwn]⟩
    · obtain ⟨j, hAt⟩ := h.owned key index hEntry
      refine ⟨j, ?_⟩
      rw [Function.update_of_ne, hAt]
      rintro rfl
      cases hNew.symm.trans hAt
  held j key index hAt hWaiting := by
    rw [Function.update_apply] at hAt
    split at hAt
    · cases hAt
      rw [pending_register, if_pos rfl]
    · have hEarly := h.early j key index hAt
      rw [h.tidy.slot_register, if_neg (Nat.ne_of_lt hEarly)] at hWaiting
      split at hWaiting
      · cases hWaiting
      · rename_i hOther
        have hEntry := h.held j key index hAt hWaiting
        rw [pending_register, if_neg, hEntry]
        rintro rfl
        exact hOther hEntry

theorem Matched.setSlot (h : a.Matched exchange?) (hFree : a.slot index ≠ .waiting) {s : Slot}
    (hDone : s ≠ .waiting) : (a.setSlot index s).Matched exchange? where
  tidy := h.tidy.setSlot hFree s
  early k key j hAt := by
    rw [Acks.setSlot, List.length_set]
    exact h.early k key j hAt
  apart := h.apart
  owned := h.owned
  held k key j hAt hWaiting := by
    rw [slot_setSlot] at hWaiting
    split at hWaiting
    · exact (hDone hWaiting).elim
    · exact h.held k key j hAt hWaiting

theorem not_waiting_setSlot (hFree : a.slot index ≠ .waiting) {s : Slot} (hDone : s ≠ .waiting) :
    (a.setSlot index s).slot index ≠ .waiting := by
  rw [slot_setSlot]
  split
  · exact hDone
  · exact hFree

/-- An exchange is over whose slot does not wait any more. -/
theorem Matched.leave (h : a.Matched exchange?) (hAt : exchange? k = some (key, index))
    (hFree : a.slot index ≠ .waiting) : a.Matched (Function.update exchange? k none) := by
  have hOld : ∀ {j x}, Function.update exchange? k none j = some x → exchange? j = some x := by
    intro j x hj
    rw [Function.update_apply] at hj
    split at hj
    · cases hj
    · exact hj
  constructor
  · exact h.tidy
  · exact fun j key' index' hj => h.early j key' index' (hOld hj)
  · exact fun j j' key' key'' index' hj hj' => h.apart j j' key' key'' index' (hOld hj) (hOld hj')
  · intro key' index' hEntry
    obtain ⟨j, hj⟩ := h.owned key' index' hEntry
    refine ⟨j, ?_⟩
    rw [Function.update_of_ne, hj]
    rintro rfl
    cases hAt.symm.trans hj
    exact hFree (h.tidy.waiting key index hEntry)
  · exact fun j key' index' hj => h.held j key' index' (hOld hj)

/-- An exchange is given up. -/
theorem Matched.abandon (h : a.Matched exchange?)
    (hAt : exchange? k = some ((peer, messageId), index)) :
    ((a.forget peer messageId).drop index).Matched (Function.update exchange? k none) := by
  have hFree : (a.forget peer messageId).slot index ≠ .waiting := by
    intro hWaiting
    have hEntry := (h.forget peer messageId).held k _ index hAt hWaiting
    rw [pending_forget, if_pos rfl] at hEntry
    cases hEntry
  have hDropped := (h.forget peer messageId).setSlot hFree (s := .dropped) nofun
  exact hDropped.leave hAt (not_waiting_setSlot hFree nofun)

/-- The answer of an exchange is taken. -/
theorem Matched.settle (h : a.Matched exchange?) (hAt : exchange? k = some (key, index))
    (hFree : a.slot index ≠ .waiting) :
    ((a.setSlot index .closed).drop index).Matched (Function.update exchange? k none) := by
  have hClosed : (a.setSlot index .closed).slot index ≠ .waiting :=
    not_waiting_setSlot hFree nofun
  have hSettled := (h.setSlot hFree (s := .closed) nofun).setSlot hClosed (s := .dropped) nofun
  exact hSettled.leave hAt (not_waiting_setSlot hClosed nofun)

/-! ## Exchanges that are not overtaken -/

/-- Each exchange waits for its answer or has it. -/
structure Lively (a : Acks) (exchange? : Nat → Option ((Peer × UInt16) × Nat)) : Prop
    extends Matched a exchange? where
  lasts : ∀ k key index, exchange? k = some (key, index) →
    a.slot index = .waiting ∨ ∃ kind, a.slot index = .answered kind

theorem Lively.waiting_iff (h : a.Lively exchange?) (hAt : exchange? k = some (key, index)) :
    a.slot index = .waiting ↔ (a.slot index).isAnswered = false := by
  rcases h.lasts k key index hAt with hWaiting | ⟨kind, hAnswered⟩
  · rw [hWaiting]
    exact iff_of_true rfl rfl
  · rw [hAnswered]
    exact iff_of_false nofun nofun

theorem Lively.resolve (h : a.Lively exchange?) (peer : Peer) (messageId : UInt16)
    (kind : AckKind) : (a.resolve peer messageId kind).2.Lively exchange? where
  toMatched := h.toMatched.resolve peer messageId kind
  lasts k key index hAt := by
    rw [h.tidy.slot_resolve]
    split
    · exact .inr ⟨kind, rfl⟩
    · exact h.lasts k key index hAt

/-- An exchange begins under a key that no other waits under. -/
theorem Lively.register (h : a.Lively exchange?) (hNew : exchange? k = none)
    (hFresh : ∀ j index, exchange? j = some ((peer, messageId), index) →
      a.slot index ≠ .waiting) :
    (a.register peer messageId).2.Lively
      (Function.update exchange? k (some ((peer, messageId), a.slots.length))) where
  toMatched := h.toMatched.register hNew peer messageId
  lasts j key index hAt := by
    rw [h.tidy.slot_register]
    rw [Function.update_apply] at hAt
    split at hAt
    · cases hAt
      exact .inl (if_pos rfl)
    · rw [if_neg (Nat.ne_of_lt (h.early j key index hAt)), if_neg]
      · exact h.lasts j key index hAt
      · intro hEntry
        obtain ⟨j', hOwner⟩ := h.owned _ index hEntry
        exact hFresh j' index hOwner (h.tidy.waiting _ _ hEntry)

/-- One exchange is over, and the slots of the others are as before. -/
theorem Lively.leave {b : Acks} (h : a.Lively exchange?)
    (hMatched : b.Matched (Function.update exchange? k none))
    (hOthers : ∀ j key index, j ≠ k → exchange? j = some (key, index) →
      b.slot index = a.slot index) : b.Lively (Function.update exchange? k none) where
  toMatched := hMatched
  lasts j key index hAt := by
    rw [Function.update_apply] at hAt
    split at hAt
    · cases hAt
    · rename_i hOther
      rw [hOthers j key index hOther hAt]
      exact h.lasts j key index hAt

theorem Matched.ne_slot (h : a.Matched exchange?) (hAt : exchange? k = some (key, index))
    {j : Nat} (hOther : j ≠ k) {index' : Nat} (hAt' : exchange? j = some (key', index')) :
    index' ≠ index := by
  rintro rfl
  exact hOther (h.apart j k key' key index' hAt' hAt)

/-- The entry that goes with an exchange that is given up is its own. -/
theorem Lively.abandon (h : a.Lively exchange?)
    (hAt : exchange? k = some ((peer, messageId), index)) (hWaiting : a.slot index = .waiting) :
    ((a.forget peer messageId).drop index).Lively (Function.update exchange? k none) := by
  refine h.leave (h.toMatched.abandon hAt) fun j key index' hOther hAt' => ?_
  have hApart := h.toMatched.ne_slot hAt hOther hAt'
  rw [slot_drop_of_ne hApart, h.tidy.slot_forget, if_neg]
  intro hEntry
  cases (h.held k _ index hAt hWaiting).symm.trans hEntry
  exact hApart rfl

theorem Lively.settle (h : a.Lively exchange?) (hAt : exchange? k = some (key, index))
    (hFree : a.slot index ≠ .waiting) :
    ((a.setSlot index .closed).drop index).Lively (Function.update exchange? k none) := by
  refine h.leave (h.toMatched.settle hAt hFree) fun j key' index' hOther hAt' => ?_
  have hApart := h.toMatched.ne_slot hAt hOther hAt'
  rw [slot_drop_of_ne hApart, slot_setSlot, if_neg fun hSame => hApart hSame.1.symm]

/-! ## One step -/

/-- What a step of the party `k` can do: leave the entries alone, begin an exchange under the
next ID, give it up at once, give up the exchange that it is in, or take its answer. The last
index is the next ID after it. -/
inductive Shifts (a : Acks) (exchange? : Nat → Option ((Peer × UInt16) × Nat)) (k : Nat)
    (nextId : UInt16) : Acks → Option ((Peer × UInt16) × Nat) → UInt16 → Prop
  | keeps {nextId' : UInt16} (hId : nextId' = nextId ∨ nextId' = nextId + 1) :
      Shifts a exchange? k nextId a (exchange? k) nextId'
  | begins (peer : Peer) (hNew : exchange? k = none) : Shifts a exchange? k nextId
      (a.register peer nextId).2 (some ((peer, nextId), a.slots.length)) (nextId + 1)
  | passes (peer : Peer) (hNew : exchange? k = none) : Shifts a exchange? k nextId
      (((a.register peer nextId).2.forget peer nextId).drop a.slots.length) none (nextId + 1)
  | abandons {peer : Peer} {messageId : UInt16} {index : Nat}
      (hAt : exchange? k = some ((peer, messageId), index)) : Shifts a exchange? k nextId
      ((a.forget peer messageId).drop index) none nextId
  | settles {key : Peer × UInt16} {index : Nat} {kind : AckKind}
      (hAt : exchange? k = some (key, index)) (hAnswered : a.slot index = .answered kind) :
      Shifts a exchange? k nextId ((a.setSlot index .closed).drop index) none nextId

section

variable {b : Acks} {next next' : UInt16} {exchange : Option ((Peer × UInt16) × Nat)}

theorem Shifts.nextId (h : a.Shifts exchange? k next b exchange next') :
    next' = next ∨ next' = next + 1 := by
  cases h with
  | keeps hId => exact hId
  | begins peer hNew => exact .inr rfl
  | passes peer hNew => exact .inr rfl
  | abandons hAt => exact .inl rfl
  | settles hAt hAnswered => exact .inl rfl

/-- An exchange has been there before, or has begun under the next ID. -/
theorem Shifts.exchange_cases (h : a.Shifts exchange? k next b exchange next')
    (hAt : exchange = some (key, index)) : exchange? k = some (key, index) ∨
      exchange? k = none ∧ key.2 = next ∧ next' = next + 1 ∧
        b = (a.register key.1 next).2 ∧ index = a.slots.length := by
  cases h with
  | keeps hId => exact .inl hAt
  | begins peer hNew =>
    cases hAt
    exact .inr ⟨hNew, rfl, rfl, rfl, rfl⟩
  | _ => cases hAt

/-- A step of another party leaves the slot of an exchange alone, or closes it while it
waits. -/
theorem Matched.slot_cases (h : a.Matched exchange?)
    (hShifts : a.Shifts exchange? k next b exchange next') {j : Nat} (hOther : j ≠ k)
    (hAt : exchange? j = some (key, index)) :
    b.slot index = a.slot index ∨ a.slot index = .waiting ∧ b.slot index = .closed := by
  have hForget : ∀ peer messageId, (a.forget peer messageId).slot index = a.slot index ∨
      a.slot index = .waiting ∧ (a.forget peer messageId).slot index = .closed := by
    intro peer messageId
    rw [h.tidy.slot_forget]
    split
    · rename_i hEntry
      exact .inr ⟨h.tidy.waiting _ _ hEntry, rfl⟩
    · exact .inl rfl
  have hEarly : index ≠ a.slots.length := Nat.ne_of_lt (h.early j key index hAt)
  have hRegister : ∀ peer, (a.register peer next).2.slot index = a.slot index ∨
      a.slot index = .waiting ∧ (a.register peer next).2.slot index = .closed := by
    intro peer
    rw [h.tidy.slot_register, if_neg hEarly, ← h.tidy.slot_forget]
    exact hForget peer next
  cases hShifts with
  | keeps hId => exact .inl rfl
  | begins peer hNew => exact hRegister peer
  | passes peer hNew =>
    -- The entry that is forgotten is that of the new slot.
    rw [slot_drop_of_ne hEarly, (h.tidy.register peer next).slot_forget, pending_register,
      if_pos rfl, if_neg fun hSame => hEarly (Option.some.inj hSame).symm]
    exact hRegister peer
  | abandons hOwn =>
    rw [slot_drop_of_ne (h.ne_slot hOwn hOther hAt)]
    exact hForget _ _
  | settles hOwn hAnswered =>
    have hApart := h.ne_slot hOwn hOther hAt
    rw [slot_drop_of_ne hApart, slot_setSlot, if_neg fun hSame => hApart hSame.1.symm]
    exact .inl rfl

theorem Matched.shifts (h : a.Matched exchange?)
    (hShifts : a.Shifts exchange? k next b exchange next') :
    b.Matched (Function.update exchange? k exchange) := by
  cases hShifts with
  | keeps hId =>
    rw [Function.update_eq_self]
    exact h
  | begins peer hNew => exact h.register hNew peer next
  | passes peer hNew =>
    have hOver := (h.register hNew peer next).abandon (Function.update_self ..)
    rwa [Function.update_idem] at hOver
  | abandons hAt => exact h.abandon hAt
  | settles hAt hAnswered => exact h.settle hAt (by rw [hAnswered]; nofun)

end

end Acks

end DeviceBus.Observe
