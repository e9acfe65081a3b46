import DeviceBus.Proofs.Gateway.Phases

/-! # Exchanges and their slots

An exchange is under way from the first transmission of a confirmable message until its
delivery takes the answer or gives it up. It has a slot of its own, and each pending
acknowledgement is that of an exchange whose slot waits. Others touch the slot of an exchange
only while it waits.
-/

namespace DeviceBus.Gateway

open Coap Observe

variable {g : Gateway} {k : Nat} {d : Delivery} {e : Event} {r : Outcome} {peer : Peer}
  {key : Peer × UInt16} {slot : Nat}

/-- The key and the slot of the exchange that a delivery is in. -/
def Delivery.exchange? (d : Delivery) : Option ((Peer × UInt16) × Nat) :=
  match d.phase with
  | .confirming packet slot _ _ => some ((d.observation.peer, packet.messageId), slot)
  | _ => none

def exchange? (g : Gateway) (k : Nat) : Option ((Peer × UInt16) × Nat) :=
  g.deliveries[k]?.bind Delivery.exchange?

/-- The pending acknowledgements are those of the exchanges whose slots wait. -/
def Matched (g : Gateway) : Prop :=
  g.acks.Matched g.exchange?

/-! ## Actions -/

theorem exchange?_eq (hAt : g.deliveries[k]? = some d) : g.exchange? k = d.exchange? := by
  rw [exchange?, hAt, Option.bind_some]

theorem exchange?_concluded (g : Gateway) (k : Nat) (d : Delivery) :
    (g.concluded k d).delivery.exchange? = none := by
  unfold concluded
  split
  · rfl
  · rfl

theorem acks_concluded (g : Gateway) (k : Nat) (d : Delivery) :
    (g.concluded k d).acks = g.acks := by
  unfold concluded
  split
  · rfl
  · rfl

theorem packets_concluded (g : Gateway) (k : Nat) (d : Delivery) :
    (g.concluded k d).packets = [] := by
  unfold concluded
  split
  · rfl
  · rfl

theorem exchange?_of_watching {due : Nat} (hWatching : d.phase = .watching due) :
    d.exchange? = none := by
  rw [Delivery.exchange?, hWatching]

theorem exchange?_of_confirming {packet : Packet} {attempt due : Nat}
    (hConfirming : d.phase = .confirming packet slot attempt due) :
    d.exchange? = some ((d.observation.peer, packet.messageId), slot) := by
  rw [Delivery.exchange?, hConfirming]

theorem Yields.exchange? {g' : Gateway} (h : Yields g g' k peer r)
    (hAt : g.deliveries[k]? = some d) :
    g'.exchange? = Function.update g.exchange? k r.delivery.exchange? := by
  funext j
  rw [Function.update_apply, Gateway.exchange?, Gateway.exchange?, h.deliveries]
  split
  · rename_i hSame
    rw [hSame, List.getElem?_set_self (List.getElem?_eq_some_iff.mp hAt).1, Option.bind_some]
  · rename_i hOther
    rw [List.getElem?_set_ne (Ne.symm hOther)]

theorem nextId_concluded (g : Gateway) (k : Nat) (d : Delivery) :
    (g.concluded k d).nextId = g.nextId := by
  unfold concluded
  split
  · rfl
  · rfl

/-- What an action does to the entries, the exchange of its delivery and the next ID. -/
theorem Comes.shifts (h : Comes g k d e r) (hAt : g.deliveries[k]? = some d) :
    g.acks.Shifts g.exchange? k g.nextId r.acks r.delivery.exchange? r.nextId := by
  have hKeeps : ∀ (d' : Delivery) nextId, d'.exchange? = d.exchange? →
      (nextId = g.nextId ∨ nextId = g.nextId + 1) →
        g.acks.Shifts g.exchange? k g.nextId g.acks d'.exchange? nextId := by
    intro d' nextId hSame hId
    rw [hSame, ← exchange?_eq hAt]
    exact .keeps hId
  cases h with
  | rests hPoll hAlarm => exact hKeeps _ _ rfl (.inl rfl)
  | notifies hPoll hWatching hReceiving hQueue =>
    exact hKeeps _ _ (exchange?_of_watching hWatching).symm (.inr rfl)
  | asks hWatching hDue hSilent hMay =>
    exact .begins _ ((exchange?_eq hAt).trans (exchange?_of_watching hWatching))
  | skips hWatching hDue hSilent hNever =>
    rw [exchange?_concluded, acks_concluded, nextId_concluded]
    exact .passes _ ((exchange?_eq hAt).trans (exchange?_of_watching hWatching))
  | asks_again hPoll hConfirming hNone hDue hMay =>
    exact hKeeps _ _ (exchange?_of_confirming hConfirming).symm (.inl rfl)
  | gives_up hPoll hConfirming hNone hDue hLast =>
    rw [exchange?_concluded, acks_concluded, nextId_concluded]
    exact .abandons ((exchange?_eq hAt).trans (exchange?_of_confirming hConfirming))
  | answered hPoll hConfirming hAnswered =>
    rw [exchange?_concluded, acks_concluded, nextId_concluded]
    exact .settles ((exchange?_eq hAt).trans (exchange?_of_confirming hConfirming)) hAnswered
  | ends hPoll hWatching hEmpty hSending =>
    exact hKeeps _ _ (exchange?_of_watching hWatching).symm (.inl rfl)

theorem exists_of_exchange? (hExchange : g.exchange? k = some (key, slot)) :
    ∃ d packet attempt due, g.deliveries[k]? = some d ∧
      d.phase = .confirming packet slot attempt due ∧
      key = (d.observation.peer, packet.messageId) := by
  obtain ⟨d, hAt, hOwn⟩ := Option.bind_eq_some_iff.mp hExchange
  unfold Delivery.exchange? at hOwn
  split at hOwn
  · rename_i packet index attempt due hConfirming
    cases hOwn
    exact ⟨d, packet, attempt, due, hAt, hConfirming, rfl⟩
  · cases hOwn

theorem exchange?_of_answered (hSound : g.Sound) (hAlive : g.Alive)
    (hExchange : g.exchange? k = some (key, slot)) {kind : AckKind}
    (hAnswered : g.acks.slot slot = .answered kind) : (g.step (.poll k)).exchange? k = none := by
  obtain ⟨d, packet, attempt, due, hAt, hConfirming, -⟩ := exists_of_exchange? hExchange
  obtain ⟨r, hComes, hYields⟩ := acted_step hSound hAlive hAt (e := .poll k) (decide_eq_true rfl)
  rw [hYields.exchange? hAt, Function.update_self, hComes.of_answered hConfirming hAnswered]
  exact exchange?_concluded _ k _

/-- An answer for which there is no entry changes nothing. -/
theorem step_of_unasked {wall : Int64} {p : Packet} {kind : AckKind}
    (hAnswer : answer? p = some kind) (hNone : g.acks.pending.get? (peer, p.messageId) = none) :
    g.step (.packet wall peer p) = g := by
  rw [step_of_answer g wall peer hAnswer, resolveAck, Acks.resolve_of_none hNone]

/-! ## All events -/

theorem Steady.exchange? {g' : Gateway} (h : Steady g g') : g'.exchange? = g.exchange? := by
  funext k
  rcases h.deliveries with hKept | ⟨observation, sequence, hBegun, -⟩
  · rw [Gateway.exchange?, hKept, Gateway.exchange?]
  · rw [Gateway.exchange?, Gateway.exchange?, hBegun, List.getElem?_append]
    split
    · rfl
    · rename_i hLate
      rw [List.getElem?_eq_none (Nat.le_of_not_lt hLate)]
      cases k - g.deliveries.length with
      | zero => rfl
      | succ n => rfl

theorem matched_step (hSound : g.Sound) (hAlive : g.Alive) (h : g.Matched) (e : Event) :
    (g.step e).Matched := by
  unfold Matched
  cases happens hSound hAlive e with
  | acts hAt hActs hComes hYields =>
    rw [hYields.acks, hYields.exchange? hAt]
    exact h.shifts (hComes.shifts hAt)
  | answers hAnswer hStep =>
    rw [hStep]
    exact h.resolve _ _ _
  | elapses millis => exact h
  | steady hSteady =>
    rw [hSteady.acks, hSteady.exchange?]
    exact h

theorem matched_opened (group : Option String) (authorizer : Authorizer) (settings : Settings)
    (firstId : UInt16) : (opened group authorizer settings firstId).Matched where
  tidy := ⟨fun key index hEntry => (by cases hEntry),
    fun key key' index hEntry => (by cases hEntry)⟩
  early k key index hAt := by cases hAt
  apart k k' key key' index hAt := by cases hAt
  owned key index hEntry := by cases hEntry
  held k key index hAt := by cases hAt

theorem Reached.matched (h : Reached g) : g.Matched :=
  h.keeps (fun _ => matched_step) matched_opened

/-- Any other event leaves the exchange of a delivery alone, unless it still waits. -/
theorem slot_of_others (hReached : Reached g) (hActs : e.acts k = false)
    {key : Peer × UInt16} {slot : Nat} (hExchange : g.exchange? k = some (key, slot)) :
    (g.step e).acks.slot slot = g.acks.slot slot ∨ g.acks.slot slot = .waiting := by
  have hMatched := hReached.matched
  cases happens hReached.sound hReached.alive e with
  | @acts _ j d' r hAt hOther hComes hYields =>
    have hApart : k ≠ j := by
      rintro rfl
      cases hActs.symm.trans hOther
    rw [hYields.acks]
    exact (hMatched.slot_cases (hComes.shifts hAt) hApart hExchange).imp_right And.left
  | answers hAnswer hStep =>
    rw [hStep]
    rw [Gateway.resolveAck, hMatched.tidy.slot_resolve]
    split
    · rename_i hEntry
      exact .inr (hMatched.tidy.waiting _ _ hEntry)
    · exact .inl rfl
  | elapses millis => exact .inl rfl
  | steady hSteady => exact .inl (by rw [hSteady.acks])

end DeviceBus.Gateway
