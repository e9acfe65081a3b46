import DeviceBus.Proofs.Gateway.Exchanges

/-! # The account of pending acknowledgements

Every pending acknowledgement is that of an exchange that waits for an answer, and an answer
completes none but one that waits under its peer and message ID. Every exchange that waits has
one, as long as no exchange begins under the key of another that waits. It can do so only when
the message IDs have come round meanwhile. Then it takes the entry of the other one over, and
the other one in turn, when it gives up, takes the entry away.
-/

namespace DeviceBus.Gateway

open Coap Observe

variable {g : Gateway} {k j : Nat} {d : Delivery} {e : Event} {r : Outcome}
  {key : Peer × UInt16} {slot : Nat}

/-! ## Exchanges that begin -/

/-- With the event the delivery `k` begins an exchange, under the next message ID. -/
structure Starts (g : Gateway) (e : Event) (k : Nat) (key : Peer × UInt16) (slot : Nat) :
    Prop where
  before : g.exchange? k = none
  messageId : key.2 = g.nextId
  nextId : (g.step e).nextId = g.nextId + 1
  acks : (g.step e).acks = (g.acks.register key.1 key.2).2
  slot_eq : slot = g.acks.slots.length
  others : ∀ j, j ≠ k → (g.step e).exchange? j = g.exchange? j

/-- An exchange has been there before, or begins. -/
theorem exchange?_step (hSound : g.Sound) (hAlive : g.Alive)
    (hAt : (g.step e).exchange? k = some (key, slot)) :
    g.exchange? k = some (key, slot) ∨ g.Starts e k key slot := by
  cases happens hSound hAlive e with
  | @acts _ j d r hBefore hActs hComes hYields =>
    have hAfter := hYields.exchange? hBefore
    rw [hAfter, Function.update_apply] at hAt
    split at hAt
    · rename_i hSame
      subst hSame
      rcases (hComes.shifts hBefore).exchange_cases hAt with
        hOld | ⟨hNew, hId, hNext, hAcks, hSlot⟩
      · exact .inl hOld
      · refine .inr ⟨hNew, hId, hYields.nextId.trans hNext, ?_, hSlot, fun j hOther => ?_⟩
        · rw [hYields.acks, hAcks, hId]
        · rw [hAfter, Function.update_of_ne hOther]
    · exact .inl hAt
  | answers hAnswer hStep =>
    rw [hStep] at hAt
    exact .inl hAt
  | elapses millis => exact .inl hAt
  | steady hSteady => exact .inl (hSteady.exchange? ▸ hAt)

/-- The exchanges that wait for an answer: those that are under way and have none. -/
def awaited (g : Gateway) : List ((Peer × UInt16) × Nat) :=
  (g.deliveries.filterMap Delivery.exchange?).filter fun exchange =>
    !(g.acks.slot exchange.2).isAnswered

/-- With the event an exchange begins under the key of one that waits. -/
def Overtakes (g : Gateway) (e : Event) : Prop :=
  ∃ k key slot slot', g.exchange? k = none ∧ (g.step e).exchange? k = some (key, slot) ∧
    (key, slot') ∈ g.awaited

/-- Somewhere along the run an exchange is overtaken. -/
def Overtaken (g : Gateway) (events : List Event) : Prop :=
  ∃ before e after, events = before ++ e :: after ∧ (g.run before).Overtakes e

theorem mem_awaited_iff : (key, slot) ∈ g.awaited ↔
    (∃ k, g.exchange? k = some (key, slot)) ∧ (g.acks.slot slot).isAnswered = false := by
  rw [awaited, List.mem_filter, Bool.not_eq_true']
  refine and_congr_left fun _ => ?_
  rw [List.mem_filterMap]
  constructor
  · rintro ⟨d, hMember, hExchange⟩
    obtain ⟨k, hAt⟩ := List.mem_iff_getElem?.mp hMember
    exact ⟨k, (exchange?_eq hAt).trans hExchange⟩
  · rintro ⟨k, hExchange⟩
    obtain ⟨d, hAt, hExchange⟩ := Option.bind_eq_some_iff.mp hExchange
    exact ⟨d, List.mem_of_getElem? hAt, hExchange⟩

theorem Overtakes.starts (h : g.Overtakes e) (hSound : g.Sound) (hAlive : g.Alive) :
    ∃ k key slot slot', g.Starts e k key slot ∧ (g.step e).exchange? k = some (key, slot) ∧
      (key, slot') ∈ g.awaited := by
  obtain ⟨k, key, slot, slot', hNone, hNew, hWaits⟩ := h
  rcases exchange?_step hSound hAlive hNew with hOld | hStarts
  · cases hNone.symm.trans hOld
  · exact ⟨k, key, slot, slot', hStarts, hNew, hWaits⟩

theorem Overtaken.append {events : List Event} (h : g.Overtaken events) (more : List Event) :
    g.Overtaken (events ++ more) := by
  obtain ⟨before, e, after, rfl, hOvertakes⟩ := h
  exact ⟨before, e, after ++ more, by simp, hOvertakes⟩

theorem Starts.ne (h : g.Starts e k key slot) {slot' : Nat}
    (hAt : g.exchange? j = some (key, slot')) : j ≠ k := by
  rintro rfl
  cases h.before.symm.trans hAt

/-! ## Exchanges that keep their entries -/

/-- Where the peer is asked zero times, no exchange is ever under way. -/
theorem Orderly.exchange?_eq_none (h : g.Orderly) (hNever : g.settings.retry.maxAttempts = 0)
    (k : Nat) : g.exchange? k = none := by
  cases hExchange : g.exchange? k with
  | none => rfl
  | some exchange =>
    obtain ⟨d, packet, attempt, due, hAt, hConfirming, -⟩ := exists_of_exchange? hExchange
    obtain ⟨-, hMay, -⟩ := (h k d hAt).confirming hConfirming
    rw [hNever] at hMay
    exact (Nat.not_lt_zero _ hMay).elim

theorem Comes.lively (h : Comes g k d e r) (hAt : g.deliveries[k]? = some d)
    (hMay : 0 < g.settings.retry.maxAttempts) (hLively : g.acks.Lively g.exchange?)
    (hFresh : ∀ slot, g.exchange? k = none →
      r.delivery.exchange? = some ((d.observation.peer, g.nextId), slot) → ∀ j slot',
        g.exchange? j = some ((d.observation.peer, g.nextId), slot') →
          g.acks.slot slot' ≠ .waiting) :
    r.acks.Lively (Function.update g.exchange? k r.delivery.exchange?) := by
  have hKeeps : ∀ d' : Delivery, d'.exchange? = d.exchange? →
      g.acks.Lively (Function.update g.exchange? k d'.exchange?) := by
    intro d' hSame
    rw [hSame, ← exchange?_eq hAt, Function.update_eq_self]
    exact hLively
  cases h with
  | rests hPoll hAlarm => exact hKeeps _ rfl
  | notifies hPoll hWatching hReceiving hQueue =>
    exact hKeeps _ (exchange?_of_watching hWatching).symm
  | asks hWatching hDue hSilent hMay' =>
    have hNone := (exchange?_eq hAt).trans (exchange?_of_watching hWatching)
    exact hLively.register hNone (hFresh _ hNone rfl)
  | skips hWatching hDue hSilent hNever => exact absurd hNever (Nat.ne_of_gt hMay)
  | asks_again hPoll hConfirming hNone hDue hMay' =>
    exact hKeeps _ (exchange?_of_confirming hConfirming).symm
  | @gives_up packet slot attempt due hPoll hConfirming hNone hDue hLast =>
    have hExchange := (exchange?_eq hAt).trans (exchange?_of_confirming hConfirming)
    have hWaiting : g.acks.slot slot = .waiting := by
      refine (hLively.lasts k _ slot hExchange).resolve_right ?_
      rintro ⟨kind, hAnswered⟩
      exact hNone kind hAnswered
    rw [exchange?_concluded, acks_concluded]
    exact hLively.abandon hExchange hWaiting
  | answered hPoll hConfirming hAnswered =>
    have hExchange := (exchange?_eq hAt).trans (exchange?_of_confirming hConfirming)
    rw [exchange?_concluded, acks_concluded]
    exact hLively.settle hExchange (by rw [hAnswered]; nofun)
  | ends hPoll hWatching hEmpty hSending =>
    exact hKeeps _ (exchange?_of_watching hWatching).symm

theorem lively_step (hSound : g.Sound) (hAlive : g.Alive) (hOrderly : g.Orderly)
    (h : g.acks.Lively g.exchange?) (hApart : ¬g.Overtakes e) :
    (g.step e).acks.Lively (g.step e).exchange? := by
  cases happens hSound hAlive e with
  | @acts _ k d r hAt hActs hComes hYields =>
    rcases Nat.eq_zero_or_pos g.settings.retry.maxAttempts with hNever | hMay
    · have hSettings := settings_step hSound hAlive e
      refine ⟨matched_step hSound hAlive h.toMatched e, fun j key slot hExchange => ?_⟩
      rw [(orderly_step hSound hAlive hOrderly e).exchange?_eq_none (hSettings ▸ hNever)]
        at hExchange
      cases hExchange
    · have hAfter := hYields.exchange? hAt
      rw [hYields.acks, hAfter]
      refine hComes.lively hAt hMay h fun slot hNone hNew j slot' hOther hWaiting => hApart ?_
      refine ⟨k, _, slot, slot', hNone, ?_, mem_awaited_iff.mpr ⟨⟨j, hOther⟩, ?_⟩⟩
      · rw [hAfter, Function.update_self, hNew]
      · rw [hWaiting]
        rfl
  | answers hAnswer hStep =>
    rw [hStep]
    exact h.resolve _ _ _
  | elapses millis => exact h
  | steady hSteady =>
    rw [hSteady.acks, hSteady.exchange?]
    exact h

theorem lively_run (hSound : g.Sound) (hAlive : g.Alive) (hOrderly : g.Orderly)
    (h : g.acks.Lively g.exchange?) {events : List Event} (hApart : ¬g.Overtaken events) :
    (g.run events).acks.Lively (g.run events).exchange? := by
  induction events generalizing g with
  | nil => exact h
  | cons e rest ih =>
    have hFirst : ¬g.Overtakes e := fun hOvertakes => hApart ⟨[], e, rest, rfl, hOvertakes⟩
    refine ih (sound_step hSound e) (alive_step hSound hAlive e)
      (orderly_step hSound hAlive hOrderly e) (lively_step hSound hAlive hOrderly h hFirst) ?_
    rintro ⟨before, e', after, rfl, hOvertakes⟩
    exact hApart ⟨e :: before, e', after, rfl, hOvertakes⟩

/-! ## The account -/

/-- Every entry is that of an exchange that waits for an answer. An answer from a peer completes
at most one exchange, one that waits under this peer and its message ID. -/
structure Attributed (g : Gateway) : Prop where
  owned : g.acks.pending.entries.Subperm g.awaited
  count_le : g.pendingAcks ≤ g.awaited.length
  answers : ∀ wall peer p kind, answer? p = some kind →
    g.step (.packet wall peer p) = g ∨ ∃ slot acks, ((peer, p.messageId), slot) ∈ g.awaited ∧
      g.step (.packet wall peer p) = { g with acks } ∧
      ∀ j, acks.slot j = if j = slot then .answered kind else g.acks.slot j
  ignores : ∀ wall peer p kind, answer? p = some kind →
    (∀ slot, ((peer, p.messageId), slot) ∉ g.awaited) → g.step (.packet wall peer p) = g

/-- The entries are, one for one, the exchanges that wait for an answer. An answer from a peer
completes the one under this peer and its message ID, and no other. -/
structure Accounted (g : Gateway) : Prop extends Attributed g where
  entries : g.acks.pending.entries.Perm g.awaited
  own_key : (g.awaited.map Prod.fst).Nodup
  count : g.pendingAcks = g.awaited.length
  resolves : ∀ wall peer p kind, answer? p = some kind →
    ∃ acks, g.step (.packet wall peer p) = { g with acks } ∧ ∀ slot, acks.slot slot =
      if ((peer, p.messageId), slot) ∈ g.awaited then .answered kind else g.acks.slot slot
  completes : ∀ wall peer p kind k slot, answer? p = some kind →
    g.exchange? k = some ((peer, p.messageId), slot) → (g.acks.slot slot).isAnswered = false →
      (g.run [.packet wall peer p, .poll k]).exchange? k = none

theorem nodup_awaited (hMatched : g.Matched) : g.awaited.Nodup := by
  refine List.Nodup.filter _ ?_
  rw [List.Nodup, List.pairwise_filterMap, List.pairwise_iff_getElem]
  rintro i j hi hj hLess ⟨key, slot⟩ hFirst x hSecond rfl
  have hAt : ∀ i (hi : i < g.deliveries.length), g.exchange? i = g.deliveries[i].exchange? :=
    fun i hi => exchange?_eq (List.getElem?_eq_getElem hi)
  exact Nat.ne_of_lt hLess
    (hMatched.apart i j key key slot ((hAt i hi).trans hFirst) ((hAt j hj).trans hSecond))

theorem Matched.mem_awaited (h : g.Matched) (hEntry : g.acks.pending.get? key = some slot) :
    (key, slot) ∈ g.awaited := by
  refine mem_awaited_iff.mpr ⟨h.owned key slot hEntry, ?_⟩
  rw [h.tidy.waiting key slot hEntry]
  rfl

theorem Matched.attributed (h : g.Matched) : g.Attributed := by
  have hOwned : g.acks.pending.entries.Subperm g.awaited := by
    refine List.subperm_of_subset g.acks.pending.nodup.of_map ?_
    rintro ⟨key, slot⟩ hMember
    exact h.mem_awaited (Table.get?_eq_some_iff.mpr hMember)
  refine ⟨hOwned, hOwned.length_le, fun wall peer p kind hAnswer => ?_,
    fun wall peer p kind hAnswer hNone => step_of_unasked hAnswer ?_⟩
  · cases hEntry : g.acks.pending.get? (peer, p.messageId) with
    | none => exact .inl (step_of_unasked hAnswer hEntry)
    | some slot =>
      refine .inr ⟨slot, _, h.mem_awaited hEntry, step_of_answer g wall peer hAnswer, fun j => ?_⟩
      rw [h.tidy.slot_resolve, hEntry]
      exact if_congr (by rw [Option.some.injEq, eq_comm]) rfl rfl
  · cases hEntry : g.acks.pending.get? (peer, p.messageId) with
    | none => rfl
    | some slot => exact (hNone slot (h.mem_awaited hEntry)).elim

section

variable (h : g.acks.Lively g.exchange?)

include h

theorem pending_iff : g.acks.pending.get? key = some slot ↔ (key, slot) ∈ g.awaited := by
  refine ⟨Matched.mem_awaited h.toMatched, fun hWaits => ?_⟩
  obtain ⟨⟨k, hExchange⟩, hNone⟩ := mem_awaited_iff.mp hWaits
  exact h.held k key slot hExchange ((h.waiting_iff hExchange).mpr hNone)

theorem perm_awaited : g.acks.pending.entries.Perm g.awaited := by
  refine (List.perm_ext_iff_of_nodup g.acks.pending.nodup.of_map
    (nodup_awaited h.toMatched)).mpr ?_
  rintro ⟨key, slot⟩
  rw [← Table.get?_eq_some_iff, pending_iff h]

theorem accounted (hSound : g.Sound) (hAlive : g.Alive) : g.Accounted where
  toAttributed := Matched.attributed h.toMatched
  entries := perm_awaited h
  own_key := ((perm_awaited h).map Prod.fst).nodup_iff.mp g.acks.pending.nodup
  count := (perm_awaited h).length_eq
  resolves wall peer p kind hAnswer := by
    refine ⟨_, step_of_answer g wall peer hAnswer, fun slot => ?_⟩
    rw [h.tidy.slot_resolve]
    exact if_congr (pending_iff h) rfl rfl
  completes wall peer p kind k slot hAnswer hExchange hNone := by
    have hStep := step_of_answer g wall peer hAnswer
    have hEntry := (pending_iff h).mpr (mem_awaited_iff.mpr ⟨⟨k, hExchange⟩, hNone⟩)
    have hAnswered : (g.step (.packet wall peer p)).acks.slot slot = .answered kind := by
      rw [hStep]
      exact (h.tidy.slot_resolve ..).trans (if_pos hEntry)
    have hStill : (g.step (.packet wall peer p)).exchange? k =
        some ((peer, p.messageId), slot) := by
      rw [hStep]
      exact hExchange
    exact exchange?_of_answered (sound_step hSound _) (alive_step hSound hAlive _) hStill hAnswered

end

/-- Two exchanges wait then under one key, for which there is one entry. -/
theorem Overtakes.not_accounted (h : g.Overtakes e) (hSound : g.Sound) (hAlive : g.Alive)
    (hMatched : g.Matched) : ¬(g.step e).Accounted := by
  obtain ⟨k, key, slot, slot', hStarts, hNew, hWaits⟩ := h.starts hSound hAlive
  obtain ⟨⟨j, hOld⟩, hNone⟩ := mem_awaited_iff.mp hWaits
  have hEarly := hMatched.early j key slot' hOld
  have hSlots := hMatched.tidy.slot_register key.1 key.2
  have hStill : (key, slot') ∈ (g.step e).awaited := by
    refine mem_awaited_iff.mpr ⟨⟨j, (hStarts.others j (hStarts.ne hOld)).trans hOld⟩, ?_⟩
    rw [hStarts.acks, hSlots, if_neg (Nat.ne_of_lt hEarly)]
    split
    · rfl
    · exact hNone
  have hFirst : (key, slot) ∈ (g.step e).awaited := by
    refine mem_awaited_iff.mpr ⟨⟨k, hNew⟩, ?_⟩
    rw [hStarts.acks, hSlots, if_pos hStarts.slot_eq]
    rfl
  intro hAccounted
  have hSame := List.inj_on_of_nodup_map hAccounted.own_key hFirst hStill rfl
  rw [Prod.mk.injEq, hStarts.slot_eq] at hSame
  exact Nat.ne_of_gt hEarly hSame.2

/-! ## Message IDs -/

/-- How many message IDs an event draws: one or none. -/
def draws (g : Gateway) (e : Event) : Nat :=
  if (g.step e).nextId = g.nextId then 0 else 1

def drawn (g : Gateway) : List Event → Nat
  | [] => 0
  | e :: rest => g.draws e + (g.step e).drawn rest

theorem drawn_append (g : Gateway) (events more : List Event) :
    g.drawn (events ++ more) = g.drawn events + (g.run events).drawn more := by
  induction events generalizing g with
  | nil => exact (Nat.zero_add _).symm
  | cons e rest ih => rw [List.cons_append, drawn, ih, drawn, Nat.add_assoc]; rfl

theorem Starts.draws_eq (h : g.Starts e k key slot) : g.draws e = 1 := by
  rw [draws, if_neg]
  rw [h.nextId]
  intro hSame
  have hNat := congrArg UInt16.toNat hSame
  simp only [UInt16.toNat_add, UInt16.toNat_one] at hNat
  omega

theorem nextId_step (hSound : g.Sound) (hAlive : g.Alive) (e : Event) :
    (g.step e).nextId = g.nextId + UInt16.ofNat (g.draws e) := by
  have hCases : (g.step e).nextId = g.nextId ∨ (g.step e).nextId = g.nextId + 1 := by
    cases happens hSound hAlive e with
    | acts hAt hActs hComes hYields =>
      rw [hYields.nextId]
      exact (hComes.shifts hAt).nextId
    | answers hAnswer hStep => exact .inl (by rw [hStep]; rfl)
    | elapses millis => exact .inl rfl
    | steady hSteady => exact hSteady.nextId
  unfold draws
  split
  · rename_i hSame
    exact hSame.trans (UInt16.add_zero _).symm
  · rename_i hMoved
    exact hCases.resolve_left hMoved

theorem nextId_run (hSound : g.Sound) (hAlive : g.Alive) (events : List Event) :
    (g.run events).nextId = g.nextId + UInt16.ofNat (g.drawn events) := by
  induction events generalizing g with
  | nil => exact (UInt16.add_zero _).symm
  | cons e rest ih =>
    rw [drawn, UInt16.ofNat_add, ← UInt16.add_assoc, ← nextId_step hSound hAlive]
    exact ih (sound_step hSound e) (alive_step hSound hAlive e)

/-- It takes as many IDs as there are, less one, to come back to the one before. -/
theorem le_drawn {messageId : UInt16} {n : Nat}
    (hRound : messageId + 1 + UInt16.ofNat n = messageId) : 65535 ≤ n := by
  have hNat := congrArg UInt16.toNat hRound
  simp only [UInt16.toNat_add, UInt16.toNat_ofNat', UInt16.toNat_one] at hNat
  have hBound := messageId.toNat_lt
  omega

/-- While an exchange lasts, the message IDs do not come round. -/
def Brisk (g : Gateway) (events : List Event) : Prop :=
  ∀ before during after k exchange, events = before ++ during ++ after →
    (g.run before).exchange? k = some exchange →
    (g.run (before ++ during)).exchange? k = some exchange →
      (g.run before).drawn during < 65536

/-- An exchange began under the ID before the next one. -/
theorem exchange?_begun (hSound : g.Sound) (hAlive : g.Alive) (hNone : ∀ k, g.exchange? k = none)
    {events : List Event} (hAt : (g.run events).exchange? k = some (key, slot)) :
    ∃ before during, events = before ++ during ∧
      (g.run before).exchange? k = some (key, slot) ∧ (g.run before).nextId = key.2 + 1 := by
  induction events using List.reverseRecOn with
  | nil => cases (hNone k).symm.trans hAt
  | append_singleton events e ih =>
    have hLast := hAt
    rw [run_append] at hLast
    rcases exchange?_step (sound_run hSound events) (alive_run hSound hAlive events) hLast with
      hBefore | hStarts
    · obtain ⟨before, during, rfl, hStart, hId⟩ := ih hBefore
      exact ⟨before, during ++ [e], List.append_assoc .., hStart, hId⟩
    · refine ⟨events ++ [e], [], (List.append_nil _).symm, hAt, ?_⟩
      rw [run_append, hStarts.messageId]
      exact hStarts.nextId

theorem drawn_le_length (g : Gateway) (events : List Event) : g.drawn events ≤ events.length := by
  induction events generalizing g with
  | nil => exact Nat.le_refl 0
  | cons e rest ih =>
    have hRest := ih (g.step e)
    have hFirst : g.draws e ≤ 1 := by
      unfold draws
      split
      · exact Nat.zero_le 1
      · exact Nat.le_refl 1
    rw [drawn, List.length_cons]
    omega

theorem brisk_of_short {events : List Event} (hShort : events.length < 65536) :
    g.Brisk events := by
  rintro before during after k exchange rfl - -
  have hDrawn := drawn_le_length (g.run before) during
  simp only [List.length_append] at hShort
  omega

theorem Brisk.not_overtaken {events : List Event} (h : g.Brisk events) (hSound : g.Sound)
    (hAlive : g.Alive) (hNone : ∀ k, g.exchange? k = none) : ¬g.Overtaken events := by
  rintro ⟨before, e, after, rfl, hOvertakes⟩
  obtain ⟨k, key, slot, slot', hStarts, -, hWaits⟩ :=
    hOvertakes.starts (sound_run hSound before) (alive_run hSound hAlive before)
  obtain ⟨⟨j, hOld⟩, -⟩ := mem_awaited_iff.mp hWaits
  have hStill : (g.run (before ++ [e])).exchange? j = some (key, slot') := by
    rw [run_append]
    exact (hStarts.others j (hStarts.ne hOld)).trans hOld
  -- All IDs but one have been drawn since the other began, and the last one is drawn now.
  obtain ⟨first, during, rfl, hStart, hId⟩ := exchange?_begun hSound hAlive hNone hOld
  have hSoundFirst := sound_run hSound first
  have hAliveFirst := alive_run hSound hAlive first
  have hFew := h first (during ++ [e]) after j _ (by simp) hStart
    (by rw [← List.append_assoc]; exact hStill)
  have hRound : key.2 + 1 + UInt16.ofNat ((g.run first).drawn during) = key.2 := by
    rw [← hId, ← nextId_run hSoundFirst hAliveFirst, ← run_append]
    exact hStarts.messageId.symm
  have hMany := le_drawn hRound
  rw [drawn_append, ← run_append, drawn, hStarts.draws_eq, drawn] at hFew
  omega

/-- At every moment of a run each pending acknowledgement is that of an exchange that waits. Each
exchange that waits has one at every moment, exactly if no exchange ever begins under the key of
one that waits. None does as long as the message IDs do not come round while an exchange lasts. -/
theorem acks_accounted_iff (group : Option String) (authorizer : Authorizer) (settings : Settings)
    (firstId : UInt16) (events : List Event) :
    ((opened group authorizer settings firstId).run events).Attributed ∧
    ((∀ before after, events = before ++ after →
        ((opened group authorizer settings firstId).run before).Accounted) ↔
      ¬(opened group authorizer settings firstId).Overtaken events) ∧
    ((opened group authorizer settings firstId).Brisk events →
      ¬(opened group authorizer settings firstId).Overtaken events) := by
  have hSound := sound_opened group authorizer settings firstId
  have hAlive := alive_opened group authorizer settings firstId
  have hReached : ∀ before, Reached ((opened group authorizer settings firstId).run before) :=
    fun before => ⟨_, _, _, _, before, rfl⟩
  refine ⟨(hReached events).matched.attributed, ⟨?_, fun hApart before after hSplit => ?_⟩,
    fun hBrisk => hBrisk.not_overtaken hSound hAlive fun k => rfl⟩
  · rintro hAll ⟨before, e, after, rfl, hOvertakes⟩
    have hBefore := hReached before
    refine hOvertakes.not_accounted hBefore.sound hBefore.alive hBefore.matched ?_
    have hAfter := hAll (before ++ [e]) after (by simp)
    rwa [run_append] at hAfter
  · have hBegun : (opened group authorizer settings firstId).acks.Lively
        (opened group authorizer settings firstId).exchange? :=
      ⟨matched_opened group authorizer settings firstId, fun k key slot hAt => by cases hAt⟩
    have hOrderly := orderly_opened group authorizer settings firstId
    have hLively := lively_run hSound hAlive hOrderly hBegun fun hOvertaken =>
      hApart (hSplit ▸ hOvertaken.append after)
    exact accounted hLively (hReached before).sound (hReached before).alive

theorem acks_accounted_asked : asked.awaited = [(("peer", 0), 0)] ∧ asked.pendingAcks = 1 ∧
    (asked.run [.packet 0 "peer" (Packet.emptyAck 0), .poll 0]).exchange? 0 = none ∧
    asked.step (.packet 0 "other" (Packet.emptyAck 0)) = asked := by
  have hAwaited : asked.awaited = [(("peer", 0), 0)] := by cbv
  have hExchange : asked.exchange? 0 = some (("peer", 0), 0) := by cbv
  have hNone : (asked.acks.slot 0).isAnswered = false := by cbv
  have hAccounted : asked.Accounted := by
    obtain ⟨-, hIff, hBrisk⟩ := acks_accounted_iff none (fun _ _ _ => .ok "pub")
      { keepAlive := Duration.ofMillis 1000
        retry := { maxAttempts := 1, baseDelay := Duration.ofMillis 500 } } 0
      [.packet 0 "peer" (observing 1 []), .elapse 1000, .poll 0]
    exact hIff.mpr (hBrisk (brisk_of_short (by decide))) _ [] (List.append_nil _).symm
  refine ⟨hAwaited, ?_, ?_, ?_⟩
  · rw [hAccounted.count, hAwaited]
    rfl
  · exact hAccounted.completes 0 "peer" (Packet.emptyAck 0) .ack 0 0 rfl hExchange hNone
  · refine hAccounted.ignores 0 "other" (Packet.emptyAck 0) .ack rfl fun slot => ?_
    rw [hAwaited]
    simp

/-! ## When the message IDs come round -/

/-- A request that leads nowhere. Its answer is a message of its own. -/
def stray : Event :=
  .packet 0 "other" { kind := .nonConfirmable, code := Code.get, messageId := 0, token := [] }

theorem step_stray (g : Gateway) : ∃ log, g.step stray = { g with nextId := g.nextId + 1, log } :=
  ⟨_, rfl⟩

theorem run_strays (g : Gateway) (n : Nat) : ∃ log,
    g.run (List.replicate n stray) = { g with nextId := g.nextId + UInt16.ofNat n, log } := by
  induction n generalizing g with
  | zero => exact ⟨g.log, by simp [run]⟩
  | succ n ih =>
    obtain ⟨log, hFirst⟩ := step_stray g
    obtain ⟨log', hRest⟩ := ih (g.step stray)
    refine ⟨log', hRest.trans ?_⟩
    rw [hFirst, Nat.add_comm n 1, UInt16.ofNat_add, ← UInt16.add_assoc]
    rfl

/-- Of two observations of one peer the first has asked whether the peer is there. -/
def halfAsked : Gateway :=
  (opened none (fun _ _ _ => .ok "pub")
    { keepAlive := Duration.ofMillis 1000
      retry := { maxAttempts := 1, baseDelay := Duration.ofSeconds 10 } } 0).run
    [.packet 0 "peer" (observing 1 []), .elapse 500,
      .packet 0 "peer" { observing 2 [] with token := [8] }, .elapse 500, .poll 0]

/-- The second asks under the same ID, after all others have been drawn. -/
def overtaken : Gateway :=
  (halfAsked.run (List.replicate 65535 stray)).run [.elapse 500, .poll 1]

theorem overtaken_eq : ∃ log, overtaken =
    ({ halfAsked with nextId := 0, log } : Gateway).run [.elapse 500, .poll 1] := by
  obtain ⟨log, hStrays⟩ := run_strays halfAsked 65535
  have hNext : halfAsked.nextId = 1 := by cbv
  exact ⟨log, by rw [overtaken, hStrays, hNext]; rfl⟩

/-- Two exchanges wait, and there is one entry. The first one gives up and takes the entry away,
and the second one still waits and cannot be answered any more. -/
theorem overtaken_not_accounted : Reached overtaken ∧
    overtaken.awaited = [(("peer", 0), 0), (("peer", 0), 1)] ∧ overtaken.pendingAcks = 1 ∧
    (overtaken.poll 0).awaited = [(("peer", 0), 1)] ∧ (overtaken.poll 0).pendingAcks = 0 ∧
    (overtaken.poll 0).step (.packet 0 "peer" (Packet.emptyAck 0)) = overtaken.poll 0 ∧
    ¬overtaken.Accounted := by
  have hHalf : Reached halfAsked := ⟨_, _, _, _, _, rfl⟩
  obtain ⟨log, hOvertaken⟩ := overtaken_eq
  have hBefore : (overtaken.awaited, overtaken.pendingAcks) =
      ([(("peer", 0), 0), (("peer", 0), 1)], 1) := by
    rw [hOvertaken]
    cbv
  have hAfter : ((overtaken.poll 0).awaited, (overtaken.poll 0).pendingAcks,
      (overtaken.poll 0).acks.pending.get? ("peer", 0)) = ([(("peer", 0), 1)], 0, none) := by
    rw [hOvertaken]
    cbv
  obtain ⟨hAwaited, hCount⟩ := Prod.mk.inj hBefore
  obtain ⟨hLeft, hRest⟩ := Prod.mk.inj hAfter
  obtain ⟨hGone, hNone⟩ := Prod.mk.inj hRest
  have hAnswer : answer? (Packet.emptyAck 0) = some .ack := rfl
  refine ⟨(hHalf.run _).run _, hAwaited, hCount, hLeft, hGone, step_of_unasked hAnswer hNone,
    fun hAccounted => ?_⟩
  have hSame := hAccounted.count
  rw [hAwaited, hCount] at hSame
  cases hSame

end DeviceBus.Gateway
