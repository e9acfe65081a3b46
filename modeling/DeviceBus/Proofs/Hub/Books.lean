import DeviceBus.Proofs.Broker
import DeviceBus.Proofs.Facade
import DeviceBus.Proofs.Hub.Ledger
import DeviceBus.Proofs.Hub.Moves

/-! # The ledgers of a hub

Each facade of a hub has a ledger. A step that closes nothing changes the
ledger of one facade at most, by one of the ledger's own steps, as long as the
backend takes back what it is given.
-/

namespace DeviceBus.Hub

variable {H : Type} {h h' : Hub H}

def callOf? (h : Hub H) (i number : Nat) : Option (Call H) :=
  (h.call? number).bind fun p => if p.facade = i then some p.call else none

def ledger (h : Hub H) (i : Nat) : Ledger H where
  pair := (h.facade i).registry.get?
  call := h.callOf? i
  nextTicket := (h.facade i).registry.nextTicket
  live := h.broker.Live i

/-- A hub without subscriptions. -/
def opened (groups : List (Option String)) : Hub H :=
  groups.foldl join {}

/-- What the steps rely on beside the ledgers. A facade that is not there has
no connection, and its calls never come by a handle. -/
structure Wired (h : Hub H) : Prop where
  owned : h.broker.Owned
  connections : h.broker.connections.length = h.facades.length
  number_lt : ∀ number p, h.call? number = some p → number < h.nextCall
  not_closing : ∀ number p, h.call? number = some p → p.call ≠ .closing
  absent : ∀ number p, h.call? number = some p → h.facades.length ≤ p.facade →
    p.call.handle? = none

theorem Wired.call?_nextCall (hWired : h.Wired) : h.call? h.nextCall = none := by
  cases hCall : h.call? h.nextCall with
  | none => rfl
  | some p => exact (Nat.lt_irrefl _ (hWired.number_lt _ p hCall)).elim

theorem callOf?_eq_some {i number : Nat} {call : Call H}
    (hCall : h.call? number = some ⟨number, i, call⟩) : h.callOf? i number = some call := by
  rw [callOf?, hCall, Option.bind_some, if_pos rfl]

theorem Wired.callOf?_nextCall (hWired : h.Wired) (i : Nat) : h.callOf? i h.nextCall = none := by
  rw [callOf?, hWired.call?_nextCall, Option.bind_none]

/-! ## Ledgers after a change -/

theorem ledger_begin_self (hWired : h.Wired) (i : Nat) (call : Call H) :
    (h.begin i call).ledger i = (h.ledger i).setCall h.nextCall (some call) := by
  refine Ledger.ext rfl (funext fun number => ?_) rfl rfl
  change (h.begin i call).callOf? i number = if number = h.nextCall then _ else h.callOf? i number
  simp only [callOf?, call?_begin hWired.call?_nextCall]
  split
  · exact if_pos rfl
  · rfl

theorem ledger_begin_other (hWired : h.Wired) {i j : Nat} (hOther : i ≠ j) (call : Call H) :
    (h.begin j call).ledger i = h.ledger i := by
  refine Ledger.ext rfl (funext fun number => ?_) rfl rfl
  change (h.begin j call).callOf? i number = h.callOf? i number
  simp only [callOf?, call?_begin hWired.call?_nextCall]
  split
  · rename_i hNew
    rw [hNew, hWired.call?_nextCall]
    exact if_neg (Ne.symm hOther)
  · rfl

theorem ledger_setCall_self {i number : Nat} {call : Call H}
    (hCall : h.call? number = some ⟨number, i, call⟩) (call' : Call H) :
    (h.setCall number call').ledger i = (h.ledger i).setCall number (some call') := by
  refine Ledger.ext rfl (funext fun n => ?_) rfl rfl
  change (h.setCall number call').callOf? i n = if n = number then _ else h.callOf? i n
  simp only [callOf?, call?_setCall]
  split
  · rename_i hSame
    rw [hSame, hCall]
    exact if_pos rfl
  · rfl

theorem ledger_setCall_other {i j number : Nat} {call : Call H} (hOther : i ≠ j)
    (hCall : h.call? number = some ⟨number, j, call⟩) (call' : Call H) :
    (h.setCall number call').ledger i = h.ledger i := by
  refine Ledger.ext rfl (funext fun n => ?_) rfl rfl
  change (h.setCall number call').callOf? i n = h.callOf? i n
  simp only [callOf?, call?_setCall]
  split
  · rename_i hSame
    rw [hSame, hCall]
    simp [Ne.symm hOther]
  · rfl

theorem ledger_finish_self (i number : Nat) (result : Except FacadeError Unit) :
    (h.finish number result).1.ledger i = (h.ledger i).setCall number none := by
  refine Ledger.ext rfl (funext fun n => ?_) rfl rfl
  change (h.finish number result).1.callOf? i n = if n = number then _ else h.callOf? i n
  simp only [callOf?, call?_finish]
  split
  · rfl
  · rfl

theorem ledger_finish_other {i j number : Nat} {call : Call H} (hOther : i ≠ j)
    (hCall : h.call? number = some ⟨number, j, call⟩) (result : Except FacadeError Unit) :
    (h.finish number result).1.ledger i = h.ledger i := by
  refine Ledger.ext rfl (funext fun n => ?_) rfl rfl
  change (h.finish number result).1.callOf? i n = h.callOf? i n
  simp only [callOf?, call?_finish]
  split
  · rename_i hSame
    rw [hSame, hCall]
    simp [Ne.symm hOther]
  · rfl

theorem ledger_setFacade_self {i : Nat} (hBound : i < h.facades.length) {f : Facade H}
    {topic client : String} {value : Option (Subscription H)}
    (hPairs : ∀ t c, f.registry.get? t c =
      if t = topic ∧ c = client then value else (h.facade i).registry.get? t c) :
    (h.setFacade i f).ledger i =
      { (h.ledger i).setPair topic client value with nextTicket := f.registry.nextTicket } := by
  have hFacade : (h.setFacade i f).facade i = f := by
    rw [facade_setFacade, if_pos ⟨rfl, hBound⟩]
  refine Ledger.ext (funext fun t => funext fun c => ?_) rfl ?_ rfl
  · simp only [ledger, hFacade]
    exact hPairs t c
  · simp only [ledger, hFacade]

theorem ledger_setFacade_other {i j : Nat} (hOther : i ≠ j) (f : Facade H) :
    (h.setFacade j f).ledger i = h.ledger i := by
  have hFacade : (h.setFacade j f).facade i = h.facade i := by
    rw [facade_setFacade, if_neg (fun hSame => hOther hSame.1.symm)]
  refine Ledger.ext ?_ rfl ?_ rfl
  · simp only [ledger, hFacade]
  · simp only [ledger, hFacade]

/-- A ledger depends on nothing but the registry of its facade. -/
theorem ledger_setFacade_of_registry {i : Nat} {f : Facade H}
    (hRegistry : f.registry = (h.facade i).registry) (j : Nat) :
    (h.setFacade i f).ledger j = h.ledger j := by
  have hSame : ((h.setFacade i f).facade j).registry = (h.facade j).registry := by
    rw [facade_setFacade]
    split
    · rename_i hOwn
      rw [hRegistry, hOwn.1]
    · rfl
  refine Ledger.ext ?_ rfl ?_ rfl
  · simp only [ledger, hSame]
  · simp only [ledger, hSame]

theorem ledger_broker {broker : Broker (Tap H)} {i : Nat}
    (hLive : ∀ n, broker.Live i n ↔ h.broker.Live i n) :
    ({ h with broker } : Hub H).ledger i = h.ledger i :=
  Ledger.ext rfl rfl rfl (funext fun n => propext (hLive n))

/-! ## Wiring after a change -/

theorem wired_setFacade (hWired : h.Wired) (i : Nat) (f : Facade H) : (h.setFacade i f).Wired where
  owned := hWired.owned
  connections := hWired.connections.trans (List.length_set).symm
  number_lt := hWired.number_lt
  not_closing := hWired.not_closing
  absent number p hCall hAbsent :=
    hWired.absent number p hCall (List.length_set ▸ hAbsent)

/-- A call that is new or has gone on leaves the wiring as it is. -/
theorem wired_of_call (hWired : h.Wired) {number i : Nat} {call : Call H}
    (hBroker : h'.broker = h.broker) (hFacades : h'.facades = h.facades)
    (hNext : h.nextCall ≤ h'.nextCall) (hNumber : number < h'.nextCall)
    (hClosing : call ≠ .closing) (hAbsent : h.facades.length ≤ i → call.handle? = none)
    (hCalls : ∀ n p, h'.call? n = some p →
      n = number ∧ p = ⟨number, i, call⟩ ∨ h.call? n = some p) : h'.Wired where
  owned := by
    rw [hBroker]
    exact hWired.owned
  connections := by
    rw [hBroker, hFacades]
    exact hWired.connections
  number_lt n p hCall := by
    rcases hCalls n p hCall with ⟨rfl, -⟩ | hOld
    · exact hNumber
    · exact Nat.lt_of_lt_of_le (hWired.number_lt n p hOld) hNext
  not_closing n p hCall := by
    rcases hCalls n p hCall with ⟨-, rfl⟩ | hOld
    · exact hClosing
    · exact hWired.not_closing n p hOld
  absent n p hCall := by
    rw [hFacades]
    rcases hCalls n p hCall with ⟨-, rfl⟩ | hOld
    · exact hAbsent
    · exact hWired.absent n p hOld

theorem wired_begin (hWired : h.Wired) {i : Nat} {call : Call H} (hClosing : call ≠ .closing)
    (hAbsent : h.facades.length ≤ i → call.handle? = none) : (h.begin i call).Wired := by
  refine wired_of_call hWired rfl rfl (Nat.le_succ _) (Nat.lt_succ_self _) hClosing hAbsent ?_
  intro n p hCall
  rw [call?_begin hWired.call?_nextCall] at hCall
  split at hCall
  · rename_i hNew
    exact .inl ⟨hNew, (Option.some.inj hCall).symm⟩
  · exact .inr hCall

theorem wired_setCall (hWired : h.Wired) {i number : Nat} {call call' : Call H}
    (hCall : h.call? number = some ⟨number, i, call⟩) (hClosing : call' ≠ .closing)
    (hAbsent : h.facades.length ≤ i → call'.handle? = none) : (h.setCall number call').Wired := by
  have hNumber := hWired.number_lt number _ hCall
  refine wired_of_call hWired rfl rfl (Nat.le_refl _) hNumber hClosing hAbsent ?_
  intro n p hFound
  rw [call?_setCall] at hFound
  split at hFound
  · rename_i hSame
    rw [hSame, hCall] at hFound
    exact .inl ⟨hSame, (Option.some.inj hFound).symm⟩
  · exact .inr hFound

theorem wired_finish (hWired : h.Wired) (number : Nat) (result : Except FacadeError Unit) :
    (h.finish number result).1.Wired := by
  have hCalls : ∀ n p, (h.finish number result).1.call? n = some p → h.call? n = some p := by
    intro n p hFound
    rw [call?_finish] at hFound
    split at hFound
    · cases hFound
    · exact hFound
  exact ⟨hWired.owned, hWired.connections, fun n p hp => hWired.number_lt n p (hCalls n p hp),
    fun n p hp => hWired.not_closing n p (hCalls n p hp),
    fun n p hp => hWired.absent n p (hCalls n p hp)⟩

theorem wired_broker (hWired : h.Wired) {broker : Broker (Tap H)} (hOwned : broker.Owned)
    (hConnections : broker.connections.length = h.broker.connections.length) :
    ({ h with broker } : Hub H).Wired where
  owned := hOwned
  connections := hConnections.trans hWired.connections
  number_lt := hWired.number_lt
  not_closing := hWired.not_closing
  absent := hWired.absent

end DeviceBus.Hub
