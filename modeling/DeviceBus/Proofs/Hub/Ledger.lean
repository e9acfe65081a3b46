import DeviceBus.Hub

/-! # Accounting for handles

A ledger is what one facade has to account for: the pairs in its registry, its
calls in flight, and the handles that its backend has granted and not got back.
The invariant says that every live handle has one holder, which is a pair or a
call, and that every pair without a handle has a call that is still to bring
one. Nothing is assumed of a new handle but that it is not live.
-/

namespace DeviceBus

variable {H : Type}

namespace Call

/-- The handle that a call has to store or to give back. -/
def handle? : Call H → Option Nat
  | .subscribing _ _ _ _ (.granted handle) => some handle
  | .subscribing _ _ _ _ (.surplus handle) => some handle
  | .releasing s => s.handle
  | _ => none

/-- The reservation whose handle a call is to bring: topic, client and ticket. -/
def reservation? : Call H → Option (String × String × Nat)
  | .subscribing _ _ _ _ (.surplus _) => none
  | .subscribing client topic ticket _ _ => some (topic, client, ticket)
  | _ => none

end Call

@[ext] structure Ledger (H : Type) where
  pair : String → String → Option (Subscription H)
  call : Nat → Option (Call H)
  nextTicket : Nat
  live : Nat → Prop

/-- Who is answerable for a handle. -/
inductive Holder where
  | pair (topic client : String)
  | call (number : Nat)
  deriving DecidableEq

namespace Ledger

def setPair (L : Ledger H) (topic client : String) (s : Option (Subscription H)) : Ledger H :=
  { L with pair := fun t c => if t = topic ∧ c = client then s else L.pair t c }

def setCall (L : Ledger H) (number : Nat) (call : Option (Call H)) : Ledger H :=
  { L with call := fun n => if n = number then call else L.call n }

def grant (L : Ledger H) (handle : Nat) : Ledger H :=
  { L with live := fun n => L.live n ∨ n = handle }

def takeBack (L : Ledger H) (handle : Nat) : Ledger H :=
  { L with live := fun n => L.live n ∧ n ≠ handle }

/-- A ticket has been drawn. -/
def draw (L : Ledger H) : Ledger H :=
  { L with nextTicket := L.nextTicket + 1 }

def held (L : Ledger H) : Holder → Option Nat
  | .pair topic client => (L.pair topic client).bind Subscription.handle
  | .call number => (L.call number).bind Call.handle?

def reservation (L : Ledger H) (number : Nat) : Option (String × String × Nat) :=
  (L.call number).bind Call.reservation?

theorem held_setPair (L : Ledger H) (topic client : String) (s : Option (Subscription H))
    (w : Holder) :
    (L.setPair topic client s).held w =
      if w = .pair topic client then s.bind Subscription.handle else L.held w := by
  cases w with
  | pair t c =>
    simp only [held, setPair, Holder.pair.injEq]
    split
    · rfl
    · rfl
  | call number => simp [held, setPair]

theorem held_setCall (L : Ledger H) (number : Nat) (call : Option (Call H)) (w : Holder) :
    (L.setCall number call).held w =
      if w = .call number then call.bind Call.handle? else L.held w := by
  cases w with
  | pair t c => simp [held, setCall]
  | call n =>
    simp only [held, setCall, Holder.call.injEq]
    split
    · rfl
    · rfl

theorem reservation_setCall (L : Ledger H) (number : Nat) (call : Option (Call H)) (n : Nat) :
    (L.setCall number call).reservation n =
      if n = number then call.bind Call.reservation? else L.reservation n := by
  simp only [reservation, setCall]
  split
  · rfl
  · rfl

/-! ## Steps -/

inductive Step (L : Ledger H) : Ledger H → Prop
  | reserve {number : Nat} {topic client : String} {handler : H}
      (hFree : L.pair topic client = none) (hNew : L.call number = none) :
      Step L ((L.setPair topic client (some { ticket := L.nextTicket, handler })).setCall number
        (some (.subscribing client topic L.nextTicket handler .reserved))).draw
  /-- A call goes on, and all that it has to account for stays with it. -/
  | goOn {number : Nat} {call call' : Call H} (hCall : L.call number = some call)
      (hHandle : call'.handle? = call.handle?)
      (hReservation : call'.reservation? = call.reservation?) :
      Step L (L.setCall number (some call'))
  | grant {number handle : Nat} {call call' : Call H} (hCall : L.call number = some call)
      (hNone : call.handle? = none) (hHandle : call'.handle? = some handle)
      (hReservation : call'.reservation? = call.reservation?) (hFresh : ¬L.live handle) :
      Step L ((L.setCall number (some call')).grant handle)
  /-- A call ends without its reservation, which another call has taken out. -/
  | giveUp {number ticket : Nat} {topic client : String} {call : Call H} {call' : Option (Call H)}
      (hCall : L.call number = some call)
      (hReservation : call.reservation? = some (topic, client, ticket))
      (hGone : ∀ s, L.pair topic client = some s → s.ticket ≠ ticket)
      (hHandle : call'.bind Call.handle? = call.handle?)
      (hAfter : call'.bind Call.reservation? = none) :
      Step L (L.setCall number call')
  | discard {number ticket : Nat} {topic client : String} {s : Subscription H} {call : Call H}
      (hCall : L.call number = some call)
      (hReservation : call.reservation? = some (topic, client, ticket))
      (hPair : L.pair topic client = some s) (hTicket : s.ticket = ticket)
      (hNone : call.handle? = none) :
      Step L ((L.setPair topic client none).setCall number none)
  | attach {number ticket handle : Nat} {topic client : String} {s : Subscription H}
      {call : Call H} (hCall : L.call number = some call)
      (hReservation : call.reservation? = some (topic, client, ticket))
      (hPair : L.pair topic client = some s) (hTicket : s.ticket = ticket)
      (hHandle : call.handle? = some handle) :
      Step L ((L.setPair topic client (some { s with handle := some handle })).setCall number none)
  | remove {number : Nat} {topic client : String} {s : Subscription H}
      (hPair : L.pair topic client = some s) (hNew : L.call number = none) :
      Step L ((L.setPair topic client none).setCall number (some (.releasing s)))
  | giveBack {number handle : Nat} {call : Call H} {call' : Option (Call H)}
      (hCall : L.call number = some call) (hHandle : call.handle? = some handle)
      (hReservation : call.reservation? = none) (hNone : call'.bind Call.handle? = none)
      (hAfter : call'.bind Call.reservation? = none) :
      Step L ((L.setCall number call').takeBack handle)
  | finish {number : Nat} {call : Call H} (hCall : L.call number = some call)
      (hNone : call.handle? = none) (hReservation : call.reservation? = none) :
      Step L (L.setCall number none)

/-! ## Every live handle has one holder -/

structure Accounted (held : Holder → Option Nat) (live : Nat → Prop) : Prop where
  live_iff : ∀ n, live n ↔ ∃ w, held w = some n
  unique : ∀ w w' n, held w = some n → held w' = some n → w = w'

section

variable {held held' : Holder → Option Nat} {live : Nat → Prop} {w v : Holder} {n : Nat}

theorem Accounted.gain (h : Accounted held live) (hFree : held w = none) (hFresh : ¬live n)
    (hAt : held' w = some n) (hOther : ∀ x, x ≠ w → held' x = held x) :
    Accounted held' fun m => live m ∨ m = n where
  live_iff m := by
    rw [h.live_iff]
    constructor
    · rintro (⟨x, hx⟩ | rfl)
      · refine ⟨x, ?_⟩
        rw [hOther x (by rintro rfl; rw [hFree] at hx; cases hx), hx]
      · exact ⟨w, hAt⟩
    · rintro ⟨x, hx⟩
      by_cases hSame : x = w
      · subst hSame
        rw [hAt] at hx
        exact .inr (Option.some.inj hx).symm
      · exact .inl ⟨x, by rw [← hOther x hSame, hx]⟩
  unique x y m hx hy := by
    have hNew : ∀ z, z ≠ w → held' z = some n → False := by
      intro z hz hHeld
      rw [hOther z hz] at hHeld
      exact hFresh ((h.live_iff n).mpr ⟨z, hHeld⟩)
    by_cases hxw : x = w
    · by_cases hyw : y = w
      · rw [hxw, hyw]
      · subst hxw
        rw [hAt] at hx
        cases hx
        exact (hNew y hyw hy).elim
    · by_cases hyw : y = w
      · subst hyw
        rw [hAt] at hy
        cases hy
        exact (hNew x hxw hx).elim
      · rw [hOther x hxw] at hx
        rw [hOther y hyw] at hy
        exact h.unique x y m hx hy

theorem Accounted.lose (h : Accounted held live) (hAt : held w = some n) (hGone : held' w = none)
    (hOther : ∀ x, x ≠ w → held' x = held x) : Accounted held' fun m => live m ∧ m ≠ n where
  live_iff m := by
    rw [h.live_iff]
    constructor
    · rintro ⟨⟨x, hx⟩, hm⟩
      refine ⟨x, ?_⟩
      rw [hOther x (by rintro rfl; rw [hAt] at hx; exact hm (Option.some.inj hx).symm), hx]
    · rintro ⟨x, hx⟩
      have hxw : x ≠ w := by
        rintro rfl
        rw [hGone] at hx
        cases hx
      rw [hOther x hxw] at hx
      refine ⟨⟨x, hx⟩, ?_⟩
      rintro rfl
      exact hxw (h.unique x w m hx hAt)
  unique x y m hx hy := by
    have hKept : ∀ z, held' z = some m → held z = some m := by
      intro z hz
      rw [← hOther z (by rintro rfl; rw [hGone] at hz; cases hz), hz]
    exact h.unique x y m (hKept x hx) (hKept y hy)

/-- A holder hands its handle, if it has one, to another that has none. -/
theorem Accounted.pass (h : Accounted held live) (hNone : held v = none)
    (hTo : held' v = held w) (hFrom : held' w = none)
    (hOther : ∀ x, x ≠ w → x ≠ v → held' x = held x) : Accounted held' live := by
  have hBack : ∀ x m, held' x = some m → x = v ∧ held w = some m ∨ x ≠ v ∧ held x = some m := by
    intro x m hx
    by_cases hxw : x = v
    · subst hxw
      exact .inl ⟨rfl, by rw [← hTo, hx]⟩
    · refine .inr ⟨hxw, ?_⟩
      rw [← hOther x (by rintro rfl; rw [hFrom] at hx; cases hx) hxw, hx]
  constructor
  · intro m
    rw [h.live_iff]
    constructor
    · rintro ⟨x, hx⟩
      by_cases hxw : x = w
      · exact ⟨v, by rw [hTo, ← hxw, hx]⟩
      · refine ⟨x, ?_⟩
        rw [hOther x hxw (by rintro rfl; rw [hNone] at hx; cases hx), hx]
    · rintro ⟨x, hx⟩
      rcases hBack x m hx with ⟨-, hm⟩ | ⟨-, hm⟩
      · exact ⟨w, hm⟩
      · exact ⟨x, hm⟩
  · intro x y m hx hy
    rcases hBack x m hx with ⟨rfl, hmx⟩ | ⟨hxw, hmx⟩
    · rcases hBack y m hy with ⟨rfl, -⟩ | ⟨hyw, hmy⟩
      · rfl
      · have hSame := h.unique w y m hmx hmy
        subst hSame
        rw [hFrom] at hy
        cases hy
    · rcases hBack y m hy with ⟨rfl, hmy⟩ | ⟨hyw, hmy⟩
      · have hSame := h.unique w x m hmy hmx
        subst hSame
        rw [hFrom] at hx
        cases hx
      · exact h.unique x y m hmx hmy

end

/-! ## Every pair that waits has one call that works on it -/

structure Expecting (L : Ledger H) : Prop where
  ticket_lt : ∀ n t c k, L.reservation n = some (t, c, k) → k < L.nextTicket
  ticket_unique : ∀ n n' t t' c c' k, L.reservation n = some (t, c, k) →
    L.reservation n' = some (t', c', k) → n = n'
  expected : ∀ t c s, L.pair t c = some s → s.handle = none →
    ∃ n, L.reservation n = some (t, c, s.ticket)
  pending : ∀ n t c s, L.reservation n = some (t, c, s.ticket) → L.pair t c = some s →
    s.handle = none

/-- A call is done with its reservation: its pair is gone, has the handle, or
belongs to another reservation. -/
theorem Expecting.settle {L L' : Ledger H} (h : L.Expecting) {n ticket : Nat}
    {topic client : String} (hAt : L.reservation n = some (topic, client, ticket))
    (hNone : L'.reservation n = none) (hOther : ∀ m, m ≠ n → L'.reservation m = L.reservation m)
    (hTickets : L'.nextTicket = L.nextTicket)
    (hPairs : ∀ t c, ¬(t = topic ∧ c = client) → L'.pair t c = L.pair t c)
    (hPair : ∀ s, L'.pair topic client = some s →
      s.ticket = ticket ∧ s.handle ≠ none ∨ s.ticket ≠ ticket ∧ L.pair topic client = some s) :
    L'.Expecting := by
  have hBack : ∀ m r, L'.reservation m = some r → m ≠ n ∧ L.reservation m = some r := by
    intro m r hm
    have hmn : m ≠ n := by
      rintro rfl
      rw [hNone] at hm
      cases hm
    exact ⟨hmn, by rw [← hOther m hmn, hm]⟩
  constructor
  · intro m t c k hm
    rw [hTickets]
    exact h.ticket_lt m t c k (hBack m _ hm).2
  · intro m m' t t' c c' k hm hm'
    exact h.ticket_unique m m' t t' c c' k (hBack m _ hm).2 (hBack m' _ hm').2
  · intro t c s hs hHandle
    have hOld : L.pair t c = some s ∧ ¬(t = topic ∧ c = client ∧ s.ticket = ticket) := by
      by_cases hSame : t = topic ∧ c = client
      · obtain ⟨rfl, rfl⟩ := hSame
        rcases hPair s hs with ⟨-, hSome⟩ | ⟨hTicket, hOld⟩
        · exact (hSome hHandle).elim
        · exact ⟨hOld, fun hOwn => hTicket hOwn.2.2⟩
      · exact ⟨by rw [← hPairs t c hSame, hs], fun hOwn => hSame ⟨hOwn.1, hOwn.2.1⟩⟩
    obtain ⟨m, hm⟩ := h.expected t c s hOld.1 hHandle
    refine ⟨m, ?_⟩
    rw [hOther m, hm]
    rintro rfl
    rw [hAt] at hm
    cases hm
    exact hOld.2 ⟨rfl, rfl, rfl⟩
  · intro m t c s hm hs
    obtain ⟨hmn, hm⟩ := hBack m _ hm
    by_cases hSame : t = topic ∧ c = client
    · obtain ⟨rfl, rfl⟩ := hSame
      rcases hPair s hs with ⟨hTicket, -⟩ | ⟨-, hOld⟩
      · rw [hTicket] at hm
        exact (hmn (h.ticket_unique m n _ _ _ _ _ hm hAt)).elim
      · exact h.pending m t c s hm hOld
    · exact h.pending m t c s hm (by rw [← hPairs t c hSame, hs])

/-- Nothing changes for a reservation when pairs and reservations stay. -/
theorem Expecting.keep {L L' : Ledger H} (h : L.Expecting)
    (hReservation : ∀ n, L'.reservation n = L.reservation n)
    (hTickets : L'.nextTicket = L.nextTicket)
    (hPair : ∀ t c s, L'.pair t c = some s → L.pair t c = some s) : L'.Expecting where
  ticket_lt n t c k hn := by
    rw [hTickets]
    exact h.ticket_lt n t c k (hReservation n ▸ hn)
  ticket_unique n n' t t' c c' k hn hn' :=
    h.ticket_unique n n' t t' c c' k (hReservation n ▸ hn) (hReservation n' ▸ hn')
  expected t c s hs hHandle := by
    obtain ⟨n, hn⟩ := h.expected t c s (hPair t c s hs) hHandle
    exact ⟨n, by rw [hReservation, hn]⟩
  pending n t c s hn hs := h.pending n t c s (hReservation n ▸ hn) (hPair t c s hs)

/-! ## The invariant -/

structure Balanced (L : Ledger H) : Prop where
  expecting : L.Expecting
  accounted : Accounted L.held L.live

section

variable {L L' : Ledger H} {number : Nat} {topic client : String} {call : Call H}

theorem reservation_eq {n : Nat} (hCall : L.call n = some call) :
    L.reservation n = call.reservation? := by
  rw [reservation, hCall, Option.bind_some]

theorem held_call {n : Nat} (hCall : L.call n = some call) :
    L.held (.call n) = call.handle? := by
  rw [held, hCall, Option.bind_some]

theorem held_pair {s : Subscription H} (hPair : L.pair topic client = some s) :
    L.held (.pair topic client) = s.handle := by
  rw [held, hPair, Option.bind_some]

theorem reservation_none {n : Nat} (hCall : L.call n = none) : L.reservation n = none := by
  rw [reservation, hCall, Option.bind_none]

theorem held_call_none {n : Nat} (hCall : L.call n = none) : L.held (.call n) = none := by
  rw [held, hCall, Option.bind_none]

theorem reservation_setCall_of_eq {call' : Option (Call H)}
    (hSame : call'.bind Call.reservation? = L.reservation number) (n : Nat) :
    (L.setCall number call').reservation n = L.reservation n := by
  rw [reservation_setCall]
  split
  · rename_i hn
    rw [hn, hSame]
  · rfl

theorem held_setCall_of_eq {call' : Option (Call H)}
    (hSame : call'.bind Call.handle? = L.held (.call number)) :
    (L.setCall number call').held = L.held := by
  funext w
  rw [held_setCall]
  split
  · rename_i hw
    rw [hw, hSame]
  · rfl

theorem held_setPair_of_eq {value : Option (Subscription H)}
    (hSame : value.bind Subscription.handle = L.held (.pair topic client)) :
    (L.setPair topic client value).held = L.held := by
  funext w
  rw [held_setPair]
  split
  · rename_i hw
    rw [hw, hSame]
  · rfl

theorem balanced_of_empty (hPair : ∀ t c, L.pair t c = none) (hCall : ∀ n, L.call n = none)
    (hLive : ∀ n, ¬L.live n) : L.Balanced := by
  have hReservation : ∀ n, L.reservation n = none := fun n => reservation_none (hCall n)
  have hHeld : ∀ w, L.held w = none := by
    intro w
    cases w with
    | pair t c => rw [held, hPair, Option.bind_none]
    | call number => exact held_call_none (hCall number)
  constructor
  · constructor
    · intro n t c k hn
      rw [hReservation] at hn
      cases hn
    · intro n n' t t' c c' k hn
      rw [hReservation] at hn
      cases hn
    · intro t c s hs
      rw [hPair] at hs
      cases hs
    · intro n t c s hn
      rw [hReservation] at hn
      cases hn
  · constructor
    · intro n
      constructor
      · exact fun hn => (hLive n hn).elim
      · rintro ⟨w, hw⟩
        rw [hHeld] at hw
        cases hw
    · intro w v n hw
      rw [hHeld] at hw
      cases hw

/-- A pair of the changed ledger is the new one or an old one. -/
theorem pair_setPair_cases {value : Option (Subscription H)} {t c : String} {s : Subscription H}
    (h : (L.setPair topic client value).pair t c = some s) :
    t = topic ∧ c = client ∧ value = some s ∨ ¬(t = topic ∧ c = client) ∧ L.pair t c = some s := by
  simp only [setPair] at h
  split at h
  · rename_i hSame
    exact .inl ⟨hSame.1, hSame.2, h⟩
  · rename_i hOther
    exact .inr ⟨hOther, h⟩

theorem expecting_reserve (h : L.Expecting) {handler : H}
    (hNew : L.call number = none) :
    ((L.setPair topic client (some { ticket := L.nextTicket, handler })).setCall number
      (some (.subscribing client topic L.nextTicket handler .reserved))).draw.Expecting := by
  have hForth : ∀ n, (((L.setPair topic client (some { ticket := L.nextTicket, handler })).setCall
      number (some (.subscribing client topic L.nextTicket handler .reserved))).draw).reservation
        n = if n = number then some (topic, client, L.nextTicket) else L.reservation n :=
    fun n => reservation_setCall _ number _ n
  have hBack : ∀ n r, (((L.setPair topic client (some { ticket := L.nextTicket, handler })).setCall
      number (some (.subscribing client topic L.nextTicket handler .reserved))).draw).reservation
        n = some r → r = (topic, client, L.nextTicket) ∧ n = number ∨ L.reservation n = some r := by
    intro n r hn
    rw [hForth] at hn
    split at hn
    · rename_i hSame
      exact .inl ⟨(Option.some.inj hn).symm, hSame⟩
    · exact .inr hn
  constructor
  · intro n t c k hn
    rcases hBack n _ hn with ⟨hr, -⟩ | hr
    · cases hr
      exact Nat.lt_succ_self _
    · exact Nat.lt_succ_of_lt (h.ticket_lt n t c k hr)
  · intro n n' t t' c c' k hn hn'
    rcases hBack n _ hn with ⟨hr, hSame⟩ | hr
    · rcases hBack n' _ hn' with ⟨-, hSame'⟩ | hr'
      · rw [hSame, hSame']
      · cases hr
        exact (Nat.lt_irrefl _ (h.ticket_lt n' t' c' _ hr')).elim
    · rcases hBack n' _ hn' with ⟨hr', -⟩ | hr'
      · cases hr'
        exact (Nat.lt_irrefl _ (h.ticket_lt n t c _ hr)).elim
      · exact h.ticket_unique n n' t t' c c' k hr hr'
  · intro t c s hs hHandle
    rcases pair_setPair_cases hs with ⟨rfl, rfl, hNewPair⟩ | ⟨-, hOld⟩
    · cases hNewPair
      exact ⟨number, by rw [hForth, if_pos rfl]⟩
    · obtain ⟨n, hn⟩ := h.expected t c s hOld hHandle
      have hOther : n ≠ number := by
        rintro rfl
        rw [reservation_none hNew] at hn
        cases hn
      exact ⟨n, by rw [hForth, if_neg hOther, hn]⟩
  · intro n t c s hn hs
    rcases pair_setPair_cases hs with ⟨-, -, hNewPair⟩ | ⟨hOther, hOld⟩
    · cases hNewPair
      rfl
    · rcases hBack n _ hn with ⟨hr, -⟩ | hr
      · simp only [Prod.mk.injEq] at hr
        exact (hOther ⟨hr.1, hr.2.1⟩).elim
      · exact h.pending n t c s hr hOld

theorem expecting_step (h : L.Balanced) (hStep : L.Step L') : L'.Expecting := by
  cases hStep with
  | reserve hFree hNew => exact expecting_reserve h.expecting hNew
  | goOn hCall hHandle hReservation =>
    refine h.expecting.keep (reservation_setCall_of_eq ?_) rfl fun t c s hs => hs
    rw [reservation_eq hCall, Option.bind_some, hReservation]
  | grant hCall hNone hHandle hReservation hFresh =>
    refine h.expecting.keep (reservation_setCall_of_eq ?_) rfl fun t c s hs => hs
    rw [reservation_eq hCall, Option.bind_some, hReservation]
  | giveUp hCall hReservation hGone hHandle hAfter =>
    refine h.expecting.settle ((reservation_eq hCall).trans hReservation) ?_ ?_ rfl
      (fun t c _ => rfl) fun s hs => .inr ⟨hGone s hs, hs⟩
    · rw [reservation_setCall, if_pos rfl, hAfter]
    · intro m hm
      rw [reservation_setCall, if_neg hm]
  | discard hCall hReservation hPair hTicket hNone =>
    refine h.expecting.settle ((reservation_eq hCall).trans hReservation) ?_ ?_ rfl
      (fun t c hOther => if_neg hOther) fun s hs => ?_
    · rw [reservation_setCall, if_pos rfl, Option.bind_none]
    · intro m hm
      rw [reservation_setCall, if_neg hm]
      rfl
    · rcases pair_setPair_cases hs with ⟨-, -, hNew⟩ | ⟨hOther, -⟩
      · cases hNew
      · exact (hOther ⟨rfl, rfl⟩).elim
  | attach hCall hReservation hPair hTicket hHandle =>
    refine h.expecting.settle ((reservation_eq hCall).trans hReservation) ?_ ?_ rfl
      (fun t c hOther => if_neg hOther) fun s hs => ?_
    · rw [reservation_setCall, if_pos rfl, Option.bind_none]
    · intro m hm
      rw [reservation_setCall, if_neg hm]
      rfl
    · rcases pair_setPair_cases hs with ⟨-, -, hNew⟩ | ⟨hOther, -⟩
      · cases hNew
        exact .inl ⟨hTicket, Option.some_ne_none _⟩
      · exact (hOther ⟨rfl, rfl⟩).elim
  | remove hPair hNew =>
    refine h.expecting.keep (reservation_setCall_of_eq ?_) rfl fun t c s hs => ?_
    · exact (reservation_none (L := L) hNew).symm
    · rcases pair_setPair_cases hs with ⟨-, -, hNone⟩ | ⟨-, hOld⟩
      · cases hNone
      · exact hOld
  | giveBack hCall hHandle hReservation hNone hAfter =>
    refine h.expecting.keep (reservation_setCall_of_eq ?_) rfl fun t c s hs => hs
    rw [reservation_eq hCall, hReservation, hAfter]
  | finish hCall hNone hReservation =>
    refine h.expecting.keep (reservation_setCall_of_eq ?_) rfl fun t c s hs => hs
    rw [reservation_eq hCall, hReservation, Option.bind_none]

theorem accounted_step (h : L.Balanced) (hStep : L.Step L') : Accounted L'.held L'.live := by
  have hBooks := h.accounted
  cases hStep with
  | @reserve number topic client handler hFree hNew =>
    have hPair : (L.setPair topic client (some { ticket := L.nextTicket, handler })).held =
        L.held :=
      held_setPair_of_eq (by rw [held, hFree]; rfl)
    have hCall : ((L.setPair topic client (some { ticket := L.nextTicket, handler })).setCall
        number (some (.subscribing client topic L.nextTicket handler .reserved))).held =
          L.held := by
      rw [held_setCall_of_eq, hPair]
      rw [hPair, held_call_none hNew]
      rfl
    exact hCall ▸ hBooks
  | goOn hCall hHandle hReservation =>
    rw [held_setCall_of_eq (by rw [held_call hCall, Option.bind_some, hHandle])]
    exact hBooks
  | @grant number handle call call' hCall hNone hHandle hReservation hFresh =>
    refine hBooks.gain (w := .call number) ((held_call hCall).trans hNone) hFresh ?_ ?_
    · exact (held_setCall L number _ _).trans (by rw [if_pos rfl, Option.bind_some, hHandle])
    · exact fun x hx => (held_setCall L number _ x).trans (if_neg hx)
  | giveUp hCall hReservation hGone hHandle hAfter =>
    rw [held_setCall_of_eq (by rw [held_call hCall, hHandle])]
    exact hBooks
  | @discard number ticket topic client s call hCall hReservation hPair hTicket hNone =>
    have hHandle : s.handle = none :=
      h.expecting.pending number topic client s
        ((reservation_eq hCall).trans (hTicket ▸ hReservation)) hPair
    have hPairs : (L.setPair topic client none).held = L.held :=
      held_setPair_of_eq (by rw [held_pair hPair, hHandle, Option.bind_none])
    have hCalls : ((L.setPair topic client none).setCall number none).held = L.held := by
      rw [held_setCall_of_eq, hPairs]
      rw [hPairs, held_call hCall, hNone, Option.bind_none]
    rw [hCalls]
    exact hBooks
  | @attach number ticket handle topic client s call hCall hReservation hPair hTicket hHandle =>
    have hEmpty : s.handle = none :=
      h.expecting.pending number topic client s
        ((reservation_eq hCall).trans (hTicket ▸ hReservation)) hPair
    refine hBooks.pass (w := .call number) (v := .pair topic client)
      ((held_pair hPair).trans hEmpty) ?_ ?_ ?_
    · rw [held_setCall, if_neg (by simp), held_setPair, if_pos rfl, held_call hCall, hHandle,
        Option.bind_some]
    · rw [held_setCall, if_pos rfl, Option.bind_none]
    · intro w hCallOther hPairOther
      rw [held_setCall, if_neg hCallOther, held_setPair, if_neg hPairOther]
  | @remove number topic client s hPair hNew =>
    refine hBooks.pass (w := .pair topic client) (v := .call number) (held_call_none hNew) ?_ ?_ ?_
    · rw [held_setCall, if_pos rfl, held_pair hPair]
      rfl
    · rw [held_setCall, if_neg (by simp), held_setPair, if_pos rfl, Option.bind_none]
    · intro w hPairOther hCallOther
      rw [held_setCall, if_neg hCallOther, held_setPair, if_neg hPairOther]
  | @giveBack number handle call call' hCall hHandle hReservation hNone hAfter =>
    refine hBooks.lose (w := .call number) ((held_call hCall).trans hHandle) ?_ ?_
    · exact (held_setCall L number _ _).trans (by rw [if_pos rfl, hNone])
    · exact fun x hx => (held_setCall L number _ x).trans (if_neg hx)
  | finish hCall hNone hReservation =>
    rw [held_setCall_of_eq (by rw [held_call hCall, Option.bind_none, hNone])]
    exact hBooks

theorem balanced_step (h : L.Balanced) (hStep : L.Step L') : L'.Balanced :=
  ⟨expecting_step h hStep, accounted_step h hStep⟩

end

/-! ## When no call is left -/

section

variable {L : Ledger H} {topic client : String} {s : Subscription H}

theorem Balanced.attached (h : L.Balanced) (hCalls : ∀ number, L.call number = none)
    (hPair : L.pair topic client = some s) : s.handle ≠ none := by
  intro hNone
  obtain ⟨number, hNumber⟩ := h.expecting.expected topic client s hPair hNone
  rw [reservation_none (hCalls number)] at hNumber
  cases hNumber

theorem Balanced.live_iff (h : L.Balanced) (hCalls : ∀ number, L.call number = none)
    (handle : Nat) : L.live handle ↔
      ∃ topic client s, L.pair topic client = some s ∧ s.handle = some handle := by
  rw [h.accounted.live_iff]
  constructor
  · rintro ⟨w, hw⟩
    cases w with
    | pair topic client =>
      obtain ⟨s, hPair, hHandle⟩ := Option.bind_eq_some_iff.mp hw
      exact ⟨topic, client, s, hPair, hHandle⟩
    | call number =>
      rw [held_call_none (hCalls number)] at hw
      cases hw
  · rintro ⟨topic, client, s, hPair, hHandle⟩
    exact ⟨.pair topic client, (held_pair hPair).trans hHandle⟩

theorem Balanced.one_pair (h : L.Balanced) {topic' client' : String} {s' : Subscription H}
    {handle : Nat} (hPair : L.pair topic client = some s) (hHandle : s.handle = some handle)
    (hPair' : L.pair topic' client' = some s') (hHandle' : s'.handle = some handle) :
    topic = topic' ∧ client = client' := by
  have hHolder := h.accounted.unique (.pair topic client) (.pair topic' client') handle
    ((held_pair hPair).trans hHandle) ((held_pair hPair').trans hHandle')
  cases hHolder
  exact ⟨rfl, rfl⟩

end

end Ledger

end DeviceBus
