import DeviceBus.Proofs.Gateway.Observing
import DeviceBus.Proofs.Observe.Sequence

/-! # Observe values of one observation

A delivery draws ever greater values, the first of them zero, and sends each again in the
same packet only. The answer to a repeated request draws from a sequence of its own, so its
value is zero at any age of the observation: the values that a peer is sent fall when, and
only when, a request is answered after a packet of the delivery.
-/

namespace DeviceBus

namespace Gateway

open Coap Observe

variable {g g' : Gateway} {k : Nat} {o : Observation} {d d' : Delivery} {f : Feed} {e : Event}
  {last : Nat}

/-! ## The values that a delivery draws -/

/-- The packet bears a value that was drawn after the first one. -/
def Bears (o : Observation) (value : Nat) (packet : Packet) : Prop :=
  0 < value ∧ packet.observe = some (Sequence.wire value) ∧ packet.token = o.token

/-- The last value that was drawn is `last`, and what may be sent again bears it. -/
structure Delivery.Paced (d : Delivery) (last : Nat) : Prop where
  drawn : d.sequence.last = some last
  again : ∀ packet slot attempt due, d.phase = .confirming packet slot attempt due →
    Bears d.observation last packet

theorem bears_notification (g : Gateway) (hLast : d.sequence.last = some last) (kind : Kind)
    (payload : Bytes) :
    Bears d.observation (d.sequence.value g.now) (g.notification d kind payload).1 :=
  ⟨Nat.zero_lt_of_lt (Sequence.lt_value hLast g.now), observe_setObserve _ _, rfl⟩

theorem Concludes.paced {f₀ : Feed} (h : Concludes f₀ d d' f)
    (hLast : d.sequence.last = some last) : d'.Paced last := by
  cases h with
  | watches due hGoesOn => exact ⟨hLast, fun _ _ _ _ hPhase => by cases hPhase⟩
  | ends hSending => exact ⟨hLast, fun _ _ _ _ hPhase => by cases hPhase⟩

theorem Transmits.paced {f₀ : Feed} {packet : Packet} {slot attempt : Nat} {packets : List Packet}
    (h : Transmits f₀ d packet slot attempt packets d' f) (hLast : d.sequence.last = some last)
    (hBears : Bears d.observation last packet) :
    d'.Paced last ∧ (packets = [] ∨ packets = [packet]) := by
  cases h with
  | goes_out due =>
    refine ⟨⟨hLast, fun sent _ _ _ hPhase => ?_⟩, .inr rfl⟩
    cases hPhase
    exact hBears
  | gives_up hConcludes =>
    exact ⟨hConcludes.paced (d := { d with state := _ }) hLast, .inl rfl⟩

/-- A turn sends at most one packet, with the value that was drawn last. -/
theorem Turn.paced {packets : List Packet} (h : Turn g k d packets d' f) (hPaced : d.Paced last) :
    ∃ last', last ≤ last' ∧ d'.Paced last' ∧
      (packets = [] ∨ ∃ packet, packets = [packet] ∧ Bears d.observation last' packet) := by
  have hNext : last ≤ d.sequence.value g.now := Nat.le_of_lt (Sequence.lt_value hPaced.drawn g.now)
  cases h with
  | rests => exact ⟨last, Nat.le_refl _, hPaced, .inl rfl⟩
  | notifies due hWatching hQueue =>
    refine ⟨_, hNext, ⟨rfl, fun _ _ _ _ hPhase => by cases hPhase⟩, .inr ⟨_, rfl, ?_⟩⟩
    exact bears_notification g hPaced.drawn _ _
  | asks hWatching hTransmits =>
    have hBears := bears_notification g hPaced.drawn .confirmable []
    obtain ⟨hAfter, hPackets⟩ := hTransmits.paced
      (d := { d with sequence := (d.sequence.next g.now).2 }) rfl hBears
    exact ⟨_, hNext, hAfter, hPackets.imp id fun hOne => ⟨_, hOne, hBears⟩⟩
  | asks_again hConfirming hTransmits =>
    have hBears := hPaced.again _ _ _ _ hConfirming
    obtain ⟨hAfter, hPackets⟩ := hTransmits.paced (d := { d with state := _ }) hPaced.drawn hBears
    exact ⟨last, Nat.le_refl _, hAfter, hPackets.imp id fun hOne => ⟨_, hOne, hBears⟩⟩
  | answered state hConfirming hConcludes =>
    exact ⟨last, Nat.le_refl _, hConcludes.paced (d := { d with state }) hPaced.drawn, .inl rfl⟩
  | ends state hWatching hSending =>
    exact ⟨last, Nat.le_refl _, ⟨hPaced.drawn, fun _ _ _ _ hPhase => by cases hPhase⟩, .inl rfl⟩

/-! ## Marks -/

/-- The Observe value of a packet that was sent for an observation, in answer to a request or
by its delivery. -/
structure Mark where
  answers : Bool
  peer : Peer
  token : Bytes
  value : UInt32
  deriving DecidableEq

def marks (answers : Bool) (packets : List (Peer × Packet)) : List Mark :=
  packets.filterMap fun (peer, packet) =>
    packet.observe.map fun value => ⟨answers, peer, packet.token, value⟩

/-- What an event makes the gateway send for the observation `o`, whose delivery is `k`. -/
def marksAt (g : Gateway) (k : Nat) (o : Observation) (e : Event) : List Mark :=
  if e.acts k then marks false (g.said e)
  else if e.asksFor g.authorizer = some o then marks true (g.said e)
  else []

/-- What is sent for an observation along a run, in order. -/
def trace (g : Gateway) (k : Nat) (o : Observation) : List Event → List Mark
  | [] => []
  | e :: rest => g.marksAt k o e ++ (g.step e).trace k o rest

/-- The last value that the delivery `k` has drawn. -/
def lastValue (g : Gateway) (k : Nat) : Nat :=
  (g.deliveries[k]?.bind fun d => d.sequence.last).getD 0

theorem marks_singleton (answers : Bool) (peer : Peer) {packet : Packet} {value : UInt32}
    (hObserve : packet.observe = some value) :
    marks answers [(peer, packet)] = [⟨answers, peer, packet.token, value⟩] := by
  simp [marks, hObserve]

/-- The answers have the value zero, and the other values never decrease from `low` on. -/
structure Ordered (o : Observation) (low : Nat) (marks : List Mark) : Prop where
  addressed : ∀ m ∈ marks, m.peer = o.peer ∧ m.token = o.token
  answers : ∀ m ∈ marks, m.answers = true → m.value = 0
  drawn : ∀ m ∈ marks, m.answers = false → low ≤ m.value.toNat ∧ 0 < m.value
  sorted : marks.Pairwise fun m m' =>
    m.answers = false → m'.answers = false → m.value ≤ m'.value

namespace Ordered

variable {low low' : Nat} {marks : List Mark}

theorem nil (o : Observation) (low : Nat) : Ordered o low [] :=
  ⟨List.forall_mem_nil _, List.forall_mem_nil _, List.forall_mem_nil _, .nil⟩

theorem mono (h : Ordered o low' marks) (hLow : low ≤ low') : Ordered o low marks :=
  { h with drawn := fun m hm hDrawn => (h.drawn m hm hDrawn).imp_left (Nat.le_trans hLow) }

theorem cons_answer (h : Ordered o low marks) :
    Ordered o low (⟨true, o.peer, o.token, 0⟩ :: marks) where
  addressed := List.forall_mem_cons.mpr ⟨⟨rfl, rfl⟩, h.addressed⟩
  answers := List.forall_mem_cons.mpr ⟨fun _ => rfl, h.answers⟩
  drawn := List.forall_mem_cons.mpr ⟨fun hNone => (by cases hNone), h.drawn⟩
  sorted := .cons (fun _ _ hNone => by cases hNone) h.sorted

theorem cons_drawn (h : Ordered o low marks) (hPositive : 0 < low)
    (hSmall : low < Sequence.modulus) :
    Ordered o low (⟨false, o.peer, o.token, Sequence.wire low⟩ :: marks) := by
  have hWire := Sequence.toNat_wire hSmall
  constructor
  · exact List.forall_mem_cons.mpr ⟨⟨rfl, rfl⟩, h.addressed⟩
  · exact List.forall_mem_cons.mpr ⟨fun hNone => (by cases hNone), h.answers⟩
  · refine List.forall_mem_cons.mpr ⟨fun _ => ⟨Nat.le_of_eq hWire.symm, ?_⟩, h.drawn⟩
    rw [UInt32.lt_iff_toNat_lt, hWire]
    exact hPositive
  · refine .cons (fun m hm _ hDrawn => ?_) h.sorted
    rw [UInt32.le_iff_toNat_le, hWire]
    exact (h.drawn m hm hDrawn).1

/-- The values decrease exactly where an answer follows a packet of the delivery. -/
theorem pairwise_le_iff (h : Ordered o low marks) :
    (marks.Pairwise fun m m' => m.value ≤ m'.value) ↔
      marks.Pairwise fun m m' => m'.answers = true → m.answers = true := by
  constructor
  · refine List.Pairwise.imp_of_mem fun {m m'} hm hm' hLe hAnswer => ?_
    rw [h.answers m' hm' hAnswer] at hLe
    by_contra hDrawn
    have hPositive := (h.drawn m hm (eq_false_of_ne_true hDrawn)).2
    exact UInt32.not_le.mpr hPositive hLe
  · intro hFirst
    refine (h.sorted.and hFirst).imp_of_mem fun {m m'} hm hm' ⟨hLe, hAnswers⟩ => ?_
    cases hKind' : m'.answers with
    | true =>
      rw [h.answers m hm (hAnswers hKind'), h.answers m' hm' hKind']
      exact UInt32.le_refl 0
    | false =>
      cases hKind : m.answers with
      | true =>
        rw [h.answers m hm hKind, UInt32.le_iff_toNat_le]
        exact Nat.zero_le _
      | false => exact hLe hKind hKind'

end Ordered

/-! ## One observation along a run -/

/-- The delivery `k` is that of the observation, and has drawn `last`. -/
def Pacing (g : Gateway) (k : Nat) (o : Observation) (last : Nat) : Prop :=
  g.Going k o ∧ ∃ d, g.deliveries[k]? = some d ∧ d.Paced last

theorem Pacing.lastValue_eq (h : g.Pacing k o last) : g.lastValue k = last := by
  obtain ⟨-, d, hAt, hPaced⟩ := h
  rw [lastValue, hAt, Option.bind_some, hPaced.drawn, Option.getD_some]

theorem Answers.marks {value : UInt32} (h : g.Answers e o value) :
    marks true (g.said e) = [⟨true, o.peer, o.token, value⟩] := by
  obtain ⟨reply, hSaid, hObserve, hToken⟩ := h
  rw [hSaid, marks_singleton true o.peer hObserve, hToken]

/-- One event sends at most one packet for an observation: an answer, or the last value that
the delivery has drawn then. -/
theorem Pacing.step (h : g.Pacing k o last) (hEnrolled : g.Enrolled k o) (e : Event) :
    ∃ last', last ≤ last' ∧ (g.step e).Pacing k o last' ∧ (g.marksAt k o e = [] ∨
      g.marksAt k o e = [⟨true, o.peer, o.token, 0⟩] ∨
      0 < last' ∧ g.marksAt k o e = [⟨false, o.peer, o.token, Sequence.wire last'⟩]) := by
  obtain ⟨hGoing, d, hAt, hPaced⟩ := h
  obtain ⟨hAfter, -⟩ := hGoing.step e
  have hOwn : d.observation = o := by
    obtain ⟨d', hAt', hOwn⟩ := hGoing.delivery
    rw [hAt] at hAt'
    cases hAt'
    exact hOwn
  cases hActs : e.acts k with
  | true =>
    obtain ⟨packets, d', f, hTurn, hTakes⟩ := turned_step hGoing.sound hGoing.alive hAt hActs
    obtain ⟨last', hLe, hPaced', hPackets⟩ := hTurn.paced hPaced
    refine ⟨last', hLe, ⟨hAfter, d', hTakes.delivery, hPaced'⟩, ?_⟩
    rw [marksAt, if_pos hActs, said_eq hTakes.sends]
    rcases hPackets with rfl | ⟨packet, rfl, hPositive, hObserve, hToken⟩
    · exact .inl rfl
    · rw [List.map_singleton, marks_singleton false _ hObserve, hToken, hOwn]
      exact .inr (.inr ⟨hPositive, rfl⟩)
  | false =>
    have hAside := aside_step hGoing.sound hGoing.alive (hGoing.sound.bound hAt) hActs
    refine ⟨last, Nat.le_refl _, ⟨hAfter, d, hAside.delivery.trans hAt, hPaced⟩, ?_⟩
    rw [marksAt, if_neg (Bool.eq_false_iff.mp hActs)]
    split
    · rename_i hAsks
      rw [(answers_taken hGoing.sound hAsks hEnrolled).marks]
      exact .inr (.inl rfl)
    · exact .inl rfl

theorem Pacing.run (h : g.Pacing k o last) {events : List Event}
    (hStill : (g.run events).Enrolled k o)
    (hSmall : (g.run events).lastValue k < Sequence.modulus) :
    last ≤ (g.run events).lastValue k ∧ Ordered o last (g.trace k o events) := by
  induction events generalizing g last with
  | nil => exact ⟨Nat.le_of_eq h.lastValue_eq.symm, .nil o last⟩
  | cons e rest ih =>
    have hEnrolled := h.1.enrolled_of_run hStill
    obtain ⟨last', hLe, hStep, hMarks⟩ := h.step hEnrolled e
    obtain ⟨hLast, hOrdered⟩ := ih hStep hStill hSmall
    refine ⟨Nat.le_trans hLe hLast, ?_⟩
    rw [trace]
    rcases hMarks with hNone | hAnswer | ⟨hPositive, hDrawn⟩
    · rw [hNone]
      exact hOrdered.mono hLe
    · rw [hAnswer]
      exact (hOrdered.mono hLe).cons_answer
    · rw [hDrawn]
      exact (hOrdered.cons_drawn hPositive (Nat.lt_of_le_of_lt hLast hSmall)).mono hLe

theorem pacing_begins (hSound : g.Sound) (hAlive : g.Alive)
    (hAsks : e.asksFor g.authorizer = some o)
    (hBegins : (g.step e).Enrolled g.deliveries.length o) :
    (g.step e).Pacing g.deliveries.length o 0 ∧
      g.marksAt g.deliveries.length o e = [⟨true, o.peer, o.token, 0⟩] := by
  have hActs : e.acts g.deliveries.length = false := not_acts_of_asksFor hAsks
  obtain ⟨hAnswers, -, due, hAt⟩ := answers_begins hSound hAsks hBegins
  rw [marksAt, if_neg (Bool.eq_false_iff.mp hActs), if_pos hAsks, hAnswers.marks]
  refine ⟨⟨⟨sound_step hSound e, alive_step hSound hAlive e, _, hAt, rfl⟩, _, hAt, rfl, ?_⟩, rfl⟩
  intro packet slot attempt due' hConfirming
  cases hConfirming

/-- From the reply that begins an observation on, and as long as it is registered and its
values are below the modulus, what its delivery sends never decreases and is above zero,
while every answer to a repeated request has the value zero. So the values never decrease
exactly if no request is answered after a packet of the delivery. -/
theorem values_ordered_iff (hReached : Reached g) (hAsks : e.asksFor g.authorizer = some o)
    (hBegins : (g.step e).Enrolled g.deliveries.length o) (after : List Event)
    (hStill : ((g.step e).run after).Enrolled g.deliveries.length o)
    (hSmall : ((g.step e).run after).lastValue g.deliveries.length < Sequence.modulus) :
    (g.trace g.deliveries.length o (e :: after)).head? = some ⟨true, o.peer, o.token, 0⟩ ∧
      Ordered o 0 (g.trace g.deliveries.length o (e :: after)) ∧
      (((g.trace g.deliveries.length o (e :: after)).Pairwise fun m m' => m.value ≤ m'.value) ↔
        (g.trace g.deliveries.length o (e :: after)).Pairwise fun m m' =>
          m'.answers = true → m.answers = true) := by
  obtain ⟨hPacing, hMarks⟩ := pacing_begins hReached.sound hReached.alive hAsks hBegins
  obtain ⟨-, hRest⟩ := hPacing.run hStill hSmall
  have hOrdered : Ordered o 0 (g.trace g.deliveries.length o (e :: after)) := by
    rw [trace, hMarks]
    exact hRest.cons_answer
  refine ⟨?_, hOrdered, hOrdered.pairwise_le_iff⟩
  rw [trace, hMarks]
  rfl

/-- A gateway that asks a peer who has been sent nothing for a second whether it is there. -/
def attentive : Gateway :=
  opened none (fun _ _ _ => .ok "pub") { keepAlive := Duration.ofMillis 1000 } 0

def watched : Observation where
  client := "pub-07"
  topic := "channels.abc"
  peer := "peer"
  token := [7]

def beginning : Event :=
  .packet 0 "peer" (observing 1 [])

theorem values_ordered_iff_attentive : Reached attentive ∧
    beginning.asksFor attentive.authorizer = some watched ∧
    (attentive.step beginning).Enrolled 0 watched ∧
    ((attentive.step beginning).run [.elapse 1000, .poll 0]).Enrolled 0 watched ∧
    attentive.trace 0 watched (beginning :: [.elapse 1000, .poll 0]) =
      [⟨true, "peer", [7], 0⟩, ⟨false, "peer", [7], 1000⟩] ∧
    (attentive.trace 0 watched (beginning :: [.elapse 1000, .poll 0])).Pairwise fun m m' =>
      m.value ≤ m'.value := by
  have hReached : Reached attentive := ⟨_, _, _, _, [], rfl⟩
  have hAsks : beginning.asksFor attentive.authorizer = some watched := by cbv
  have hPairs : ((attentive.step beginning).pair? "channels.abc" "pub-07",
      ((attentive.step beginning).run [.elapse 1000, .poll 0]).pair? "channels.abc" "pub-07",
      ((attentive.step beginning).run [.elapse 1000, .poll 0]).lastValue 0) =
        (some { ticket := 0, handle := some 0, handler := .feed 0 },
          some { ticket := 0, handle := some 0, handler := .feed 0 }, 1000) := by cbv
  simp only [Prod.mk.injEq] at hPairs
  obtain ⟨hFirst, hLast, hValue⟩ := hPairs
  have hTrace : attentive.trace 0 watched (beginning :: [.elapse 1000, .poll 0]) =
      [⟨true, "peer", [7], 0⟩, ⟨false, "peer", [7], 1000⟩] := by cbv
  have hSmall : ((attentive.step beginning).run [.elapse 1000, .poll 0]).lastValue 0 <
      Sequence.modulus := by
    rw [hValue]
    decide
  obtain ⟨-, -, hIff⟩ := values_ordered_iff hReached hAsks ⟨_, hFirst, rfl⟩
    [.elapse 1000, .poll 0] ⟨_, hLast, rfl⟩ hSmall
  refine ⟨hReached, hAsks, ⟨_, hFirst, rfl⟩, ⟨_, hLast, rfl⟩, hTrace, hIff.mpr ?_⟩
  change (attentive.trace 0 watched _).Pairwise _
  rw [hTrace]
  decide

/-- The answer to a request that comes after the peer was asked has a lower value than the
question. -/
theorem values_decrease : Reached attentive ∧
    beginning.asksFor attentive.authorizer = some watched ∧
    (Event.packet 0 "peer" (observing 2 [])).asksFor attentive.authorizer = some watched ∧
    ((attentive.run [beginning, .elapse 1000, .poll 0, .packet 0 "peer" (observing 2 [])]).pair?
      "channels.abc" "pub-07" = some { ticket := 0, handle := some 0, handler := .feed 0 }) ∧
    attentive.trace 0 watched
        [beginning, .elapse 1000, .poll 0, .packet 0 "peer" (observing 2 [])] =
      [⟨true, "peer", [7], 0⟩, ⟨false, "peer", [7], 1000⟩, ⟨true, "peer", [7], 0⟩] ∧
    ¬((attentive.trace 0 watched
        [beginning, .elapse 1000, .poll 0, .packet 0 "peer" (observing 2 [])]).Pairwise
      fun m m' => m.value ≤ m'.value) := by
  have hTrace : attentive.trace 0 watched
        [beginning, .elapse 1000, .poll 0, .packet 0 "peer" (observing 2 [])] =
      [⟨true, "peer", [7], 0⟩, ⟨false, "peer", [7], 1000⟩, ⟨true, "peer", [7], 0⟩] := by cbv
  refine ⟨⟨_, _, _, _, [], rfl⟩, by cbv, by cbv, by cbv, hTrace, ?_⟩
  rw [hTrace]
  decide

end Gateway

end DeviceBus
