import DeviceBus.Proofs.Broker.Retapped
import DeviceBus.Proofs.Facade.Beside
import DeviceBus.Proofs.Hub.Onward

/-! # A hub with one call more

Two hubs are driven by the same steps, and one of them has a subscribe call that the other has
not. Its call number and its ticket leave a gap in the numbers of all later calls and tickets.
While nobody else touches the pair that the call has reserved, the hubs differ in nothing but
this numbering and the reservation itself, step for step.
-/

namespace DeviceBus

variable {H : Type}

/-! ## The numbering -/

def Tap.renumber (gap : Nat → Option Nat) (tap : Tap H) : Tap H :=
  { tap with ticket := skip (gap tap.facade) tap.ticket }

def Call.renumber (gap : Option Nat) : Call H → Call H
  | .subscribing client topic ticket handler stage =>
      .subscribing client topic (skip gap ticket) handler stage
  | .releasing s => .releasing (s.renumber gap)
  | .cancelling s released => .cancelling (s.renumber gap) released
  | .closing => .closing

def Pending.renumber (n : Nat) (gap : Nat → Option Nat) (p : Pending H) : Pending H where
  number := skip (some n) p.number
  facade := p.facade
  call := p.call.renumber (gap p.facade)

def Report.renumber (n : Nat) (gap : Nat → Option Nat) : Report H → Report H
  | .handled i ticket handler message => .handled i (skip (gap i) ticket) handler message
  | .cancelled i ticket handler => .cancelled i (skip (gap i) ticket) handler
  | .returned call result => .returned (skip (some n) call) result

def Step.renumber (n : Nat) : Step H → Step H
  | .proceed call answer => .proceed (skip (some n) call) answer
  | s => s

/-- The step where call `n` has never begun; nothing is left of a step of that call. -/
def Step.without (n : Nat) : Step H → Option (Step H)
  | .proceed call answer =>
      if call = n then none else some (.proceed (if call < n then call else call - 1) answer)
  | s => some s

theorem Step.eq_of_without {n : Nat} {s s' : Step H} (hWithout : s.without n = some s') :
    s = s'.renumber n := by
  cases s with
  | proceed call answer =>
    simp only [Step.without] at hWithout
    split at hWithout
    · cases hWithout
    · rename_i hOther
      cases hWithout
      rcases Nat.lt_or_gt_of_ne hOther with hBelow | hAbove
      · rw [Step.renumber, if_pos hBelow, skip_of_lt hBelow]
      · rw [Step.renumber, if_neg (Nat.lt_asymm hAbove), skip_of_le (Nat.le_sub_one_of_lt hAbove),
          Nat.sub_add_cancel (Nat.one_le_of_lt hAbove)]
  | _ =>
    cases hWithout
    rfl

theorem Step.without_eq_none_iff {n : Nat} {s : Step H} :
    s.without n = none ↔ ∃ answer, s = .proceed n answer := by
  cases s with
  | proceed call answer =>
    simp only [Step.without]
    split
    · rename_i hOwn
      simp [hOwn]
    · rename_i hOther
      simp [hOther]
  | _ => simp [Step.without]

/-- The step asks for no reserved pair, and closes no facade whose tickets have a gap. -/
def Step.Clear (gap : Nat → Option Nat) (own : Nat → String → String → Option (Subscription H)) :
    Step H → Prop
  | .subscribe i client topic _ => own i topic client = none
  | .unsubscribe i client topic => own i topic client = none
  | .close i => gap i = none
  | _ => True

theorem Step.clear_renumber {n : Nat} {gap : Nat → Option Nat}
    {own : Nat → String → String → Option (Subscription H)} {s : Step H} :
    (s.renumber n).Clear gap own ↔ s.Clear gap own := by
  cases s <;> exact Iff.rfl

namespace Hub

variable {h g : Hub H} {n : Nat} {gap : Nat → Option Nat}
  {own : Nat → String → String → Option (Subscription H)}

/-! ## Both hubs -/

structure Beside (n : Nat) (gap : Nat → Option Nat)
    (own : Nat → String → String → Option (Subscription H)) (h g : Hub H) : Prop where
  broker : h.broker = g.broker.retap (Tap.renumber gap)
  length : h.facades.length = g.facades.length
  facade : ∀ i, (h.facade i).Beside (gap i) (own i) (g.facade i)
  late : n ≤ g.nextCall
  nextCall : h.nextCall = g.nextCall + 1
  call : ∀ m, h.call? (skip (some n) m) = (g.call? m).map (Pending.renumber n gap)

/-- One step of each: the hubs after it, and what they report. -/
structure Alike (n : Nat) (gap : Nat → Option Nat)
    (own : Nat → String → String → Option (Subscription H))
    (x y : Hub H × List (Report H)) : Prop where
  hub : x.1.Beside n gap own y.1
  reports : x.2 = y.2.map (Report.renumber n gap)

theorem Alike.append {x y x' y' : Hub H × List (Report H)} (hFirst : Alike n gap own x y)
    (hRest : Alike n gap own x' y') :
    Alike n gap own (x'.1, x.2 ++ x'.2) (y'.1, y.2 ++ y'.2) where
  hub := hRest.hub
  reports := by rw [hFirst.reports, hRest.reports, List.map_append]

theorem Beside.nextCall_eq (hBeside : h.Beside n gap own g) :
    h.nextCall = skip (some n) g.nextCall := by
  rw [hBeside.nextCall, skip_of_le hBeside.late]

theorem Beside.connection (hBeside : h.Beside n gap own g) (i : Nat) :
    h.broker.connection i = g.broker.connection i := by
  rw [hBeside.broker]
  rfl

/-- The call more begins: what has been numbered before lies below the gaps. -/
theorem beside_of_drawn (hDrawn : h.Drawn)
    (hPast : ∀ i k, gap i = some k → i < h.facades.length ∧ h.nextTicket i ≤ k)
    {h' : Hub H} (hBroker : h'.broker = h.broker)
    (hLength : h'.facades.length = h.facades.length)
    (hFacade : ∀ i, (h'.facade i).Beside (gap i) (own i) (h.facade i))
    (hNext : h'.nextCall = h.nextCall + 1)
    (hCall : ∀ m, m ≠ h.nextCall → h'.call? m = h.call? m) :
    h'.Beside h.nextCall gap own h where
  broker := by
    rw [hBroker]
    refine (Broker.retap_eq_self fun tap hLeads => ?_).symm
    rw [Tap.renumber, skip_eq_self]
    intro k hGap
    obtain ⟨hPresent, hLe⟩ := hPast _ k hGap
    exact Nat.lt_of_lt_of_le (hDrawn.tap tap hLeads hPresent) hLe
  length := hLength
  facade := hFacade
  late := Nat.le_refl _
  nextCall := hNext
  call m := by
    rcases Nat.lt_or_ge m h.nextCall with hOld | hNew
    · rw [skip_of_lt hOld, hCall m (Nat.ne_of_lt hOld)]
      cases hFound : h.call? m with
      | none => rfl
      | some p =>
        obtain ⟨m', i, call⟩ := p
        obtain rfl : m = m' := (number_of_call? hFound).symm
        have hSame : call.renumber (gap i) = call := by
          cases call with
          | subscribing client topic ticket handler stage =>
            rw [Call.renumber, skip_eq_self]
            intro k hGap
            obtain ⟨hPresent, hLe⟩ := hPast i k hGap
            exact Nat.lt_of_lt_of_le
              (hDrawn.subscribing _ _ _ _ _ _ _ hPresent hFound) hLe
          | releasing s =>
            rw [Call.renumber, Subscription.renumber, skip_eq_self]
            exact fun k hGap => Nat.lt_of_lt_of_le
              (hDrawn.taking _ _ _ _ hFound rfl) (hPast i k hGap).2
          | cancelling s released =>
            rw [Call.renumber, Subscription.renumber, skip_eq_self]
            exact fun k hGap => Nat.lt_of_lt_of_le
              (hDrawn.taking _ _ _ _ hFound rfl) (hPast i k hGap).2
          | closing => rfl
        rw [Option.map_some, Pending.renumber, hSame, skip_of_lt hOld]
    · rw [skip_of_le hNew, hCall _ (Nat.ne_of_gt (Nat.lt_succ_of_le hNew)),
        hDrawn.numbered.absent (Nat.le_succ_of_le hNew), hDrawn.numbered.absent hNew]
      rfl

/-- The call more goes on. -/
theorem Beside.own_step (hBeside : h.Beside n gap own g) {h' : Hub H}
    {own' : Nat → String → String → Option (Subscription H)} (hBroker : h'.broker = h.broker)
    (hLength : h'.facades.length = h.facades.length)
    (hFacade : ∀ i, (h'.facade i).Beside (gap i) (own' i) (g.facade i))
    (hNext : h'.nextCall = h.nextCall) (hCall : ∀ m, m ≠ n → h'.call? m = h.call? m) :
    h'.Beside n gap own' g where
  broker := hBroker.trans hBeside.broker
  length := hLength.trans hBeside.length
  facade := hFacade
  late := hBeside.late
  nextCall := hNext.trans hBeside.nextCall
  call m := (hCall _ (skip_ne n m)).trans (hBeside.call m)

theorem Beside.setFacade (hBeside : h.Beside n gap own g) {i : Nat} {f f' : Facade H}
    (hFacade : f.Beside (gap i) (own i) f') :
    (h.setFacade i f).Beside n gap own (g.setFacade i f') where
  broker := hBeside.broker
  length := by
    rw [Hub.setFacade, Hub.setFacade, List.length_set, List.length_set, hBeside.length]
  facade j := by
    rw [facade_setFacade, facade_setFacade, hBeside.length]
    split
    · rename_i hSame
      exact hSame.1 ▸ hFacade
    · exact hBeside.facade j
  late := hBeside.late
  nextCall := hBeside.nextCall
  call := hBeside.call

/-- A facade is changed in the first hub alone. -/
theorem beside_setFacade {i : Nat} {f : Facade H} (hPresent : i < h.facades.length)
    (hOwn : f.Beside (gap i) (own i) (g.facade i))
    (hOthers : ∀ j, j ≠ i → (h.facade j).Beside (gap j) (own j) (g.facade j)) (j : Nat) :
    ((h.setFacade i f).facade j).Beside (gap j) (own j) (g.facade j) := by
  rw [facade_setFacade]
  split
  · rename_i hSame
    exact hSame.1 ▸ hOwn
  · rename_i hOther
    exact hOthers j fun hSame => hOther ⟨hSame.symm, hPresent⟩

theorem Beside.setBroker (hBeside : h.Beside n gap own g) (broker : Broker (Tap H)) :
    ({ h with broker := broker.retap (Tap.renumber gap) } : Hub H).Beside n gap own
      { g with broker } where
  broker := rfl
  length := hBeside.length
  facade := hBeside.facade
  late := hBeside.late
  nextCall := hBeside.nextCall
  call := hBeside.call

theorem Beside.immediate (hBeside : h.Beside n gap own g) (result : Except FacadeError Unit) :
    Alike n gap own (h.immediate result) (g.immediate result) where
  hub :=
    { broker := hBeside.broker
      length := hBeside.length
      facade := hBeside.facade
      late := Nat.le_succ_of_le hBeside.late
      nextCall := congrArg (· + 1) hBeside.nextCall
      call := hBeside.call }
  reports := by
    rw [Hub.immediate, hBeside.nextCall_eq]
    rfl

theorem Beside.begin (hBeside : h.Beside n gap own g) (hFresh : g.call? g.nextCall = none) (i : Nat)
    (call : Call H) :
    (h.begin i (call.renumber (gap i))).Beside n gap own (g.begin i call) where
  broker := hBeside.broker
  length := hBeside.length
  facade := hBeside.facade
  late := Nat.le_succ_of_le hBeside.late
  nextCall := congrArg (· + 1) hBeside.nextCall
  call m := by
    have hFresh' : h.call? h.nextCall = none := by
      rw [hBeside.nextCall_eq, hBeside.call, hFresh, Option.map_none]
    simp only [call?_begin hFresh, call?_begin hFresh', hBeside.nextCall_eq, skip_inj,
      hBeside.call]
    split
    · rfl
    · rfl

theorem Beside.setCall (hBeside : h.Beside n gap own g) {m i : Nat} {call : Call H}
    (hCall : g.call? m = some ⟨m, i, call⟩) (call' : Call H) :
    (h.setCall (skip (some n) m) (call'.renumber (gap i))).Beside n gap own
      (g.setCall m call') where
  broker := hBeside.broker
  length := hBeside.length
  facade := hBeside.facade
  late := hBeside.late
  nextCall := hBeside.nextCall
  call k := by
    simp only [call?_setCall, skip_inj, hBeside.call]
    split
    · rename_i hSame
      rw [hSame, hCall]
      rfl
    · rfl

theorem Beside.finish (hBeside : h.Beside n gap own g) (m : Nat)
    (result : Except FacadeError Unit) :
    Alike n gap own (h.finish (skip (some n) m) result) (g.finish m result) where
  hub :=
    { broker := hBeside.broker
      length := hBeside.length
      facade := hBeside.facade
      late := hBeside.late
      nextCall := hBeside.nextCall
      call := fun k => by
        simp only [call?_finish, skip_inj, hBeside.call]
        split
        · rfl
        · rfl }
  reports := rfl

theorem Beside.grant (hBeside : h.Beside n gap own g) (i : Nat) (topic : String) (ticket : Nat)
    (handler : H) (answer : Answer) :
    (h.grant i topic (skip (gap i) ticket) handler answer).1 =
        (g.grant i topic ticket handler answer).1 ∧
      (h.grant i topic (skip (gap i) ticket) handler answer).2.Beside n gap own
        (g.grant i topic ticket handler answer).2 := by
  cases answer with
  | failed reason => exact ⟨rfl, hBeside⟩
  | carried =>
    have hTap : (⟨i, skip (gap i) ticket, handler⟩ : Tap H) =
        Tap.renumber gap ⟨i, ticket, handler⟩ := rfl
    simp only [Hub.grant]
    rw [hBeside.broker, (hBeside.facade i).group, hTap, Broker.subscribe_retap]
    cases g.broker.subscribe i topic (g.facade i).group ⟨i, ticket, handler⟩ with
    | error e => exact ⟨rfl, hBeside⟩
    | ok granted => exact ⟨rfl, hBeside.setBroker granted.2⟩

theorem Beside.release (hBeside : h.Beside n gap own g) (i handle : Nat) (answer : Answer) :
    (h.release i handle answer).1 = (g.release i handle answer).1 ∧
      (h.release i handle answer).2.Beside n gap own (g.release i handle answer).2 := by
  cases answer with
  | failed reason => exact ⟨rfl, hBeside⟩
  | carried =>
    simp only [Hub.release]
    rw [hBeside.broker, Broker.unsubscribe_retap]
    cases g.broker.unsubscribe i handle with
    | error e => exact ⟨rfl, hBeside⟩
    | ok broker => exact ⟨rfl, hBeside.setBroker broker⟩

theorem Beside.publish (hBeside : h.Beside n gap own g) (i : Nat) (channel : String)
    (message : Envelope) (answer : Answer) :
    Alike n gap own (h.publish i channel message answer)
      (g.publish i channel message answer) := by
  unfold Hub.publish
  cases Facade.subjectOf channel message with
  | error e => exact hBeside.immediate _
  | ok subject =>
    cases answer with
    | failed reason => exact hBeside.immediate _
    | carried =>
      dsimp only
      rw [hBeside.broker, Broker.publish_retap]
      cases g.broker.publish i subject message.toBytes with
      | error e => exact hBeside.immediate _
      | ok broker => exact (hBeside.setBroker broker).immediate _

theorem Beside.dispatch [Handler H] (hBeside : h.Beside n gap own g) (route : Nat) :
    Alike n gap own (h.dispatch route) (g.dispatch route) := by
  unfold Hub.dispatch
  rw [hBeside.broker, Broker.takeFrom?_retap]
  cases g.broker.takeFrom? route with
  | none => exact ⟨hBeside, rfl⟩
  | some taken =>
    obtain ⟨tap, data, broker⟩ := taken
    have hReceive := (hBeside.facade tap.facade).receive? tap.ticket data
    have hBroker := hBeside.setBroker broker
    simp only [Option.map_some, facade_broker, Tap.renumber, hReceive, handed_eq]
    cases (g.facade tap.facade).receive? tap.ticket data with
    | none => exact ⟨hBroker, rfl⟩
    | some message => exact ⟨hBroker, rfl⟩

/-! ## Every step -/

section

variable [Handler H]

theorem Beside.proceed (hBeside : h.Beside n gap own g) (m : Nat) (answer : Answer) :
    Alike n gap own (h.proceed (skip (some n) m) answer) (g.proceed m answer) := by
  have hCall := hBeside.call m
  cases hFound : g.call? m with
  | none =>
    rw [hFound, Option.map_none] at hCall
    simp only [Hub.proceed, hCall, hFound]
    exact ⟨hBeside, rfl⟩
  | some p =>
    obtain ⟨m', i, call⟩ := p
    obtain rfl : m = m' := (number_of_call? hFound).symm
    rw [hFound, Option.map_some, Pending.renumber] at hCall
    cases call with
    | subscribing client topic ticket handler stage =>
      simp only [Hub.proceed, hCall, hFound, Call.renumber]
      cases stage with
      | reserved =>
        exact ⟨hBeside.setCall hFound (.subscribing client topic ticket handler .asked), rfl⟩
      | asked =>
        obtain ⟨hStage, hGranted⟩ := hBeside.grant i topic ticket handler answer
        have hFound' := (call?_congr (grant_same g i ticket topic handler answer).2 m).trans hFound
        simp only [proceedSubscribe, hStage]
        exact ⟨hGranted.setCall hFound'
          (.subscribing client topic ticket handler (g.grant i topic ticket handler answer).1), rfl⟩
      | refused e =>
        exact (hBeside.setFacade ((hBeside.facade i).discard client topic ticket)).finish m _
      | granted handle =>
        simp only [proceedSubscribe]
        rcases (hBeside.facade i).attach client topic ticket handle with
          ⟨f', g', hf, hg, hFacade⟩ | ⟨f', g', hf, hg, hFacade⟩
        · rw [hf, hg]
          exact (hBeside.setFacade hFacade).finish m _
        · rw [hf, hg]
          exact ⟨(hBeside.setFacade hFacade).setCall hFound
            (.subscribing client topic ticket handler (.surplus handle)), rfl⟩
      | surplus handle =>
        obtain ⟨hReleased, hHub⟩ := hBeside.release i handle answer
        simp only [proceedSubscribe, hReleased]
        exact hHub.finish m _
    | releasing s =>
      have hSame : (s.renumber (gap i)).handle = s.handle := rfl
      simp only [Hub.proceed, hCall, hFound, Call.renumber, hSame]
      cases s.handle with
      | none => exact ⟨hBeside.setCall hFound (.cancelling s (.ok ())), rfl⟩
      | some handle =>
        obtain ⟨hReleased, hHub⟩ := hBeside.release i handle answer
        have hFound' := (call?_congr (onward_release g i handle answer).2.1 m).trans hFound
        simp only [hReleased]
        exact ⟨hHub.setCall hFound' (.cancelling s (g.release i handle answer).1), rfl⟩
    | cancelling s released =>
      simp only [Hub.proceed, hCall, hFound, Call.renumber]
      exact ⟨(hBeside.finish m (cancelResult released (Handler.onCancel s.handler))).hub, rfl⟩
    | closing =>
      have hBroker := hBeside.setBroker (g.broker.close i)
      rw [← Broker.close_retap, ← hBeside.broker] at hBroker
      simp only [Hub.proceed, hCall, hFound, Call.renumber]
      exact hBroker.finish m _

theorem Beside.step (hBeside : h.Beside n gap own g) (hNumbered : g.Numbered) {s : Step H}
    (hClear : s.Clear gap own) : Alike n gap own (h.step (s.renumber n)) (g.step s) := by
  cases s with
  | subscribe i client topic handler =>
    simp only [Hub.step, Step.renumber, beginSubscribe]
    rcases (hBeside.facade i).reserve hClear handler with
      ⟨e, hf, hg⟩ | ⟨k, f', g', hf, hg, hFacade⟩
    · rw [hf, hg]
      exact hBeside.immediate _
    · rw [hf, hg]
      exact ⟨(hBeside.setFacade hFacade).begin hNumbered.fresh i
        (.subscribing client topic k handler .reserved), rfl⟩
  | unsubscribe i client topic =>
    simp only [Hub.step, Step.renumber, beginUnsubscribe]
    rcases (hBeside.facade i).remove hClear with ⟨e, hf, hg⟩ | ⟨s, f', g', hf, hg, hFacade⟩
    · rw [hf, hg]
      exact hBeside.immediate _
    · rw [hf, hg]
      exact ⟨(hBeside.setFacade hFacade).begin hNumbered.fresh i (.releasing s), rfl⟩
  | close i =>
    have hGap : gap i = none := hClear
    have hFacade := hBeside.facade i
    rw [hGap] at hFacade
    obtain ⟨hSubs, hDrained⟩ := hFacade.drain
    rw [← hGap] at hDrained
    refine ⟨(hBeside.setFacade hDrained).begin hNumbered.fresh i .closing, ?_⟩
    simp only [Hub.step, Step.renumber, beginClose, hSubs, List.map_map]
    refine List.map_congr_left fun s _ => ?_
    rw [Function.comp_apply, Report.renumber, hGap, skip_none]
  | publish i channel message answer => exact hBeside.publish i channel message answer
  | proceed m answer => exact hBeside.proceed m answer
  | route subject data =>
    have hBroker := hBeside.setBroker (g.broker.route subject data).2
    simp only [Hub.step, Step.renumber]
    rw [hBeside.broker, Broker.route_retap]
    exact ⟨hBroker, rfl⟩
  | dispatch route => exact hBeside.dispatch route

/-- Once the call more has returned, the two hubs go on alike. -/
theorem Beside.run (hBeside : h.Beside n gap own g) (hDrawn : h.Drawn) (hDrawn' : g.Drawn)
    (hReturned : h.call? n = none) {steps : List (Step H)}
    (hClear : ∀ s ∈ steps, s.Clear gap own) :
    Alike n gap own (h.run steps) (g.run (steps.filterMap (Step.without n))) := by
  induction steps generalizing h g with
  | nil => exact ⟨hBeside, rfl⟩
  | cons s rest ih =>
    have hOnward := onward_step hDrawn.numbered s
    have hRest : ∀ s' ∈ rest, s'.Clear gap own :=
      fun s' hs' => hClear s' (List.mem_cons_of_mem _ hs')
    cases hWithout : s.without n with
    | none =>
      obtain ⟨answer, rfl⟩ := Step.without_eq_none_iff.mp hWithout
      have hIdle : h.step (.proceed n answer) = (h, []) := by
        simp only [Hub.step, Hub.proceed, hReturned]
      rw [List.filterMap_cons_none hWithout, Hub.run, hIdle]
      exact ih hBeside hDrawn hDrawn' hReturned hRest
    | some s' =>
      obtain rfl := Step.eq_of_without hWithout
      have hStep := hBeside.step hDrawn'.numbered
        (Step.clear_renumber.mp (hClear _ List.mem_cons_self))
      have hOld : n < h.nextCall := hBeside.nextCall ▸ Nat.lt_succ_of_le hBeside.late
      have hAlike := ih hStep.hub (hDrawn.onward hOnward)
        (hDrawn'.onward (onward_step hDrawn'.numbered s')) (hOnward.returned hOld hReturned) hRest
      rw [List.filterMap_cons_some hWithout]
      exact hStep.append hAlike

end

end Hub

end DeviceBus
