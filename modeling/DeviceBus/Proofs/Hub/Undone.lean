import DeviceBus.Proofs.Hub.Beside
import DeviceBus.Proofs.Hub.Closing
import DeviceBus.Proofs.Hub.Settled

/-! # A subscribe call that fails leaves nothing behind

A subscribe call claims its pair before the backend is asked, and gives it up when the backend
fails. Whatever other calls do in between, on other pairs of the facade or elsewhere, the facade
is in the end what these calls alone would have made of it; one ticket is gone, no more.
-/

namespace DeviceBus

variable {H : Type}

def Claim.gap (c : Claim H) (i : Nat) : Option Nat :=
  if i = c.facade then some c.ticket else none

def Claim.own (c : Claim H) (i : Nat) : String → String → Option (Subscription H) :=
  if i = c.facade then
    Facade.reservation c.topic c.client { ticket := c.ticket, handler := c.handler }
  else fun _ _ => none

/-- The step asks for the pair or closes its facade. -/
def Step.Touches (i : Nat) (client topic : String) : Step H → Prop
  | .subscribe j c t _ => j = i ∧ c = client ∧ t = topic
  | .unsubscribe j c t => j = i ∧ c = client ∧ t = topic
  | .close j => j = i
  | _ => False

theorem Claim.gap_self (c : Claim H) : c.gap c.facade = some c.ticket :=
  if_pos rfl

theorem Claim.gap_other {c : Claim H} {i : Nat} (hOther : i ≠ c.facade) : c.gap i = none :=
  if_neg hOther

theorem Claim.own_self (c : Claim H) : c.own c.facade =
    Facade.reservation c.topic c.client { ticket := c.ticket, handler := c.handler } :=
  if_pos rfl

theorem Claim.own_other {c : Claim H} {i : Nat} (hOther : i ≠ c.facade) :
    c.own i = fun _ _ => none :=
  if_neg hOther

theorem Claim.own_eq_none {c : Claim H} {i : Nat} {client topic : String}
    (hOther : ¬(i = c.facade ∧ client = c.client ∧ topic = c.topic)) :
    c.own i topic client = none := by
  unfold Claim.own
  split
  · rename_i hFacade
    exact if_neg fun hPair => hOther ⟨hFacade, hPair.2, hPair.1⟩
  · rfl

theorem Step.clear_of_untouched {c : Claim H} {s : Step H}
    (hUntouched : ¬s.Touches c.facade c.client c.topic) : s.Clear c.gap c.own := by
  cases s with
  | subscribe i client topic handler => exact Claim.own_eq_none hUntouched
  | unsubscribe i client topic => exact Claim.own_eq_none hUntouched
  | close i => exact if_neg hUntouched
  | _ => trivial

theorem Step.touches_renumber {n i : Nat} {client topic : String} {s : Step H} :
    (s.renumber n).Touches i client topic ↔ s.Touches i client topic := by
  cases s <;> exact Iff.rfl

theorem Step.clear_of_clear {gap : Nat → Option Nat}
    {own : Nat → String → String → Option (Subscription H)} {s : Step H}
    (hClear : s.Clear gap own) : s.Clear gap fun _ _ _ => none := by
  cases s with
  | close i => exact hClear
  | _ => trivial

theorem Step.clear_of_no_gap (s : Step H) : s.Clear (fun _ => none) fun _ _ _ => none := by
  cases s with
  | close i => rfl
  | _ => trivial

/-- The report is about the ticket of facade `i`. -/
def Report.Bears (i ticket : Nat) : Report H → Prop
  | .handled j k _ _ => j = i ∧ k = ticket
  | .cancelled j k _ => j = i ∧ k = ticket
  | .returned _ _ => False

theorem Report.not_bears_renumber {n i k : Nat} {gap : Nat → Option Nat} (hGap : gap i = some k)
    (report : Report H) : ¬(report.renumber n gap).Bears i k := by
  cases report with
  | handled j ticket handler message =>
    rintro ⟨rfl, hTicket⟩
    rw [hGap] at hTicket
    exact skip_ne _ _ hTicket
  | cancelled j ticket handler =>
    rintro ⟨rfl, hTicket⟩
    rw [hGap] at hTicket
    exact skip_ne _ _ hTicket
  | returned call result => exact id

theorem Report.notice?_renumber (n : Nat) (gap : Nat → Option Nat) (report : Report H) :
    (report.renumber n gap).notice? = report.notice? := by
  cases report <;> rfl

namespace Hub

variable {h g : Hub H} {c : Claim H} {n : Nat} {gap : Nat → Option Nat}
  {own : Nat → String → String → Option (Subscription H)} {x y : Hub H × List (Report H)}

/-- The call that is left out returns in no step of another. -/
theorem Alike.not_returned (hAlike : Alike n gap own x y) (result : Except FacadeError Unit) :
    .returned n result ∉ x.2 := by
  rw [hAlike.reports]
  intro hMem
  obtain ⟨report, -, hSame⟩ := List.mem_map.mp hMem
  cases report with
  | returned m result' => exact skip_ne n m (Report.returned.inj hSame).1
  | _ => cases hSame

theorem not_takesOut {s : Step H} (hUntouched : ¬s.Touches c.facade c.client c.topic) :
    ¬h.TakesOut s c := by
  rintro ⟨rfl | rfl, -⟩
  · exact hUntouched ⟨rfl, rfl, rfl⟩
  · exact hUntouched rfl

/-- The pair is given up, and the facade is rid of it. -/
theorem Beside.refused (hBeside : h.Beside c.call c.gap c.own g)
    (hPresent : c.facade < h.facades.length) (result : Except FacadeError Unit) :
    ((h.setFacade c.facade ((h.facade c.facade).discard c.client c.topic c.ticket)).finish c.call
      result).1.Beside c.call c.gap (fun _ _ _ => none) g := by
  refine hBeside.own_step rfl List.length_set ?_ rfl fun m hOther =>
    (call?_finish _ _ _ _).trans (if_neg hOther)
  refine beside_setFacade hPresent ?_ fun j hOther => ?_
  · have hOwn := hBeside.facade c.facade
    rw [Claim.own_self] at hOwn
    exact hOwn.dropped
  · have hSame := hBeside.facade j
    rwa [Claim.own_other hOther] at hSame

/-- But for the call `n`, which has failed, both runs are alike. -/
structure FailsIn (n : Nat) (gap : Nat → Option Nat) (e : FacadeError)
    (x y : Hub H × List (Report H)) : Prop where
  hub : x.1.Beside n gap (fun _ _ _ => none) y.1
  reports : ∃ first others, x.2 = first ++ .returned n (.error e) :: others ∧
    first ++ others = y.2.map (Report.renumber n gap)

theorem Alike.append_fails {e : FacadeError} {x' y' : Hub H × List (Report H)}
    (hFirst : Alike n gap own x y) (hRest : FailsIn n gap e x' y') :
    FailsIn n gap e (x'.1, x.2 ++ x'.2) (y'.1, y.2 ++ y'.2) where
  hub := hRest.hub
  reports := by
    obtain ⟨first, others, hReports, hSame⟩ := hRest.reports
    refine ⟨x.2 ++ first, others, ?_, ?_⟩
    · rw [hReports, List.append_assoc]
    · rw [List.append_assoc, hSame, hFirst.reports, List.map_append]

/-- A call returns its error in one step, and all other steps are alike. -/
theorem fails_now {e e' : FacadeError} {y : Hub H × List (Report H)} {g' : Hub H}
    {others : List (Report H)} (hAlike : Alike n gap (fun _ _ _ => none) (g', others) y)
    (hFailed : .returned n (.error e) ∈ [.returned n (.error e')] ++ others) :
    e = e' ∧ FailsIn n gap e (g', [.returned n (.error e')] ++ others) y := by
  rcases List.mem_append.mp hFailed with hFirst | hAgain
  · cases List.mem_singleton.mp hFirst
    exact ⟨rfl, hAlike.hub, [], others, rfl, hAlike.reports⟩
  · exact (hAlike.not_returned _ hAgain).elim

theorem FailsIn.notices {e : FacadeError} (hFails : FailsIn n gap e x y) :
    x.2.filterMap Report.notice? = y.2.filterMap Report.notice? := by
  obtain ⟨first, others, hReports, hSame⟩ := hFails.reports
  have hNotices := congrArg (List.filterMap Report.notice?) hSame
  have hEach : Report.notice? ∘ Report.renumber n gap = (Report.notice? : Report H → _) :=
    funext (Report.notice?_renumber n gap)
  rw [List.filterMap_append, List.filterMap_map, hEach] at hNotices
  rw [hReports, List.filterMap_append, List.filterMap_cons_none rfl, hNotices]

theorem FailsIn.not_bears {e : FacadeError} (hFails : FailsIn n gap e x y) {i k : Nat}
    (hGap : gap i = some k) : ∀ report ∈ x.2, ¬report.Bears i k := by
  obtain ⟨first, others, hReports, hSame⟩ := hFails.reports
  intro report hMem
  rw [hReports, List.mem_append, List.mem_cons] at hMem
  have hOther : report ∈ first ++ others → ¬report.Bears i k := by
    rw [hSame]
    intro hMem
    obtain ⟨report, -, rfl⟩ := List.mem_map.mp hMem
    exact Report.not_bears_renumber hGap report
  rcases hMem with hFirst | rfl | hLater
  · exact hOther (List.mem_append_left _ hFirst)
  · exact id
  · exact hOther (List.mem_append_right _ hLater)

/-- After both runs facade `i` holds the same, all other facades are the same, and handlers
have heard the same; the first run alone has drawn some tickets more. -/
structure Undone (i tickets : Nat) (x y : Hub H × List (Report H)) : Prop where
  topics : ∀ topic, (x.1.facade i).registry.containsTopic topic =
    (y.1.facade i).registry.containsTopic topic
  pairs : ∀ topic client, (x.1.pair? i topic client).map (fun s => (s.handle, s.handler)) =
    (y.1.pair? i topic client).map fun s => (s.handle, s.handler)
  count : (x.1.facade i).subscriptionCount = (y.1.facade i).subscriptionCount
  nextTicket : x.1.nextTicket i = y.1.nextTicket i + tickets
  others : ∀ j, j ≠ i → x.1.facade j = y.1.facade j
  notices : x.2.filterMap Report.notice? = y.2.filterMap Report.notice?

theorem FailsIn.undone {e : FacadeError} {i tickets : Nat} (hFails : FailsIn n gap e x y)
    (hGap : ∀ j, j ≠ i → gap j = none)
    (hTickets : skip (gap i) (y.1.nextTicket i) = y.1.nextTicket i + tickets)
    (hPruned : (x.1.facade i).registry.Pruned) (hPruned' : (y.1.facade i).registry.Pruned) :
    Undone i tickets x y where
  topics := (hFails.hub.facade i).containsTopic_eq hPruned hPruned'
  pairs topic client := by
    rw [pair?, (hFails.hub.facade i).pair_eq, Option.map_map]
    rfl
  count := (hFails.hub.facade i).size_eq
  nextTicket := (hFails.hub.facade i).nextTicket.trans hTickets
  others j hOther := (hFails.hub.facade j).same (hGap j hOther)
  notices := hFails.notices

section

variable [Handler H]

/-! ## The call claims its pair -/

theorem beside_claim {s : Step H} (hDrawn : h.Drawn) (hClaim : h.claim? s = some c)
    (hPresent : c.facade < h.facades.length) :
    (h.step s).1.Beside c.call c.gap c.own h ∧
      (h.step s).1.call? c.call = some (c.pending .reserved) ∧ (h.step s).2 = [] := by
  obtain ⟨f, hReserve, hStep⟩ := step_of_claim? hClaim
  obtain ⟨-, hNumber, -⟩ := claim?_eq_some hClaim
  have hTicket := ticket_of_claim? hClaim
  have hCalls : ∀ m, (h.step s).1.call? m =
      if m = h.nextCall then some (c.pending .reserved) else h.call? m := by
    intro m
    rw [hStep, call?_begin (h := h.setFacade c.facade f) hDrawn.numbered.fresh, Claim.pending,
      hNumber]
    rfl
  refine ⟨?_, (hCalls _).trans (if_pos hNumber), by rw [hStep]⟩
  rw [hNumber]
  rw [hStep] at hCalls ⊢
  refine beside_of_drawn hDrawn ?_ rfl List.length_set ?_ rfl
    fun m hOther => (hCalls m).trans (if_neg hOther)
  · intro i k hGap
    by_cases hOwn : i = c.facade
    · subst hOwn
      rw [Claim.gap_self] at hGap
      cases hGap
      exact ⟨hPresent, Nat.le_of_eq hTicket.symm⟩
    · rw [Claim.gap_other hOwn] at hGap
      cases hGap
  · refine beside_setFacade hPresent ?_ fun j hOther => ?_
    · rw [Claim.gap_self, Claim.own_self]
      exact Facade.beside_reserve hReserve (hDrawn.pair c.facade) (hDrawn.active c.facade)
    · rw [Claim.gap_other hOther, Claim.own_other hOther]
      exact .refl _

/-! ## The call goes on -/

/-- The step of a call that has no handle: it waits on, is granted one, or has been refused. -/
theorem bare_step {stage : Stage} (hCall : h.call? c.call = some (c.pending stage))
    (hBare : (c.pending stage).call.handle? = none) (answer : Answer) :
    (∃ stage', (c.pending stage').call.handle? = none ∧
        h.step (.proceed c.call answer) = (h.setCall c.call (c.pending stage').call, [])) ∨
      (∃ handle broker, h.step (.proceed c.call answer) =
        (({ h with broker } : Hub H).setCall c.call (c.pending (.granted handle)).call, [])) ∨
      ∃ cause, stage = .refused cause := by
  cases stage with
  | reserved =>
    refine .inl ⟨.asked, rfl, ?_⟩
    simp only [step, proceed, hCall]
    rfl
  | asked =>
    rcases grant_cases h c.facade c.ticket c.topic c.handler answer with
      ⟨cause, hGrant⟩ | ⟨handle, broker, -, hGrant⟩
    · refine .inl ⟨.refused cause, rfl, ?_⟩
      simp only [step, proceed, hCall, Claim.pending, proceedSubscribe, hGrant]
    · refine .inr (.inl ⟨handle, broker, ?_⟩)
      simp only [step, proceed, hCall, Claim.pending, proceedSubscribe, hGrant]
  | refused cause => exact .inr (.inr ⟨cause, rfl⟩)
  | granted handle => cases hBare
  | surplus handle => cases hBare

/-- A step of another call leaves this one as it is. -/
theorem other_step {s : Step H} {p : Pending H} (hDrawn : h.Drawn) (hTraced : h.Traced c)
    (hServes : (h.facade c.facade).Serves c.client c.topic c.ticket)
    (hCall : h.call? c.call = some p) (hUntouched : ¬s.Touches c.facade c.client c.topic)
    (hOther : ∀ answer, s ≠ .proceed c.call answer) :
    ((h.step s).1.facade c.facade).Serves c.client c.topic c.ticket ∧
      (h.step s).1.call? c.call = some p ∧ ∀ result, .returned c.call result ∉ (h.step s).2 := by
  have hCall' := call?_step_other hDrawn.numbered hCall hOther
  refine ⟨?_, hCall', fun result hMem => ?_⟩
  · rcases held_step hTraced hServes (not_takesOut hUntouched) with hKept | ⟨e, answer, hStep, -⟩
    · exact hKept
    · exact (hOther answer hStep).elim
  · rw [(mem_returned_step hDrawn.numbered hMem).2.2] at hCall'
    cases hCall'

/-- A handle that the backend has granted is stored, and the call succeeds. -/
theorem not_failed_of_granted {handle : Nat} {e : FacadeError} (hDrawn : h.Drawn)
    (hTraced : h.Traced c) (hServes : (h.facade c.facade).Serves c.client c.topic c.ticket)
    (hCall : h.call? c.call = some (c.pending (.granted handle))) {steps : List (Step H)}
    (hUntouched : ∀ s ∈ steps, ¬s.Touches c.facade c.client c.topic) :
    .returned c.call (.error e) ∉ (h.run steps).2 := by
  induction steps generalizing h with
  | nil => exact List.not_mem_nil
  | cons s rest ih =>
    have hOnward := onward_step hDrawn.numbered s
    have hDrawn' := hDrawn.onward hOnward
    have hTraced' := hTraced.onward hOnward
    intro hMem
    by_cases hTold : ∃ answer, s = .proceed c.call answer
    · obtain ⟨answer, rfl⟩ := hTold
      obtain ⟨sub, hPair, hTicket⟩ := hServes.pair
      obtain ⟨f, hAttach⟩ := Facade.exists_attach hPair hTicket handle
      have hStep : h.step (.proceed c.call answer) =
          (h.setFacade c.facade f).finish c.call (.ok ()) := by
        simp only [step, proceed, hCall, Claim.pending, proceedSubscribe, hAttach]
      rw [run, hStep] at hMem
      rw [hStep] at hDrawn' hTraced'
      rcases List.mem_append.mp hMem with hFirst | hRest
      · cases List.mem_singleton.mp hFirst
      · exact not_returned_run hDrawn' hTraced' ((call?_finish _ _ _ _).trans (if_pos rfl)) hRest
    · obtain ⟨hServes', hCall', hSilent⟩ := other_step hDrawn hTraced hServes hCall
        (hUntouched s List.mem_cons_self) fun answer hStep => hTold ⟨answer, hStep⟩
      rcases List.mem_append.mp hMem with hFirst | hRest
      · exact hSilent _ hFirst
      · exact ih hDrawn' hTraced' hServes' hCall'
          (fun s' hs' => hUntouched s' (List.mem_cons_of_mem _ hs')) hRest

/-- From the claim to the return of the error, and on. -/
theorem failed_run {stage : Stage} {e : FacadeError} (hDrawn : h.Drawn) (hDrawn' : g.Drawn)
    (hTraced : h.Traced c) (hServes : (h.facade c.facade).Serves c.client c.topic c.ticket)
    (hBeside : h.Beside c.call c.gap c.own g) (hCall : h.call? c.call = some (c.pending stage))
    (hBare : (c.pending stage).call.handle? = none) {steps : List (Step H)}
    (hUntouched : ∀ s ∈ steps, ¬s.Touches c.facade c.client c.topic)
    (hFailed : .returned c.call (.error e) ∈ (h.run steps).2) :
    (∃ cause, e = .backend cause) ∧
      FailsIn c.call c.gap e (h.run steps) (g.run (steps.filterMap (Step.without c.call))) := by
  induction steps generalizing h g stage with
  | nil => cases hFailed
  | cons s rest ih =>
    have hOnward := onward_step hDrawn.numbered s
    have hLater := hDrawn.onward hOnward
    have hTraced' := hTraced.onward hOnward
    have hRest : ∀ s' ∈ rest, ¬s'.Touches c.facade c.client c.topic :=
      fun s' hs' => hUntouched s' (List.mem_cons_of_mem _ hs')
    cases hWithout : s.without c.call with
    | none =>
      obtain ⟨answer, rfl⟩ := Step.without_eq_none_iff.mp hWithout
      rw [List.filterMap_cons_none hWithout]
      rcases bare_step hCall hBare answer with
        ⟨stage', hBare', hStep⟩ | ⟨handle, broker, hStep⟩ | ⟨cause, rfl⟩
      · rw [hStep] at hLater hTraced'
        have hCall' := call?_setCall_self rfl hCall (c.pending stage').call
        have hBeside' : (h.setCall c.call (c.pending stage').call).Beside c.call c.gap c.own g :=
          hBeside.own_step rfl rfl hBeside.facade rfl fun m hOther =>
            (call?_setCall _ _ _ _).trans (if_neg hOther)
        rw [run, hStep] at hFailed ⊢
        exact ih hLater hDrawn' hTraced' hServes hBeside' hCall' hBare' hRest hFailed
      · rw [hStep] at hLater hTraced'
        rw [run, hStep] at hFailed
        exact (not_failed_of_granted hLater hTraced' hServes
          (call?_setCall_self (g := { h with broker }) rfl hCall _) hRest hFailed).elim
      · have hStep := step_of_refused answer hCall
        have hBeside' := hBeside.refused hTraced.present (.error (.backend cause))
        rw [hStep] at hLater
        rw [run, hStep] at hFailed ⊢
        have hAlike := hBeside'.run hLater hDrawn' ((call?_finish _ _ _ _).trans (if_pos rfl))
          fun s' hs' => Step.clear_of_clear (Step.clear_of_untouched (hRest s' hs'))
        obtain ⟨rfl, hFails⟩ := fails_now hAlike hFailed
        exact ⟨⟨cause, rfl⟩, hFails⟩
    | some s' =>
      have hOther : ∀ answer, s ≠ .proceed c.call answer := by
        rintro answer rfl
        rw [Step.without_eq_none_iff.mpr ⟨answer, rfl⟩] at hWithout
        cases hWithout
      obtain ⟨hServes', hCall', hSilent⟩ :=
        other_step hDrawn hTraced hServes hCall (hUntouched s List.mem_cons_self) hOther
      have hClear := Step.clear_of_untouched (hUntouched s List.mem_cons_self)
      obtain rfl := Step.eq_of_without hWithout
      have hAlike := hBeside.step hDrawn'.numbered (Step.clear_renumber.mp hClear)
      have hFailed' := (List.mem_append.mp hFailed).resolve_left (hSilent _)
      obtain ⟨hCause, hFails⟩ := ih hLater (hDrawn'.onward (onward_step hDrawn'.numbered s'))
        hTraced' hServes' hAlike.hub hCall' hBare hRest hFailed'
      rw [List.filterMap_cons_some hWithout]
      exact ⟨hCause, hAlike.append_fails hFails⟩

theorem claimed_run {s : Step H} {e : FacadeError} (hDrawn : h.Drawn)
    (hClaim : h.claim? s = some c) (hPresent : c.facade < h.facades.length)
    {steps : List (Step H)} (hUntouched : ∀ s ∈ steps, ¬s.Touches c.facade c.client c.topic)
    (hFailed : .returned c.call (.error e) ∈ (h.run (s :: steps)).2) :
    (∃ cause, e = .backend cause) ∧ FailsIn c.call c.gap e (h.run (s :: steps))
      (h.run (steps.filterMap (Step.without c.call))) := by
  obtain ⟨hBeside, hCall, hReports⟩ := beside_claim hDrawn hClaim hPresent
  obtain ⟨hTraced, hHolds, hActive, -⟩ := traced_claim hDrawn hClaim hPresent
  have hRun : h.run (s :: steps) = (h.step s).1.run steps := by
    simp only [run, hReports, List.nil_append]
  rw [hRun] at hFailed ⊢
  exact failed_run (hDrawn.onward (onward_step hDrawn.numbered s)) hDrawn hTraced
    ⟨hHolds, hActive⟩ hBeside hCall rfl hUntouched hFailed

/-! ## The call is refused at once -/

theorem declined_run {i : Nat} {client topic : String} {handler : H} {e e' : FacadeError}
    (hDrawn : h.Drawn) (hReserve : (h.facade i).reserve client topic handler = .error e')
    {steps : List (Step H)} (hFailed : .returned h.nextCall (.error e) ∈
      (h.run (.subscribe i client topic handler :: steps)).2) :
    e = e' ∧ FailsIn h.nextCall (fun _ => none) e
      (h.run (.subscribe i client topic handler :: steps))
      (h.run (steps.filterMap (Step.without h.nextCall))) := by
  have hStep : h.step (.subscribe i client topic handler) = h.immediate (.error e') := by
    simp only [step, beginSubscribe, hReserve]
  have hLater := hDrawn.onward (onward_step hDrawn.numbered (.subscribe i client topic handler))
  rw [hStep] at hLater
  have hBeside : (h.immediate (.error e')).1.Beside h.nextCall (fun _ => none)
      (fun _ _ _ => none) h :=
    beside_of_drawn hDrawn (fun _ _ hGap => by cases hGap) rfl rfl (fun i => .refl _) rfl
      fun _ _ => rfl
  have hAlike := hBeside.run hLater hDrawn hDrawn.numbered.fresh
    fun s (_ : s ∈ steps) => Step.clear_of_no_gap s
  rw [run, hStep] at hFailed ⊢
  exact fails_now hAlike hFailed

/-! ## What the registries hold -/

theorem pruned_step (hPruned : ∀ i, (h.facade i).registry.Pruned) (s : Step H) (i : Nat) :
    ((h.step s).1.facade i).registry.Pruned := by
  have hSet : ∀ {j : Nat} {f : Facade H}, f.registry.Pruned →
      ((h.setFacade j f).facade i).registry.Pruned := by
    intro j f hNew
    rw [facade_setFacade]
    split
    · exact hNew
    · exact hPruned i
  have hSame : ∀ {g : Hub H}, g.facades = h.facades → (g.facade i).registry.Pruned := by
    intro g hFacades
    rw [facade_congr hFacades]
    exact hPruned i
  have hMove := move_step h s
  generalize (h.step s).1 = h' at hMove
  generalize (h.step s).2 = reports at hMove
  cases hMove with
  | reserved hReserve => exact hSet ((hPruned _).reserve (Facade.reserve_eq_ok hReserve).1)
  | removed hRemove => exact hSet ((hPruned _).remove (Facade.remove_eq_ok hRemove).1)
  | drained j =>
    refine hSet (j := j) ?_
    rw [Facade.registry_drain]
    exact Registry.pruned_empty _
  | discarded hCall => exact hSet ((hPruned _).discard _ _ _)
  | attached hCall hAttach => exact hSet ((hPruned _).attach (Facade.attach_eq_true hAttach).1)
  | detached hCall hAttach =>
    obtain ⟨-, rfl⟩ := Facade.attach_eq_false hAttach
    exact hSet (hPruned _)
  | answered hCall => exact hSame (grant_same h _ _ _ _ _).1
  | returned hCall => exact hSame (onward_release h _ _ _).1
  | released hCall hHandle => exact hSame (onward_release h _ _ _).1
  | _ => exact hPruned i

theorem pruned_run (hDrawn : h.Drawn) (hPruned : ∀ i, (h.facade i).registry.Pruned)
    (steps : List (Step H)) (i : Nat) : ((h.run steps).1.facade i).registry.Pruned :=
  run_induction (P := fun h => ∀ i, (h.facade i).registry.Pruned) hDrawn hPruned
    (fun _ s _ _ hPruned => pruned_step hPruned s) steps i

/-- A pair that nobody has stays free until somebody asks for it. -/
theorem free_step {s : Step H} {i : Nat} {client topic : String} (hDrawn : h.Drawn)
    (hPresent : i < h.facades.length) (hFree : h.pair? i topic client = none)
    (hUntouched : ¬s.Touches i client topic) : (h.step s).1.pair? i topic client = none := by
  cases hPair : (h.step s).1.pair? i topic client with
  | none => rfl
  | some sub =>
    have hOnward := onward_step hDrawn.numbered s
    rcases (hOnward.facade i).pair topic client sub hPair with ⟨sub', hOld, -⟩ | ⟨hNew, hDrawn'⟩
    · rw [pair?, hOld] at hFree
      cases hFree
    · rcases nextTicket_step h s hPresent with hSame | ⟨c, hClaim, rfl, hTicket, hNext⟩
      · exact (Nat.not_lt_of_le hNew (Nat.lt_of_lt_of_eq hDrawn' hSame)).elim
      · have hUpper : sub.ticket < h.nextTicket c.facade + 1 := Nat.lt_of_lt_of_eq hDrawn' hNext
        have hLower : h.nextTicket c.facade ≤ sub.ticket := hNew
        have hOwn : sub.ticket = c.ticket := by omega
        have hTraced := (traced_claim hDrawn hClaim hPresent).1
        obtain ⟨rfl, rfl, -⟩ := hTraced.pair topic client sub hPair hOwn
        rw [(claim?_eq_some hClaim).1] at hUntouched
        exact (hUntouched ⟨rfl, rfl, rfl⟩).elim

theorem free_run {steps : List (Step H)} {i : Nat} {client topic : String} (hDrawn : h.Drawn)
    (hPresent : i < h.facades.length) (hFree : h.pair? i topic client = none)
    (hUntouched : ∀ s ∈ steps, ¬s.Touches i client topic) :
    (h.run steps).1.pair? i topic client = none := by
  induction steps generalizing h with
  | nil => exact hFree
  | cons s rest ih =>
    have hOnward := onward_step hDrawn.numbered s
    exact ih (hDrawn.onward hOnward) (hOnward.length.symm ▸ hPresent)
      (free_step hDrawn hPresent hFree (hUntouched s List.mem_cons_self))
      fun s' hs' => hUntouched s' (List.mem_cons_of_mem _ hs')

/-! ## Nothing is left -/

/-- A subscribe call made in any state fails, and no other call asks for its pair or closes the
facade: then all is as the other calls alone would have left it. Only a call that the backend
fails has used up a ticket; nothing is told to anybody under this ticket, and the pair is free. -/
theorem failed_subscribe_undone (groups : List (Option String)) (before : List (Step H))
    (hReached : ((opened groups).run before).1 = h) {i : Nat} (hPresent : i < groups.length)
    {client topic : String} {handler : H} {steps : List (Step H)}
    (hUntouched : ∀ s ∈ steps, ¬s.Touches i client topic) {e : FacadeError}
    (hFailed : .returned h.nextCall (.error e) ∈
      (h.run (.subscribe i client topic handler :: steps)).2) :
    ((e = .emptyTopic ∨ e = .emptyId ∨ e = .alreadySubscribed) ∧
        Undone i 0 (h.run (.subscribe i client topic handler :: steps))
          (h.run (steps.filterMap (Step.without h.nextCall)))) ∨
      (∃ cause, e = .backend cause) ∧
        Undone i 1 (h.run (.subscribe i client topic handler :: steps))
          (h.run (steps.filterMap (Step.without h.nextCall))) ∧
        (∀ report ∈ (h.run (.subscribe i client topic handler :: steps)).2,
          ¬report.Bears i (h.nextTicket i)) ∧
        ∀ handler', ∃ ticket f,
          ((h.run (.subscribe i client topic handler :: steps)).1.facade i).reserve client topic
            handler' = .ok (ticket, f) := by
  have hOpened : (opened groups : Hub H).Drawn := drawn_opened groups
  have hDrawn : h.Drawn := hReached ▸ drawn_run hOpened before
  have hLength : i < h.facades.length := by
    rwa [← hReached, length_run _ hOpened, length_opened]
  have hPruned : ∀ i, (h.facade i).registry.Pruned := by
    rw [← hReached]
    refine pruned_run hOpened (fun i => ?_) before
    obtain ⟨group, hFacade⟩ := facade_opened (H := H) groups i
    rw [hFacade]
    exact Registry.pruned_empty 0
  have hPruned' := fun steps => pruned_run hDrawn hPruned steps i
  cases hReserve : (h.facade i).reserve client topic handler with
  | error e' =>
    obtain ⟨rfl, hFails⟩ := declined_run hDrawn hReserve hFailed
    exact .inl ⟨Facade.reserve_eq_error hReserve,
      hFails.undone (fun _ _ => rfl) rfl (hPruned' _) (hPruned' _)⟩
  | ok reserved =>
    have hFree := (Registry.reserve?_eq_some (Facade.reserve_eq_ok hReserve).1).2.2.1
    obtain ⟨c, hClaim⟩ : ∃ c, h.claim? (.subscribe i client topic handler) = some c :=
      ⟨_, by simp only [claim?, hReserve]; rfl⟩
    obtain ⟨hStep, hNumber, -⟩ := claim?_eq_some hClaim
    cases hStep
    have hTicket := ticket_of_claim? hClaim
    have hNames := (traced_claim hDrawn hClaim hLength).1.names
    rw [← hNumber] at hFailed ⊢
    rw [← hTicket]
    obtain ⟨hCause, hFails⟩ := claimed_run hDrawn hClaim hLength hUntouched hFailed
    have hFacade := hFails.hub.facade c.facade
    refine .inr ⟨hCause, hFails.undone (fun j => Claim.gap_other) ?_ (hPruned' _) (hPruned' _),
      hFails.not_bears c.gap_self, fun handler' => ?_⟩
    · rw [c.gap_self]
      exact skip_of_le (hFacade.drawn c.ticket c.gap_self)
    · have hUntouched' : ∀ s ∈ steps.filterMap (Step.without c.call),
          ¬s.Touches c.facade c.client c.topic := by
        intro s hMem
        obtain ⟨s', hs', hWithout⟩ := List.mem_filterMap.mp hMem
        have hKept := hUntouched s' hs'
        rwa [Step.eq_of_without hWithout, Step.touches_renumber] at hKept
      have hNone := (hFacade.pair_none_iff rfl).mpr (free_run hDrawn hLength hFree hUntouched')
      rcases Facade.reserve_of_names _ hNames.1 hNames.2 handler' with
        ⟨hTaken, -⟩ | ⟨-, hReserved⟩
      · exact (hTaken hNone).elim
      · exact hReserved

end

/-- While the backend is asked, another client joins the topic that the call has opened, and a
call that began before goes on; then the backend fails. -/
def joinedMeanwhile : List (Step Unit) :=
  [.proceed 1 .carried, .subscribe 0 "d" "u" (), .proceed 0 .carried, .proceed 0 .carried,
    .proceed 0 .carried, .proceed 1 (.failed "busy"), .proceed 2 .carried, .proceed 1 .carried]

theorem failed_subscribe_undone_joined :
    Undone 0 1
        (((opened [none]).run [.subscribe 0 "a" "t" ()]).1.run
          (.subscribe 0 "c" "u" () :: joinedMeanwhile))
        (((opened [none]).run [.subscribe 0 "a" "t" ()]).1.run
          [.subscribe 0 "d" "u" (), .proceed 0 .carried, .proceed 0 .carried,
            .proceed 0 .carried, .proceed 1 .carried]) ∧
      ((((opened [none]).run [.subscribe 0 "a" "t" ()]).1.run
        (.subscribe 0 "c" "u" () :: joinedMeanwhile)).1.facade 0).registry.containsTopic "u" =
          true := by
  have hUntouched : ∀ s ∈ joinedMeanwhile, ¬s.Touches 0 "c" "u" := by
    simp [joinedMeanwhile, Step.Touches]
  have hFailed : .returned 1 (.error (.backend (.subscribe "u" "busy"))) ∈
      (((opened [none]).run [.subscribe 0 "a" "t" ()]).1.run
        (.subscribe 0 "c" "u" () :: joinedMeanwhile)).2 := .tail _ (.head _)
  refine ⟨?_, rfl⟩
  rcases failed_subscribe_undone [none] [.subscribe 0 "a" "t" ()] rfl (by decide) hUntouched
    hFailed with ⟨hRefused, -⟩ | ⟨-, hUndone, -⟩
  · simp at hRefused
  · exact hUndone

end Hub

end DeviceBus
