import Mathlib
import DeviceBus.Proofs.Broker.Journal

/-! # No loss and no repetition

When all mailboxes are empty, every message has been handed to each plain route that
it reached and to one member of each group and pattern with a member that it reached,
and each route has been handed its messages in the order in which they came. The
answer to a message is the number of routes that it has been handed to.
-/

namespace DeviceBus.Broker

variable {T : Type} {j : Journal T} {m : Posting T} {r : Route T}

/-- How the messages of a run have been dealt out among the routes. -/
structure DealtOut (j : Journal T) (share : Nat → List (Posting T)) : Prop where
  numbered : j.postings.map Posting.number = List.range j.postings.length
  opened_nodup : (j.opened.map Route.id).Nodup
  known : ∀ m ∈ j.postings, ∀ r ∈ m.broker.routes, r ∈ j.opened
  attributed : ∀ h ∈ j.handovers, ∃ r ∈ j.opened, r.id = h.route
  handed : ∀ r ∈ j.opened, j.handedTo r.id =
    (share r.id).map fun m => { route := r.id, tap := r.tap, data := m.data }
  plain : ∀ r ∈ j.opened, r.group = none → share r.id = j.postings.filter fun m => m.reaches r
  ordered : ∀ r ∈ j.opened, (share r.id).Sublist (j.postings.filter fun m => m.reaches r)
  grouped : ∀ key, ((members j.opened key).flatMap fun r => share r.id).Perm
    (j.postings.filter fun m =>
      Subject.selects key.2 m.subject && !(members m.broker.routes key).isEmpty)
  counted : ∀ m ∈ j.postings, m.answer =
    j.opened.countP fun r => (share r.id).any fun m' => m'.number = m.number

/-! ## Counting -/

theorem countP_mem_of_nodup {l t : List Nat} (hNodup : l.Nodup) (hNodup' : t.Nodup)
    (hSubset : ∀ a ∈ t, a ∈ l) : l.countP (fun a => a ∈ t) = t.length := by
  rw [List.countP_eq_length_filter]
  apply List.Perm.length_eq
  rw [List.perm_ext_iff_of_nodup (hNodup.filter _) hNodup']
  intro a
  rw [List.mem_filter, decide_eq_true_eq]
  exact ⟨fun ha => ha.2, fun ha => ⟨hSubset a ha, ha⟩⟩

/-- What is given to exactly one of several, and what is given to none. -/
theorem perm_flatMap_filter {α β : Type} (xs : List α) {given : α → β → Bool} {due : β → Bool}
    {ms : List β} (hOnce : ∀ m ∈ ms, (xs.countP fun x => given x m) = if due m then 1 else 0) :
    (xs.flatMap fun x => ms.filter (given x)).Perm (ms.filter due) := by
  induction ms with
  | nil => simp
  | cons m rest ih =>
    obtain ⟨hFirst, hRest⟩ := List.forall_mem_cons.mp hOnce
    have hSplit : ∀ p : β → Bool, (m :: rest).filter p =
        (if p m then [m] else []) ++ rest.filter p := by
      intro p
      rw [List.filter_cons]
      split
      · rfl
      · rfl
    -- The copies of one message, wherever they lie, are as many as the owners of one.
    have hOwn : (xs.flatMap fun x => if given x m then [m] else []) =
        if due m then [m] else [] := by
      have hReplicate : (xs.flatMap fun x => if given x m then [m] else []) =
          List.replicate (xs.countP fun x => given x m) m := by
        clear hOnce hFirst hRest ih
        induction xs with
        | nil => rfl
        | cons x others ih =>
          rw [List.flatMap_cons, ih, List.countP_cons]
          by_cases hGiven : given x m = true
          · simp [hGiven, List.replicate_succ]
          · simp [hGiven]
      rw [hReplicate, hFirst]
      split
      · rfl
      · rfl
    calc (xs.flatMap fun x => (m :: rest).filter (given x))
        = xs.flatMap fun x => (if given x m then [m] else []) ++ rest.filter (given x) := by
          simp only [hSplit]
      _ |>.Perm ((xs.flatMap fun x => if given x m then [m] else []) ++
            xs.flatMap fun x => rest.filter (given x)) :=
          (List.flatMap_append_perm xs _ _).symm
      _ |>.Perm ((if due m then [m] else []) ++ rest.filter due) := by
          rw [hOwn]
          exact (ih hRest).append_left _
      _ = (m :: rest).filter due := (hSplit due).symm

/-! ## Shares -/

theorem Faithful.same_of_id (hFaithful : Faithful j) {r' : Route T} (hr : r ∈ j.opened)
    (hr' : r' ∈ j.opened) (hSame : r.id = r'.id) : r = r' :=
  List.inj_on_of_nodup_map hFaithful.opened_nodup hr hr' hSame

section

variable (hFaithful : Faithful j) (hm : m ∈ j.postings) (hr : r ∈ j.opened)

include hFaithful hm hr

theorem mem_targets_iff : r.id ∈ m.targets ↔ r ∈ m.broker.recipients m.subject := by
  constructor
  · intro hTarget
    obtain ⟨r', hr', hSame⟩ := List.mem_map.mp hTarget
    have hOpened := hFaithful.known m hm r' (mem_recipients hr')
    rwa [hFaithful.same_of_id hr hOpened hSame.symm]
  · exact fun hRecipient => List.mem_map_of_mem hRecipient

theorem reaches_iff : m.reaches r = true ↔ r ∈ m.broker.matching m.subject := by
  rw [Posting.reaches, Bool.and_eq_true, List.any_eq_true, matching, List.mem_filter]
  apply and_congr_left'
  constructor
  · rintro ⟨r', hr', hSame⟩
    have hOpened := hFaithful.known m hm r' hr'
    rwa [hFaithful.same_of_id hr hOpened (of_decide_eq_true hSame).symm]
  · exact fun hRoute => ⟨r, hRoute, decide_eq_true rfl⟩

end

theorem Faithful.share_plain (hFaithful : Faithful j) (hr : r ∈ j.opened)
    (hPlain : r.group = none) : j.share r.id = j.postings.filter fun m => m.reaches r := by
  apply List.filter_congr
  intro m hm
  rw [Bool.eq_iff_iff, decide_eq_true_eq, mem_targets_iff hFaithful hm hr,
    mem_recipients_of_plain hPlain, reaches_iff hFaithful hm hr]

theorem Faithful.share_sublist (hFaithful : Faithful j) (hr : r ∈ j.opened) :
    (j.share r.id).Sublist (j.postings.filter fun m => m.reaches r) := by
  have hShare : j.share r.id =
      (j.postings.filter fun m => m.reaches r).filter fun m => r.id ∈ m.targets := by
    rw [List.filter_filter]
    apply List.filter_congr
    intro m hm
    rw [Bool.eq_iff_iff, Bool.and_eq_true, decide_eq_true_eq, reaches_iff hFaithful hm hr,
      mem_targets_iff hFaithful hm hr]
    exact ⟨fun h => ⟨h, mem_matching_of_recipient h⟩, fun h => h.1⟩
  rw [hShare]
  exact List.filter_sublist

theorem length_members_recipients (b : Broker T) (subject : String) (key : String × String) :
    (members (b.recipients subject) key).length =
      if Subject.selects key.2 subject && !(members b.routes key).isEmpty then 1 else 0 := by
  cases hSelects : Subject.selects key.2 subject with
  | false => simp [members_recipients_of_not_selects hSelects]
  | true =>
    by_cases hMembers : members b.routes key = []
    · have hNone : members (b.matching subject) key = [] := by
        rw [members_matching, if_pos hSelects, hMembers]
      simp [members_recipients, pick_eq_none b hNone, hMembers]
    · obtain ⟨r, -, hRecipient⟩ := exists_recipient hMembers hSelects
      simp [hRecipient, hMembers]

theorem Faithful.countP_members (hFaithful : Faithful j) (hm : m ∈ j.postings)
    (key : String × String) :
    ((members j.opened key).countP fun r => r.id ∈ m.targets) =
      if Subject.selects key.2 m.subject && !(members m.broker.routes key).isEmpty then 1
      else 0 := by
  have hTargets : ∀ r ∈ members j.opened key, r.id ∈ m.targets ↔
      r.id ∈ (members (m.broker.recipients m.subject) key).map Route.id := by
    intro r hr
    obtain ⟨hOpened, hGroup⟩ := mem_members_iff.mp hr
    constructor
    · intro hTarget
      apply List.mem_map_of_mem
      exact mem_members_iff.mpr ⟨(mem_targets_iff hFaithful hm hOpened).mp hTarget, hGroup⟩
    · intro hTarget
      obtain ⟨r', hr', hSame⟩ := List.mem_map.mp hTarget
      exact hSame ▸ List.mem_map_of_mem (mem_members_iff.mp hr').1
  have hNodup : ((members j.opened key).map Route.id).Nodup :=
    hFaithful.opened_nodup.sublist (List.filter_sublist.map _)
  have hNodup' : ((members (m.broker.recipients m.subject) key).map Route.id).Nodup :=
    (nodup_recipients (hFaithful.owned m hm) m.subject).sublist (List.filter_sublist.map _)
  have hSubset : ∀ id ∈ (members (m.broker.recipients m.subject) key).map Route.id,
      id ∈ (members j.opened key).map Route.id := by
    intro id hId
    obtain ⟨r, hr, rfl⟩ := List.mem_map.mp hId
    obtain ⟨hRecipient, hGroup⟩ := mem_members_iff.mp hr
    apply List.mem_map_of_mem
    exact mem_members_iff.mpr ⟨hFaithful.known m hm r (mem_recipients hRecipient), hGroup⟩
  calc ((members j.opened key).countP fun r => r.id ∈ m.targets)
      = (members j.opened key).countP fun r =>
          r.id ∈ (members (m.broker.recipients m.subject) key).map Route.id := by
        apply List.countP_congr
        intro r hr
        rw [decide_eq_true_eq, decide_eq_true_eq]
        exact hTargets r hr
    _ = ((members j.opened key).map Route.id).countP fun id =>
          id ∈ (members (m.broker.recipients m.subject) key).map Route.id := by
        rw [List.countP_map]
        rfl
    _ = (members (m.broker.recipients m.subject) key).length := by
        rw [countP_mem_of_nodup hNodup hNodup' hSubset, List.length_map]
    _ = _ := length_members_recipients m.broker m.subject key

theorem Faithful.answer_eq (hFaithful : Faithful j) (hm : m ∈ j.postings) :
    m.answer = j.opened.countP fun r => (j.share r.id).any fun m' => m'.number = m.number := by
  have hNumbers : (j.postings.map Posting.number).Nodup := by
    rw [hFaithful.numbered]
    exact List.nodup_range
  have hShare : ∀ r ∈ j.opened, ((j.share r.id).any fun m' => m'.number = m.number) = true ↔
      r.id ∈ m.targets := by
    intro r hr
    rw [List.any_eq_true]
    constructor
    · rintro ⟨m', hm', hNumber⟩
      obtain ⟨hPosted, hTarget⟩ := List.mem_filter.mp hm'
      have hSame := List.inj_on_of_nodup_map hNumbers hPosted hm (of_decide_eq_true hNumber)
      exact hSame ▸ of_decide_eq_true hTarget
    · intro hTarget
      exact ⟨m, List.mem_filter.mpr ⟨hm, decide_eq_true hTarget⟩, decide_eq_true rfl⟩
  have hSubset : ∀ id ∈ m.targets, id ∈ j.opened.map Route.id := by
    intro id hId
    obtain ⟨r, hr, rfl⟩ := List.mem_map.mp hId
    exact List.mem_map_of_mem (hFaithful.known m hm r (mem_recipients hr))
  calc m.answer
      = m.targets.length := (List.length_map (f := Route.id)).symm
    _ = (j.opened.map Route.id).countP fun id => id ∈ m.targets :=
        (countP_mem_of_nodup hFaithful.opened_nodup
          (nodup_recipients (hFaithful.owned m hm) m.subject) hSubset).symm
    _ = j.opened.countP fun r => r.id ∈ m.targets := by
        rw [List.countP_map]
        rfl
    _ = _ := by
        apply List.countP_congr
        intro r hr
        rw [decide_eq_true_eq]
        exact (hShare r hr).symm

/-! ## Runs to the end -/

theorem Faithful.handedTo (hFaithful : Faithful j) (hEmpty : j.broker.mailboxes = [])
    (hr : r ∈ j.opened) : j.handedTo r.id =
      (j.share r.id).map fun m => { route := r.id, tap := r.tap, data := m.data } := by
  have hData := hFaithful.fifo r.id
  have hNone : j.broker.waiting r.id = [] := by
    rw [waiting, hEmpty]
    rfl
  rw [hNone, List.append_nil] at hData
  have hOwn : ∀ h ∈ j.handedTo r.id, h = { route := r.id, tap := r.tap, data := h.data } := by
    intro h hh
    obtain ⟨hHanded, hRoute⟩ := List.mem_filter.mp hh
    obtain ⟨r', hr', hId, hTap⟩ := hFaithful.attributed h hHanded
    have hRoute := of_decide_eq_true hRoute
    rw [← hFaithful.same_of_id hr' hr (hId.trans hRoute), hTap, hId]
  calc j.handedTo r.id
      = ((j.handedTo r.id).map Handover.data).map fun data =>
          { route := r.id, tap := r.tap, data } := by
        rw [List.map_map]
        exact (List.map_id _).symm.trans (List.map_congr_left hOwn)
    _ = (j.share r.id).map fun m => { route := r.id, tap := r.tap, data := m.data } := by
        rw [hData, List.map_map]
        rfl

theorem Faithful.dealtOut (hFaithful : Faithful j) (hEmpty : j.broker.mailboxes = []) :
    DealtOut j j.share where
  numbered := hFaithful.numbered
  opened_nodup := hFaithful.opened_nodup
  known := hFaithful.known
  attributed h hh := by
    obtain ⟨r, hr, hId, -⟩ := hFaithful.attributed h hh
    exact ⟨r, hr, hId⟩
  handed _ hr := hFaithful.handedTo hEmpty hr
  plain _ hr hPlain := hFaithful.share_plain hr hPlain
  ordered _ hr := hFaithful.share_sublist hr
  grouped key := perm_flatMap_filter _ fun _ hm => hFaithful.countP_members hm key
  counted _ hm := hFaithful.answer_eq hm

/-- Dispatching alone empties all mailboxes. -/
theorem Faithful.exists_emptied (hFaithful : Faithful j) :
    ∃ routes : List Nat, (j.run (routes.map .dispatch)).broker.mailboxes = [] := by
  -- Every dispatch takes one message from the backlog.
  induction hBacklog : j.broker.backlog generalizing j with
  | zero =>
    refine ⟨[], ?_⟩
    rw [Journal.run, List.map_nil, List.foldl_nil, List.eq_nil_iff_forall_not_mem]
    intro box hBox
    rw [backlog, List.length_eq_zero_iff, List.flatMap_eq_nil_iff] at hBacklog
    exact hFaithful.reached.stocked.waiting_ne_nil box hBox (hBacklog box hBox)
  | succ n ih =>
    have hStocked := hFaithful.reached.stocked
    have hSome : j.broker.mailboxes ≠ [] := by
      intro hEmpty
      rw [backlog, hEmpty] at hBacklog
      cases hBacklog
    obtain ⟨box, hBox⟩ := List.exists_mem_of_ne_nil _ hSome
    have hTakes : j.broker.takeFrom? box.route ≠ none := by
      rw [ne_eq, takeFrom?_eq_none_iff hStocked]
      exact hStocked.waitingIn_ne_nil hBox
    obtain ⟨⟨tap, data, broker⟩, hTake⟩ := Option.ne_none_iff_exists'.mp hTakes
    have hStep : j.step (.dispatch box.route) =
        { j with broker, handovers := j.handovers ++ [{ route := box.route, tap, data }] } := by
      rw [Journal.step, hTake]
    have hLess : (j.step (.dispatch box.route)).broker.backlog = n := by
      have hOne := (stocked_takeFrom? hStocked hTake).2
      rw [hStep]
      dsimp only
      omega
    obtain ⟨routes, hEmptied⟩ := ih (faithful_step hFaithful _) hLess
    exact ⟨box.route :: routes, hEmptied⟩

/-- Every run can be brought to its end by dispatching what waits. When nothing waits,
no message has been lost and none has been handed over twice. -/
theorem dealt_out (acts : List (Act T)) :
    (∃ routes : List Nat,
        (({} : Journal T).run (acts ++ routes.map .dispatch)).broker.mailboxes = []) ∧
      ((({} : Journal T).run acts).broker.mailboxes = [] →
        ∃ share, DealtOut (({} : Journal T).run acts) share) := by
  have hFaithful := faithful_run faithful_empty acts
  constructor
  · obtain ⟨routes, hEmptied⟩ := hFaithful.exists_emptied
    refine ⟨routes, ?_⟩
    rwa [Journal.run, List.foldl_append]
  · exact fun hEmpty => ⟨_, hFaithful.dealtOut hEmpty⟩

/-- A plain route and two members of a group on two connections. The plain route is
taken back and the second connection closed while messages wait. -/
def outlived : List (Act String) :=
  [.connect, .connect, .subscribe 0 "a.*" none "x", .subscribe 0 "a.>" (some "q") "y",
    .subscribe 1 "a.>" (some "q") "z", .route "a.b" [1], .route "a.b" [2], .unsubscribe 0 0,
    .dispatch 2, .publish 0 "a.c" [3], .close 1, .publish 1 "a.c" [4], .route "a.b.c" [4],
    .dispatch 1, .dispatch 0, .dispatch 1, .dispatch 0, .dispatch 1]

theorem dealt_out_outlived :
    ((({} : Journal String).run outlived).handovers.map fun h => (h.tap, h.data)) =
        [("z", [2]), ("y", [1]), ("x", [1]), ("y", [3]), ("x", [2]), ("y", [4])] ∧
      (({} : Journal String).run outlived).broker.mailboxes = [] ∧
      ∃ share, DealtOut (({} : Journal String).run outlived) share := by
  have hHanded : (({} : Journal String).run outlived).handovers.map (fun h => (h.tap, h.data)) =
      [("z", [2]), ("y", [1]), ("x", [1]), ("y", [3]), ("x", [2]), ("y", [4])] := by cbv
  have hEmpty : (({} : Journal String).run outlived).broker.mailboxes = [] := by cbv
  exact ⟨hHanded, hEmpty, (dealt_out outlived).2 hEmpty⟩

end DeviceBus.Broker
