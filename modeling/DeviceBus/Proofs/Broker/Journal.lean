import DeviceBus.Broker.Run
import DeviceBus.Proofs.Broker.Mailboxes

/-! # What a run hands over

Each message goes once to every plain route that it reaches, and once to each queue
group and pattern with a member that it reaches. What a route was handed and what
still waits for it are together what it was dealt, in the order in which the
messages came. When nothing waits any more, all that was dealt has been handed over.
-/

namespace DeviceBus.Broker

variable {T : Type} {j : Journal T} {m : Posting T} {r : Route T} {broker : Broker T}

/-- The route was in the table when the message came, and its pattern selects it. -/
def Posting.reaches (m : Posting T) (r : Route T) : Bool :=
  m.broker.routes.any (fun r' => r'.id = r.id) && Subject.selects r.pattern m.subject

def Posting.targets (m : Posting T) : List Nat :=
  (m.broker.recipients m.subject).map Route.id

/-- The messages that a route is dealt, in the order in which they came. -/
def Journal.share (j : Journal T) (id : Nat) : List (Posting T) :=
  j.postings.filter fun m => id ∈ m.targets

/-- What a route has been handed so far. -/
def Journal.handedTo (j : Journal T) (id : Nat) : List (Handover T) :=
  j.handovers.filter fun h => h.route = id

structure Faithful (j : Journal T) : Prop where
  reached : j.broker.Reached
  opened_nodup : (j.opened.map Route.id).Nodup
  opened_lt : ∀ r ∈ j.opened, r.id < j.broker.nextRoute
  listed : ∀ r ∈ j.broker.routes, r ∈ j.opened
  tapped : ∀ m ∈ j.broker.mailboxes, ∃ r ∈ j.opened, r.id = m.route ∧ r.tap = m.tap
  numbered : j.postings.map Posting.number = List.range j.postings.length
  owned : ∀ m ∈ j.postings, m.broker.Owned
  known : ∀ m ∈ j.postings, ∀ r ∈ m.broker.routes, r ∈ j.opened
  attributed : ∀ h ∈ j.handovers, ∃ r ∈ j.opened, r.id = h.route ∧ r.tap = h.tap
  fifo : ∀ id, (j.handedTo id).map Handover.data ++ j.broker.waiting id =
    (j.share id).map Posting.data

/-! ## Steps -/

theorem faithful_empty : Faithful ({} : Journal T) where
  reached := .empty
  opened_nodup := List.nodup_nil
  opened_lt := List.forall_mem_nil _
  listed := List.forall_mem_nil _
  tapped := List.forall_mem_nil _
  numbered := rfl
  owned := List.forall_mem_nil _
  known := List.forall_mem_nil _
  attributed := List.forall_mem_nil _
  fifo _ := rfl

/-- The broker changes without a new route and without a message. -/
theorem Faithful.quiet (hFaithful : Faithful j) (hReached : broker.Reached)
    (hNext : j.broker.nextRoute ≤ broker.nextRoute)
    (hRoutes : ∀ r ∈ broker.routes, r ∈ j.broker.routes)
    (hMailboxes : broker.mailboxes = j.broker.mailboxes) : Faithful { j with broker } where
  reached := hReached
  opened_nodup := hFaithful.opened_nodup
  opened_lt r hr := Nat.lt_of_lt_of_le (hFaithful.opened_lt r hr) hNext
  listed r hr := hFaithful.listed r (hRoutes r hr)
  tapped := hMailboxes ▸ hFaithful.tapped
  numbered := hFaithful.numbered
  owned := hFaithful.owned
  known := hFaithful.known
  attributed := hFaithful.attributed
  fifo id := by
    have hSame : broker.waiting id = j.broker.waiting id := by rw [waiting, hMailboxes, ← waiting]
    rw [hSame]
    exact hFaithful.fifo id

theorem Faithful.opened (hFaithful : Faithful j) {c id : Nat} {pattern : String}
    {group : Option String} {tap : T}
    (hSubscribe : j.broker.subscribe c pattern group tap = .ok (id, broker)) :
    Faithful { j with
      broker
      opened := j.opened ++ [{ id, connection := c, pattern, group, tap }] } := by
  obtain ⟨-, rfl, hNext, hRoutes, -⟩ := subscribe_eq_ok hSubscribe
  have hMailboxes := mailboxes_subscribe hSubscribe
  constructor
  · exact hFaithful.reached.changed (.subscribed hSubscribe)
  · rw [List.map_append, List.nodup_append]
    refine ⟨hFaithful.opened_nodup, List.nodup_singleton _, ?_⟩
    rintro _ hOld _ hNew rfl
    obtain ⟨r, hr, hId⟩ := List.mem_map.mp hOld
    exact Nat.ne_of_lt (hFaithful.opened_lt r hr) (hId.trans (List.mem_singleton.mp hNew))
  · intro r hr
    rw [hNext]
    rcases List.mem_append.mp hr with hOld | hNew
    · exact Nat.lt_succ_of_lt (hFaithful.opened_lt r hOld)
    · rw [List.mem_singleton.mp hNew]
      exact Nat.lt_succ_self _
  · intro r hr
    rw [hRoutes] at hr
    rcases List.mem_append.mp hr with hOld | hNew
    · exact List.mem_append_left _ (hFaithful.listed r hOld)
    · exact List.mem_append_right _ hNew
  · intro m hm
    obtain ⟨r, hr, hSame⟩ := hFaithful.tapped m (hMailboxes ▸ hm)
    exact ⟨r, List.mem_append_left _ hr, hSame⟩
  · exact hFaithful.numbered
  · exact hFaithful.owned
  · intro m hm r hr
    exact List.mem_append_left _ (hFaithful.known m hm r hr)
  · intro h hh
    obtain ⟨r, hr, hSame⟩ := hFaithful.attributed h hh
    exact ⟨r, List.mem_append_left _ hr, hSame⟩
  · intro id
    have hSame : broker.waiting id = j.broker.waiting id := by rw [waiting, hMailboxes, ← waiting]
    rw [hSame]
    exact hFaithful.fifo id

theorem Faithful.posted (hFaithful : Faithful j) (subject : String) (data : Bytes) :
    Faithful (j.posted subject data (j.broker.route subject data).2) := by
  have hSame := sameRoutes_route j.broker subject data
  constructor
  · exact hFaithful.reached.changed (.routed subject data)
  · exact hFaithful.opened_nodup
  · exact hFaithful.opened_lt
  · exact hFaithful.listed
  · intro m hm
    rcases mem_mailboxes_route hm with ⟨r, hr, hRoute⟩ | ⟨m', hm', hRoute, hTap⟩
    · exact ⟨r, hFaithful.listed r (mem_recipients hr), hRoute⟩
    · obtain ⟨r, hr, hRoute', hTap'⟩ := hFaithful.tapped m' hm'
      exact ⟨r, hr, hRoute'.trans hRoute, hTap'.trans hTap⟩
  · simp only [Journal.posted, List.map_append, hFaithful.numbered, List.length_append,
      List.length_singleton, List.range_succ]
    rfl
  · refine List.forall_mem_append.mpr ⟨hFaithful.owned, List.forall_mem_singleton.mpr ?_⟩
    exact hFaithful.reached.owned
  · refine List.forall_mem_append.mpr ⟨hFaithful.known, List.forall_mem_singleton.mpr ?_⟩
    exact hFaithful.listed
  · exact hFaithful.attributed
  · intro id
    have hBefore := hFaithful.fifo id
    have hWaiting := waiting_route hFaithful.reached.owned subject data id
    simp only [Journal.posted, Journal.handedTo, Journal.share, List.filter_append,
      List.map_append] at hBefore ⊢
    rw [hWaiting, ← List.append_assoc, hBefore]
    congr 1
    rw [List.filter_singleton]
    by_cases hTarget : id ∈ (j.broker.recipients subject).map Route.id
    · simp [Posting.targets, hTarget]
    · simp [Posting.targets, hTarget]

theorem Faithful.handed (hFaithful : Faithful j) {route : Nat} {tap : T} {data : Bytes}
    (hTake : j.broker.takeFrom? route = some (tap, data, broker)) :
    Faithful { j with broker, handovers := j.handovers ++ [{ route, tap, data }] } := by
  have hStocked := hFaithful.reached.stocked
  have hSame := sameRoutes_takeFrom? hTake
  obtain ⟨before, box, after, rest, hMailboxes, hRoute, hTap, -, -, -, hLeft⟩ :=
    takeFrom?_split hStocked hTake
  have hBox := hFaithful.tapped box (by rw [hMailboxes]; simp)
  constructor
  · exact hFaithful.reached.changed (.taken hTake)
  · exact hFaithful.opened_nodup
  · rw [hSame.nextRoute]
    exact hFaithful.opened_lt
  · rw [hSame.routes]
    exact hFaithful.listed
  · have hOld := hFaithful.tapped
    rw [hMailboxes, List.forall_mem_append, List.forall_mem_cons] at hOld
    rw [hLeft]
    refine List.forall_mem_append.mpr ⟨hOld.1, List.forall_mem_append.mpr ⟨?_, hOld.2.2⟩⟩
    split
    · exact List.forall_mem_nil _
    · exact List.forall_mem_singleton.mpr hBox
  · exact hFaithful.numbered
  · exact hFaithful.owned
  · exact hFaithful.known
  · refine List.forall_mem_append.mpr ⟨hFaithful.attributed, List.forall_mem_singleton.mpr ?_⟩
    exact hRoute ▸ hTap ▸ hBox
  · intro id
    have hBefore := hFaithful.fifo id
    rw [waiting_takeFrom? hStocked hTake] at hBefore
    simp only [Journal.handedTo, Journal.share, List.filter_append, List.map_append] at hBefore ⊢
    rw [← hBefore, List.append_assoc]
    congr 2
    rw [List.filter_singleton]
    by_cases hOwn : id = route
    · simp [hOwn]
    · simp [hOwn, Ne.symm hOwn]

theorem faithful_step (hFaithful : Faithful j) (a : Act T) : Faithful (j.step a) := by
  have hReached := hFaithful.reached
  cases a with
  | connect =>
    exact hFaithful.quiet hReached.connected (Nat.le_refl _) (fun r hr => hr) rfl
  | subscribe c pattern group tap =>
    rw [Journal.step]
    split
    · exact hFaithful
    · rename_i hSubscribe
      exact hFaithful.opened hSubscribe
  | unsubscribe c id =>
    rw [Journal.step]
    split
    · exact hFaithful
    · rename_i hUnsubscribe
      obtain ⟨-, hNext, hRoutes, -⟩ := unsubscribe_eq_ok hUnsubscribe
      refine hFaithful.quiet (hReached.changed (.unsubscribed hUnsubscribe))
        (Nat.le_of_eq hNext.symm) ?_ (mailboxes_unsubscribe hUnsubscribe)
      intro r hr
      rw [hRoutes] at hr
      exact (List.mem_filter.mp hr).1
  | publish c subject data =>
    rw [Journal.step, publish]
    split
    · exact hFaithful
    · rename_i hPublish
      split at hPublish
      · cases hPublish
      · cases hPublish
        exact hFaithful.posted subject data
  | route subject data => exact hFaithful.posted subject data
  | close c =>
    refine hFaithful.quiet (hReached.changed (.closed c)) (Nat.le_of_eq (nextRoute_close _ c).symm)
      ?_ (mailboxes_close _ c)
    exact fun r hr => routes_close_subset hr
  | dispatch route =>
    rw [Journal.step]
    split
    · exact hFaithful
    · rename_i hTake
      exact hFaithful.handed hTake

theorem faithful_run (hFaithful : Faithful j) (acts : List (Act T)) : Faithful (j.run acts) := by
  induction acts generalizing j with
  | nil => exact hFaithful
  | cons a rest ih => exact ih (faithful_step hFaithful a)

end DeviceBus.Broker
