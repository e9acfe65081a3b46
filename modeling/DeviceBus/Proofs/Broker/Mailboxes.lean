import DeviceBus.Proofs.Broker.Recipients

/-! # What waits for a route

A message is put at the end of what waits for each of its recipients, and a
dispatch takes what has waited longest. What waits for other routes stays as it
is, and so do all mailboxes while routes are opened and taken back.
-/

namespace DeviceBus.Broker

variable {T : Type} {b b' : Broker T} {mailboxes : List (Mailbox T)} {r : Route T} {data : Bytes}
  {id : Nat}

def waitingIn (mailboxes : List (Mailbox T)) (id : Nat) : List Bytes :=
  ((mailboxes.find? fun m => m.route = id).map Mailbox.waiting).getD []

/-- The messages on their way to a route, the oldest first. -/
def waiting (b : Broker T) (id : Nat) : List Bytes :=
  waitingIn b.mailboxes id

/-- One mailbox for each route at most, and none of them empty. -/
structure Stocked (mailboxes : List (Mailbox T)) : Prop where
  nodup : (mailboxes.map Mailbox.route).Nodup
  waiting_ne_nil : ∀ m ∈ mailboxes, m.waiting ≠ []

theorem Stocked.waitingIn_ne_nil (hStocked : Stocked mailboxes) {m : Mailbox T}
    (hm : m ∈ mailboxes) : waitingIn mailboxes m.route ≠ [] := by
  rw [waitingIn]
  cases hFind : mailboxes.find? fun m' => m'.route = m.route with
  | none => exact (List.find?_eq_none.mp hFind m hm (decide_eq_true rfl)).elim
  | some m' => exact hStocked.waiting_ne_nil m' (List.mem_of_find?_eq_some hFind)

theorem find?_map_mailboxes {f : Mailbox T → Mailbox T} (hRoute : ∀ m, (f m).route = m.route)
    (mailboxes : List (Mailbox T)) (id : Nat) :
    (mailboxes.map f).find? (fun m => m.route = id) =
      (mailboxes.find? fun m => m.route = id).map f := by
  rw [List.find?_map]
  congr 2
  funext m
  exact congrArg (fun route => decide (route = id)) (hRoute m)

/-! ## Posting -/

theorem waitingIn_post (mailboxes : List (Mailbox T)) (r : Route T) (data : Bytes) (id : Nat) :
    waitingIn (post mailboxes r data) id =
      waitingIn mailboxes id ++ if r.id = id then [data] else [] := by
  unfold post
  split
  · rename_i hAny
    rw [waitingIn, find?_map_mailboxes, waitingIn]
    · cases hFind : mailboxes.find? fun m => m.route = id with
      | none =>
        obtain ⟨m, hm, hRoute⟩ := List.any_eq_true.mp hAny
        have hOther := List.find?_eq_none.mp hFind m hm
        rw [decide_eq_true_eq] at hRoute hOther
        rw [if_neg fun hSame => hOther (hRoute.trans hSame)]
        rfl
      | some m =>
        have hRoute := List.find?_some hFind
        rw [decide_eq_true_eq] at hRoute
        by_cases hSame : r.id = id
        · simp [hRoute, hSame]
        · simp [hRoute, hSame, Ne.symm hSame]
    · intro m
      split
      · rfl
      · rfl
  · rename_i hNone
    rw [waitingIn, waitingIn, List.find?_append]
    by_cases hSame : r.id = id
    · have hFind : mailboxes.find? (fun m => m.route = id) = none := by
        rw [List.find?_eq_none]
        intro m hm hRoute
        exact hNone (List.any_eq_true.mpr ⟨m, hm, hSame ▸ hRoute⟩)
      simp [hFind, hSame]
    · simp [hSame]

theorem waitingIn_foldl_post {targets : List (Route T)} (hNodup : (targets.map Route.id).Nodup)
    (mailboxes : List (Mailbox T)) (data : Bytes) (id : Nat) :
    waitingIn (targets.foldl (fun ms r => post ms r data) mailboxes) id =
      waitingIn mailboxes id ++ if id ∈ targets.map Route.id then [data] else [] := by
  induction targets generalizing mailboxes with
  | nil => simp
  | cons r rest ih =>
    rw [List.map_cons, List.nodup_cons] at hNodup
    rw [List.foldl_cons, ih hNodup.2, waitingIn_post, List.append_assoc, List.map_cons]
    by_cases hSame : r.id = id
    · subst hSame
      simp [hNodup.1]
    · simp [hSame, Ne.symm hSame]

theorem waiting_route (hOwned : b.Owned) (subject : String) (data : Bytes) (id : Nat) :
    (b.route subject data).2.waiting id =
      b.waiting id ++ if id ∈ (b.recipients subject).map Route.id then [data] else [] :=
  waitingIn_foldl_post (nodup_recipients hOwned subject) b.mailboxes data id

theorem stocked_post (hStocked : Stocked mailboxes) (r : Route T) (data : Bytes) :
    Stocked (post mailboxes r data) := by
  unfold post
  split
  · constructor
    · have hRoutes : (mailboxes.map fun m => if m.route = r.id then
          { m with waiting := m.waiting ++ [data] } else m).map Mailbox.route =
            mailboxes.map Mailbox.route := by
        rw [List.map_map]
        apply List.map_congr_left
        intro m hm
        dsimp only [Function.comp]
        split
        · rfl
        · rfl
      exact hRoutes ▸ hStocked.nodup
    · intro m hm
      obtain ⟨m', hm', rfl⟩ := List.mem_map.mp hm
      split
      · exact List.append_ne_nil_of_right_ne_nil _ (List.cons_ne_nil _ _)
      · exact hStocked.waiting_ne_nil m' hm'
  · rename_i hNone
    constructor
    · rw [List.map_append, List.nodup_append]
      refine ⟨hStocked.nodup, List.nodup_singleton _, ?_⟩
      rintro _ hOld _ hNew rfl
      obtain ⟨m, hm, hRoute⟩ := List.mem_map.mp hOld
      rw [List.map_singleton, List.mem_singleton] at hNew
      exact hNone (List.any_eq_true.mpr ⟨m, hm, decide_eq_true (hRoute.trans hNew)⟩)
    · intro m hm
      rcases List.mem_append.mp hm with hOld | hNew
      · exact hStocked.waiting_ne_nil m hOld
      · rw [List.mem_singleton.mp hNew]
        exact List.cons_ne_nil _ _

theorem stocked_foldl_post (hStocked : Stocked mailboxes) (targets : List (Route T))
    (data : Bytes) : Stocked (targets.foldl (fun ms r => post ms r data) mailboxes) := by
  induction targets generalizing mailboxes with
  | nil => exact hStocked
  | cons r rest ih => exact ih (stocked_post hStocked r data)

/-! ## Dispatching -/

theorem takeFrom?_eq_none_iff (hStocked : Stocked b.mailboxes) :
    b.takeFrom? id = none ↔ b.waiting id = [] := by
  rw [takeFrom?, waiting, waitingIn]
  cases hFind : b.mailboxes.find? fun m => m.route = id with
  | none => simp
  | some m =>
    have hWaiting := hStocked.waiting_ne_nil m (List.mem_of_find?_eq_some hFind)
    cases hOldest : m.waiting with
    | nil => exact (hWaiting hOldest).elim
    | cons data rest => simp [hOldest]

/-- The mailbox that a dispatch takes from, between those of other routes. -/
theorem takeFrom?_split (hStocked : Stocked b.mailboxes) {tap : T}
    (hTake : b.takeFrom? id = some (tap, data, b')) :
    ∃ before m after rest, b.mailboxes = before ++ m :: after ∧ m.route = id ∧ m.tap = tap ∧
      m.waiting = data :: rest ∧ (∀ m' ∈ before, m'.route ≠ id) ∧ (∀ m' ∈ after, m'.route ≠ id) ∧
      b'.mailboxes = before ++
        ((if rest = [] then [] else [{ m with waiting := rest }]) ++ after) := by
  unfold takeFrom? at hTake
  split at hTake
  · cases hTake
  · rename_i m hFind
    obtain ⟨hRoute, before, after, hSplit, hNotBefore⟩ := List.find?_eq_some_iff_append.mp hFind
    rw [decide_eq_true_eq] at hRoute
    have hNodup := hStocked.nodup
    rw [hSplit, List.map_append, List.map_cons, List.nodup_append, List.nodup_cons] at hNodup
    have hBefore : ∀ m' ∈ before, m'.route ≠ id := fun m' hm' => by simpa using hNotBefore m' hm'
    have hAfter : ∀ m' ∈ after, m'.route ≠ id := by
      intro m' hm' hSame
      exact hNodup.2.1.1 (hRoute.trans hSame.symm ▸ List.mem_map_of_mem hm')
    split at hTake
    · cases hTake
    · rename_i rest hOldest
      cases hTake
      refine ⟨before, m, after, rest, hSplit, hRoute, rfl, hOldest, hBefore, hAfter, ?_⟩
      rw [hSplit]
      cases rest with
      | nil =>
        rw [List.isEmpty_nil, if_pos rfl, if_pos rfl, List.filter_append,
          List.filter_cons_of_neg (by simpa using hRoute),
          List.filter_eq_self.mpr fun m' hm' => decide_eq_true (hBefore m' hm'),
          List.filter_eq_self.mpr fun m' hm' => decide_eq_true (hAfter m' hm'), List.nil_append]
      | cons next rest =>
        have hKept : ∀ ms : List (Mailbox T), (∀ m' ∈ ms, m'.route ≠ id) → ms.map (fun m =>
            if m.route = id then { m with waiting := next :: rest } else m) = ms := by
          intro ms hOther
          rw [List.map_congr_left fun m' hm' => if_neg (hOther m' hm'), List.map_id']
        rw [List.isEmpty_cons, if_neg Bool.false_ne_true, if_neg (List.cons_ne_nil _ _),
          List.map_append, List.map_cons, hKept before hBefore, hKept after hAfter, if_pos hRoute]
        rfl

theorem waitingIn_skip {skipped : List (Mailbox T)} (hSkipped : ∀ m ∈ skipped, m.route ≠ id)
    (before after : List (Mailbox T)) :
    waitingIn (before ++ (skipped ++ after)) id = waitingIn (before ++ after) id := by
  have hNone : skipped.find? (fun m => m.route = id) = none := by
    rw [List.find?_eq_none]
    intro m hm hRoute
    exact hSkipped m hm (of_decide_eq_true hRoute)
  simp only [waitingIn, List.find?_append, hNone, Option.none_or]

theorem waiting_takeFrom? (hStocked : Stocked b.mailboxes) {tap : T}
    (hTake : b.takeFrom? id = some (tap, data, b')) (other : Nat) :
    b.waiting other = (if other = id then [data] else []) ++ b'.waiting other := by
  obtain ⟨before, m, after, rest, hMailboxes, hRoute, -, hOldest, hBefore, hAfter, hLeft⟩ :=
    takeFrom?_split hStocked hTake
  rw [waiting, waiting, hMailboxes, hLeft]
  by_cases hSame : other = id
  · subst hSame
    have hOnly := waitingIn_skip hAfter
    have hFirst := waitingIn_skip hBefore []
    simp only [List.nil_append] at hFirst
    rw [if_pos rfl, hFirst, hFirst]
    have hEnd : waitingIn after other = [] := by
      have hNone := hOnly [] []
      rwa [List.nil_append, List.append_nil, List.append_nil] at hNone
    split
    · rename_i hLast
      rw [List.nil_append, hEnd]
      simp [waitingIn, hRoute, hOldest, hLast]
    · simp [waitingIn, hRoute, hOldest]
  · rw [if_neg hSame, List.nil_append]
    have hOwn : ∀ m' ∈ [m], m'.route ≠ other := by
      intro m' hm'
      rw [List.mem_singleton.mp hm', hRoute]
      exact Ne.symm hSame
    have hBox : ∀ m' ∈ (if rest = [] then [] else [{ m with waiting := rest }]),
        m'.route ≠ other := by
      split
      · exact List.forall_mem_nil _
      · exact List.forall_mem_singleton.mpr (hOwn m (List.mem_singleton_self m))
    rw [waitingIn_skip hBox]
    exact waitingIn_skip hOwn before after

/-- A dispatch takes one message off and leaves no mailbox empty. -/
theorem stocked_takeFrom? (hStocked : Stocked b.mailboxes) {tap : T}
    (hTake : b.takeFrom? id = some (tap, data, b')) :
    Stocked b'.mailboxes ∧ b.backlog = b'.backlog + 1 := by
  obtain ⟨before, m, after, rest, hMailboxes, -, -, hOldest, -, -, hLeft⟩ :=
    takeFrom?_split hStocked hTake
  obtain ⟨hNodup, hFull⟩ := hStocked
  rw [hMailboxes] at hNodup hFull
  rw [List.forall_mem_append, List.forall_mem_cons] at hFull
  rw [backlog, backlog, hMailboxes, hLeft]
  cases rest with
  | nil =>
    refine ⟨⟨?_, List.forall_mem_append.mpr ⟨hFull.1, hFull.2.2⟩⟩, ?_⟩
    · exact hNodup.sublist (((List.sublist_cons_self m after).append_left before).map _)
    · simp [hOldest]
      omega
  | cons next rest =>
    refine ⟨⟨?_, ?_⟩, ?_⟩
    · simpa using hNodup
    · refine List.forall_mem_append.mpr ⟨hFull.1, ?_⟩
      exact List.forall_mem_cons.mpr ⟨List.cons_ne_nil _ _, hFull.2.2⟩
    · simp [hOldest]
      omega

theorem Reached.stocked (hReached : b.Reached) : Stocked b.mailboxes := by
  induction hReached with
  | empty => exact ⟨List.nodup_nil, List.forall_mem_nil _⟩
  | connected hReached ih => exact ih
  | @changed b b' hReached hChange ih =>
    cases hChange with
    | same => exact ih
    | routed subject data => exact stocked_foldl_post ih (b.recipients subject) data
    | taken hTake => exact (stocked_takeFrom? ih hTake).1
    | subscribed hSubscribe => exact mailboxes_subscribe hSubscribe ▸ ih
    | unsubscribed hUnsubscribe => exact mailboxes_unsubscribe hUnsubscribe ▸ ih
    | closed c => exact mailboxes_close b c ▸ ih

end DeviceBus.Broker
