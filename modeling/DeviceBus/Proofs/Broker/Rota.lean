import DeviceBus.Proofs.Broker.Dealt
import DeviceBus.Proofs.Broker.Ownership
import DeviceBus.Proofs.Rota
import DeviceBus.Proofs.Table

/-! # A queue group as a rota

The routes of one group with one pattern are the staff of a rota: whatever else happens in
the broker, each message that the pattern selects goes to the member whose turn it is.
-/

namespace DeviceBus.Broker

variable {T : Type} {b : Broker T} {j j' : Journal T} {m : Posting T} {route : Route T}
  {routes : List (Route T)} {key : String × String} {r : Rota}

namespace Journal

/-- Members of a group are known by the order in which they came. -/
def number (j : Journal T) (key : String × String) (route : Route T) : Nat :=
  ((members j.opened key).map Route.id).idxOf route.id

def numbers (j : Journal T) (key : String × String) (routes : List (Route T)) : List Nat :=
  (members routes key).map (j.number key)

def leaving (j : Journal T) (key : String × String) (gone : Route T → Bool) : List Rota.Event :=
  (j.numbers key (j.broker.routes.filter gone)).map .leave

/-- What an act means to the group. What is refused and what concerns others means nothing. -/
def events (j : Journal T) (key : String × String) : Act T → List Rota.Event
  | .subscribe c pattern group _ =>
      if (j.broker.connection c).closed = false ∧ group = some key.1 ∧ pattern = key.2 then [.join]
      else []
  | .unsubscribe c id => j.leaving key fun route => route.id = id && route.connection = c
  | .close c => j.leaving key fun route => route.connection = c
  | .publish c subject _ =>
      if (j.broker.connection c).closed = false ∧ Subject.selects key.2 subject then [.message]
      else []
  | .route subject _ => if Subject.selects key.2 subject then [.message] else []
  | .connect | .dispatch _ => []

def script (j : Journal T) (key : String × String) : List (Act T) → List Rota.Event
  | [] => []
  | a :: rest => j.events key a ++ (j.step a).script key rest

/-- Who of the group was handed each message that the pattern selects. -/
def takers (j : Journal T) (key : String × String) : List (List Nat) :=
  (j.postings.filter fun m => Subject.selects key.2 m.subject).map fun m =>
    j.numbers key (m.broker.recipients m.subject)

end Journal

structure Follows (j : Journal T) (key : String × String) (r : Rota) : Prop where
  joined : (members j.opened key).length = r.joined
  staff : j.numbers key j.broker.routes = r.staff
  turn : j.broker.turn key = r.turn

/-- The broker comes to where the events lead, and they tell who is handed the messages. -/
def Follows.On (j j' : Journal T) (key : String × String) (r : Rota) (events : List Rota.Event) :
    Prop :=
  Follows j' key (r.run events) ∧ j'.takers key = j.takers key ++ r.answers events

/-! ## Turns -/

/-- A message takes the turn of each group that has a member for it. -/
theorem turn_route (b : Broker T) (subject : String) (data : Bytes) (key : String × String) :
    (b.route subject data).2.turn key =
      if Subject.selects key.2 subject = true ∧ members b.routes key ≠ [] then b.turn key + 1
      else b.turn key := by
  have hKey : key ∈ groupKeys (b.matching subject) ↔
      Subject.selects key.2 subject = true ∧ members b.routes key ≠ [] := by
    rw [mem_groupKeys_iff, members_matching]
    split
    · rename_i hSelects
      exact (and_iff_right hSelects).symm
    · rename_i hSelects
      exact iff_of_false (fun h => h rfl) fun h => hSelects h.1
  have hCursor : (b.route subject data).2.cursors.get? key = _ :=
    Table.get?_foldl_insert (fun key => b.turn key + 1) (groupKeys (b.matching subject)) b.cursors
      key
  simp only [hKey] at hCursor
  rw [turn, hCursor]
  split
  · rfl
  · rfl

theorem turn_congr {b' : Broker T} (hCursors : b'.cursors = b.cursors) (key : String × String) :
    b'.turn key = b.turn key := by
  rw [turn, turn, hCursors]

theorem cursors_subscribe {b' : Broker T} {c id : Nat} {pattern : String} {group : Option String}
    {tap : T} (hSubscribe : b.subscribe c pattern group tap = .ok (id, b')) :
    b'.cursors = b.cursors := by
  unfold subscribe at hSubscribe
  dsimp only at hSubscribe
  split at hSubscribe
  · cases hSubscribe
  · cases hSubscribe
    rfl

theorem cursors_unsubscribe {b' : Broker T} {c id : Nat}
    (hUnsubscribe : b.unsubscribe c id = .ok b') : b'.cursors = b.cursors := by
  unfold unsubscribe at hUnsubscribe
  dsimp only at hUnsubscribe
  split at hUnsubscribe
  · cases hUnsubscribe
    rfl
  · cases hUnsubscribe

theorem cursors_takeFrom? {b' : Broker T} {id : Nat} {tap : T} {data : Bytes}
    (hTake : b.takeFrom? id = some (tap, data, b')) : b'.cursors = b.cursors := by
  unfold takeFrom? at hTake
  split at hTake
  · cases hTake
  · split at hTake
    · cases hTake
    · cases hTake
      rfl

/-! ## Numbers -/

theorem members_singleton (route : Route T) (key : String × String) :
    members [route] key =
      if route.group = some key.1 ∧ route.pattern = key.2 then [route] else [] := by
  rw [members, List.filter_singleton]
  simp

theorem Faithful.number_inj (hFaithful : Faithful j) {route' : Route T}
    (hr : route ∈ members j.opened key) (hr' : route' ∈ j.opened) :
    j.number key route = j.number key route' ↔ route = route' := by
  rw [Journal.number, Journal.number, List.idxOf_inj (List.mem_map_of_mem hr)]
  exact ⟨hFaithful.same_of_id (mem_members_iff.mp hr).1 hr', congrArg Route.id⟩

/-- The number of a member is among those of some routes just if the member is. -/
theorem Faithful.number_mem_iff (hFaithful : Faithful j) (hr : route ∈ members j.opened key)
    (hSubset : ∀ route ∈ routes, route ∈ j.opened) :
    j.number key route ∈ j.numbers key routes ↔ route ∈ routes := by
  rw [Journal.numbers, List.mem_map]
  constructor
  · rintro ⟨route', hr', hSame⟩
    obtain ⟨hRoute', -⟩ := mem_members_iff.mp hr'
    rwa [(hFaithful.number_inj hr (hSubset route' hRoute')).mp hSame.symm]
  · intro hRoute
    exact ⟨route, mem_members_iff.mpr ⟨hRoute, (mem_members_iff.mp hr).2⟩, rfl⟩

theorem mem_members_of_subset (hSubset : ∀ route ∈ routes, route ∈ j.opened)
    (hr : route ∈ members routes key) : route ∈ members j.opened key := by
  obtain ⟨hRoute, hGroup⟩ := mem_members_iff.mp hr
  exact mem_members_iff.mpr ⟨hSubset route hRoute, hGroup⟩

/-- Who comes later does not change the numbers of those who are there. -/
theorem numbers_opened (hSubset : ∀ route ∈ routes, route ∈ j.opened) {later : List (Route T)}
    (hOpened : j'.opened = j.opened ++ later) : j'.numbers key routes = j.numbers key routes := by
  apply List.map_congr_left
  intro route hr
  rw [Journal.number, Journal.number, hOpened, members_append, List.map_append]
  exact List.idxOf_append_of_mem (List.mem_map_of_mem (mem_members_of_subset hSubset hr))

theorem Faithful.takers_opened (hFaithful : Faithful j) {later : List (Route T)}
    (hOpened : j'.opened = j.opened ++ later) (hPostings : j'.postings = j.postings) :
    j'.takers key = j.takers key := by
  rw [Journal.takers, Journal.takers, hPostings]
  apply List.map_congr_left
  intro m hm
  apply numbers_opened _ hOpened
  intro route hr
  exact hFaithful.known m (List.mem_filter.mp hm).1 route (mem_recipients hr)

/-- Who comes is given the next number. -/
theorem number_new (hNew : route.id ∉ (members j.opened key).map Route.id)
    (hMembers : members j'.opened key = members j.opened key ++ [route]) :
    j'.number key route = (members j.opened key).length := by
  rw [Journal.number, hMembers, List.map_append, List.idxOf_append_of_notMem hNew, List.length_map]
  simp

/-! ## Acts -/

theorem Follows.left (h : Follows j key r) (hFaithful : Faithful j) {gone : Route T → Bool}
    (hOpened : j'.opened = j.opened) (hPostings : j'.postings = j.postings)
    (hRoutes : j'.broker.routes = j.broker.routes.filter fun route => !gone route)
    (hCursors : j'.broker.cursors = j.broker.cursors) :
    Follows.On j j' key r (j.leaving key gone) := by
  have hNumber : j'.number key = j.number key := by
    funext route
    rw [Journal.number, hOpened, ← Journal.number]
  -- Numbers tell members apart, so it is the routes that have gone whose numbers have left.
  have hStays : ∀ route ∈ members j.broker.routes key,
      j.number key route ∉ j.numbers key (j.broker.routes.filter gone) ↔ gone route = false := by
    intro route hr
    have hMember := mem_members_of_subset hFaithful.listed hr
    have hGone : ∀ route ∈ j.broker.routes.filter gone, route ∈ j.opened := fun route hGone =>
      hFaithful.listed route (List.mem_filter.mp hGone).1
    rw [hFaithful.number_mem_iff hMember hGone, List.mem_filter,
      and_iff_right (mem_members_iff.mp hr).1, Bool.not_eq_true]
  rw [Follows.On, Journal.leaving, Rota.run_leaves, Rota.answers_leaves, List.append_nil]
  refine ⟨⟨hOpened ▸ h.joined, ?_, ?_⟩, ?_⟩
  · dsimp only
    rw [← h.staff, hRoutes, Journal.numbers, hNumber, Journal.numbers.eq_1 j key j.broker.routes,
      List.filter_map, members, List.filter_comm]
    apply congrArg (List.map (j.number key))
    apply List.filter_congr
    intro route hr
    rw [Function.comp_apply, Bool.eq_iff_iff, decide_eq_true_eq, hStays route hr,
      Bool.not_eq_true']
  · exact (turn_congr hCursors key).trans h.turn
  · rw [Journal.takers, hPostings]
    simp only [Journal.numbers, hNumber]
    rfl

theorem Follows.kept (h : Follows j key r) (hFaithful : Faithful j)
    (hOpened : j'.opened = j.opened) (hPostings : j'.postings = j.postings)
    (hRoutes : j'.broker.routes = j.broker.routes)
    (hCursors : j'.broker.cursors = j.broker.cursors) : Follows.On j j' key r [] := by
  have hNone : j.leaving key (fun _ => false) = [] := by
    rw [Journal.leaving, List.filter_false]
    rfl
  rw [← hNone]
  exact h.left hFaithful hOpened hPostings (by rw [hRoutes, Bool.not_false, List.filter_true])
    hCursors

theorem Follows.opened (h : Follows j key r) (hFaithful : Faithful j) {c id : Nat}
    {pattern : String} {group : Option String} {tap : T} {broker : Broker T}
    (hSubscribe : j.broker.subscribe c pattern group tap = .ok (id, broker)) :
    Follows.On j { j with
      broker
      opened := j.opened ++ [{ id, connection := c, pattern, group, tap }] } key r
      (if group = some key.1 ∧ pattern = key.2 then [.join] else []) := by
  obtain ⟨-, rfl, -, hRoutes, -⟩ := subscribe_eq_ok hSubscribe
  generalize hNew : ({ id := j.broker.nextRoute, connection := c, pattern, group, tap } : Route T) =
    new at hRoutes
  generalize hLater : ({ j with broker, opened := j.opened ++ [new] } : Journal T) = j'
  have hOpened : j'.opened = j.opened ++ [new] := by rw [← hLater]
  have hBroker : j'.broker = broker := by rw [← hLater]
  have hTurn : j'.broker.turn key = r.turn := by
    rw [← h.turn, hBroker, turn_congr (cursors_subscribe hSubscribe)]
  have hStaff : j'.numbers key j'.broker.routes =
      r.staff ++ (members [new] key).map (j'.number key) := by
    rw [hBroker, hRoutes, Journal.numbers, members_append, List.map_append, ← h.staff,
      ← numbers_opened hFaithful.listed hOpened]
    rfl
  have hTakers : j'.takers key = j.takers key :=
    hFaithful.takers_opened hOpened (by rw [← hLater])
  have hMembers : members j'.opened key = members j.opened key ++ members [new] key := by
    rw [hOpened, members_append]
  have hSingle : members [new] key =
      if group = some key.1 ∧ pattern = key.2 then [new] else [] := by
    rw [members_singleton, ← hNew]
  rw [hSingle] at hStaff hMembers
  split
  · rename_i hOwn
    rw [if_pos hOwn] at hStaff hMembers
    have hFresh : new.id ∉ (members j.opened key).map Route.id := by
      rw [← hNew]
      intro hOld
      obtain ⟨route, hr, hSame⟩ := List.mem_map.mp hOld
      exact Nat.ne_of_lt (hFaithful.opened_lt route (mem_members_iff.mp hr).1) hSame
    refine ⟨⟨?_, ?_, hTurn⟩, ?_⟩
    · rw [hMembers, List.length_append, h.joined]
      rfl
    · rw [hStaff, List.map_singleton, number_new hFresh hMembers, h.joined]
      rfl
    · rw [hTakers]
      exact (List.append_nil _).symm
  · rename_i hOther
    rw [if_neg hOther, List.append_nil] at hMembers
    rw [if_neg hOther, List.map_nil, List.append_nil] at hStaff
    refine ⟨⟨?_, hStaff, hTurn⟩, ?_⟩
    · rw [hMembers]
      exact h.joined
    · rw [hTakers]
      exact (List.append_nil _).symm

/-- The member whose turn it is is handed the message. -/
theorem Follows.due_eq (h : Follows j key r) {subject : String}
    (hSelects : Subject.selects key.2 subject = true) :
    j.numbers key (j.broker.recipients subject) = r.due := by
  have hLength : (members j.broker.routes key).length = r.staff.length := by
    rw [← h.staff]
    exact (List.length_map _).symm
  rw [Journal.numbers, members_recipients, pick, members_matching, if_pos hSelects, hLength, h.turn,
    Rota.due, ← h.staff, Journal.numbers, List.getElem?_map]
  cases (members j.broker.routes key)[r.turn.toNat % _]? with
  | none => rfl
  | some route => rfl

theorem Follows.posted (h : Follows j key r) (subject : String) (data : Bytes) :
    Follows.On j (j.posted subject data (j.broker.route subject data).2) key r
      (if Subject.selects key.2 subject then [.message] else []) := by
  have hTurn := turn_route j.broker subject data key
  have hTakers : (j.posted subject data (j.broker.route subject data).2).takers key =
      j.takers key ++ if Subject.selects key.2 subject then
        [j.numbers key (j.broker.recipients subject)] else [] := by
    rw [Journal.takers, Journal.posted, List.filter_append, List.map_append, List.filter_singleton]
    cases Subject.selects key.2 subject with
    | false => rfl
    | true => rfl
  split
  · rename_i hSelects
    have hStaff : members j.broker.routes key ≠ [] ↔ ¬r.staff = [] := by
      rw [← h.staff, Journal.numbers, List.map_eq_nil_iff]
    rw [if_pos hSelects, h.due_eq hSelects] at hTakers
    refine ⟨⟨h.joined, h.staff, ?_⟩, hTakers⟩
    rw [Journal.posted, hTurn, if_congr (and_iff_right hSelects) rfl rfl, if_congr hStaff rfl rfl,
      h.turn, ite_not]
    rfl
  · rename_i hOther
    rw [if_neg hOther] at hTakers
    refine ⟨⟨h.joined, h.staff, ?_⟩, hTakers⟩
    rw [Journal.posted, hTurn, if_neg fun hSelected => hOther hSelected.1]
    exact h.turn

theorem Follows.step (h : Follows j key r) (hFaithful : Faithful j) (a : Act T) :
    Follows.On j (j.step a) key r (j.events key a) := by
  cases a with
  | connect => exact h.kept hFaithful rfl rfl rfl rfl
  | subscribe c pattern group tap =>
    rw [Journal.events, Journal.step]
    cases hClosed : (j.broker.connection c).closed with
    | true =>
      simp only [subscribe, hClosed, if_true, Bool.true_eq_false, false_and, if_false]
      exact h.kept hFaithful rfl rfl rfl rfl
    | false =>
      obtain ⟨id, broker, hSubscribe⟩ := exists_subscribe hClosed pattern group tap
      rw [hSubscribe, if_congr (and_iff_right rfl) rfl rfl]
      exact h.opened hFaithful hSubscribe
  | unsubscribe c id =>
    rw [Journal.events, Journal.step]
    split
    · rename_i hRefused
      refine h.left hFaithful rfl rfl ?_ rfl
      -- Nothing has left: a route of that number would have been the connection's own.
      symm
      apply List.filter_eq_self.mpr
      intro route hr
      by_contra hGone
      simp only [Bool.not_eq_true', Bool.not_eq_false, Bool.and_eq_true, decide_eq_true_eq] at hGone
      obtain ⟨hId, hConnection⟩ := hGone
      have hOwn := (hFaithful.reached.owned.owned_iff c id).mpr ⟨route, hr, hConnection, hId⟩
      obtain ⟨broker, hTaken⟩ := exists_unsubscribe_iff.mpr hOwn
      cases hRefused.symm.trans hTaken
    · rename_i broker hTaken
      obtain ⟨-, -, hRoutes, -⟩ := unsubscribe_eq_ok hTaken
      exact h.left hFaithful rfl rfl hRoutes (cursors_unsubscribe hTaken)
  | publish c subject data =>
    rw [Journal.events, Journal.step]
    cases hClosed : (j.broker.connection c).closed with
    | true =>
      simp only [publish, hClosed, if_true, Bool.true_eq_false, false_and, if_false]
      exact h.kept hFaithful rfl rfl rfl rfl
    | false =>
      simp only [publish, hClosed, Bool.false_eq_true, if_false, true_and]
      exact h.posted subject data
  | route subject data => exact h.posted subject data
  | close c =>
    have hClose := hFaithful.reached.close_eq c
    have hRoutes := congrArg Broker.routes hClose
    have hCursors := congrArg Broker.cursors hClose
    exact h.left hFaithful rfl rfl hRoutes hCursors
  | dispatch id =>
    rw [Journal.events, Journal.step]
    split
    · exact h.kept hFaithful rfl rfl rfl rfl
    · rename_i hTake
      exact h.kept hFaithful rfl rfl (sameRoutes_takeFrom? hTake).routes (cursors_takeFrom? hTake)

theorem Follows.run (h : Follows j key r) (hFaithful : Faithful j) (acts : List (Act T)) :
    Follows.On j (j.run acts) key r (j.script key acts) := by
  induction acts generalizing j r with
  | nil => exact ⟨h, (List.append_nil _).symm⟩
  | cons a rest ih =>
    obtain ⟨hStep, hTakers⟩ := h.step hFaithful a
    obtain ⟨hRun, hLater⟩ := ih hStep (faithful_step hFaithful a)
    rw [Follows.On, Journal.script, Rota.run_append, Rota.answers_append]
    refine ⟨hRun, ?_⟩
    rw [← List.append_assoc, ← hTakers]
    exact hLater

end DeviceBus.Broker
