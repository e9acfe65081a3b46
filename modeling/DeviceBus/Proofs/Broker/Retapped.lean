import DeviceBus.Proofs.Broker.Changes

/-! # Taps do not steer the broker

The broker carries taps and never looks at them: with other taps it does the same. Whom a
message is for, what a connection owns and which handles are given out is thus the same in
two brokers that differ in nothing but their taps.
-/

namespace DeviceBus

variable {T U : Type}

def Route.retap (f : T → U) (r : Route T) : Route U where
  id := r.id
  connection := r.connection
  pattern := r.pattern
  group := r.group
  tap := f r.tap

def Mailbox.retap (f : T → U) (m : Mailbox T) : Mailbox U where
  route := m.route
  tap := f m.tap
  waiting := m.waiting

namespace Broker

def retap (f : T → U) (b : Broker T) : Broker U where
  nextRoute := b.nextRoute
  routes := b.routes.map (Route.retap f)
  cursors := b.cursors
  connections := b.connections
  mailboxes := b.mailboxes.map (Mailbox.retap f)

variable (f : T → U) (b : Broker T)

theorem retap_eq_self {f : T → T} {b : Broker T} (hTaps : ∀ tap, b.Leads tap → f tap = tap) :
    b.retap f = b := by
  have hRoutes : b.routes.map (Route.retap f) = b.routes := by
    refine (List.map_congr_left fun r hr => ?_).trans (List.map_id _)
    rw [Route.retap, hTaps r.tap (.inl ⟨r, hr, rfl⟩)]
    rfl
  have hMailboxes : b.mailboxes.map (Mailbox.retap f) = b.mailboxes := by
    refine (List.map_congr_left fun m hm => ?_).trans (List.map_id _)
    rw [Mailbox.retap, hTaps m.tap (.inr ⟨m, hm, rfl⟩)]
    rfl
  rw [retap, hRoutes, hMailboxes]

/-! ## Routing -/

theorem matching_retap (subject : String) :
    (b.retap f).matching subject = (b.matching subject).map (Route.retap f) :=
  List.filter_map

theorem members_retap (routes : List (Route T)) (key : String × String) :
    members (routes.map (Route.retap f)) key = (members routes key).map (Route.retap f) :=
  List.filter_map

theorem groupKeys_retap (routes : List (Route T)) :
    groupKeys (routes.map (Route.retap f)) = groupKeys routes := by
  rw [groupKeys, List.filterMap_map]
  rfl

theorem pick_retap (routes : List (Route T)) (key : String × String) :
    (b.retap f).pick (routes.map (Route.retap f)) key =
      (b.pick routes key).map (Route.retap f) := by
  rw [pick, members_retap, List.length_map, List.getElem?_map]
  rfl

theorem recipients_retap (subject : String) :
    (b.retap f).recipients subject = (b.recipients subject).map (Route.retap f) := by
  have hPicks : (b.retap f).pick ((b.matching subject).map (Route.retap f)) =
      fun key => (b.pick (b.matching subject) key).map (Route.retap f) :=
    funext fun key => pick_retap f b _ key
  rw [recipients, matching_retap, groupKeys_retap, List.filter_map, hPicks, recipients,
    List.map_append, List.map_filterMap]
  rfl

theorem post_retap (mailboxes : List (Mailbox T)) (r : Route T) (data : Bytes) :
    post (mailboxes.map (Mailbox.retap f)) (r.retap f) data =
      (post mailboxes r data).map (Mailbox.retap f) := by
  have hAny : ((mailboxes.map (Mailbox.retap f)).any fun m => m.route = (r.retap f).id) =
      mailboxes.any fun m => m.route = r.id :=
    List.any_map
  unfold post
  rw [hAny]
  split
  · rw [List.map_map, List.map_map]
    apply List.map_congr_left
    intro m hm
    by_cases hSame : m.route = r.id
    · simp [Mailbox.retap, Route.retap, hSame]
    · simp [Mailbox.retap, Route.retap, hSame]
  · rw [List.map_append]
    rfl

theorem route_retap (subject : String) (data : Bytes) :
    (b.retap f).route subject data =
      ((b.route subject data).1, (b.route subject data).2.retap f) := by
  have hPosts : ∀ (targets : List (Route T)) (mailboxes : List (Mailbox T)),
      (targets.map (Route.retap f)).foldl (fun ms r => post ms r data)
          (mailboxes.map (Mailbox.retap f)) =
        (targets.foldl (fun ms r => post ms r data) mailboxes).map (Mailbox.retap f) := by
    intro targets
    induction targets with
    | nil => exact fun _ => rfl
    | cons r rest ih =>
      intro mailboxes
      rw [List.map_cons, List.foldl_cons, post_retap, ih, List.foldl_cons]
  have hAdvance : (b.retap f).advance subject = (b.advance subject).retap f := by
    rw [advance, matching_retap, groupKeys_retap]
    rfl
  rw [route, recipients_retap, hAdvance, List.length_map]
  refine congrArg (Prod.mk _) ?_
  have hMailboxes := hPosts (b.recipients subject) (b.advance subject).mailboxes
  rw [retap, retap, hMailboxes]
  rfl

/-! ## Connections -/

theorem publish_retap (c : Nat) (subject : String) (data : Bytes) :
    (b.retap f).publish c subject data = (b.publish c subject data).map (retap f) := by
  have hClosed : ((b.retap f).connection c).closed = (b.connection c).closed := rfl
  rw [publish, publish, hClosed, route_retap]
  split
  · rfl
  · rfl

theorem subscribe_retap (c : Nat) (pattern : String) (group : Option String) (tap : T) :
    (b.retap f).subscribe c pattern group (f tap) =
      (b.subscribe c pattern group tap).map fun granted => (granted.1, granted.2.retap f) := by
  have hConnection : (b.retap f).connection c = b.connection c := rfl
  unfold subscribe
  rw [hConnection]
  dsimp only
  split
  · rfl
  · simp only [Except.map, setConnection, retap, List.map_append, List.map_singleton]
    rfl

theorem dropRoute_retap (c id : Nat) :
    (b.retap f).dropRoute c id = (b.dropRoute c id).retap f := by
  simp only [dropRoute, retap, List.filter_map]
  rfl

theorem unsubscribe_retap (c id : Nat) :
    (b.retap f).unsubscribe c id = (b.unsubscribe c id).map (retap f) := by
  have hConnection : (b.retap f).connection c = b.connection c := rfl
  unfold unsubscribe
  rw [hConnection]
  dsimp only
  split
  · exact congrArg Except.ok (dropRoute_retap f (b.setConnection c _) c id)
  · rfl

theorem close_retap (c : Nat) : (b.retap f).close c = (b.close c).retap f := by
  have hConnection : (b.retap f).connection c = b.connection c := rfl
  have hDrops : ∀ (ids : List Nat) (b : Broker T),
      ids.foldl (fun b id => b.dropRoute c id) (b.retap f) =
        (ids.foldl (fun b id => b.dropRoute c id) b).retap f := by
    intro ids
    induction ids with
    | nil => exact fun _ => rfl
    | cons id rest ih =>
      intro b
      rw [List.foldl_cons, dropRoute_retap, ih, List.foldl_cons]
  unfold close
  rw [hConnection]
  dsimp only
  split
  · rfl
  · exact hDrops _ (b.setConnection c { closed := true })

/-! ## Dispatch -/

theorem takeFrom?_retap (id : Nat) :
    (b.retap f).takeFrom? id =
      (b.takeFrom? id).map fun taken => (f taken.1, taken.2.1, taken.2.2.retap f) := by
  have hFind : (b.retap f).mailboxes.find? (fun m => m.route = id) =
      (b.mailboxes.find? fun m => m.route = id).map (Mailbox.retap f) :=
    List.find?_map
  unfold takeFrom?
  rw [hFind]
  cases b.mailboxes.find? fun m => m.route = id with
  | none => rfl
  | some m =>
    have hWaiting : (m.retap f).waiting = m.waiting := rfl
    simp only [Option.map_some, hWaiting]
    cases m.waiting with
    | nil => rfl
    | cons data rest =>
      simp only [Option.map_some]
      refine congrArg (fun mailboxes : List (Mailbox U) =>
        some (f m.tap, data, ({ b.retap f with mailboxes } : Broker U))) ?_
      split
      · exact List.filter_map
      · simp only [retap, List.map_map]
        apply List.map_congr_left
        intro m hm
        by_cases hSame : m.route = id
        · simp [Mailbox.retap, hSame]
        · simp [Mailbox.retap, hSame]

end Broker

end DeviceBus
