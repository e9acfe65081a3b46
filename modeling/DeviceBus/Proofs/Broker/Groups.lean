import Mathlib
import DeviceBus.Proofs.Broker.Mailboxes
import DeviceBus.Proofs.Hub.Handles
import DeviceBus.Proofs.Hub.Onward

/-! # Queue groups

The turns of a queue group are taken for each of its patterns alone. A group is thus
handed one copy of a message for each of its different patterns that select the
subject, and exactly one copy only when all its matching routes have the same pattern.
-/

namespace DeviceBus

namespace Broker

variable {T : Type} {b : Broker T} {group subject : String} {r r' : Route T}

/-- The patterns of a group's routes that select a subject, each once. -/
def patterns (b : Broker T) (group subject : String) : List String :=
  (((b.matching subject).filter fun r => r.group = some group).map Route.pattern).eraseDups

/-- The routes of a group that are handed a message. -/
def drawn (b : Broker T) (group subject : String) : List (Route T) :=
  (b.recipients subject).filter fun r => r.group = some group

theorem nodup_patterns (b : Broker T) (group subject : String) : (b.patterns group subject).Nodup :=
  nodup_eraseDups _

theorem mem_patterns_iff {p : String} :
    p ∈ b.patterns group subject ↔
      Subject.selects p subject = true ∧ members b.routes (group, p) ≠ [] := by
  rw [patterns, List.mem_eraseDups, List.mem_map, ne_eq, List.eq_nil_iff_forall_not_mem,
    not_forall_not, matching]
  constructor
  · rintro ⟨r, hr, rfl⟩
    obtain ⟨hMatching, hGroup⟩ := List.mem_filter.mp hr
    obtain ⟨hRoute, hSelects⟩ := List.mem_filter.mp hMatching
    exact ⟨hSelects, r, mem_members_iff.mpr ⟨hRoute, of_decide_eq_true hGroup, rfl⟩⟩
  · rintro ⟨hSelects, r, hr⟩
    obtain ⟨hRoute, hGroup, rfl⟩ := mem_members_iff.mp hr
    refine ⟨r, ?_, rfl⟩
    exact List.mem_filter.mpr ⟨List.mem_filter.mpr ⟨hRoute, hSelects⟩, decide_eq_true hGroup⟩

/-! ## One member for each pattern -/

theorem mem_drawn_iff : r ∈ b.drawn group subject ↔
    r ∈ members (b.recipients subject) (group, r.pattern) := by
  rw [drawn, List.mem_filter, mem_members_iff, decide_eq_true_eq]
  exact and_congr_right fun _ => (and_iff_left rfl).symm

theorem mem_patterns_of_drawn (hr : r ∈ b.drawn group subject) :
    r.pattern ∈ b.patterns group subject := by
  obtain ⟨hRecipient, hGroup⟩ := List.mem_filter.mp hr
  obtain ⟨hRoute, hSelects⟩ := List.mem_filter.mp (mem_matching_of_recipient hRecipient)
  have hMember : r ∈ members b.routes (group, r.pattern) :=
    mem_members_iff.mpr ⟨hRoute, of_decide_eq_true hGroup, rfl⟩
  exact mem_patterns_iff.mpr ⟨hSelects, List.ne_nil_of_mem hMember⟩

/-- The patterns of the routes that are handed a message are those of the group that
select its subject, and no two of these routes have the same one. -/
theorem patterns_drawn (hOwned : b.Owned) (group subject : String) :
    ((b.drawn group subject).map Route.pattern).Perm (b.patterns group subject) := by
  have hDrawn : (b.drawn group subject).Nodup :=
    ((nodup_recipients hOwned subject).of_map).sublist List.filter_sublist
  -- Two routes of one pattern are both the one member that `exists_recipient` gives.
  have hNodup : ((b.drawn group subject).map Route.pattern).Nodup := by
    apply List.Nodup.map_on _ hDrawn
    intro r hr r' hr' hSame
    obtain ⟨hSelects, hMembers⟩ := mem_patterns_iff.mp (mem_patterns_of_drawn hr)
    obtain ⟨only, -, hOnly⟩ := exists_recipient hMembers hSelects
    have hMember := mem_drawn_iff.mp hr
    have hMember' := mem_drawn_iff.mp hr'
    rw [hOnly, List.mem_singleton] at hMember
    rw [← hSame, hOnly, List.mem_singleton] at hMember'
    exact hMember.trans hMember'.symm
  rw [List.perm_ext_iff_of_nodup hNodup (nodup_patterns b group subject)]
  intro p
  constructor
  · intro hp
    obtain ⟨r, hr, rfl⟩ := List.mem_map.mp hp
    exact mem_patterns_of_drawn hr
  · intro hp
    obtain ⟨hSelects, hMembers⟩ := mem_patterns_iff.mp hp
    obtain ⟨r, -, hOnly⟩ := exists_recipient hMembers hSelects
    have hr : r ∈ members (b.recipients subject) (group, p) := by
      rw [hOnly]
      exact List.mem_singleton_self r
    obtain ⟨hRecipient, hGroup, rfl⟩ := mem_members_iff.mp hr
    apply List.mem_map_of_mem
    exact List.mem_filter.mpr ⟨hRecipient, decide_eq_true hGroup⟩

theorem drawn_eq_singleton_iff (hOwned : b.Owned) (group subject : String) :
    (∃ r, b.drawn group subject = [r]) ↔
      (∃ r ∈ b.matching subject, r.group = some group) ∧
        ∀ r ∈ b.matching subject, ∀ r' ∈ b.matching subject, r.group = some group →
          r'.group = some group → r.pattern = r'.pattern := by
  have hPerm := patterns_drawn hOwned group subject
  have hPattern : ∀ p, p ∈ b.patterns group subject ↔
      ∃ r ∈ b.matching subject, r.group = some group ∧ r.pattern = p := by
    intro p
    simp only [patterns, List.mem_eraseDups, List.mem_map, List.mem_filter, decide_eq_true_eq,
      and_assoc]
  constructor
  · rintro ⟨only, hOnly⟩
    rw [hOnly, List.map_singleton, List.singleton_perm] at hPerm
    have hOne : ∀ r ∈ b.matching subject, r.group = some group → r.pattern = only.pattern := by
      intro r hr hGroup
      have hMember := (hPattern r.pattern).mpr ⟨r, hr, hGroup, rfl⟩
      rwa [← hPerm, List.mem_singleton] at hMember
    have hMember : only ∈ b.drawn group subject := hOnly ▸ List.mem_singleton_self only
    obtain ⟨hRecipient, hGroup⟩ := List.mem_filter.mp hMember
    refine ⟨⟨only, mem_matching_of_recipient hRecipient, of_decide_eq_true hGroup⟩, ?_⟩
    intro r hr r' hr' hGroup hGroup'
    exact (hOne r hr hGroup).trans (hOne r' hr' hGroup').symm
  · rintro ⟨⟨r, hr, hGroup⟩, hSame⟩
    have hOne : (b.patterns group subject).Perm [r.pattern] := by
      rw [List.perm_ext_iff_of_nodup (nodup_patterns b group subject) (List.nodup_singleton _)]
      intro p
      rw [hPattern, List.mem_singleton]
      constructor
      · rintro ⟨r', hr', hGroup', rfl⟩
        exact hSame r' hr' r hr hGroup' hGroup
      · rintro rfl
        exact ⟨r, hr, hGroup, rfl⟩
    have hSingle := List.perm_singleton.mp (hPerm.trans hOne)
    obtain ⟨only, hOnly, -⟩ := List.map_eq_singleton_iff.mp hSingle
    exact ⟨only, hOnly⟩

/-! ## What a group is handed -/

theorem waiting_route_of_group (hOwned : b.Owned) (data : Bytes) (hr : r ∈ b.routes)
    (hGroup : r.group = some group) : (b.route subject data).2.waiting r.id =
      b.waiting r.id ++ if r.id ∈ (b.drawn group subject).map Route.id then [data] else [] := by
  have hTarget : r.id ∈ (b.recipients subject).map Route.id ↔
      r.id ∈ (b.drawn group subject).map Route.id := by
    constructor
    · intro hId
      obtain ⟨r', hr', hSame⟩ := List.mem_map.mp hId
      obtain rfl := List.inj_on_of_nodup_map hOwned.ids_nodup (mem_recipients hr') hr hSame
      exact List.mem_map_of_mem (List.mem_filter.mpr ⟨hr', decide_eq_true hGroup⟩)
    · intro hId
      obtain ⟨r', hr', hSame⟩ := List.mem_map.mp hId
      exact hSame ▸ List.mem_map_of_mem (List.mem_filter.mp hr').1
  rw [waiting_route hOwned, if_congr hTarget rfl rfl]

/-- A message goes to exactly one route of a group for each of the group's patterns that
select the subject, and to no other route of the group. It goes to exactly one route of
the whole group just when the group's matching routes have one pattern. -/
theorem one_copy_per_pattern (hReached : b.Reached) (group subject : String) (data : Bytes) :
    ∃ handed : List (Route T),
      (∀ r ∈ handed, r ∈ b.routes ∧ r.group = some group) ∧
      (handed.map Route.pattern).Perm (b.patterns group subject) ∧
      (∀ r ∈ b.routes, r.group = some group → (b.route subject data).2.waiting r.id =
        b.waiting r.id ++ if r.id ∈ handed.map Route.id then [data] else []) ∧
      ((∃ r, handed = [r]) ↔
        (∃ r ∈ b.matching subject, r.group = some group) ∧
          ∀ r ∈ b.matching subject, ∀ r' ∈ b.matching subject, r.group = some group →
            r'.group = some group → r.pattern = r'.pattern) := by
  have hOwned := hReached.owned
  refine ⟨b.drawn group subject, ?_, patterns_drawn hOwned group subject, ?_,
    drawn_eq_singleton_iff hOwned group subject⟩
  · intro r hr
    obtain ⟨hRecipient, hGroup⟩ := List.mem_filter.mp hr
    exact ⟨mem_recipients hRecipient, of_decide_eq_true hGroup⟩
  · intro r hr hGroup
    exact waiting_route_of_group hOwned data hr hGroup

end Broker

/-! ## Facades with a group -/

namespace Hub

variable {H : Type}

theorem reached_opened (groups : List (Option String)) :
    (opened groups : Hub H).broker.Reached := by
  rw [opened]
  have hJoined : ∀ h : Hub H, h.broker.Reached → (groups.foldl join h).broker.Reached := by
    induction groups with
    | nil => exact fun h hReached => hReached
    | cons group rest ih => exact fun h hReached => ih (h.join group) hReached.connected
  exact hJoined {} .empty

theorem reached_run [Handler H] (groups : List (Option String)) (steps : List (Step H)) :
    ((opened groups).run steps).1.broker.Reached :=
  run_induction (P := fun h => h.broker.Reached) (drawn_opened groups) (reached_opened groups)
    (fun _ _ _ hOnward hReached => hReached.changed hOnward.broker) steps

/-! ## One copy of a whole group fails -/

/-- Two facades of one group subscribe with patterns that overlap. -/
def overlapped : List (Step Unit) :=
  [.subscribe 0 "x" "channels.>" (), .proceed 0 .carried, .proceed 0 .carried,
    .proceed 0 .carried, .subscribe 1 "y" "channels.*" (), .proceed 1 .carried,
    .proceed 1 .carried, .proceed 1 .carried]

end Hub

namespace Broker

theorem one_copy_per_pattern_overlapped :
    let b := ((Hub.opened [some "g", some "g"]).run Hub.overlapped).1.broker
    b.patterns "g" "channels.abc" = ["channels.>", "channels.*"] ∧
      b.patterns "g" "channels.abc.d" = ["channels.>"] ∧
      ∃ handed : List (Route (Tap Unit)),
        (∀ r ∈ handed, r ∈ b.routes ∧ r.group = some "g") ∧
        (handed.map Route.pattern).Perm (b.patterns "g" "channels.abc") ∧
        (∀ r ∈ b.routes, r.group = some "g" → (b.route "channels.abc" [1]).2.waiting r.id =
          b.waiting r.id ++ if r.id ∈ handed.map Route.id then [[1]] else []) ∧
        ((∃ r, handed = [r]) ↔
          (∃ r ∈ b.matching "channels.abc", r.group = some "g") ∧
            ∀ r ∈ b.matching "channels.abc", ∀ r' ∈ b.matching "channels.abc",
              r.group = some "g" → r'.group = some "g" → r.pattern = r'.pattern) := by
  have hReached := Hub.reached_run [some "g", some "g"] Hub.overlapped
  refine ⟨by cbv, by cbv, ?_⟩
  exact one_copy_per_pattern hReached "g" "channels.abc" [1]

/-- The message to `channels.abc` comes to both members of the group. -/
theorem not_one_copy_per_group : ¬ ∀ b : Broker (Tap Unit), b.Reached →
    ∀ (group subject : String) (data : Bytes),
      (∃ r ∈ b.matching subject, r.group = some group) →
        ∃ r ∈ b.routes, r.group = some group ∧ ∀ r' ∈ b.routes, r'.group = some group →
          (b.route subject data).2.waiting r'.id =
            b.waiting r'.id ++ if r'.id = r.id then [data] else [] := by
  intro hClaim
  have hReached := Hub.reached_run [some "g", some "g"] Hub.overlapped
  generalize hBroker : ((Hub.opened [some "g", some "g"]).run Hub.overlapped).1.broker = b
    at hReached
  have hIds : b.routes.map Route.id = [0, 1] := by
    rw [← hBroker]
    rfl
  have hMatching : ∃ r ∈ b.matching "channels.abc", r.group = some "g" := by
    rw [← hBroker]
    decide +kernel
  have hBoth : ∀ r ∈ b.routes, r.group = some "g" ∧ b.waiting r.id = [] ∧
      (b.route "channels.abc" [1]).2.waiting r.id = [[1]] := by
    rw [← hBroker]
    decide +kernel
  obtain ⟨r, -, -, hOne⟩ := hClaim b hReached "g" "channels.abc" [1] hMatching
  have hSame : ∀ id ∈ b.routes.map Route.id, id = r.id := by
    intro id hId
    obtain ⟨r', hr', rfl⟩ := List.mem_map.mp hId
    obtain ⟨hGroup, hBefore, hAfter⟩ := hBoth r' hr'
    by_contra hOther
    have hNone := hOne r' hr' hGroup
    rw [hAfter, hBefore, if_neg hOther] at hNone
    cases hNone
  rw [hIds, List.forall_mem_cons, List.forall_mem_singleton] at hSame
  exact Nat.zero_ne_one (hSame.1.trans hSame.2.symm)

end Broker

end DeviceBus
