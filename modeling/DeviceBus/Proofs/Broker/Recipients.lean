import DeviceBus.Proofs.Broker.Changes
import Mathlib.Data.List.Nodup

/-! # Who is handed a message

A plain route is handed every message that its pattern selects. The routes of one
queue group with one pattern take turns, so that one of them is handed the message
and the others are not. Nobody is handed a message twice.
-/

namespace DeviceBus.Broker

variable {T : Type} {b b' : Broker T} {routes : List (Route T)} {r : Route T}
  {key : String × String} {subject : String}

inductive Reached : Broker T → Prop
  | empty : Reached {}
  | connected {b : Broker T} (hReached : Reached b) : Reached b.connect.2
  | changed {b b' : Broker T} (hReached : Reached b) (hChange : Change b b') : Reached b'

theorem Reached.owned (hReached : b.Reached) : b.Owned := by
  induction hReached with
  | empty => exact owned_empty
  | connected hReached ih => exact owned_connect ih
  | changed hReached hChange ih => exact ih.change hChange

/-! ## Groups among routes -/

theorem nodup_eraseDups {α : Type} [BEq α] [LawfulBEq α] : (l : List α) → l.eraseDups.Nodup
  | [] => List.nodup_nil
  | a :: rest => by
    rw [List.eraseDups_cons, List.nodup_cons]
    refine ⟨?_, nodup_eraseDups _⟩
    rw [List.mem_eraseDups, List.mem_filter]
    simp
termination_by l => l.length
decreasing_by exact Nat.lt_succ_of_le (List.length_filter_le _ _)

theorem mem_members_iff :
    r ∈ members routes key ↔ r ∈ routes ∧ r.group = some key.1 ∧ r.pattern = key.2 := by
  simp [members]

theorem mem_groupKeys_iff : key ∈ groupKeys routes ↔ members routes key ≠ [] := by
  rw [groupKeys, List.mem_eraseDups, List.mem_filterMap, ne_eq, List.eq_nil_iff_forall_not_mem,
    not_forall_not]
  apply exists_congr
  intro r
  rw [mem_members_iff]
  apply and_congr_right
  intro hr
  cases r.group with
  | none => simp
  | some g => simp [Prod.ext_iff]

theorem members_append (routes routes' : List (Route T)) (key : String × String) :
    members (routes ++ routes') key = members routes key ++ members routes' key :=
  List.filter_append routes routes'

theorem members_matching (b : Broker T) (subject : String) (key : String × String) :
    members (b.matching subject) key =
      if Subject.selects key.2 subject then members b.routes key else [] := by
  rw [matching, members, List.filter_filter]
  split
  · rename_i hSelects
    apply List.filter_congr
    intro r hr
    by_cases hPattern : r.pattern = key.2
    · simp [hPattern, hSelects]
    · simp [hPattern]
  · rename_i hSelects
    apply List.filter_eq_nil_iff.mpr
    intro r hr hMember
    simp only [Bool.and_eq_true, decide_eq_true_eq] at hMember
    obtain ⟨⟨-, hPattern⟩, hOwn⟩ := hMember
    exact hSelects (hPattern ▸ hOwn)

/-! ## Picking a member -/

theorem mem_of_pick (hPick : b.pick routes key = some r) : r ∈ members routes key :=
  List.mem_of_getElem? hPick

theorem exists_pick (b : Broker T) (hMembers : members routes key ≠ []) :
    ∃ r ∈ members routes key, b.pick routes key = some r := by
  have hLess : (b.turn key).toNat % (members routes key).length < (members routes key).length :=
    Nat.mod_lt _ (List.length_pos_of_ne_nil hMembers)
  refine ⟨_, List.getElem_mem hLess, ?_⟩
  rw [pick]
  exact List.getElem?_eq_getElem hLess

theorem pick_eq_none (b : Broker T) (hNone : members routes key = []) :
    b.pick routes key = none := by
  rw [pick, hNone]
  rfl

/-- A picked route is a member of one group and pattern only. -/
theorem members_pick {key' : String × String} (hPick : b.pick routes key' = some r) :
    members [r] key = if key' = key then [r] else [] := by
  obtain ⟨-, hGroup, hPattern⟩ := mem_members_iff.mp (mem_of_pick hPick)
  rw [members, List.filter_singleton, hGroup, hPattern]
  by_cases hSame : key' = key
  · simp [hSame]
  · have hOther : (decide (some key'.1 = some key.1) && decide (key'.2 = key.2)) = false := by
      simpa [Prod.ext_iff] using hSame
    rw [hOther, if_neg hSame]
    rfl

theorem members_picks (b : Broker T) {keys : List (String × String)} (hNodup : keys.Nodup) :
    members (keys.filterMap (b.pick routes)) key =
      if key ∈ keys then (b.pick routes key).toList else [] := by
  induction keys with
  | nil => rfl
  | cons key' rest ih =>
    obtain ⟨hFirst, hRest⟩ := List.nodup_cons.mp hNodup
    have hSplit : (key' :: rest).filterMap (b.pick routes) =
        (b.pick routes key').toList ++ rest.filterMap (b.pick routes) := by
      cases hPick : b.pick routes key' with
      | none => rw [List.filterMap_cons_none hPick, Option.toList_none, List.nil_append]
      | some r => rw [List.filterMap_cons_some hPick, Option.toList_some, List.singleton_append]
    have hOwn : members (b.pick routes key').toList key =
        if key' = key then (b.pick routes key).toList else [] := by
      cases hPick : b.pick routes key' with
      | none =>
        split
        · rename_i hSame
          rw [← hSame, hPick]
          rfl
        · rfl
      | some r =>
        rw [Option.toList_some, members_pick hPick]
        split
        · rename_i hSame
          rw [← hSame, hPick]
          rfl
        · rfl
    rw [hSplit, members_append, hOwn, ih hRest]
    by_cases hSame : key' = key
    · subst hSame
      simp [hFirst]
    · simp [hSame, Ne.symm hSame]

/-! ## Recipients -/

/-- Of the members of a group and pattern, the one whose turn it is is handed the
message. -/
theorem members_recipients (b : Broker T) (subject : String) (key : String × String) :
    members (b.recipients subject) key = (b.pick (b.matching subject) key).toList := by
  have hPlain : members ((b.matching subject).filter fun r => r.group.isNone) key = [] := by
    apply List.filter_eq_nil_iff.mpr
    intro r hr hMember
    obtain ⟨-, hNone⟩ := List.mem_filter.mp hr
    rw [Bool.and_eq_true, decide_eq_true_eq] at hMember
    rw [hMember.1] at hNone
    cases hNone
  have hKeys : (groupKeys (b.matching subject)).Nodup := nodup_eraseDups _
  rw [recipients, members_append, hPlain, List.nil_append, members_picks b hKeys]
  split
  · rfl
  · rename_i hAbsent
    have hNone : members (b.matching subject) key = [] := by
      by_contra hMembers
      exact hAbsent (mem_groupKeys_iff.mpr hMembers)
    rw [pick_eq_none b hNone]
    rfl

theorem exists_recipient (hMembers : members b.routes key ≠ [])
    (hSelects : Subject.selects key.2 subject = true) :
    ∃ r ∈ members b.routes key, members (b.recipients subject) key = [r] := by
  have hMatching := members_matching b subject key
  rw [if_pos hSelects] at hMatching
  rw [← hMatching] at hMembers ⊢
  obtain ⟨r, hr, hPick⟩ := exists_pick b hMembers
  refine ⟨r, hr, ?_⟩
  rw [members_recipients, hPick]
  rfl

theorem members_recipients_of_not_selects (hSelects : Subject.selects key.2 subject = false) :
    members (b.recipients subject) key = [] := by
  have hMatching := members_matching b subject key
  rw [hSelects, if_neg Bool.false_ne_true] at hMatching
  rw [members_recipients, pick_eq_none b hMatching]
  rfl

theorem mem_matching_of_recipient (hr : r ∈ b.recipients subject) : r ∈ b.matching subject := by
  rcases List.mem_append.mp hr with hPlain | hGrouped
  · exact (List.mem_filter.mp hPlain).1
  · obtain ⟨key, -, hPick⟩ := List.mem_filterMap.mp hGrouped
    exact (mem_members_iff.mp (mem_of_pick hPick)).1

theorem mem_recipients_of_plain (hPlain : r.group = none) :
    r ∈ b.recipients subject ↔ r ∈ b.matching subject := by
  constructor
  · exact mem_matching_of_recipient
  · intro hr
    apply List.mem_append_left
    exact List.mem_filter.mpr ⟨hr, by rw [hPlain]; rfl⟩

theorem nodup_recipients (hOwned : b.Owned) (subject : String) :
    ((b.recipients subject).map Route.id).Nodup := by
  have hRoutes : (b.matching subject).Nodup :=
    (hOwned.ids_nodup.of_map).sublist List.filter_sublist
  have hPicks :
      ((groupKeys (b.matching subject)).filterMap (b.pick (b.matching subject))).Nodup := by
    apply List.Nodup.filterMap _ (nodup_eraseDups _)
    intro key key' r hPick hPick'
    obtain ⟨-, hGroup, hPattern⟩ := mem_members_iff.mp (mem_of_pick hPick)
    obtain ⟨-, hGroup', hPattern'⟩ := mem_members_iff.mp (mem_of_pick hPick')
    rw [hGroup] at hGroup'
    exact Prod.ext (Option.some.inj hGroup') (hPattern.symm.trans hPattern')
  have hNodup : (b.recipients subject).Nodup := by
    refine List.nodup_append.mpr ⟨hRoutes.sublist List.filter_sublist, hPicks, ?_⟩
    rintro r hPlain _ hGrouped rfl
    obtain ⟨key, -, hPick⟩ := List.mem_filterMap.mp hGrouped
    obtain ⟨-, hGroup, -⟩ := mem_members_iff.mp (mem_of_pick hPick)
    have hNone := (List.mem_filter.mp hPlain).2
    rw [hGroup] at hNone
    cases hNone
  apply List.Nodup.map_on _ hNodup
  intro r hr r' hr' hSame
  exact List.inj_on_of_nodup_map hOwned.ids_nodup (mem_recipients hr) (mem_recipients hr') hSame

end DeviceBus.Broker
