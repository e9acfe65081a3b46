import DeviceBus.Proofs.Table
import DeviceBus.Registry

/-! # The registry as a flat map

Topics and their subscribers together are one map from pairs of a topic and a
client. Each operation changes this map at its own pair alone.
-/

namespace DeviceBus.Registry

variable {H : Type} {r r' : Registry H} {topic client : String} {ticket : Nat}

theorem get?_of_topic {t : Topic H} (h : r.topics.get? topic = some t) (client : String) :
    r.get? topic client = t.subscribers.get? client := by
  rw [get?, h, Option.bind_some]

theorem get?_of_no_topic (h : r.topics.get? topic = none) (client : String) :
    r.get? topic client = none := by
  rw [get?, h, Option.bind_none]

@[simp] theorem get?_empty (topic client : String) : ({} : Registry H).get? topic client = none :=
  rfl

/-- Replacing a topic changes the map at its clients only. -/
theorem get?_insert_topic (r : Registry H) (topic : String) (t : Topic H) (nextTicket : Nat)
    (topic' client' : String) :
    Registry.get? { topics := r.topics.insert topic t, nextTicket } topic' client' =
      if topic' = topic then t.subscribers.get? client' else r.get? topic' client' := by
  simp only [get?, Table.get?_insert]
  split
  · rfl
  · rfl

theorem get?_erase_topic (r : Registry H) (topic : String) (nextTicket : Nat)
    (topic' client' : String) :
    Registry.get? { topics := r.topics.erase topic, nextTicket } topic' client' =
      if topic' = topic then none else r.get? topic' client' := by
  simp only [get?, Table.get?_erase]
  split
  · rfl
  · rfl

/-! ## Claiming a pair -/

theorem get?_getD_topic (r : Registry H) (topic client : String) :
    ((r.topics.get? topic).getD { name := topic }).subscribers.get? client =
      r.get? topic client := by
  cases h : r.topics.get? topic with
  | none =>
    rw [get?_of_no_topic h]
    rfl
  | some t => rw [get?_of_topic h, Option.getD_some]

theorem reserve?_eq_some {handler : H}
    (h : r.reserve? topic client handler = some (ticket, r')) :
    ticket = r.nextTicket ∧ r'.nextTicket = r.nextTicket + 1 ∧ r.get? topic client = none ∧
    ∀ topic' client', r'.get? topic' client' =
      if topic' = topic ∧ client' = client then some { ticket, handler }
      else r.get? topic' client' := by
  unfold reserve? Topic.subscribe? at h
  dsimp only at h
  split at h
  · cases h
  · rename_i t hTopic
    cases h
    split at hTopic
    · cases hTopic
    · rename_i hFree
      cases hTopic
      have hPair := get?_getD_topic r topic
      refine ⟨rfl, rfl, ?_, ?_⟩
      · rw [Table.contains_iff, hPair] at hFree
        exact Decidable.not_not.mp hFree
      · intro topic' client'
        rw [get?_insert_topic]
        by_cases hTopic : topic' = topic
        · subst hTopic
          simp only [Table.get?_insert, hPair, true_and, if_true]
        · simp only [hTopic, false_and, if_false]

theorem reserve?_eq_none_iff {handler : H} :
    r.reserve? topic client handler = none ↔ r.get? topic client ≠ none := by
  rw [← get?_getD_topic r topic client, ← Table.contains_iff]
  unfold reserve? Topic.subscribe?
  dsimp only
  split
  · rename_i hTaken
    split at hTaken
    · rename_i hContains
      simp [hContains]
    · cases hTaken
  · rename_i t hFree
    split at hFree
    · cases hFree
    · rename_i hContains
      simp [hContains]

/-! ## Attaching a handle -/

theorem attach?_eq_some {handle : Nat}
    (h : r.attach? topic client ticket handle = some r') :
    ∃ s, r.get? topic client = some s ∧ s.ticket = ticket ∧ r'.nextTicket = r.nextTicket ∧
    ∀ topic' client', r'.get? topic' client' =
      if topic' = topic ∧ client' = client then some { s with handle := some handle }
      else r.get? topic' client' := by
  unfold attach? at h
  split at h
  · cases h
  · rename_i t hTopic
    split at h
    · cases h
    · rename_i s hClient
      split at h
      · rename_i hTicket
        cases h
        have hPair := get?_of_topic hTopic
        refine ⟨s, by rw [hPair, hClient], hTicket, rfl, ?_⟩
        intro topic' client'
        rw [get?_insert_topic]
        by_cases hSame : topic' = topic
        · subst hSame
          simp only [Table.get?_insert, hPair, true_and, if_true]
        · simp only [hSame, false_and, if_false]
      · cases h

theorem attach?_eq_none_iff {handle : Nat} :
    r.attach? topic client ticket handle = none ↔
      ∀ s, r.get? topic client = some s → s.ticket ≠ ticket := by
  unfold attach?
  split
  · rename_i hTopic
    simp [get?_of_no_topic hTopic]
  · rename_i t hTopic
    rw [get?_of_topic hTopic]
    split
    · rename_i hClient
      simp [hClient]
    · rename_i s hClient
      split
      · rename_i hTicket
        simp [hClient, hTicket]
      · rename_i hTicket
        simp [hClient, hTicket]

/-! ## Taking a pair out -/

theorem remove?_eq_some {s : Subscription H} (h : r.remove? topic client = some (s, r')) :
    r.get? topic client = some s ∧ r'.nextTicket = r.nextTicket ∧
    ∀ topic' client', r'.get? topic' client' =
      if topic' = topic ∧ client' = client then none else r.get? topic' client' := by
  unfold remove? at h
  split at h
  · cases h
  · rename_i t hTopic
    have hPair := get?_of_topic hTopic
    split at h
    · cases h
    · rename_i s' hClient
      cases h
      refine ⟨by rw [hPair, hClient], rfl, ?_⟩
      intro topic' client'
      have hLeft : (t.unsubscribe client).subscribers.get? client' =
          if client' = client then none else r.get? topic client' := by
        rw [Topic.unsubscribe, Table.get?_erase, hPair]
      by_cases hEmpty : (t.unsubscribe client).isEmpty = true
      · -- A topic without clients is dropped, and holds none of them either way.
        simp only [hEmpty, if_true]
        rw [get?_erase_topic]
        have hNone : ∀ key, (t.unsubscribe client).subscribers.get? key = none :=
          Table.isEmpty_iff.mp hEmpty
        by_cases hSame : topic' = topic
        · subst hSame
          have hGone := hNone client'
          rw [hLeft] at hGone
          simp only [true_and, if_true, hGone]
        · simp only [hSame, false_and, if_false]
      · simp only [hEmpty, Bool.false_eq_true, if_false]
        rw [get?_insert_topic]
        by_cases hSame : topic' = topic
        · subst hSame
          simp only [hLeft, true_and, if_true]
        · simp only [hSame, false_and, if_false]

theorem remove?_eq_none_iff : r.remove? topic client = none ↔ r.get? topic client = none := by
  unfold remove?
  split
  · rename_i hTopic
    simp [get?_of_no_topic hTopic]
  · rename_i t hTopic
    rw [get?_of_topic hTopic]
    split
    · rename_i hClient
      simp [hClient]
    · rename_i s hClient
      simp [hClient]

theorem discard_of_other (h : ∀ s, r.get? topic client = some s → s.ticket ≠ ticket) :
    r.discard topic client ticket = r := by
  unfold discard
  split
  · rename_i s hPair
    rw [if_neg (h s hPair)]
  · rfl

theorem discard_of_own {s : Subscription H} (h : r.get? topic client = some s)
    (hTicket : s.ticket = ticket) :
    (r.discard topic client ticket).nextTicket = r.nextTicket ∧
    ∀ topic' client', (r.discard topic client ticket).get? topic' client' =
      if topic' = topic ∧ client' = client then none else r.get? topic' client' := by
  unfold discard
  simp only [h, if_pos hTicket]
  cases hRemove : r.remove? topic client with
  | none =>
    rw [remove?_eq_none_iff.mp hRemove] at h
    cases h
  | some removed =>
    obtain ⟨s', r'⟩ := removed
    exact (remove?_eq_some hRemove).2

theorem nextTicket_discard (r : Registry H) (topic client : String) (ticket : Nat) :
    (r.discard topic client ticket).nextTicket = r.nextTicket := by
  by_cases hOwn : ∃ s, r.get? topic client = some s ∧ s.ticket = ticket
  · obtain ⟨s, hPair, hTicket⟩ := hOwn
    exact (discard_of_own hPair hTicket).1
  · rw [discard_of_other fun s hs hTicket => hOwn ⟨s, hs, hTicket⟩]

theorem size_eq_zero_iff : r.size = 0 ↔ ∀ topic client, r.get? topic client = none := by
  rw [size, List.length_eq_zero_iff, List.flatMap_eq_nil_iff]
  constructor
  · intro hNone topic client
    cases hTopic : r.topics.get? topic with
    | none => exact get?_of_no_topic hTopic client
    | some t =>
      rw [get?_of_topic hTopic, ← Option.not_isSome_iff_eq_none, Option.isSome_iff_exists]
      rintro ⟨s, hClient⟩
      have hMember := Table.get?_eq_some_iff.mp hClient
      rw [hNone t (Table.mem_values_iff.mpr ⟨topic, hTopic⟩)] at hMember
      cases hMember
  · intro hNone t hTopic
    obtain ⟨topic, hTopic⟩ := Table.mem_values_iff.mp hTopic
    refine List.eq_nil_iff_forall_not_mem.mpr ?_
    rintro ⟨client, s⟩ hMem
    have hPair := hNone topic client
    rw [get?_of_topic hTopic, Table.get?_eq_some_iff.mpr hMem] at hPair
    cases hPair

/-! ## Taking all pairs out -/

@[simp] theorem get?_drain (r : Registry H) (topic client : String) :
    r.drain.2.get? topic client = none := rfl

theorem mem_drain_iff {s : Subscription H} :
    s ∈ r.drain.1 ↔ ∃ topic client, r.get? topic client = some s := by
  simp only [drain, subscriptions, List.mem_flatMap, Table.mem_values_iff]
  constructor
  · rintro ⟨t, ⟨topic, hTopic⟩, client, hClient⟩
    exact ⟨topic, client, by rw [get?_of_topic hTopic, hClient]⟩
  · rintro ⟨topic, client, h⟩
    cases hTopic : r.topics.get? topic with
    | none =>
      rw [get?_of_no_topic hTopic] at h
      cases h
    | some t => exact ⟨t, ⟨topic, hTopic⟩, client, by rwa [get?_of_topic hTopic] at h⟩

/-- What one pair alone has occurs once among all subscriptions. -/
theorem countP_subscriptions {s : Subscription H} (hPair : r.get? topic client = some s)
    (p : Subscription H → Bool) (hOwn : p s = true)
    (hOther : ∀ topic' client' s', r.get? topic' client' = some s' → p s' = true →
      topic' = topic ∧ client' = client) : r.subscriptions.countP p = 1 := by
  obtain ⟨t, hTopic, hClient⟩ := Option.bind_eq_some_iff.mp hPair
  obtain ⟨topics, topics', hTopics, hOtherTopic⟩ := Table.values_split hTopic
  obtain ⟨subs, subs', hSubs, hOtherClient⟩ := Table.values_split hClient
  have hTopicNone : ∀ t' ∈ topics ++ topics', t'.subscribers.values.countP p = 0 := by
    intro t' hMem
    obtain ⟨topic', hDiffers, hTopic'⟩ := hOtherTopic t' hMem
    rw [List.countP_eq_zero]
    intro s' hs' hp
    obtain ⟨client', hs'⟩ := Table.mem_values_iff.mp hs'
    exact hDiffers (hOther topic' client' s' (by rw [get?_of_topic hTopic', hs']) hp).1
  have hClientNone : ∀ s' ∈ subs ++ subs', ¬p s' = true := by
    intro s' hMem hp
    obtain ⟨client', hDiffers, hs'⟩ := hOtherClient s' hMem
    exact hDiffers (hOther topic client' s' (by rw [get?_of_topic hTopic, hs']) hp).2
  have hFlat : ∀ ts : List (Topic H), (∀ t' ∈ ts, t'.subscribers.values.countP p = 0) →
      (ts.flatMap fun t' => t'.subscribers.values).countP p = 0 := by
    intro ts hNone
    rw [List.countP_eq_zero]
    intro s' hs'
    obtain ⟨t', ht', hs'⟩ := List.mem_flatMap.mp hs'
    exact List.countP_eq_zero.mp (hNone t' ht') s' hs'
  rw [subscriptions, hTopics, List.flatMap_append, List.flatMap_cons, List.countP_append,
    List.countP_append, hFlat topics fun t' ht' => hTopicNone t' (List.mem_append_left _ ht'),
    hFlat topics' fun t' ht' => hTopicNone t' (List.mem_append_right _ ht'), hSubs,
    List.countP_append, List.countP_cons_of_pos hOwn,
    List.countP_eq_zero.mpr fun s' hs' => hClientNone s' (List.mem_append_left _ hs'),
    List.countP_eq_zero.mpr fun s' hs' => hClientNone s' (List.mem_append_right _ hs')]

end DeviceBus.Registry
