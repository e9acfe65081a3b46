import Mathlib.Data.List.Nodup
import DeviceBus.Proofs.Registry
import DeviceBus.Registry.Run

/-! # One map in place of two

Served request by request, the registry answers as a single map from pairs of a topic and a
client does, and a topic is there exactly as long as it has a client. Tickets are drawn from
zero upwards over the whole run, and a refused claim draws none.
-/

namespace DeviceBus

namespace Registry

variable {H : Type}

/-! ## The single map -/

structure Flat (H : Type) where
  pairs : Table (String × String) (Subscription H) := {}
  nextTicket : Nat := 0

namespace Flat

/-- What a pair has, if it still carries the ticket. -/
def carrying? (f : Flat H) (pair : String × String) (ticket : Nat) : Option (Subscription H) :=
  (f.pairs.get? pair).filter fun s => s.ticket = ticket

def serve (f : Flat H) : Request H → Reply H × Flat H
  | .reserve topic client handler =>
      if f.pairs.contains (topic, client) then (.reserved none, f)
      else (.reserved (some f.nextTicket),
        { pairs := f.pairs.insert (topic, client) { ticket := f.nextTicket, handler }
          nextTicket := f.nextTicket + 1 })
  | .attach topic client ticket handle =>
      match f.carrying? (topic, client) ticket with
      | some s => (.attached true,
          { f with pairs := f.pairs.insert (topic, client) { s with handle := some handle } })
      | none => (.attached false, f)
  | .discard topic client ticket =>
      match f.carrying? (topic, client) ticket with
      | some _ => (.discarded, { f with pairs := f.pairs.erase (topic, client) })
      | none => (.discarded, f)
  | .remove topic client =>
      (.removed (f.pairs.get? (topic, client)),
        { f with pairs := f.pairs.erase (topic, client) })
  | .drain => (.drained f.pairs.values, { f with pairs := {} })

end Flat

/-- Replies are the same but for the order in which subscriptions are drained. -/
inductive Reply.Agrees : Reply H → Reply H → Prop
  | same (reply : Reply H) : Agrees reply reply
  | drained {subs subs' : List (Subscription H)} (hPerm : subs.Perm subs') :
      Agrees (.drained subs) (.drained subs')

/-! ## The topics -/

/-- Every topic is kept under its own name and has a client. -/
def Pruned (r : Registry H) : Prop :=
  ∀ topic t, r.topics.get? topic = some t → t.name = topic ∧ t.isEmpty = false

variable {r r' : Registry H} {topic client : String} {ticket nextTicket : Nat} {t : Topic H}

theorem pruned_empty (nextTicket : Nat) : ({ nextTicket } : Registry H).Pruned :=
  nofun

theorem Pruned.insert (hPruned : r.Pruned) (hName : t.name = topic) (hSome : t.isEmpty = false) :
    Registry.Pruned { topics := r.topics.insert topic t, nextTicket } := by
  intro topic' t' hTopic
  rw [Table.get?_insert] at hTopic
  split at hTopic
  · cases hTopic
    rename_i hSame
    exact ⟨hName.trans hSame.symm, hSome⟩
  · exact hPruned topic' t' hTopic

theorem Pruned.erase (hPruned : r.Pruned) :
    Registry.Pruned { topics := r.topics.erase topic, nextTicket } := by
  intro topic' t' hTopic
  rw [Table.get?_erase] at hTopic
  split at hTopic
  · cases hTopic
  · exact hPruned topic' t' hTopic

theorem isEmpty_of_inserted (t : Topic H) (client : String) (s : Subscription H) :
    Topic.isEmpty { t with subscribers := t.subscribers.insert client s } = false := by
  simp [Topic.isEmpty, Table.isEmpty, Table.insert]

theorem Pruned.reserve (hPruned : r.Pruned) {handler : H}
    (hReserve : r.reserve? topic client handler = some (ticket, r')) : r'.Pruned := by
  unfold reserve? Topic.subscribe? at hReserve
  dsimp only at hReserve
  split at hReserve
  · cases hReserve
  · rename_i t hTopic
    cases hReserve
    split at hTopic
    · cases hTopic
    · cases hTopic
      refine hPruned.insert ?_ (isEmpty_of_inserted _ _ _)
      cases hOld : r.topics.get? topic with
      | none => rfl
      | some t => exact (hPruned topic t hOld).1

theorem Pruned.attach (hPruned : r.Pruned) {handle : Nat}
    (hAttach : r.attach? topic client ticket handle = some r') : r'.Pruned := by
  unfold attach? at hAttach
  split at hAttach
  · cases hAttach
  · rename_i t hTopic
    split at hAttach
    · cases hAttach
    · split at hAttach
      · cases hAttach
        exact hPruned.insert (hPruned topic t hTopic).1 (isEmpty_of_inserted _ _ _)
      · cases hAttach

theorem Pruned.remove (hPruned : r.Pruned) {s : Subscription H}
    (hRemove : r.remove? topic client = some (s, r')) : r'.Pruned := by
  unfold remove? at hRemove
  split at hRemove
  · cases hRemove
  · rename_i t hTopic
    split at hRemove
    · cases hRemove
    · cases hRemove
      cases hEmpty : (t.unsubscribe client).isEmpty with
      | true => exact hPruned.erase
      | false => exact hPruned.insert (hPruned topic t hTopic).1 hEmpty

theorem Pruned.discard (hPruned : r.Pruned) (topic client : String) (ticket : Nat) :
    (r.discard topic client ticket).Pruned := by
  unfold Registry.discard
  split
  · split
    · cases hRemove : r.remove? topic client with
      | none => exact hPruned
      | some removed => exact hPruned.remove hRemove
    · exact hPruned
  · exact hPruned

theorem Pruned.topic_iff (hPruned : r.Pruned) (topic : String) :
    r.topics.get? topic ≠ none ↔ ∃ client, r.get? topic client ≠ none := by
  cases hTopic : r.topics.get? topic with
  | none => simp [get?_of_no_topic hTopic]
  | some t =>
    have hSome : ¬∀ client, t.subscribers.get? client = none := by
      rw [← Table.isEmpty_iff]
      simpa [Topic.isEmpty] using (hPruned topic t hTopic).2
    simpa [get?_of_topic hTopic] using hSome

/-! ## Both maps side by side -/

structure Represents (r : Registry H) (f : Flat H) : Prop where
  pruned : r.Pruned
  pairs : ∀ topic client, r.get? topic client = f.pairs.get? (topic, client)
  nextTicket : r.nextTicket = f.nextTicket

/-- All pairs with what they have, topic by topic. -/
def listing (r : Registry H) : List ((String × String) × Subscription H) :=
  r.topics.entries.flatMap fun topic =>
    topic.2.subscribers.entries.map fun client => ((topic.1, client.1), client.2)

theorem mem_listing_iff {s : Subscription H} :
    ((topic, client), s) ∈ r.listing ↔ r.get? topic client = some s := by
  simp only [listing, List.mem_flatMap, List.mem_map, Prod.exists, Prod.mk.injEq]
  constructor
  · rintro ⟨topic', t, hTopic, client', s', hClient, ⟨rfl, rfl⟩, rfl⟩
    rw [get?_of_topic (Table.get?_eq_some_iff.mpr hTopic), Table.get?_eq_some_iff.mpr hClient]
  · intro hPair
    obtain ⟨t, hTopic, hClient⟩ := Option.bind_eq_some_iff.mp hPair
    exact ⟨topic, t, Table.get?_eq_some_iff.mp hTopic, client, s,
      Table.get?_eq_some_iff.mp hClient, ⟨rfl, rfl⟩, rfl⟩

theorem nodup_listing (r : Registry H) : r.listing.Nodup := by
  rw [listing, List.nodup_flatMap]
  constructor
  · intro topic _
    have hClients := topic.2.subscribers.nodup.of_map
    refine hClients.map ?_
    rintro ⟨client, s⟩ ⟨client', s'⟩ hSame
    simp_all
  · have hTopics := List.pairwise_map.mp r.topics.nodup
    refine hTopics.imp ?_
    intro topic topic' hOther
    simp only [Function.onFun, List.disjoint_left, List.mem_map]
    rintro _ ⟨client, -, rfl⟩ ⟨client', -, hSame⟩
    exact hOther (Prod.mk.inj (Prod.mk.inj hSame).1).1.symm

theorem subscriptions_eq (r : Registry H) : r.subscriptions = r.listing.map Prod.snd := by
  simp only [subscriptions, listing, Table.values, List.flatMap_map, List.map_flatMap,
    List.map_map]
  rfl

theorem size_eq (r : Registry H) : r.size = r.listing.length := by
  simp only [size, listing, Table.values, List.flatMap_map, List.length_flatMap,
    List.length_map]

namespace Represents

variable {f : Flat H}

theorem empty : Represents ({} : Registry H) {} where
  pruned := pruned_empty 0
  pairs _ _ := rfl
  nextTicket := rfl

theorem perm_listing (h : Represents r f) : r.listing.Perm f.pairs.entries := by
  rw [List.perm_ext_iff_of_nodup r.nodup_listing f.pairs.nodup.of_map]
  rintro ⟨⟨topic, client⟩, s⟩
  rw [mem_listing_iff, h.pairs, Table.get?_eq_some_iff]

theorem topic_iff (h : Represents r f) (topic : String) :
    r.topics.get? topic ≠ none ↔ ∃ client, f.pairs.get? (topic, client) ≠ none := by
  rw [h.pruned.topic_iff]
  simp only [h.pairs]

theorem contains_eq (h : Represents r f) (topic client : String) :
    r.contains topic client = f.pairs.contains (topic, client) := by
  rw [Registry.contains, Table.contains, h.pairs]

theorem containsTopic_eq (h : Represents r f) (topic : String) :
    r.containsTopic topic = f.pairs.keys.any fun pair => pair.1 = topic := by
  rw [Bool.eq_iff_iff, containsTopic, Table.contains_iff, h.topic_iff]
  simp [Table.keys, Option.ne_none_iff_exists', Table.get?_eq_some_iff]

theorem size_eq (h : Represents r f) : r.size = f.pairs.size := by
  rw [Registry.size_eq, h.perm_listing.length_eq, Table.size]

theorem isEmpty_eq (h : Represents r f) : r.isEmpty = f.pairs.isEmpty := by
  rw [Bool.eq_iff_iff, isEmpty, Table.isEmpty_iff, Table.isEmpty_iff]
  have hTopics := fun topic => not_congr (h.topic_iff topic)
  simp only [ne_eq, not_exists, not_not] at hTopics
  simp [hTopics]

/-! ## Requests -/

theorem stored (h : Represents r f) (hPruned : r'.Pruned) (hNext : r'.nextTicket = nextTicket)
    {s : Subscription H} (hPairs : ∀ topic' client', r'.get? topic' client' =
      if topic' = topic ∧ client' = client then some s else r.get? topic' client') :
    Represents r' { pairs := f.pairs.insert (topic, client) s, nextTicket } where
  pruned := hPruned
  pairs topic' client' := by
    rw [hPairs, Table.get?_insert, h.pairs]
    simp only [Prod.mk.injEq]
  nextTicket := hNext

theorem dropped (h : Represents r f) (hPruned : r'.Pruned) (hNext : r'.nextTicket = r.nextTicket)
    (hPairs : ∀ topic' client', r'.get? topic' client' =
      if topic' = topic ∧ client' = client then none else r.get? topic' client') :
    Represents r' { f with pairs := f.pairs.erase (topic, client) } where
  pruned := hPruned
  pairs topic' client' := by
    rw [hPairs, Table.get?_erase, h.pairs]
    simp only [Prod.mk.injEq]
  nextTicket := hNext.trans h.nextTicket

theorem carrying?_eq_some_iff (h : Represents r f) {s : Subscription H} :
    f.carrying? (topic, client) ticket = some s ↔
      r.get? topic client = some s ∧ s.ticket = ticket := by
  rw [Flat.carrying?, ← h.pairs, Option.filter_eq_some_iff, decide_eq_true_eq]

theorem carrying?_eq_none_iff (h : Represents r f) :
    f.carrying? (topic, client) ticket = none ↔
      ∀ s, r.get? topic client = some s → s.ticket ≠ ticket := by
  rw [Option.eq_none_iff_forall_ne_some]
  simp [h.carrying?_eq_some_iff]

variable (h : Represents r f) (topic client : String) (ticket : Nat)

include h

theorem reserve (handler : H) :
    (r.serve (.reserve topic client handler)).1 = (f.serve (.reserve topic client handler)).1 ∧
      Represents (r.serve (.reserve topic client handler)).2
        (f.serve (.reserve topic client handler)).2 := by
  cases hReserve : r.reserve? topic client handler with
  | none =>
    have hTaken : f.pairs.contains (topic, client) = true := by
      rw [Table.contains_iff, ← h.pairs]
      exact reserve?_eq_none_iff.mp hReserve
    simp only [Registry.serve, Flat.serve, hReserve, hTaken, if_true, true_and]
    exact h
  | some drawn =>
    obtain ⟨ticket, r'⟩ := drawn
    obtain ⟨rfl, hNext, hFree, hPairs⟩ := reserve?_eq_some hReserve
    have hFree' : ¬f.pairs.contains (topic, client) = true := by
      rw [Table.contains_iff, ← h.pairs]
      exact not_not_intro hFree
    simp only [Registry.serve, Flat.serve, hReserve, hFree', if_false, Bool.false_eq_true,
      ← h.nextTicket, true_and]
    exact h.stored (h.pruned.reserve hReserve) hNext hPairs

theorem attach (handle : Nat) :
    (r.serve (.attach topic client ticket handle)).1 =
        (f.serve (.attach topic client ticket handle)).1 ∧
      Represents (r.serve (.attach topic client ticket handle)).2
        (f.serve (.attach topic client ticket handle)).2 := by
  cases hAttach : r.attach? topic client ticket handle with
  | none =>
    have hOther := h.carrying?_eq_none_iff.mpr (attach?_eq_none_iff.mp hAttach)
    simp only [Registry.serve, Flat.serve, hAttach, hOther, true_and]
    exact h
  | some r' =>
    obtain ⟨s, hPair, hTicket, hNext, hPairs⟩ := attach?_eq_some hAttach
    have hOwn := h.carrying?_eq_some_iff.mpr ⟨hPair, hTicket⟩
    simp only [Registry.serve, Flat.serve, hAttach, hOwn, true_and]
    exact h.stored (h.pruned.attach hAttach) (hNext.trans h.nextTicket) hPairs

theorem discard :
    Represents (r.serve (.discard topic client ticket)).2
      (f.serve (.discard topic client ticket)).2 := by
  have hPruned := h.pruned.discard topic client ticket
  cases hCarrying : f.carrying? (topic, client) ticket with
  | none =>
    have hOther := discard_of_other (h.carrying?_eq_none_iff.mp hCarrying)
    simp only [Registry.serve, Flat.serve, hCarrying, hOther]
    exact h
  | some s =>
    obtain ⟨hPair, hTicket⟩ := h.carrying?_eq_some_iff.mp hCarrying
    obtain ⟨hNext, hPairs⟩ := discard_of_own hPair hTicket
    simp only [Registry.serve, Flat.serve, hCarrying]
    exact h.dropped hPruned hNext hPairs

theorem remove :
    (r.serve (.remove topic client)).1 = (f.serve (.remove topic client)).1 ∧
      Represents (r.serve (.remove topic client)).2 (f.serve (.remove topic client)).2 := by
  cases hRemove : r.remove? topic client with
  | none =>
    have hNone := remove?_eq_none_iff.mp hRemove
    simp only [Registry.serve, Flat.serve, hRemove, ← h.pairs, hNone, true_and]
    refine h.dropped h.pruned rfl fun topic' client' => ?_
    split
    · rename_i hSame
      rw [hSame.1, hSame.2, hNone]
    · rfl
  | some removed =>
    obtain ⟨s, r'⟩ := removed
    obtain ⟨hPair, hNext, hPairs⟩ := remove?_eq_some hRemove
    simp only [Registry.serve, Flat.serve, hRemove, ← h.pairs, hPair, true_and]
    exact h.dropped (h.pruned.remove hRemove) hNext hPairs

omit topic client ticket

theorem drain :
    Reply.Agrees (r.serve .drain).1 (f.serve .drain).1 ∧
      Represents (r.serve .drain).2 (f.serve .drain).2 := by
  constructor
  · refine .drained ?_
    rw [Registry.drain, subscriptions_eq]
    exact h.perm_listing.map Prod.snd
  · exact ⟨pruned_empty _, fun _ _ => rfl, h.nextTicket⟩

theorem serve (request : Request H) :
    Reply.Agrees (r.serve request).1 (f.serve request).1 ∧
      Represents (r.serve request).2 (f.serve request).2 := by
  cases request with
  | reserve topic client handler =>
    obtain ⟨hReply, hAfter⟩ := h.reserve topic client handler
    exact ⟨hReply ▸ .same _, hAfter⟩
  | attach topic client ticket handle =>
    obtain ⟨hReply, hAfter⟩ := h.attach topic client ticket handle
    exact ⟨hReply ▸ .same _, hAfter⟩
  | discard topic client ticket =>
    have hReply : (f.serve (.discard topic client ticket)).1 = .discarded := by
      rw [Flat.serve]
      split
      · rfl
      · rfl
    exact ⟨hReply ▸ .same _, h.discard topic client ticket⟩
  | remove topic client =>
    obtain ⟨hReply, hAfter⟩ := h.remove topic client
    exact ⟨hReply ▸ .same _, hAfter⟩
  | drain => exact h.drain

theorem serveAll (requests : List (Request H)) :
    List.Forall₂ Reply.Agrees (Registry.serveAll Registry.serve r requests).1
        (Registry.serveAll Flat.serve f requests).1 ∧
      Represents (Registry.serveAll Registry.serve r requests).2
        (Registry.serveAll Flat.serve f requests).2 := by
  induction requests generalizing r f with
  | nil => exact ⟨.nil, h⟩
  | cons request rest ih =>
    obtain ⟨hReply, hAfter⟩ := h.serve request
    obtain ⟨hReplies, hEnd⟩ := ih hAfter
    exact ⟨.cons hReply hReplies, hEnd⟩

end Represents

/-! ## Tickets -/

theorem tickets_cons (reply : Reply H) (replies : List (Reply H)) :
    tickets (reply :: replies) = tickets [reply] ++ tickets replies :=
  List.filterMap_append (l := [reply])

/-- A request draws the next ticket or leaves the counter alone. -/
theorem draws (r : Registry H) (request : Request H) :
    (tickets [(r.serve request).1] = [r.nextTicket] ∧
        (r.serve request).2.nextTicket = r.nextTicket + 1) ∨
      (tickets [(r.serve request).1] = [] ∧
        (r.serve request).2.nextTicket = r.nextTicket) := by
  cases request with
  | reserve topic client handler =>
    cases hReserve : r.reserve? topic client handler with
    | none => simp [serve, hReserve, tickets]
    | some drawn =>
      obtain ⟨ticket, r'⟩ := drawn
      obtain ⟨rfl, hNext, -⟩ := reserve?_eq_some hReserve
      simp [serve, hReserve, tickets, hNext]
  | attach topic client ticket handle =>
    cases hAttach : r.attach? topic client ticket handle with
    | none => simp [serve, hAttach, tickets]
    | some r' =>
      obtain ⟨s, -, -, hNext, -⟩ := attach?_eq_some hAttach
      simp [serve, hAttach, tickets, hNext]
  | discard topic client ticket => simp [serve, tickets, nextTicket_discard]
  | remove topic client =>
    cases hRemove : r.remove? topic client with
    | none => simp [serve, hRemove, tickets]
    | some removed =>
      obtain ⟨s, r'⟩ := removed
      obtain ⟨-, hNext, -⟩ := remove?_eq_some hRemove
      simp [serve, hRemove, tickets, hNext]
  | drain => simp [serve, tickets, drain]

theorem tickets_serveAll (r : Registry H) (requests : List (Request H)) :
    ∃ n, tickets (serveAll serve r requests).1 = List.range' r.nextTicket n ∧
      (serveAll serve r requests).2.nextTicket = r.nextTicket + n := by
  induction requests generalizing r with
  | nil => exact ⟨0, rfl, rfl⟩
  | cons request rest ih =>
    obtain ⟨n, hTickets, hNext⟩ := ih (r.serve request).2
    rw [serveAll, tickets_cons]
    dsimp only
    rw [hTickets, hNext]
    cases r.draws request with
    | inl hDrawn =>
      refine ⟨n + 1, ?_, by omega⟩
      rw [hDrawn.1, hDrawn.2, List.range'_succ]
      rfl
    | inr hNone =>
      refine ⟨n, ?_, by omega⟩
      rw [hNone.1, hNone.2, List.nil_append]

/-! ## Runs -/

/-- What the registry answered and holds, against the single map. -/
structure Refines (run : List (Reply H) × Registry H) (flat : List (Reply H) × Flat H) :
    Prop where
  replies : List.Forall₂ Reply.Agrees run.1 flat.1
  pairs : ∀ topic client, run.2.get? topic client = flat.2.pairs.get? (topic, client)
  topics : ∀ topic t, run.2.topics.get? topic = some t → t.name = topic ∧ t.isEmpty = false
  contains : ∀ topic client, run.2.contains topic client = flat.2.pairs.contains (topic, client)
  containsTopic : ∀ topic, run.2.containsTopic topic =
    flat.2.pairs.keys.any fun pair => pair.1 = topic
  size : run.2.size = flat.2.pairs.size
  isEmpty : run.2.isEmpty = flat.2.pairs.isEmpty
  ascending : (tickets run.1).Pairwise (· < ·)
  /-- Every number below the counter was handed out, so no refusal has used one up. -/
  drawn : tickets run.1 = List.range run.2.nextTicket

/-- Over every run the two levels come to one map. -/
theorem refines_flat (requests : List (Request H)) :
    Refines (serveAll serve {} requests) (serveAll Flat.serve {} requests) := by
  obtain ⟨hReplies, h⟩ := Represents.empty.serveAll requests
  obtain ⟨n, hTickets, hNext⟩ := tickets_serveAll {} requests
  have hDrawn : tickets (serveAll serve {} requests).1 =
      List.range (serveAll serve {} requests).2.nextTicket := by
    rw [hTickets, hNext, Nat.zero_add, List.range_eq_range']
  exact {
    replies := hReplies
    pairs := h.pairs
    topics := h.pruned
    contains := h.contains_eq
    containsTopic := h.containsTopic_eq
    size := h.size_eq
    isEmpty := h.isEmpty_eq
    ascending := hDrawn ▸ List.pairwise_lt_range
    drawn := hDrawn }

end Registry

end DeviceBus
