import DeviceBus.Hub

/-! # Subscriptions as one flat list

What the library comes to for its callers when one request is answered before
the next: a list of members, each a client of a facade with the topic or pattern
that it has subscribed to. There are no tickets, handles, routes or queues here,
and no octets but those that come from outside.
-/

namespace DeviceBus

variable {H : Type}

structure Member (H : Type) where
  facade : Nat
  client : String
  topic : String
  handler : H

inductive Request (H : Type) where
  | publish (facade : Nat) (channel : String) (message : Envelope)
  | subscribe (facade : Nat) (client topic : String) (handler : H)
  | unsubscribe (facade : Nat) (client topic : String)
  /-- Octets that come straight to the broker. -/
  | inject (subject : String) (data : Bytes)

inductive Notice (H : Type) where
  | received (facade : Nat) (handler : H) (message : Envelope)
  | cancelled (facade : Nat) (handler : H)

/-- What a request returns, if it is a call, and what handlers hear of it. -/
structure Outcome (H : Type) where
  result : Option (Except FacadeError Unit)
  notices : List (Notice H) := []

abbrev Roster (H : Type) := List (Member H)

def Member.holds (i : Nat) (client topic : String) (m : Member H) : Bool :=
  m.facade = i && m.client = client && m.topic = topic

namespace Roster

def failed (roster : Roster H) (e : FacadeError) : Outcome H × Roster H :=
  ({ result := some (.error e) }, roster)

/-- Every member whose topic selects the subject receives the message, once. -/
def delivered (roster : Roster H) (subject : String) (message : Envelope) : List (Notice H) :=
  (roster.filter fun m => Subject.selects m.topic subject).map fun m =>
    .received m.facade m.handler message

def serve [Handler H] (roster : Roster H) : Request H → Outcome H × Roster H
  | .publish _ channel message =>
      if channel = "" ∨ message.channel = "" then roster.failed .emptyTopic
      else
        ({ result := some (.ok ())
           notices := roster.delivered (Subject.topicName channel message.subtopic) message },
          roster)
  | .subscribe i client topic handler =>
      if topic = "" then roster.failed .emptyTopic
      else if client = "" then roster.failed .emptyId
      else if roster.any (Member.holds i client topic) then roster.failed .alreadySubscribed
      else ({ result := some (.ok ()) }, roster ++ [{ facade := i, client, topic, handler }])
  | .unsubscribe i client topic =>
      if topic = "" then roster.failed .emptyTopic
      else if client = "" then roster.failed .emptyId
      else
        match roster.find? (Member.holds i client topic) with
        | none => roster.failed .notSubscribed
        | some m =>
            -- The member is gone, whatever its handler answers.
            ({ result := some ((Handler.onCancel m.handler).mapError .handler)
               notices := [.cancelled i m.handler] },
              roster.filter fun m => !m.holds i client topic)
  | .inject subject data =>
      match Envelope.ofBytes? data with
      | none => ({ result := none }, roster)
      | some message => ({ result := none, notices := roster.delivered subject message }, roster)

def serveAll [Handler H] (roster : Roster H) : List (Request H) → List (Outcome H) × Roster H
  | [] => ([], roster)
  | r :: rest =>
      let (outcome, roster) := roster.serve r
      let (outcomes, roster) := roster.serveAll rest
      (outcome :: outcomes, roster)

/-- No facade has the same client twice on one topic. -/
def Distinct (roster : Roster H) : Prop :=
  (roster.map fun m => (m.facade, m.client, m.topic)).Nodup

theorem distinct_nil : Distinct ([] : Roster H) :=
  List.Pairwise.nil

section

variable [Handler H] {roster : Roster H}

theorem distinct_serve (hDistinct : roster.Distinct) (r : Request H) :
    (roster.serve r).2.Distinct := by
  cases r with
  | publish i channel message =>
    rw [serve]
    split
    · exact hDistinct
    · exact hDistinct
  | subscribe i client topic handler =>
    rw [serve]
    split
    · exact hDistinct
    split
    · exact hDistinct
    split
    · exact hDistinct
    · rename_i hFree
      rw [Distinct, List.map_append, List.nodup_append]
      refine ⟨hDistinct, List.pairwise_singleton _ _, ?_⟩
      rintro _ hOld _ hNew rfl
      obtain ⟨m, hm, hSame⟩ := List.mem_map.mp hOld
      have hKey := hSame.trans (List.mem_singleton.mp hNew)
      exact hFree (List.any_eq_true.mpr ⟨m, hm, by simpa [Member.holds, and_assoc] using hKey⟩)
  | unsubscribe i client topic =>
    rw [serve]
    split
    · exact hDistinct
    split
    · exact hDistinct
    split
    · exact hDistinct
    · exact hDistinct.sublist (List.filter_sublist.map _)
  | inject subject data =>
    rw [serve]
    split
    · exact hDistinct
    · exact hDistinct

theorem distinct_serveAll (hDistinct : roster.Distinct) (requests : List (Request H)) :
    (roster.serveAll requests).2.Distinct := by
  induction requests generalizing roster with
  | nil => exact hDistinct
  | cons r rest ih => exact ih (distinct_serve hDistinct r)

end

/-! ## What handlers answer -/

theorem serve_indifferent (a b : Handler H) (roster : Roster H) (r : Request H) :
    (@serve H a roster r).1.notices = (@serve H b roster r).1.notices ∧
      (@serve H a roster r).2 = (@serve H b roster r).2 := by
  cases r with
  | unsubscribe i client topic =>
    simp only [serve]
    split
    · exact ⟨rfl, rfl⟩
    split
    · exact ⟨rfl, rfl⟩
    split
    · exact ⟨rfl, rfl⟩
    · exact ⟨rfl, rfl⟩
  | _ => exact ⟨rfl, rfl⟩

theorem serveAll_indifferent (a b : Handler H) (roster : Roster H) (requests : List (Request H)) :
    (@serveAll H a roster requests).1.map Outcome.notices =
        (@serveAll H b roster requests).1.map Outcome.notices ∧
      (@serveAll H a roster requests).2 = (@serveAll H b roster requests).2 := by
  induction requests generalizing roster with
  | nil => exact ⟨rfl, rfl⟩
  | cons r rest ih =>
    obtain ⟨hNotices, hRoster⟩ := serve_indifferent a b roster r
    obtain ⟨hRest, hEnd⟩ := ih (@serve H b roster r).2
    constructor
    · change (@serve H a roster r).1.notices ::
          (@serveAll H a (@serve H a roster r).2 rest).1.map Outcome.notices =
        (@serve H b roster r).1.notices ::
          (@serveAll H b (@serve H b roster r).2 rest).1.map Outcome.notices
      rw [hNotices, hRoster, hRest]
    · change (@serveAll H a (@serve H a roster r).2 rest).2 =
        (@serveAll H b (@serve H b roster r).2 rest).2
      rw [hRoster, hEnd]

end Roster

end DeviceBus
