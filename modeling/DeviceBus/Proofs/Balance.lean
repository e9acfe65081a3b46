import DeviceBus.Proofs.Broker.Rota
import DeviceBus.Proofs.Mqtt.Rota
import DeviceBus.Proofs.Mqtt.Separation

/-! # Two ways to share the work of a group

The broker finds the members of a group anew for each message and keeps their turn in a table.
A lane keeps its members and its turn itself. Both are the same rota, so they hand each message
to the same member, as long as a group that somebody has joined is never left by all.
-/

namespace DeviceBus

namespace Broker

variable {T : Type} {j : Journal T} {key : String × String}

/-- What the broker has dealt a member, handed over or still waiting, is what the member took. -/
theorem Faithful.dealt_eq (hFaithful : Faithful j) {route : Route T}
    (hr : route ∈ members j.opened key) :
    (j.handedTo route.id).map Handover.data ++ j.broker.waiting route.id =
      (j.postings.filter fun m =>
        j.number key route ∈ j.numbers key (m.broker.recipients m.subject)).map Posting.data := by
  rw [hFaithful.fifo, Journal.share]
  apply congrArg (List.map Posting.data)
  apply List.filter_congr
  intro m hm
  have hKnown : ∀ route ∈ m.broker.recipients m.subject, route ∈ j.opened := fun route hRecipient =>
    hFaithful.known m hm route (mem_recipients hRecipient)
  rw [decide_eq_decide, mem_targets_iff hFaithful hm (mem_members_iff.mp hr).1,
    hFaithful.number_mem_iff hr hKnown]

end Broker

open Broker

/-- A run of the broker and what was asked of a connection with one shared filter. -/
structure Alike {T : Type} (j : Broker.Journal T) (key : String × String)
    (asked : List (Mqtt.Request Nat)) : Prop where
  /-- The lane gives the members the numbers that they have in the broker. -/
  joined : (({} : Mqtt.Journal Nat).run asked).added =
    (List.range (members j.opened key).length).map (Mqtt.rider (Mqtt.wireFilter key.2 (some key.1)))
  staff : (({} : Mqtt.Journal Nat).run asked).live.map Mqtt.Member.id =
    j.numbers key j.broker.routes
  takers : j.takers key = ({} : Mqtt.Journal Nat).answers asked
  dealt : ∀ route ∈ members j.opened key,
    (j.handedTo route.id).map Handover.data ++ j.broker.waiting route.id =
      (j.postings.filter fun m =>
        j.number key route ∈ j.numbers key (m.broker.recipients m.subject)).map Posting.data

/-- A lane that is asked what a group of the broker is asked hands each message to the same
member, whatever else goes on in the broker. -/
theorem balancers_alike {T : Type} (acts : List (Act T)) (key : String × String)
    (hStaffed : ({} : Rota).Staffed (({} : Broker.Journal T).script key acts)) :
    Alike (({} : Broker.Journal T).run acts) key
      (Mqtt.requests (Mqtt.wireFilter key.2 (some key.1)) {}
        (({} : Broker.Journal T).script key acts)) := by
  have hFaithful := faithful_run (T := T) faithful_empty acts
  have hEmpty : Follows ({} : Broker.Journal T) key {} := ⟨rfl, rfl, rfl⟩
  obtain ⟨hFollows, hTakers⟩ := hEmpty.run faithful_empty acts
  obtain ⟨hRides, hAnswers⟩ :=
    (Mqtt.Rides.empty _).run (Mqtt.isShared_group key.2 key.1) hStaffed
  refine
    { joined := ?_, staff := ?_, takers := ?_, dealt := fun route => hFaithful.dealt_eq }
  · rw [hRides.added, hFollows.joined]
  · rw [hRides.live, hFollows.staff, List.map_map]
    exact List.map_id _
  · rw [hTakers, hAnswers]
    rfl

/-- Members of a group join and leave among other subscriptions and messages, two of them at
once with their connection. -/
def relieved : List (Act String) :=
  [.connect, .connect, .route "a.b" [0], .subscribe 0 "a.*" (some "q") "x",
    .subscribe 0 "a.*" none "plain", .subscribe 1 "a.*" (some "q") "y", .route "a.b" [1],
    .subscribe 1 "a.*" (some "q") "z", .publish 0 "a.c" [2], .route "b" [3],
    .subscribe 0 "a.b" (some "q") "other", .unsubscribe 1 0, .unsubscribe 0 0, .route "a.d" [4],
    .dispatch 0, .subscribe 0 "a.*" (some "q") "w", .close 1, .route "a.b" [5], .route "a.b" [6]]

theorem balancers_alike_relieved :
    ({} : Broker.Journal String).script ("q", "a.*") relieved =
        [.message, .join, .join, .message, .join, .message, .leave 0, .message, .join, .leave 1,
          .leave 2, .message, .message] ∧
      (({} : Broker.Journal String).run relieved).takers ("q", "a.*") =
        [[], [0], [1], [1], [3], [3]] ∧
      Alike (({} : Broker.Journal String).run relieved) ("q", "a.*")
        (Mqtt.requests (Mqtt.wireFilter "a.*" (some "q")) {}
          (({} : Broker.Journal String).script ("q", "a.*") relieved)) := by
  have hScript : ({} : Broker.Journal String).script ("q", "a.*") relieved =
      [.message, .join, .join, .message, .join, .message, .leave 0, .message, .join, .leave 1,
        .leave 2, .message, .message] := by cbv
  refine ⟨hScript, by cbv, balancers_alike relieved ("q", "a.*") ?_⟩
  rw [hScript, Rota.Staffed]
  decide

end DeviceBus
