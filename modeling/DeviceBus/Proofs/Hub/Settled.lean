import DeviceBus.Proofs.Broker.Changes
import DeviceBus.Proofs.Broker.Fanout
import DeviceBus.Proofs.Envelope
import DeviceBus.Proofs.Hub.Perform
import DeviceBus.Proofs.Roster
import Mathlib.Data.List.Nodup

/-! # One request after the other

A hub is settled when no call is in flight and no message waits. Its subscriptions
are then a list of links: a member, the ticket that it has in its facade and the
route that it has in the broker. A request that is carried to its end, with all
mailboxes emptied after it, leads from one settled hub to the next, and what it
returns and what handlers hear are those of the members alone.
-/

namespace DeviceBus

variable {H : Type}

structure Link (H : Type) where
  member : Member H
  ticket : Nat
  id : Nat

namespace Link

def subscription (l : Link H) : Subscription H :=
  { ticket := l.ticket, handle := some l.id, handler := l.member.handler }

def route (l : Link H) : Route (Tap H) :=
  { id := l.id, connection := l.member.facade, pattern := l.member.topic
    tap := { facade := l.member.facade, ticket := l.ticket, handler := l.member.handler } }

end Link

def Request.step : Request H → Step H
  | .publish i channel message => .publish i channel message .carried
  | .subscribe i client topic handler => .subscribe i client topic handler
  | .unsubscribe i client topic => .unsubscribe i client topic
  | .inject subject data => .route subject data

/-- The request is made on one of the facades, with a message that can be written. -/
def Request.Fits (facades : Nat) : Request H → Prop
  | .publish i _ message => i < facades ∧ message.Fits
  | .subscribe i _ _ _ => i < facades
  | .unsubscribe i _ _ => i < facades
  | .inject _ _ => True

def Report.notice? : Report H → Option (Notice H)
  | .handled i _ handler message => some (.received i handler message)
  | .cancelled i _ handler => some (.cancelled i handler)
  | .returned _ _ => none

namespace Hub

variable {h g : Hub H} {links : List (Link H)} {l : Link H}

/-- A request carried to its end, and then all that waits in the mailboxes. -/
def serve [Handler H] (h : Hub H) (r : Request H) : Outcome H × Hub H :=
  let (h, first, result) := h.perform {} r.step
  let (h, others) := h.dispatchAll h.broker.backlog
  ({ result, notices := (first ++ others).filterMap Report.notice? }, h)

def serveAll [Handler H] (h : Hub H) : List (Request H) → List (Outcome H) × Hub H
  | [] => ([], h)
  | r :: rest =>
      let (outcome, h) := h.serve r
      let (outcomes, h) := h.serveAll rest
      (outcome :: outcomes, h)

structure Settled (h : Hub H) (links : List (Link H)) : Prop where
  calls : h.calls = []
  mailboxes : h.broker.mailboxes = []
  owned : h.broker.Owned
  routes : h.broker.routes = links.map Link.route
  connected : ∀ i < h.facades.length, (h.broker.connection i).closed = false
  plain : ∀ i, (h.facade i).group = none
  pair : ∀ l ∈ links, h.pair? l.member.facade l.member.topic l.member.client = some l.subscription
  linked : ∀ i topic client s, h.pair? i topic client = some s →
    ∃ l ∈ links, l.member.holds i client topic = true
  active : ∀ l ∈ links, l.ticket ∈ (h.facade l.member.facade).active
  drawn : ∀ l ∈ links, l.ticket < (h.facade l.member.facade).registry.nextTicket
  tickets : ∀ l ∈ links, ∀ l' ∈ links, l.member.facade = l'.member.facade →
    l.ticket = l'.ticket → l = l'

theorem holds_iff {m : Member H} {i : Nat} {client topic : String} :
    m.holds i client topic = true ↔ m.facade = i ∧ m.client = client ∧ m.topic = topic := by
  simp [Member.holds, and_assoc]

/-! ## Links and members -/

theorem Settled.pair_of_holds (hSettled : h.Settled links) (hl : l ∈ links) {i : Nat}
    {client topic : String} (hHolds : l.member.holds i client topic = true) :
    h.pair? i topic client = some l.subscription := by
  obtain ⟨rfl, rfl, rfl⟩ := holds_iff.mp hHolds
  exact hSettled.pair l hl

theorem Settled.ids_nodup (hSettled : h.Settled links) : (links.map Link.id).Nodup := by
  have hIds := hSettled.owned.ids_nodup
  rw [hSettled.routes, List.map_map] at hIds
  exact hIds

/-- Routes and pairs name the same links. -/
theorem Settled.id_iff (hSettled : h.Settled links) {l₀ : Link H} (hl₀ : l₀ ∈ links)
    (hl : l ∈ links) {i : Nat} {client topic : String}
    (hHolds : l₀.member.holds i client topic = true) :
    (l.id = l₀.id ∧ l.member.facade = i) ↔ l.member.holds i client topic = true := by
  constructor
  · rintro ⟨hSame, -⟩
    rwa [List.inj_on_of_nodup_map hSettled.ids_nodup hl hl₀ hSame]
  · intro hOwn
    have hPair := hSettled.pair_of_holds hl hOwn
    rw [hSettled.pair_of_holds hl₀ hHolds] at hPair
    have hHandle := congrArg (Option.map Subscription.handle) hPair
    simp only [Option.map_some, Link.subscription, Option.some.injEq] at hHandle
    exact ⟨hHandle.symm, (holds_iff.mp hOwn).1⟩

theorem Settled.find? (hSettled : h.Settled links) (i : Nat) (client topic : String) :
    (h.pair? i topic client = none ∧
        (links.map Link.member).find? (Member.holds i client topic) = none) ∨
      ∃ l ∈ links, l.member.holds i client topic = true ∧
        h.pair? i topic client = some l.subscription ∧
        (links.map Link.member).find? (Member.holds i client topic) = some l.member := by
  cases hFind : (links.map Link.member).find? (Member.holds i client topic) with
  | none =>
    refine .inl ⟨?_, rfl⟩
    cases hPair : h.pair? i topic client with
    | none => rfl
    | some s =>
      obtain ⟨l, hl, hHolds⟩ := hSettled.linked i topic client s hPair
      exact (List.find?_eq_none.mp hFind l.member (List.mem_map_of_mem hl) hHolds).elim
  | some m =>
    obtain ⟨l, hl, rfl⟩ := List.mem_map.mp (List.mem_of_find?_eq_some hFind)
    have hHolds := List.find?_some hFind
    exact .inr ⟨l, hl, hHolds, hSettled.pair_of_holds hl hHolds, rfl⟩

theorem Settled.of_same (hSettled : h.Settled links) (hCalls : g.calls = [])
    (hMailboxes : g.broker.mailboxes = []) (hRoutes : Broker.SameRoutes h.broker g.broker)
    (hFacades : g.facades = h.facades) : g.Settled links := by
  have hFacade : ∀ i, g.facade i = h.facade i := facade_congr hFacades
  have hPair : ∀ i topic client, g.pair? i topic client = h.pair? i topic client :=
    fun i topic client => by rw [pair?, hFacade, ← pair?]
  constructor
  · exact hCalls
  · exact hMailboxes
  · exact hSettled.owned.of_sameRoutes hRoutes
  · exact hRoutes.routes.trans hSettled.routes
  · intro i hBound
    rw [hFacades] at hBound
    rw [hRoutes.connection]
    exact hSettled.connected i hBound
  · simpa only [hFacade] using hSettled.plain
  · simpa only [hPair] using hSettled.pair
  · simpa only [hPair] using hSettled.linked
  · simpa only [hFacade] using hSettled.active
  · simpa only [hFacade] using hSettled.drawn
  · exact hSettled.tickets

/-! ## Emptying the mailboxes -/

/-- What the dispatch of a message to one route lets its surroundings know. -/
def told (h : Hub H) (data : Bytes) (r : Route (Tap H)) : List (Report H) :=
  ((h.facade r.tap.facade).receive? r.tap.ticket data).toList.map fun message =>
    .handled r.tap.facade r.tap.ticket r.tap.handler message

theorem dispatchAll_letters [Handler H] (targets : List (Route (Tap H))) (data : Bytes)
    (hNodup : (targets.map Route.id).Nodup)
    (hMailboxes : h.broker.mailboxes = targets.map (Broker.letter data)) :
    h.dispatchAll targets.length =
      ({ h with broker := { h.broker with mailboxes := [] } }, targets.flatMap (h.told data)) := by
  induction targets generalizing h with
  | nil =>
    rw [List.map_nil] at hMailboxes
    rw [← hMailboxes]
    rfl
  | cons r rest ih =>
    rw [List.map_cons, List.nodup_cons] at hNodup
    rw [List.map_cons] at hMailboxes
    -- One letter for each route, so that the first mailbox is empty after one dispatch.
    have hOther : ∀ m ∈ rest.map (Broker.letter data), m.route ≠ r.id := by
      intro m hm
      obtain ⟨r', hr', rfl⟩ := List.mem_map.mp hm
      rintro (hSame : r'.id = r.id)
      exact hNodup.1 (hSame ▸ List.mem_map_of_mem hr')
    have hNext : h.broker.nextMailbox? = some r.id := by
      rw [Broker.nextMailbox?, hMailboxes]
      rfl
    have hDispatch : h.dispatch r.id =
        ({ h with broker := { h.broker with mailboxes := rest.map (Broker.letter data) } },
          h.told data r) := by
      simp only [dispatch, handed_eq, Broker.takeFrom?_letter hMailboxes hOther, told,
        facade_broker]
      cases (h.facade r.tap.facade).receive? r.tap.ticket data with
      | none => rfl
      | some message => rfl
    have hRest := ih (h := { h with
      broker := { h.broker with mailboxes := rest.map (Broker.letter data) } }) hNodup.2 rfl
    rw [List.length_cons, dispatchAll]
    simp only [hNext, hDispatch, hRest, List.flatMap_cons]
    rfl

theorem backlog_letters (targets : List (Route (Tap H))) (data : Bytes)
    (hMailboxes : h.broker.mailboxes = targets.map (Broker.letter data)) :
    h.broker.backlog = targets.length := by
  rw [Broker.backlog, hMailboxes]
  simp [Broker.letter, List.flatMap_map]

theorem dispatchAll_quiet [Handler H] (hQuiet : h.broker.mailboxes = []) :
    h.dispatchAll h.broker.backlog = (h, []) := by
  have hNone : h.broker.backlog = 0 := by
    rw [Broker.backlog, hQuiet]
    rfl
  rw [hNone]
  rfl

/-- Octets that come to a settled broker are dispatched to the members whose topic
selects the subject, if they are an envelope. -/
theorem Settled.dispatchAll [Handler H] (hSettled : h.Settled links) (subject : String)
    (data : Bytes) (hCalls : g.calls = []) (hFacades : g.facades = h.facades)
    (hBroker : g.broker = (h.broker.route subject data).2) :
    (g.dispatchAll g.broker.backlog).1.Settled links ∧
      (g.dispatchAll g.broker.backlog).2.filterMap Report.notice? =
        ((Envelope.ofBytes? data).map
          (Roster.delivered (links.map Link.member) subject)).getD [] := by
  have hPlain : ∀ r ∈ h.broker.routes, r.group = none := by
    rw [hSettled.routes]
    intro r hr
    obtain ⟨l, -, rfl⟩ := List.mem_map.mp hr
    rfl
  have hMailboxes : g.broker.mailboxes = (h.broker.matching subject).map (Broker.letter data) := by
    rw [hBroker]
    exact Broker.mailboxes_route hSettled.owned hPlain hSettled.mailboxes subject data
  have hMatching : h.broker.matching subject =
      (links.filter fun l => Subject.selects l.member.topic subject).map Link.route := by
    rw [Broker.matching, hSettled.routes, List.filter_map]
    rfl
  have hTold : ∀ l ∈ links, (g.told data l.route).filterMap Report.notice? =
      ((Envelope.ofBytes? data).map fun message =>
        .received l.member.facade l.member.handler message).toList := by
    intro l hl
    have hReceive : (g.facade l.member.facade).receive? l.ticket data =
        Envelope.ofBytes? data := by
      rw [facade_congr hFacades]
      exact if_pos (hSettled.active l hl)
    simp only [told, Link.route, hReceive]
    cases Envelope.ofBytes? data with
    | none => rfl
    | some message => rfl
  rw [backlog_letters _ data hMailboxes, dispatchAll_letters _ data
    (Broker.nodup_matching hSettled.owned subject) hMailboxes]
  constructor
  · refine hSettled.of_same hCalls rfl ?_ hFacades
    rw [hBroker]
    exact ⟨rfl, rfl, rfl⟩
  · rw [hMatching, List.filterMap_flatMap, List.flatMap_map]
    have hEach : ∀ l ∈ links.filter (fun l => Subject.selects l.member.topic subject),
        (g.told data l.route).filterMap Report.notice? =
          ((Envelope.ofBytes? data).map fun message =>
            .received l.member.facade l.member.handler message).toList :=
      fun l hl => hTold l (List.mem_filter.mp hl).1
    rw [List.flatMap_congr hEach]
    cases Envelope.ofBytes? data with
    | none =>
      simp only [Option.map_none, Option.toList_none, Option.getD_none]
      exact List.flatMap_eq_nil_iff.mpr fun _ _ => rfl
    | some message =>
      simp only [Option.map_some, Option.toList_some, Option.getD_some, Roster.delivered,
        List.filter_map, List.map_map]
      rw [List.map_eq_flatMap]
      rfl

end Hub

end DeviceBus
