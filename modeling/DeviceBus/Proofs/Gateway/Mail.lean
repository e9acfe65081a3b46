import DeviceBus.Proofs.Gateway.Turns
import DeviceBus.Proofs.Hub.Standing

/-! # The mail of a gateway

An event hands the broker at most one message, takes at most one from it, and makes at most
one other call of the facade. So the facade and the broker keep their agreement, and each
feed is fed by one route only.
-/

namespace DeviceBus.Gateway

open Coap Observe

variable {g g' : Gateway} {k : Nat} {o : Observation} {e : Event} {wall : Int64} {peer : Peer}
  {p : Packet}

/-! ## Publications -/

/-- The channel and the message that an event asks to publish. -/
def Event.post? (authorizer : Authorizer) : Event → Option (String × Envelope)
  | .publish channel message => some (channel, message)
  | .packet wall _ p =>
      if (p.kind = .confirmable ∨ p.kind = .nonConfirmable) ∧ p.code = Code.post ∧
          ¬(p.kind = .confirmable ∧ p.payload = []) then
        match ChannelPath.parse? p.uriPath with
        | none => none
        | some path =>
            if Subject.isWildcard path.subtopic then none
            else
              match authorizer wall ((p.queryParam credentialKey).getD "") path.channel with
              | .error _ => none
              | .ok publisher => some (path.channel, posting wall p path publisher)
      else none
  | _ => none

/-- What an event hands the broker, or takes from it. -/
def mail (g : Gateway) (e : Event) : Mail :=
  match e with
  | .route subject data => .posted subject data
  | .dispatch route => .taken route
  | e =>
      match e.post? g.authorizer with
      | none => .none
      | some (channel, message) =>
          match (g.publish channel message).2 with
          | .ok () => .posted (Subject.topicName channel message.subtopic) message.toBytes
          | .error _ => .none

theorem post?_packet {path : ChannelPath} {publisher : String} {authorizer : Authorizer}
    (hAdmitted : Admitted authorizer wall p path publisher) (hCode : p.code = Code.post)
    (hConcrete : Subject.isWildcard path.subtopic = false)
    (hPayload : ¬(p.kind = .confirmable ∧ p.payload = [])) :
    (Event.packet wall peer p).post? authorizer =
      some (path.channel, posting wall p path publisher) := by
  have hAccess : authorizer wall ((p.queryParam credentialKey).getD "") path.channel =
      .ok publisher := hAdmitted.access
  rw [Event.post?, if_pos ⟨hAdmitted.kind, hCode, hPayload⟩, hAdmitted.parsed]
  simp only [hConcrete, Bool.false_eq_true, if_false, hAccess]

theorem admitted_of_post? {authorizer : Authorizer} {channel : String} {message : Envelope}
    (hPost : (Event.packet wall peer p).post? authorizer = some (channel, message)) :
    ∃ path publisher, Admitted authorizer wall p path publisher ∧ p.code = Code.post ∧
      Subject.isWildcard path.subtopic = false ∧ ¬(p.kind = .confirmable ∧ p.payload = []) ∧
      channel = path.channel ∧ message = posting wall p path publisher := by
  unfold Event.post? at hPost
  dsimp only at hPost
  split at hPost
  · rename_i hRequest
    split at hPost
    · cases hPost
    · rename_i path hPath
      split at hPost
      · cases hPost
      · rename_i hConcrete
        split at hPost
        · cases hPost
        · rename_i publisher hAccess
          cases hPost
          exact ⟨path, publisher, ⟨hRequest.1, hPath, hAccess⟩, hRequest.2.1,
            eq_false_of_ne_true hConcrete, hRequest.2.2, rfl, rfl⟩
  · cases hPost

/-! ## Effects of events -/

/-- The event has an effect on the facade and the broker. -/
def Affects (g g' : Gateway) (mail : Mail) : Prop :=
  Hub.Effect 0 g.facade g.hub.broker mail g'.facade g'.hub.broker

theorem affects_of_same (hHub : g'.hub = g.hub) : Affects g g' .none := by
  have hFacade : g'.facade = g.facade := by rw [facade, hHub, facade]
  rw [Affects, hFacade, hHub]
  exact .rests

theorem Affects.idle {outcome : Option Packet × Gateway} {mail : Mail} (h : Affects g g' mail)
    (hIdle : g'.Idle outcome) : Affects g outcome.2 mail := by
  obtain ⟨reply, acks, nextId, rfl, -⟩ := hIdle
  exact h

theorem affects_publish (hSound : g.Sound) (channel : String) (message : Envelope) :
    Affects g (g.publish channel message).1
      (match (g.publish channel message).2 with
        | .ok () => .posted (Subject.topicName channel message.subtopic) message.toBytes
        | .error _ => .none) := by
  obtain ⟨result, hResult, hEffect⟩ := Hub.effect_publish hSound.idle 0 channel message
  have hHub := hub_perform g (.publish 0 channel message .carried)
  have hSame : (g.publish channel message).2 = result :=
    congrArg (fun r => r.getD (.ok ())) hResult
  rw [Affects, hSame, facade, facade, publish, hHub]
  exact hEffect

theorem affects_subscribe (hSound : g.Sound) (client topic : String) (consumer : Consumer) :
    Affects g (g.subscribe client topic consumer).1 .none := by
  rw [Affects, facade, facade, subscribe, hub_perform]
  exact Hub.effect_subscribe hSound.idle hSound.facades client topic consumer

theorem affects_unsubscribe (hSound : g.Sound) (client topic : String) :
    Affects g (g.unsubscribe client topic).1 .none := by
  rw [Affects, facade, facade, unsubscribe, hub_perform]
  exact Hub.effect_unsubscribe hSound.idle hSound.facades client topic

theorem affects_close (hSound : g.Sound) : Affects g g.close .none := by
  rw [Affects, facade, facade, close, hub_perform]
  exact Hub.effect_close hSound.idle hSound.facades

theorem affects_register (hSound : g.Sound) (request : Packet) (o : Observation) :
    Affects g (g.register request o).2 .none := by
  have hSubscribe := affects_subscribe hSound o.client o.topic (.feed g.feeds.length)
  rcases register_cases g request o with
    ⟨g₁, d, reply, nextId, hOk, hRegister⟩ | ⟨g₁, e, reply, nextId, hError, hRegister⟩
  · rw [hOk] at hSubscribe
    rw [hRegister]
    exact hSubscribe
  · rw [hError] at hSubscribe
    rw [hRegister]
    exact hSubscribe

theorem affects_handle (hSound : g.Sound) (wall : Int64) (peer : Peer) (p : Packet) :
    Affects g (g.handle wall peer p).2 (g.mail (.packet wall peer p)) := by
  cases hPost : (Event.packet wall peer p).post? g.authorizer with
  | some asked =>
    obtain ⟨channel, message⟩ := asked
    obtain ⟨path, publisher, hAdmitted, hCode, hConcrete, hPayload, rfl, rfl⟩ :=
      admitted_of_post? hPost
    have hRequest : Code.isRequest p.code = true := by
      rw [hCode]
      decide
    have hHandle : g.handle wall peer p = g.handlePost wall p path := by
      rw [handle_request g wall peer hAdmitted.kind hRequest]
      simp only [handleRequest, hAdmitted.parsed, hCode, if_true]
    simp only [mail, hPost]
    rw [hHandle]
    exact (affects_publish hSound path.channel _).idle
      (idle_handlePost hConcrete hPayload hAdmitted.access)
  | none =>
    simp only [mail, hPost]
    have hHandled := handled_handle g wall peer p
    generalize g.handle wall peer p = outcome at hHandled
    cases hHandled with
    | idle hIdle => exact (affects_of_same rfl).idle hIdle
    | posted hAdmitted hCode hConcrete hPayload hOutcome =>
      cases hPost.symm.trans (post?_packet hAdmitted hCode hConcrete hPayload)
    | registered hAdmitted hCode hObserve hOutcome =>
      rw [hOutcome]
      exact affects_register hSound p _
    | deregistered hAdmitted hCode hObserve hOutcome =>
      exact (affects_unsubscribe hSound _ _).idle hOutcome

theorem Turned.affects {d : Delivery} (h : Turned g g' k d) (hSound : g.Sound) :
    Affects g g' .none := by
  obtain ⟨packets, d', f, -, hTakes⟩ := h
  rcases hTakes.hub with hSame | ⟨client, topic, hRemoved⟩
  · exact affects_of_same hSame
  · have hUnsubscribe := affects_unsubscribe hSound client topic
    rw [Affects, facade, facade, unsubscribe, hub_perform] at hUnsubscribe
    rw [Affects, facade, facade, hRemoved]
    exact hUnsubscribe

theorem affects_dispatch (g : Gateway) (route : Nat) :
    Affects g (g.dispatch route) (.taken route) := by
  have hHub : (g.dispatch route).hub = (g.hub.dispatch route).1 := hub_absorb _ _
  rw [Affects, facade, facade, hHub]
  unfold Hub.dispatch
  split
  · rename_i hNone
    exact .misses hNone
  · rename_i tap data broker hTake
    have hEffect : Hub.Effect 0 (g.hub.facade 0) g.hub.broker (.taken route) (g.hub.facade 0)
        broker := .hands hTake
    dsimp only
    split
    · exact hEffect
    · exact hEffect

theorem affects_step (hSound : g.Sound) (hAlive : g.Alive) (e : Event) :
    Affects g (g.step e) (g.mail e) := by
  have hActed : ∀ j, e.acts j = true → Affects g (g.step e) .none := by
    intro j hActs
    rcases acts_cases hSound hAlive hActs with hSame | ⟨d, hTurned⟩
    · exact affects_of_same (by rw [hSame])
    · exact hTurned.affects hSound
  cases e with
  | packet wall peer p =>
    obtain ⟨log, hReceive⟩ := receive_eq g wall peer p
    rw [step, hReceive]
    exact affects_handle hSound wall peer p
  | publish channel message => exact affects_publish hSound channel message
  | subscribe client topic listener onCancel => exact affects_subscribe hSound client topic _
  | unsubscribe client topic => exact affects_unsubscribe hSound client topic
  | close => exact affects_close hSound
  | route subject data => exact .posts subject data
  | dispatch route => exact affects_dispatch g route
  | poll j => exact hActed j (decide_eq_true rfl)
  | alarm j => exact hActed j (decide_eq_true rfl)
  | elapse millis => exact affects_of_same rfl
  | transport outcome => exact affects_of_same rfl

/-! ## One route for each feed -/

/-- The facade and the broker agree, only feeds that exist are fed, and each by one route. -/
structure Wired (g : Gateway) : Prop where
  standing : Hub.Standing 0 g.facade g.hub.broker
  exists_feed : ∀ id tap j, g.hub.broker.Bound id tap → tap.handler = .feed j → j < g.feeds.length
  sole : ∀ id tap id' tap' j, g.hub.broker.Bound id tap → g.hub.broker.Bound id' tap' →
    tap.handler = .feed j → tap'.handler = .feed j → id = id'

theorem wired_opened (authorizer : Authorizer) (settings : Settings) (firstId : UInt16) :
    (opened none authorizer settings firstId).Wired where
  standing := Hub.standing_opened
  exists_feed id tap j hBound := by
    rcases hBound with ⟨r, hr, -⟩ | ⟨m, hm, -⟩
    · cases hr
    · cases hm
  sole id tap id' tap' j hBound := by
    rcases hBound with ⟨r, hr, -⟩ | ⟨m, hm, -⟩
    · cases hr
    · cases hm

theorem going_of_feed (hSound : g.Sound) (hAlive : g.Alive) (hBound : k < g.feeds.length) :
    ∃ o, g.Going k o := by
  rw [hSound.feeds] at hBound
  exact ⟨_, hSound, hAlive, _, List.getElem?_eq_getElem hBound, rfl⟩

theorem Going.lt_feeds (h : g.Going k o) : k < g.feeds.length := by
  obtain ⟨d, hAt, -⟩ := h.delivery
  exact h.sound.bound hAt

/-- A feed that is there already is not given to a pair that is new. -/
theorem Going.not_new (h : g.Going k o) {topic client : String} {s : Subscription Consumer}
    (hFree : g.pair? topic client = none) (hNew : (g.step e).pair? topic client = some s) :
    s.handler ≠ .feed k := by
  intro hHandler
  obtain ⟨hAfter, hOpen⟩ := h.step e
  obtain ⟨hServes, hSending⟩ := hAfter.sound.served topic client s k hNew hHandler
  obtain ⟨d, hAt, rfl⟩ := h.delivery
  obtain ⟨d', hAt', hSame⟩ := hAfter.delivery
  have hOwn := hAfter.sound.serves hAt'
  rw [Serves] at hServes hOwn
  rw [hOwn, hSame] at hServes
  cases hServes
  obtain ⟨s', hPair, -⟩ := h.sound.registered k _ _ (h.sound.serves hAt) (hOpen hSending)
  cases hFree.symm.trans hPair

theorem wired_step (hSound : g.Sound) (hAlive : g.Alive) (h : g.Wired) (e : Event) :
    (g.step e).Wired := by
  have hAffects := affects_step hSound hAlive e
  have hAfter := sound_step hSound e
  have hNew := hAffects.bound h.standing.reached
  have hKept : ∀ j, j < g.feeds.length → j < (g.step e).feeds.length := by
    intro j hBound
    obtain ⟨o, hGoing⟩ := going_of_feed hSound hAlive hBound
    exact (hGoing.step e).1.lt_feeds
  -- A new pair has a feed of its own, so that no feed is fed by two routes.
  have hApart : ∀ id tap topic client s j, g.hub.broker.Bound id tap → tap.handler = .feed j →
      g.facade.registry.get? topic client = none →
        (g.step e).facade.registry.get? topic client = some s → s.handler ≠ .feed j := by
    intro id tap topic client s j hBound hTap hFree hPair
    obtain ⟨o, hGoing⟩ := going_of_feed hSound hAlive (h.exists_feed id tap j hBound hTap)
    exact hGoing.not_new hFree hPair
  constructor
  · exact h.standing.effect hAffects
  · intro id tap j hBound hTap
    rcases hNew id tap hBound with hOld | ⟨-, topic, client, s, -, hPair, hHandler⟩
    · exact hKept j (h.exists_feed id tap j hOld hTap)
    · have hServes := (hAfter.served topic client s j hPair (hHandler.trans hTap)).1
      rw [Serves] at hServes
      obtain ⟨hLess, -⟩ := List.getElem?_eq_some_iff.mp hServes
      rwa [List.length_map, ← hAfter.feeds] at hLess
  · intro id tap id' tap' j hBound hBound' hTap hTap'
    rcases hNew id tap hBound with hOld | ⟨rfl, topic, client, s, hFree, hPair, hHandler⟩
    · rcases hNew id' tap' hBound' with hOld' | ⟨-, topic, client, s, hFree, hPair, hHandler⟩
      · exact h.sole id tap id' tap' j hOld hOld' hTap hTap'
      · exact (hApart id tap topic client s j hOld hTap hFree hPair (hHandler.trans hTap')).elim
    · rcases hNew id' tap' hBound' with hOld' | ⟨rfl, -⟩
      · exact (hApart id' tap' topic client s j hOld' hTap' hFree hPair (hHandler.trans hTap)).elim
      · rfl

theorem wired_run (hSound : g.Sound) (hAlive : g.Alive) (h : g.Wired) (events : List Event) :
    (g.run events).Wired :=
  keeps_run (fun _ => wired_step) hSound hAlive h events

end DeviceBus.Gateway
