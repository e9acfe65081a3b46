import DeviceBus.Proofs.Gateway.Keeps

/-! # Registrations and their feeds

Between two steps of a gateway no call of its facade is under way, and a feed
has a handler exactly as long as its own registration is in the registry. A new
registration under the same client and topic has a feed of its own.
-/

namespace DeviceBus.Gateway

open Coap Observe

variable {g g' : Gateway}

/-- The delivery at a position serves a pair from the feed at that position. -/
def Serves (g : Gateway) (k : Nat) (topic client : String) : Prop :=
  (g.deliveries.map Delivery.serves)[k]? = some (topic, client, k)

structure Sound (g : Gateway) : Prop where
  idle : g.hub.calls = []
  facades : 0 < g.hub.facades.length
  feeds : g.feeds.length = g.deliveries.length
  own_feed : ∀ (k j : Nat) (topic client : String),
    (g.deliveries.map Delivery.serves)[k]? = some (topic, client, j) → j = k
  named : ∀ topic client s, g.pair? topic client = some s → topic ≠ "" ∧ client ≠ ""
  registered : ∀ k topic client, g.Serves k topic client → (g.feed k).sending = true →
    ∃ s, g.pair? topic client = some s ∧ s.handler = .feed k
  served : ∀ topic client s k, g.pair? topic client = some s → s.handler = .feed k →
    g.Serves k topic client ∧ (g.feed k).sending = true

theorem Sound.keep (h : g.Sound) (hKeeps : Keeps g g') : g'.Sound := by
  have hServes : ∀ k topic client, g'.Serves k topic client ↔ g.Serves k topic client := by
    intro k topic client
    rw [Serves, Serves, hKeeps.served]
  constructor
  · rw [hKeeps.calls, h.idle]
  · rw [hKeeps.facades]
    exact h.facades
  · have hLength : g'.deliveries.length = g.deliveries.length := by
      simpa using congrArg List.length hKeeps.served
    rw [hKeeps.feeds, hLength, h.feeds]
  · rw [hKeeps.served]
    exact h.own_feed
  · intro topic client s
    rw [hKeeps.pairs]
    exact h.named topic client s
  · intro k topic client
    rw [hServes, hKeeps.sending, hKeeps.pairs]
    exact h.registered k topic client
  · intro topic client s k
    rw [hServes, hKeeps.sending, hKeeps.pairs]
    exact h.served topic client s k

theorem sound_opened (group : Option String) (authorizer : Authorizer) (settings : Settings)
    (firstId : UInt16) : (opened group authorizer settings firstId).Sound where
  idle := rfl
  facades := Nat.zero_lt_one
  feeds := rfl
  own_feed k j topic client hAt := by cases hAt
  named topic client s hPair := by cases hPair
  registered k topic client hServes := by cases hServes
  served topic client s k hPair := by cases hPair

/-! ## Handlers that are cancelled -/

theorem deliveries_absorbOne (g : Gateway) (r : Report Consumer) :
    (g.absorbOne r).deliveries = g.deliveries := by
  cases r with
  | handled i ticket consumer message =>
    cases consumer with
    | listener name onCancel => rfl
    | feed index =>
      simp only [absorbOne]
      split
      · rfl
      · rfl
  | cancelled i ticket consumer =>
    cases consumer with
    | listener name onCancel => rfl
    | feed index => rfl
  | returned number result => rfl

theorem deliveries_absorb (g : Gateway) (reports : List (Report Consumer)) :
    (g.absorb reports).deliveries = g.deliveries := by
  induction reports generalizing g with
  | nil => rfl
  | cons r rest ih => exact (ih (g.absorbOne r)).trans (deliveries_absorbOne g r)

theorem deliveries_perform (g : Gateway) (s : DeviceBus.Step Consumer) :
    (g.perform s).1.deliveries = g.deliveries :=
  deliveries_absorb _ _

theorem hub_cancelled (g : Gateway) (i ticket : Nat) (consumer : Consumer) :
    (g.absorbOne (.cancelled i ticket consumer)).hub = g.hub := by
  cases consumer with
  | listener name onCancel => rfl
  | feed index => rfl

theorem length_feeds_cancelled (g : Gateway) (i ticket : Nat) (consumer : Consumer) :
    (g.absorbOne (.cancelled i ticket consumer)).feeds.length = g.feeds.length := by
  cases consumer with
  | listener name onCancel => rfl
  | feed index => exact List.length_set

/-- Cancelling the handler of a feed ends this feed and no other. -/
theorem sending_cancelled_iff (g : Gateway) (i ticket : Nat) (consumer : Consumer) (k : Nat) :
    ((g.absorbOne (.cancelled i ticket consumer)).feed k).sending = true ↔
      (g.feed k).sending = true ∧ consumer ≠ .feed k := by
  cases consumer with
  | listener name onCancel =>
    constructor
    · exact fun hSending => ⟨hSending, by simp⟩
    · exact fun hSending => hSending.1
  | feed j =>
    simp only [absorbOne, feed_setFeed]
    split
    · rename_i hSame
      simp [Feed.cancel, hSame.1]
    · rename_i hOther
      constructor
      · intro hSending
        refine ⟨hSending, ?_⟩
        rintro ⟨rfl⟩
        have hAbsent : g.feeds.length ≤ k := Nat.le_of_not_lt fun hBound => hOther ⟨rfl, hBound⟩
        rw [feed, List.getD_eq_default _ _ hAbsent] at hSending
        cases hSending
      · exact fun hSending => hSending.1

/-- A pair goes with its handler. -/
theorem Sound.cancelled (h : g.Sound) {hub : Hub Consumer} {topic client : String}
    {s : Subscription Consumer} (hPair : g.pair? topic client = some s) (hIdle : hub.calls = [])
    (hFacades : hub.facades.length = g.hub.facades.length)
    (hPairs : ∀ t c, hub.pair? 0 t c = if t = topic ∧ c = client then none else g.pair? t c) :
    (({ g with hub } : Gateway).absorbOne (.cancelled 0 s.ticket s.handler)).Sound := by
  have hHub := hub_cancelled { g with hub } 0 s.ticket s.handler
  have hDeliveries := deliveries_absorbOne { g with hub } (.cancelled 0 s.ticket s.handler)
  have hFeeds := length_feeds_cancelled { g with hub } 0 s.ticket s.handler
  have hSending := sending_cancelled_iff { g with hub } 0 s.ticket s.handler
  generalize ({ g with hub } : Gateway).absorbOne (.cancelled 0 s.ticket s.handler) = g' at *
  have hServes : ∀ k t c, g'.Serves k t c ↔ g.Serves k t c := by
    intro k t c
    rw [Serves, Serves, hDeliveries]
  have hOld : ∀ t c s', g'.pair? t c = some s' →
      ¬(t = topic ∧ c = client) ∧ g.pair? t c = some s' := by
    intro t c s' hs
    rw [pair?, hHub, hPairs] at hs
    split at hs
    · cases hs
    · rename_i hOther
      exact ⟨hOther, hs⟩
  constructor
  · rw [hHub, hIdle]
  · rw [hHub, hFacades]
    exact h.facades
  · rw [hFeeds, hDeliveries]
    exact h.feeds
  · rw [hDeliveries]
    exact h.own_feed
  · exact fun t c s' hs => h.named t c s' (hOld t c s' hs).2
  · intro k t c hAt hOpen
    obtain ⟨hOpen, hOther⟩ := (hSending k).mp hOpen
    obtain ⟨s', hs, hHandler⟩ := h.registered k t c ((hServes k t c).mp hAt) hOpen
    refine ⟨s', ?_, hHandler⟩
    rw [pair?, hHub, hPairs, if_neg, hs]
    rintro ⟨rfl, rfl⟩
    rw [hPair] at hs
    cases hs
    exact hOther hHandler
  · intro t c s' k hs hHandler
    obtain ⟨hOther, hs⟩ := hOld t c s' hs
    obtain ⟨hAt, hOpen⟩ := h.served t c s' k hs hHandler
    refine ⟨(hServes k t c).mpr hAt, (hSending k).mpr ⟨hOpen, fun hSame => ?_⟩⟩
    have hAt' := (h.served topic client s k hPair hSame).1
    rw [Serves] at hAt hAt'
    rw [hAt] at hAt'
    cases hAt'
    exact hOther ⟨rfl, rfl⟩

/-! ## Calls of the facade -/

theorem unsubscribe_cases (h : g.Sound) (client topic : String) :
    (∃ e, g.unsubscribe client topic =
        ({ g with hub := { g.hub with nextCall := g.hub.nextCall + 1 } }, .error e) ∧
        g.pair? topic client = none) ∨
      ∃ s hub result, g.pair? topic client = some s ∧
        g.unsubscribe client topic =
          (({ g with hub } : Gateway).absorbOne (.cancelled 0 s.ticket s.handler), result) ∧
        hub.calls = [] ∧ hub.facades.length = g.hub.facades.length ∧
        ∀ t c, hub.pair? 0 t c = if t = topic ∧ c = client then none else g.pair? t c := by
  rcases Hub.perform_unsubscribe h.idle h.facades client topic with
    ⟨e, hPerform, hCause⟩ | ⟨s, hub, result, hPair, hPerform, hRest⟩
  · refine .inl ⟨e, by simp [unsubscribe, perform, hPerform, absorb, absorbOne], ?_⟩
    cases hPair : g.pair? topic client with
    | none => rfl
    | some s =>
      obtain ⟨hTopic, hClient⟩ := h.named topic client s hPair
      rcases hCause with hNone | hEmpty | hEmpty
      · exact hPair.symm.trans hNone
      · exact (hTopic hEmpty).elim
      · exact (hClient hEmpty).elim
  · exact .inr ⟨s, hub, result, hPair, by simp [unsubscribe, perform, hPerform, absorb, absorbOne],
      hRest⟩

theorem sound_unsubscribe (h : g.Sound) (client topic : String) :
    (g.unsubscribe client topic).1.Sound := by
  rcases unsubscribe_cases h client topic with
    ⟨e, hUnsubscribe, -⟩ | ⟨s, hub, result, hPair, hUnsubscribe, hIdle, hFacades, hPairs⟩
  · rw [hUnsubscribe]
    exact h.keep (keeps_of_same rfl rfl rfl rfl)
  · rw [hUnsubscribe]
    exact h.cancelled hPair hIdle hFacades hPairs

theorem subscribe_cases (h : g.Sound) (client topic : String) (consumer : Consumer) :
    (∃ e hub, g.subscribe client topic consumer = ({ g with hub }, .error e) ∧
        Keeps g { g with hub }) ∨
      ∃ s hub, g.pair? topic client = none ∧ topic ≠ "" ∧ client ≠ "" ∧ s.handler = consumer ∧
        g.subscribe client topic consumer = ({ g with hub }, .ok ()) ∧
        hub.calls = [] ∧ hub.facades.length = g.hub.facades.length ∧
        ∀ t c, hub.pair? 0 t c = if t = topic ∧ c = client then some s else g.pair? t c := by
  obtain ⟨hub, result, hPerform, hIdle, hFacades, hOutcome⟩ :=
    Hub.perform_subscribe h.idle h.facades client topic consumer
  have hSubscribe : g.subscribe client topic consumer = ({ g with hub }, result) := by
    simp [subscribe, perform, hPerform, absorb, absorbOne]
  rcases hOutcome with ⟨rfl, hFree, hTopic, hClient, s, hHandler, hPairs⟩ | ⟨⟨e, rfl⟩, hPairs⟩
  · exact .inr ⟨s, hub, hFree, hTopic, hClient, hHandler, hSubscribe, hIdle, hFacades, hPairs⟩
  · exact .inl ⟨e, hub, hSubscribe, hIdle.trans h.idle.symm, hFacades, hPairs, rfl,
      fun k => rfl, rfl⟩

theorem sound_subscribe (h : g.Sound) (client topic name : String)
    (onCancel : Except HandlerError Unit) :
    (g.subscribe client topic (.listener name onCancel)).1.Sound := by
  rcases subscribe_cases h client topic (.listener name onCancel) with
    ⟨e, hub, hSubscribe, hKeeps⟩ |
      ⟨s, hub, hFree, hTopic, hClient, hListener, hSubscribe, hIdle, hFacades, hPairs⟩
  · rw [hSubscribe]
    exact h.keep hKeeps
  · rw [hSubscribe]
    constructor
    · exact hIdle
    · exact hFacades ▸ h.facades
    · exact h.feeds
    · exact h.own_feed
    · intro t c s' hs
      rw [pair?, hPairs] at hs
      split at hs
      · rename_i hSame
        rw [hSame.1, hSame.2]
        exact ⟨hTopic, hClient⟩
      · exact h.named t c s' hs
    · intro k t c hAt hOpen
      obtain ⟨s', hs, hHandler⟩ := h.registered k t c hAt hOpen
      refine ⟨s', ?_, hHandler⟩
      rw [pair?, hPairs, if_neg, hs]
      rintro ⟨rfl, rfl⟩
      rw [hFree] at hs
      cases hs
    · intro t c s' k hs hHandler
      rw [pair?, hPairs] at hs
      split at hs
      · cases hs
        rw [hListener] at hHandler
        cases hHandler
      · exact h.served t c s' k hs hHandler

/-- The delivery of a new registration comes with a feed of its own. -/
theorem Sound.spawned (h : g.Sound) {hub : Hub Consumer} {topic client : String}
    {s : Subscription Consumer} {d : Delivery} (hFree : g.pair? topic client = none)
    (hTopic : topic ≠ "") (hClient : client ≠ "") (hHandler : s.handler = .feed g.feeds.length)
    (hIdle : hub.calls = []) (hFacades : hub.facades.length = g.hub.facades.length)
    (hPairs : ∀ t c, hub.pair? 0 t c = if t = topic ∧ c = client then some s else g.pair? t c)
    (hServes : d.serves = (topic, client, g.feeds.length)) :
    ({ g with
      hub, feeds := g.feeds ++ [{}], deliveries := g.deliveries ++ [d] } : Gateway).Sound := by
  have hAt : ∀ (k : Nat) r, ((g.deliveries ++ [d]).map Delivery.serves)[k]? = some r ↔
      (g.deliveries.map Delivery.serves)[k]? = some r ∨
        k = g.feeds.length ∧ r = (topic, client, g.feeds.length) := by
    intro k r
    rw [List.map_append, List.map_singleton, hServes, Positions.getElem?_concat_iff,
      List.length_map, h.feeds]
  have hFeed : ∀ (k : Nat) r, (g.deliveries.map Delivery.serves)[k]? = some r →
      (g.feeds ++ [({} : Feed)]).getD k { sending := false, receiving := false } = g.feed k := by
    intro k r hr
    refine List.getD_append _ _ _ _ ?_
    rw [h.feeds, ← List.length_map Delivery.serves]
    exact (List.getElem?_eq_some_iff.mp hr).1
  constructor
  · exact hIdle
  · exact hFacades ▸ h.facades
  · simp only [List.length_append, h.feeds, List.length_singleton]
  · intro k j t c hr
    rcases (hAt k _).mp hr with hOld | ⟨rfl, hNew⟩
    · exact h.own_feed k j t c hOld
    · cases hNew
      rfl
  · intro t c s' hs
    rw [pair?, hPairs] at hs
    split at hs
    · rename_i hSame
      rw [hSame.1, hSame.2]
      exact ⟨hTopic, hClient⟩
    · exact h.named t c s' hs
  · intro k t c hr hOpen
    rcases (hAt k _).mp hr with hOld | ⟨rfl, hNew⟩
    · rw [feed, hFeed k _ hOld] at hOpen
      obtain ⟨s', hs, hOwn⟩ := h.registered k t c hOld hOpen
      refine ⟨s', ?_, hOwn⟩
      rw [pair?, hPairs, if_neg, hs]
      rintro ⟨rfl, rfl⟩
      rw [hFree] at hs
      cases hs
    · cases hNew
      exact ⟨s, (hPairs topic client).trans (if_pos ⟨rfl, rfl⟩), hHandler⟩
  · intro t c s' k hs hOwn
    rw [pair?, hPairs] at hs
    split at hs
    · rename_i hSame
      cases hs
      rw [hHandler] at hOwn
      cases hOwn
      rw [hSame.1, hSame.2]
      exact ⟨(hAt _ _).mpr (.inr ⟨rfl, rfl⟩), by simp [feed]⟩
    · obtain ⟨hOld, hOpen⟩ := h.served t c s' k hs hOwn
      refine ⟨(hAt k _).mpr (.inl hOld), ?_⟩
      rw [feed, hFeed k _ hOld]
      exact hOpen

/-- What cancelling many handlers leaves. -/
theorem absorb_cancelled (g : Gateway) (subs : List (Subscription Consumer)) (i : Nat) :
    (g.absorb (subs.map fun s => .cancelled i s.ticket s.handler)).hub = g.hub ∧
      (g.absorb (subs.map fun s => .cancelled i s.ticket s.handler)).feeds.length =
        g.feeds.length ∧
      ∀ k, ((g.absorb (subs.map fun s => .cancelled i s.ticket s.handler)).feed k).sending = true →
        (g.feed k).sending = true ∧ ∀ s ∈ subs, s.handler ≠ .feed k := by
  induction subs generalizing g with
  | nil =>
    refine ⟨rfl, rfl, fun k hOpen => ⟨hOpen, ?_⟩⟩
    intro s hs
    cases hs
  | cons s rest ih =>
    obtain ⟨hHub, hFeeds, hSending⟩ := ih (g.absorbOne (.cancelled i s.ticket s.handler))
    refine ⟨hHub.trans (hub_cancelled g i s.ticket s.handler),
      hFeeds.trans (length_feeds_cancelled g i s.ticket s.handler), fun k hOpen => ?_⟩
    obtain ⟨hAfter, hOthers⟩ := hSending k hOpen
    obtain ⟨hBefore, hOwn⟩ := (sending_cancelled_iff g i s.ticket s.handler k).mp hAfter
    refine ⟨hBefore, fun s' hs' => ?_⟩
    rcases List.mem_cons.mp hs' with rfl | hRest
    · exact hOwn
    · exact hOthers s' hRest

theorem sound_close (h : g.Sound) : g.close.Sound := by
  obtain ⟨hub, hPerform, hIdle, hFacades, hPairs⟩ := Hub.perform_close h.idle h.facades
  have hClose : g.close = ({ g with hub } : Gateway).absorb
      ((g.hub.facade 0).drain.1.map fun s => .cancelled 0 s.ticket s.handler) := by
    simp [close, perform, hPerform, absorb, absorbOne]
  obtain ⟨hHub, hFeeds, hSending⟩ := absorb_cancelled { g with hub } (g.hub.facade 0).drain.1 0
  have hDeliveries := deliveries_absorb { g with hub }
    ((g.hub.facade 0).drain.1.map fun s => .cancelled 0 s.ticket s.handler)
  rw [← hClose] at hHub hFeeds hSending hDeliveries
  have hNone : ∀ t c, g.close.pair? t c = none := by
    intro t c
    rw [pair?, hHub, hPairs]
  constructor
  · rw [hHub, hIdle]
  · rw [hHub, hFacades]
    exact h.facades
  · rw [hFeeds, hDeliveries]
    exact h.feeds
  · rw [hDeliveries]
    exact h.own_feed
  · intro t c s hs
    rw [hNone] at hs
    cases hs
  · intro k t c hAt hOpen
    -- The pair was among those that were drained, so its feed has ended.
    obtain ⟨hBefore, hOthers⟩ := hSending k hOpen
    rw [Serves, hDeliveries] at hAt
    obtain ⟨s, hs, hHandler⟩ := h.registered k t c hAt hBefore
    exact (hOthers s (Registry.mem_drain_iff.mpr ⟨t, c, hs⟩) hHandler).elim
  · intro t c s k hs
    rw [hNone] at hs
    cases hs

end DeviceBus.Gateway
