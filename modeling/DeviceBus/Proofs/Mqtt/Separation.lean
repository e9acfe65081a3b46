import DeviceBus.Proofs.Mqtt.Dispatch
import DeviceBus.Proofs.Subject.Levels

/-! # Who shares a lane

A lane belongs to a filter, and topics that are translated alike have one filter. Beyond that
the lanes of a connection keep subscriptions apart, provided that a group's name has no slash
and no topic begins like the filter of a group. A lane is a group's lane, whatever the group's
name is.
-/

namespace DeviceBus

namespace Mqtt

open Subject

variable {H : Type}

/-! ## Filters -/

/-- What a facade subscribes to, alone or for its queue group. -/
structure Subscription where
  topic : String
  queue : Option String := none
  deriving DecidableEq

namespace Subscription

def filter (s : Subscription) : String :=
  wireFilter s.topic s.queue

/-- Whether there is a group can be told from the filter: a topic alone does not begin like
the filter of a group. -/
def Plain (s : Subscription) : Prop :=
  s.queue = none → ¬"$share.".toList <+: s.topic.toList ∧ ¬"$share/".toList <+: s.topic.toList

/-- It can also be told which group it is. -/
structure Separable (s : Subscription) : Prop where
  plain : s.Plain
  whole : ∀ group, s.queue = some group → '/' ∉ group.toList

end Subscription

theorem isShared_iff {filter : String} :
    isShared filter = true ↔ sharedHead.toList <+: filter.toList :=
  List.isPrefixOf_iff_prefix

theorem toList_wireFilter_group (topic group : String) :
    (wireFilter topic (some group)).toList =
      sharedHead.toList ++ (group.toList ++ '/' :: (toTopicFilter topic).toList) := by
  simp [wireFilter]

theorem isShared_group (topic group : String) :
    isShared (wireFilter topic (some group)) = true := by
  rw [isShared_iff, toList_wireFilter_group]
  exact List.prefix_append _ _

/-- When the first dot of a text becomes a slash, it begins with a head and a slash just if
it began with the head and either of them. -/
theorem prefix_slash_iff (head : List Char) {t : List Char} (hSlash : '/' ∉ head)
    (hDot : '.' ∉ head) (hWhole : '.' ∉ t) (r r' : List Char) :
    head ++ ['/'] <+: t ++ '/' :: r ↔
      head ++ ['.'] <+: t ++ '.' :: r' ∨ head ++ ['/'] <+: t ++ '.' :: r' := by
  induction head generalizing t with
  | nil =>
    cases t with
    | nil => simp
    | cons c t =>
      have hNotDot : '.' ≠ c := fun hSame => hWhole (hSame ▸ List.mem_cons_self)
      simp [List.cons_prefix_cons, hNotDot]
  | cons a head ih =>
    rw [List.mem_cons, not_or] at hSlash hDot
    cases t with
    | nil => simp [List.cons_prefix_cons, Ne.symm hSlash.1, Ne.symm hDot.1]
    | cons c t =>
      have hRest := ih hSlash.2 hDot.2 (fun hc => hWhole (List.mem_cons_of_mem c hc))
      simp only [List.cons_append, List.cons_prefix_cons, hRest, and_or_left]

/-- A topic alone has a shared filter just when it begins like the filter of a group. -/
theorem isShared_alone_iff (topic : String) : isShared (wireFilter topic none) = true ↔
    "$share.".toList <+: topic.toList ∨ "$share/".toList <+: topic.toList := by
  have hTopic : ['.'].intercalate (tokens topic) = topic.toList := List.intercalate_splitOn _
  have hFilter : (wireFilter topic none).toList =
      ['/'].intercalate ((tokens topic).map filterLevel) := String.toList_ofList
  have hWhole : ∀ t ∈ tokens topic, '.' ∉ t := fun t ht => not_mem_of_mem_tokens ht
  have hLevel : ∀ (t : Token) (r : List Char),
      sharedHead.toList <+: filterLevel t ++ r ↔ sharedHead.toList <+: t ++ r := by
    intro t r
    unfold filterLevel
    split
    · rename_i hRest
      simp [hRest, sharedHead, anyRest, List.cons_prefix_cons]
    · split
      · rename_i hOne
        simp [hOne, sharedHead, anyOne, List.cons_prefix_cons]
      · rfl
  rw [isShared_iff, hFilter, ← hTopic]
  cases hTokens : tokens topic with
  | nil => exact (tokens_ne_nil topic hTokens).elim
  | cons t ts =>
    rw [hTokens] at hWhole
    have hFirst := hWhole t List.mem_cons_self
    cases ts with
    | nil =>
      have hOnly := hLevel t []
      simp only [List.append_nil] at hOnly
      simp only [List.map_singleton, List.intercalate_singleton, hOnly]
      refine (or_iff_right fun hDot => hFirst ?_).symm
      exact hDot.subset (by decide)
    | cons t' ts =>
      simp only [List.map_cons, List.intercalate_cons_cons, List.append_assoc,
        List.singleton_append, hLevel]
      exact prefix_slash_iff "$share".toList (by decide) (by decide) hFirst _ _

theorem append_slash_inj {g g' f f' : List Char} (hg : '/' ∉ g) (hg' : '/' ∉ g')
    (hSame : g ++ '/' :: f = g' ++ '/' :: f') : g = g' ∧ f = f' := by
  have hSplit := congrArg (List.splitOn '/') hSame
  rw [List.splitOn_append_cons_self, List.splitOn_append_cons_self,
    List.splitOn_eq_singleton hg, List.splitOn_eq_singleton hg'] at hSplit
  obtain ⟨rfl, -⟩ := List.cons.inj hSplit
  exact ⟨rfl, (List.cons.inj (List.append_cancel_left hSame)).2⟩

namespace Subscription

variable {s s' : Subscription}

theorem Plain.isShared_eq (h : s.Plain) : isShared s.filter = s.queue.isSome := by
  obtain ⟨topic, queue⟩ := s
  cases queue with
  | some group => exact isShared_group topic group
  | none =>
    change isShared (wireFilter topic none) = false
    rw [Bool.eq_false_iff, ne_eq, isShared_alone_iff, not_or]
    exact h rfl

theorem filter_congr (hQueue : s.queue = s'.queue)
    (hTopic : toTopicFilter s.topic = toTopicFilter s'.topic) : s.filter = s'.filter := by
  unfold filter wireFilter
  rw [hQueue, hTopic]

/-- One filter means one group, or none, and one translation. -/
theorem Separable.of_filter_eq (h : s.Separable) (h' : s'.Separable)
    (hSame : s.filter = s'.filter) :
    s.queue = s'.queue ∧ toTopicFilter s.topic = toTopicFilter s'.topic := by
  have hShared :=
    h.plain.isShared_eq.symm.trans ((congrArg isShared hSame).trans h'.plain.isShared_eq)
  obtain ⟨topic, queue⟩ := s
  obtain ⟨topic', queue'⟩ := s'
  cases queue with
  | none =>
    cases queue' with
    | none => exact ⟨rfl, hSame⟩
    | some group' => cases hShared
  | some group =>
    cases queue' with
    | none => cases hShared
    | some group' =>
      have hChars := congrArg String.toList hSame
      simp only [filter, toList_wireFilter_group] at hChars
      obtain ⟨hGroup, hTopic⟩ := append_slash_inj (h.whole group rfl) (h'.whole group' rfl)
        (List.append_cancel_left hChars)
      exact ⟨congrArg some (String.toList_inj.mp hGroup), String.toList_inj.mp hTopic⟩

end Subscription

/-! ## Lanes -/

/-- How two subscriptions of a connection lie to each other. -/
structure Journal.Apart (j : Journal H) (m m' : Member H) (s s' : Subscription) : Prop where
  lane_eq : s.Separable → s'.Separable → m.lane = m'.lane →
    s.queue = s'.queue ∧ toTopicFilter s.topic = toTopicFilter s'.topic
  native : s.Separable → s'.Separable → Native s.topic → Native s'.topic →
    m.lane = m'.lane → s = s'
  /-- Those who are translated alike use one lane at a time. -/
  together : m ∈ j.live → m' ∈ j.live → s.queue = s'.queue →
    toTopicFilter s.topic = toTopicFilter s'.topic → m.lane = m'.lane
  shared : s.Plain → ∃ lane, j.lanes.lane? m.lane = some lane ∧ lane.shared = s.queue.isSome
  calls : s.Plain → (j.lanes.dispatch m.lane).1.length =
    if s.queue.isSome then min 1 (j.users m.lane).length else (j.users m.lane).length

/-- Whatever else is asked of a connection, two subscriptions share a lane only if they have
the same group, or none, and are translated alike. -/
theorem lanes_apart (requests : List (Request H)) {m m' : Member H} {s s' : Subscription}
    (hm : m ∈ (({} : Journal H).run requests).added)
    (hm' : m' ∈ (({} : Journal H).run requests).added) (hFilter : m.filter = s.filter)
    (hFilter' : m'.filter = s'.filter) : (({} : Journal H).run requests).Apart m m' s s' := by
  have h := tied_run (H := H) tied_empty requests
  generalize ({} : Journal H).run requests = j at h hm hm'
  obtain ⟨lane, hLane, hFor, hShared⟩ := h.handed m hm
  have hSame : s.Separable → s'.Separable → m.lane = m'.lane →
      s.queue = s'.queue ∧ toTopicFilter s.topic = toTopicFilter s'.topic := by
    intro hs hs' hSameLane
    obtain ⟨lane', hLane', hFor', -⟩ := h.handed m' hm'
    cases (hSameLane ▸ hLane).symm.trans hLane'
    apply hs.of_filter_eq hs'
    rw [← hFilter, ← hFilter', ← hFor, hFor']
  refine { lane_eq := hSame, native := ?_, together := ?_, shared := ?_, calls := ?_ }
  · intro hs hs' hNative hNative' hSameLane
    obtain ⟨hQueue, hTopic⟩ := hSame hs hs' hSameLane
    have hTopics := hNative.eq_of_filter hNative' hTopic
    obtain ⟨topic, queue⟩ := s
    obtain ⟨topic', queue'⟩ := s'
    cases hQueue
    cases hTopics
    rfl
  · intro hLive hLive' hQueue hTopic
    apply (h.lane_eq_iff hLive hLive').mpr
    rw [hFilter, hFilter', Subscription.filter_congr hQueue hTopic]
  · intro hPlain
    refine ⟨lane, hLane, ?_⟩
    rw [hShared, hFilter, hPlain.isShared_eq]
  · intro hPlain
    rw [h.calls_eq hm, hFilter, hPlain.isShared_eq]

/-- One topic, asked for alone and for a group. -/
def bothWays : List (Request String) :=
  [.add "channels/abc" "x", .add "$share/g/channels/abc" "y", .add "channels/abc" "z"]

theorem lanes_apart_bothWays :
    (({} : Journal String).run bothWays).Apart ⟨0, "channels/abc", 0, "x"⟩
      ⟨1, "$share/g/channels/abc", 1, "y"⟩ { topic := "channels.abc" }
      { topic := "channels.abc", queue := some "g" } ∧
    ({ topic := "channels.abc" } : Subscription).Separable ∧
    ({ topic := "channels.abc", queue := some "g" } : Subscription).Separable := by
  have hFilter : ({ topic := "channels.abc" } : Subscription).filter = "channels/abc" := by cbv
  have hFilter' : ({ topic := "channels.abc", queue := some "g" } : Subscription).filter =
      "$share/g/channels/abc" := by cbv
  have hAlone : ({ topic := "channels.abc" } : Subscription).Separable := by
    refine ⟨fun _ => ⟨by decide, by decide⟩, fun group hSome => ?_⟩
    cases hSome
  have hGroup : ({ topic := "channels.abc", queue := some "g" } : Subscription).Separable := by
    refine ⟨fun hNone => ?_, fun group hSome => ?_⟩
    · cases hNone
    · cases hSome
      decide
  refine ⟨?_, hAlone, hGroup⟩
  apply lanes_apart bothWays
  · exact List.mem_cons_self
  · exact List.mem_cons_of_mem _ List.mem_cons_self
  · exact hFilter.symm
  · exact hFilter'.symm

/-- A dot and a slash in a topic become the same slash of the filter. -/
theorem not_lanes_distinct : ¬ ∀ (requests : List (Request Unit)) (m m' : Member Unit)
    (s s' : Subscription), m ∈ (({} : Journal Unit).run requests).added →
    m' ∈ (({} : Journal Unit).run requests).added → m.filter = s.filter →
    m'.filter = s'.filter → s.topic ≠ "" → s'.topic ≠ "" → s.queue ≠ some "" →
    s'.queue ≠ some "" → (m.lane = m'.lane → s = s') ∧
      ∀ lane, (({} : Journal Unit).run requests).lanes.lane? m.lane = some lane →
        (lane.shared = true ↔ s.queue ≠ none) := by
  intro hClaim
  have hFilter : ({ topic := "a.b" } : Subscription).filter = "a/b" := by cbv
  have hFilter' : ({ topic := "a/b" } : Subscription).filter = "a/b" := by cbv
  have hSame := (hClaim [.add "a/b" (), .add "a/b" ()] ⟨0, "a/b", 0, ()⟩ ⟨1, "a/b", 0, ()⟩
    { topic := "a.b" } { topic := "a/b" } List.mem_cons_self
    (List.mem_cons_of_mem _ List.mem_cons_self) hFilter.symm hFilter'.symm
    (by decide) (by decide) (by decide) (by decide)).1 rfl
  exact absurd hSame (by decide)

end Mqtt

end DeviceBus
