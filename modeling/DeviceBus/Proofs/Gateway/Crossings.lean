import DeviceBus.Proofs.Subject.Levels

/-! # Channels in other grammars

The channel of an accepted path is literal in the grammar of subject patterns. In a binding
key the channel `#` still is a wildcard, in a topic filter `#` in last place and `+` are, and
a slash divides a channel in two. Apart from these a translated topic selects messages on its
own channel only.
-/

namespace DeviceBus

namespace Subject

theorem levelsMatch_self (ls : List Token) : levelsMatch ls ls = true := by
  induction ls with
  | nil => rfl
  | cons l ls ih =>
    rw [levelsMatch]
    split
    · rfl
    · simp [ih]

/-- A filter with the wildcard in last place selects all that lies below. -/
theorem levelsMatch_below (ls below : List Token) :
    levelsMatch (ls ++ [anyNumber]) (ls ++ below) = true := by
  induction ls with
  | nil =>
    rw [List.nil_append, levelsMatch.eq_def]
    exact if_pos ⟨rfl, rfl⟩
  | cons l ls ih =>
    have hNotLast : ls ++ [anyNumber] ≠ [] := List.append_ne_nil_of_right_ne_nil _ (by simp)
    rw [List.cons_append, List.cons_append, levelsMatch, if_neg fun hLast => hNotLast hLast.2]
    simp [ih]

theorem wordsMatch_anyNumber {ps ss : List Token} (hRest : wordsMatch ps ss = true) (w : Token) :
    wordsMatch (anyNumber :: ps) (w :: ss) = true := by
  rw [wordsMatch, if_pos rfl]
  exact List.any_eq_true.mpr ⟨ss, (List.mem_tails _ _).mpr (List.suffix_cons w ss), hRest⟩

/-! ## Subjects that a pattern selects -/

/-- A subtopic without wildcards that a subtopic selects, in any grammar. -/
def sample (subtopic : String) : String :=
  if subtopic = "" then "" else ofTokens ((tokens subtopic).map filterLevel)

theorem filterLevel_filterLevel (t : Token) : filterLevel (filterLevel t) = filterLevel t :=
  filterLevel_of_plain (filterLevel_spec t).1 (filterLevel_spec t).2.1

theorem keyWord_filterLevel (t : Token) : keyWord (filterLevel t) = filterLevel t :=
  if_neg (filterLevel_spec t).1

theorem tokens_sample {subtopic : String} (hSome : subtopic ≠ "") :
    sample subtopic ≠ "" ∧ tokens (sample subtopic) = (tokens subtopic).map filterLevel := by
  have hTokens : tokens (sample subtopic) = (tokens subtopic).map filterLevel := by
    rw [sample, if_neg hSome]
    apply tokens_ofTokens
    · simp [tokens_ne_nil]
    · intro l hl
      obtain ⟨t, ht, rfl⟩ := List.mem_map.mp hl
      exact (filterLevel_spec t).2.2.2 (not_mem_of_mem_tokens ht)
  refine ⟨fun hEmpty => hSome (tokens_injective ?_), hTokens⟩
  rw [hEmpty] at hTokens
  have hOne : tokens "" = [[]] := rfl
  rw [hOne, eq_comm, List.map_eq_singleton_iff] at hTokens
  obtain ⟨t, hSingle, hLevel⟩ := hTokens
  rw [hSingle, (filterLevel_spec t).2.2.1.mp hLevel, hOne]

theorem isWildcard_sample (subtopic : String) : isWildcard (sample subtopic) = false := by
  by_cases hEmpty : subtopic = ""
  · rw [sample, if_pos hEmpty]
    rfl
  · rw [isWildcard, (tokens_sample hEmpty).2, List.any_eq_false]
    intro l hl
    obtain ⟨t, -, rfl⟩ := List.mem_map.mp hl
    simp [(filterLevel_spec t).1, (filterLevel_spec t).2.1]

theorem wordsMatch_sample (ts : List Token) :
    wordsMatch (ts.map keyWord) (ts.map filterLevel) = true := by
  induction ts with
  | nil => rfl
  | cons t ts ih =>
    rw [List.map_cons, List.map_cons]
    by_cases hNumber : keyWord t = anyNumber
    · rw [hNumber]
      exact wordsMatch_anyNumber ih _
    · have hToken : (keyWord t == anyOne || keyWord t == filterLevel t) = true := by
        have hRest : t ≠ anyRest := fun hSame => hNumber (if_pos hSame)
        have hWord : keyWord t = t := if_neg hRest
        by_cases hOne : t = anyOne
        · rw [hWord, hOne, beq_self_eq_true, Bool.true_or]
        · rw [hWord, filterLevel_of_plain hRest hOne, beq_self_eq_true, Bool.or_true]
      rw [wordsMatch, if_neg hNumber, hToken, ih]
      rfl

end Subject

namespace Gateway

open Subject

variable {r q : ChannelPath}

/-- Every path with a literal channel comes in some request. -/
theorem ChannelPath.accepted_iff : r.Accepted ↔ isLiteral r.channel = true := by
  refine ⟨ChannelPath.Accepted.literal, fun hLiteral => ?_⟩
  by_cases hEmpty : r.subtopic = ""
  · refine ⟨[Subject.root, r.channel, "messages"], ?_⟩
    rw [parse?, if_pos ⟨rfl, rfl, hLiteral, by simp⟩]
    obtain ⟨channel, subtopic⟩ := r
    subst hEmpty
    rfl
  · refine ⟨[Subject.root, r.channel, "messages", r.subtopic], ?_⟩
    rw [parse?, if_pos ⟨rfl, rfl, hLiteral, by simpa using Ne.symm hEmpty⟩]
    rfl

/-- The tokens of the subtopic, none if there is no subtopic. -/
def ChannelPath.rest (r : ChannelPath) : List Token :=
  if r.subtopic = "" then [] else tokens r.subtopic

theorem ChannelPath.Accepted.words_topic (hr : r.Accepted) :
    tokens (toBindingKey r.topic) = root.toList :: r.channel.toList :: r.rest.map keyWord := by
  rw [tokens_toBindingKey, hr.tokens_topic, List.map_cons, List.map_cons]
  congr 2
  exact if_neg hr.ne_anyRest

theorem ChannelPath.Accepted.levels_topic (hr : r.Accepted) :
    levels (toTopicFilter r.topic) = root.toList :: (r.channel.toList.splitOn '/' ++
      (r.rest.map filterLevel).flatMap fun l => l.splitOn '/') := by
  have hRoot : (filterLevel root.toList).splitOn '/' = [root.toList] := by decide
  rw [levels_toTopicFilter, hr.tokens_topic, List.flatMap_cons, List.flatMap_cons, hRoot,
    filterLevel_of_plain hr.ne_anyRest hr.ne_anyOne, List.flatMap_map]
  rfl

theorem ChannelPath.filterSelects_topic (filter : String) (q : ChannelPath) :
    filterSelects filter (toTopicFilter q.topic) =
      levelsMatch (levels filter) (levels (toTopicFilter q.topic)) :=
  filterSelects_of_open (isReserved_topicName q.channel q.subtopic) filter

/-- The path with another channel and a sample of the subtopic. -/
def ChannelPath.beside (r : ChannelPath) (channel : String) : ChannelPath where
  channel
  subtopic := sample r.subtopic

theorem ChannelPath.rest_beside (r : ChannelPath) (channel : String) :
    (r.beside channel).rest = r.rest.map filterLevel := by
  by_cases hEmpty : r.subtopic = ""
  · simp [rest, beside, sample, hEmpty]
  · obtain ⟨hSome, hTokens⟩ := tokens_sample hEmpty
    rw [rest, beside, if_neg hSome, hTokens, rest, if_neg hEmpty]

/-! ## Binding keys -/

theorem ChannelPath.Accepted.channel_of_key (hr : r.Accepted) (hq : q.Accepted)
    (hHash : r.channel ≠ "#")
    (hSelects : keySelects (toBindingKey r.topic) (toBindingKey q.topic) = true) :
    r.channel = q.channel := by
  have hRoot : root.toList ≠ anyNumber := by decide
  have hNumber : r.channel.toList ≠ anyNumber := fun hSame => hHash (String.toList_inj.mp hSame)
  rw [keySelects, hr.words_topic, hq.words_topic, wordsMatch, if_neg hRoot, Bool.and_eq_true,
    wordsMatch, if_neg hNumber, Bool.and_eq_true, Bool.or_eq_true, beq_iff_eq, beq_iff_eq,
    Bool.or_eq_true, beq_iff_eq, beq_iff_eq] at hSelects
  obtain ⟨-, hOne | hSame, -⟩ := hSelects
  · exact (hr.ne_anyOne hOne).elim
  · exact String.toList_inj.mp hSame

theorem ChannelPath.Accepted.key_beside (hr : r.Accepted) (hHash : r.channel = "#")
    {channel : String} (hq : (r.beside channel).Accepted) :
    keySelects (toBindingKey r.topic) (toBindingKey (r.beside channel).topic) = true := by
  have hWords : (r.rest.map filterLevel).map keyWord = r.rest.map filterLevel := by
    rw [List.map_map]
    exact List.map_congr_left fun t _ => keyWord_filterLevel t
  have hNumber : r.channel.toList = anyNumber := by rw [hHash]; rfl
  rw [keySelects, hr.words_topic, hq.words_topic, ChannelPath.rest_beside, hWords, hNumber,
    wordsMatch, if_neg (by decide), wordsMatch_anyNumber (wordsMatch_sample r.rest)]
  rfl

/-! ## Topic filters -/

theorem ChannelPath.Accepted.channel_of_filter (hr : r.Accepted) (hq : q.Accepted)
    (hWhole : '/' ∉ r.channel.toList) (hWhole' : '/' ∉ q.channel.toList)
    (hPlus : r.channel ≠ "+") (hHash : ¬(r.channel = "#" ∧ r.subtopic = ""))
    (hSelects : filterSelects (toTopicFilter r.topic) (toTopicFilter q.topic) = true) :
    r.channel = q.channel := by
  have hRoot : root.toList ≠ anyNumber := by decide
  have hLevel : r.channel.toList ≠ anyLevel := fun hSame => hPlus (String.toList_inj.mp hSame)
  have hNotLast : ¬(r.channel.toList = anyNumber ∧
      ((r.rest.map filterLevel).flatMap fun l => l.splitOn '/') = []) := by
    rintro ⟨hSame, hNone⟩
    refine hHash ⟨String.toList_inj.mp hSame, ?_⟩
    by_contra hSome
    obtain ⟨t, ts, hTokens⟩ := List.exists_cons_of_ne_nil (tokens_ne_nil r.subtopic)
    rw [ChannelPath.rest, if_neg hSome, hTokens, List.map_cons, List.flatMap_cons,
      List.append_eq_nil_iff] at hNone
    exact List.splitOn_ne_nil _ _ hNone.1
  rw [ChannelPath.filterSelects_topic, hr.levels_topic, hq.levels_topic,
    List.splitOn_eq_singleton hWhole, List.splitOn_eq_singleton hWhole', levelsMatch,
    if_neg fun hBoth => hRoot hBoth.1,
    Bool.and_eq_true, List.singleton_append, List.singleton_append, levelsMatch, if_neg hNotLast,
    Bool.and_eq_true, Bool.or_eq_true, beq_iff_eq, beq_iff_eq, Bool.or_eq_true, beq_iff_eq,
    beq_iff_eq] at hSelects
  obtain ⟨-, hAny | hSame, -⟩ := hSelects
  · exact (hLevel hAny).elim
  · exact String.toList_inj.mp hSame

theorem ChannelPath.Accepted.filter_beside (hr : r.Accepted)
    (hWild : r.channel = "+" ∨ r.channel = "#" ∧ r.subtopic = "") {channel : String}
    (hq : (r.beside channel).Accepted) (hWhole : '/' ∉ channel.toList) :
    filterSelects (toTopicFilter r.topic) (toTopicFilter (r.beside channel).topic) = true := by
  have hLevels : (r.rest.map filterLevel).map filterLevel = r.rest.map filterLevel := by
    rw [List.map_map]
    exact List.map_congr_left fun t _ => filterLevel_filterLevel t
  have hChannel : (r.beside channel).channel.toList.splitOn '/' = [channel.toList] :=
    List.splitOn_eq_singleton hWhole
  rw [ChannelPath.filterSelects_topic, hr.levels_topic, hq.levels_topic, ChannelPath.rest_beside,
    hLevels, hChannel]
  rcases hWild with hPlus | ⟨hHash, hEmpty⟩
  · have hOne : r.channel.toList.splitOn '/' = [anyLevel] := by
      rw [hPlus]
      decide
    rw [hOne, levelsMatch, if_neg (by simp), List.singleton_append, List.singleton_append,
      levelsMatch, if_neg fun hBoth => absurd hBoth.1 (by decide), levelsMatch_self]
    simp
  · have hOne : r.channel.toList.splitOn '/' = [anyNumber] := by
      rw [hHash]
      decide
    have hNone : r.rest = [] := if_pos hEmpty
    rw [hOne, hNone]
    exact levelsMatch_below [root.toList] [channel.toList]

/-- Whoever observes all below the part before a slash is sent what is published to the
whole channel. -/
theorem ChannelPath.Accepted.filter_before_slash (hq : q.Accepted) {x y : String}
    (hChannel : q.channel = x ++ "/" ++ y) (hSome : x ≠ "") :
    (⟨x, ">"⟩ : ChannelPath).Accepted ∧ x ≠ q.channel ∧
      filterSelects (toTopicFilter (⟨x, ">"⟩ : ChannelPath).topic) (toTopicFilter q.topic) =
        true := by
  have hChars : q.channel.toList = x.toList ++ '/' :: y.toList := by
    rw [hChannel]
    simp
  have hr : (⟨x, ">"⟩ : ChannelPath).Accepted := by
    rw [ChannelPath.accepted_iff, ChannelPath.isLiteral, Bool.and_eq_true]
    refine ⟨decide_eq_true hSome, ?_⟩
    rw [Bool.not_eq_true', List.any_eq_false]
    intro c hc hSpecial
    simp only [Bool.or_eq_true, decide_eq_true_eq] at hSpecial
    exact hq.not_mem (or_assoc.mp hSpecial) (hChars ▸ List.mem_append_left _ hc)
  refine ⟨hr, fun hSame => ?_, ?_⟩
  · have hLength := congrArg (List.length ∘ String.toList) hSame
    simp only [Function.comp_apply, hChars, List.length_append, List.length_cons] at hLength
    omega
  · have hRest : ((ChannelPath.rest ⟨x, ">"⟩).map filterLevel).flatMap
        (fun l => l.splitOn '/') = [anyNumber] := by
      have hTokens : tokens ">" = [anyRest] := by decide
      have hSome : ">" ≠ "" := by decide
      have hSubtopic : ChannelPath.rest ⟨x, ">"⟩ = [anyRest] := (if_neg hSome).trans hTokens
      rw [hSubtopic]
      decide
    rw [ChannelPath.filterSelects_topic, hr.levels_topic, hq.levels_topic, hRest, hChars,
      List.splitOn_append_cons_self, List.append_assoc]
    exact levelsMatch_below (root.toList :: x.toList.splitOn '/') _

/-- Over a topic exchange an accepted path is isolated exactly if its channel is not `#`. In
topic filters, among channels without a slash, it is isolated exactly if its channel is
neither `+` nor, in last place, `#`; and a channel with a slash is open to whoever observes
the part before the slash. -/
theorem isolated_abroad_iff (hr : r.Accepted) :
    ((∀ q : ChannelPath, q.Accepted → isWildcard q.subtopic = false →
        keySelects (toBindingKey r.topic) (toBindingKey q.topic) = true →
          r.channel = q.channel) ↔ r.channel ≠ "#") ∧
    ('/' ∉ r.channel.toList → ((∀ q : ChannelPath, q.Accepted → isWildcard q.subtopic = false →
        '/' ∉ q.channel.toList →
        filterSelects (toTopicFilter r.topic) (toTopicFilter q.topic) = true →
          r.channel = q.channel) ↔ r.channel ≠ "+" ∧ ¬(r.channel = "#" ∧ r.subtopic = ""))) ∧
    ∀ x y, r.channel = x ++ "/" ++ y → x ≠ "" → (⟨x, ">"⟩ : ChannelPath).Accepted ∧
      x ≠ r.channel ∧
      filterSelects (toTopicFilter (⟨x, ">"⟩ : ChannelPath).topic) (toTopicFilter r.topic) =
        true := by
  have hLiteral : ChannelPath.isLiteral "abc" = true := by decide
  have hBeside : (r.beside "abc").Accepted :=
    ChannelPath.accepted_iff.mpr hLiteral
  have hConcrete : isWildcard (r.beside "abc").subtopic = false := isWildcard_sample r.subtopic
  refine ⟨⟨fun hIsolated hHash => ?_, fun hHash q hq _ => hr.channel_of_key hq hHash⟩,
    fun hWhole => ⟨fun hIsolated => ?_, fun ⟨hPlus, hHash⟩ q hq _ hWhole' =>
      hr.channel_of_filter hq hWhole hWhole' hPlus hHash⟩,
    fun x y => hr.filter_before_slash⟩
  · have hSame := hIsolated _ hBeside hConcrete (hr.key_beside hHash hBeside)
    exact absurd (hHash.symm.trans hSame) (by simp [ChannelPath.beside])
  · have hSlash : '/' ∉ (r.beside "abc").channel.toList := by
      change '/' ∉ "abc".toList
      decide
    have hOpen : r.channel = "+" ∨ r.channel = "#" ∧ r.subtopic = "" → r.channel = "abc" :=
      fun hWild => hIsolated _ hBeside hConcrete hSlash (hr.filter_beside hWild hBeside hSlash)
    refine ⟨fun hPlus => ?_, fun hHash => ?_⟩
    · exact absurd (hPlus.symm.trans (hOpen (.inl hPlus))) (by decide)
    · exact absurd (hHash.1.symm.trans (hOpen (.inr hHash))) (by decide)

theorem isolated_abroad_iff_abc : (⟨"abc", ">"⟩ : ChannelPath).Accepted ∧
    ∀ q : ChannelPath, q.Accepted → isWildcard q.subtopic = false →
      keySelects (toBindingKey "channels.abc.>") (toBindingKey q.topic) = true →
        "abc" = q.channel := by
  have hLiteral : ChannelPath.isLiteral "abc" = true := by decide
  have hAccepted : (⟨"abc", ">"⟩ : ChannelPath).Accepted := ChannelPath.accepted_iff.mpr hLiteral
  have hHash : "abc" ≠ "#" := by decide
  exact ⟨hAccepted, (isolated_abroad_iff hAccepted).1.mpr hHash⟩

/-- Paths whose channel is a wildcard of another grammar, or the part of a channel before its
slash, come in requests, and they select what is published on other channels. -/
theorem channels_crossed_abroad :
    ChannelPath.parse? ["channels", "+", "messages"] = some ⟨"+", ""⟩ ∧
    ChannelPath.parse? ["channels", "#", "messages"] = some ⟨"#", ""⟩ ∧
    ChannelPath.parse? ["channels", "a", "messages", ">"] = some ⟨"a", ">"⟩ ∧
    ChannelPath.parse? ["channels", "abc", "messages"] = some ⟨"abc", ""⟩ ∧
    ChannelPath.parse? ["channels", "a/b", "messages"] = some ⟨"a/b", ""⟩ ∧
    filterSelects (toTopicFilter (⟨"+", ""⟩ : ChannelPath).topic)
      (toTopicFilter (⟨"abc", ""⟩ : ChannelPath).topic) = true ∧
    filterSelects (toTopicFilter (⟨"#", ""⟩ : ChannelPath).topic)
      (toTopicFilter (⟨"abc", ""⟩ : ChannelPath).topic) = true ∧
    filterSelects (toTopicFilter (⟨"a", ">"⟩ : ChannelPath).topic)
      (toTopicFilter (⟨"a/b", ""⟩ : ChannelPath).topic) = true ∧
    keySelects (toBindingKey (⟨"#", ""⟩ : ChannelPath).topic)
      (toBindingKey (⟨"abc", ""⟩ : ChannelPath).topic) = true := by
  refine ⟨?_, ?_, ?_, ?_, ?_, ?_, ?_, ?_, ?_⟩ <;> cbv

end Gateway

end DeviceBus
