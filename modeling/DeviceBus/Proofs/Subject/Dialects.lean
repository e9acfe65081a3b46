import DeviceBus.Proofs.Gateway.Paths
import DeviceBus.Subject.Dialect
import Mathlib.Data.List.Infix

/-! # What translated patterns select

Topic filters and binding keys are read here as their brokers read them: those of MQTT 3.1.1,
with its rule on topics that begin with `$`, and those of AMQP topic exchanges. The wildcard for
the rest of a subject stands for one token at least, while those of the other grammars also
stand for nothing. So a translated pattern selects what the pattern selects and, when it
ends in that wildcard, what the part before the wildcard selects.
-/

namespace DeviceBus.Subject

/-! ## The other grammars -/

/-- The wildcard of topic filters for one level. -/
def anyLevel : Token := ['+']

/-- The wildcard of both grammars for any number of levels or words, also for none. -/
def anyNumber : Token := ['#']

def levels (topic : String) : List Token :=
  topic.toList.splitOn '/'

/-- In a topic filter `#` is a wildcard in last place only. -/
def levelsMatch : List Token → List Token → Bool
  | [], topic => topic.isEmpty
  | p :: ps, topic =>
      if p = anyNumber ∧ ps = [] then true
      else
        match topic with
        | [] => false
        | t :: ts => (p == anyLevel || p == t) && levelsMatch ps ts

def beginsWild (filter : String) : Bool :=
  filter.toList.head? == some '+' || filter.toList.head? == some '#'

/-- Topics that begin with `$` are the broker's own. -/
def isReserved (topic : String) : Bool :=
  topic.toList.head? == some '$'

/-- Whether a topic filter selects a topic. A wildcard in first place does not stand for
what the broker keeps for itself. -/
def filterSelects (filter topic : String) : Bool :=
  !(beginsWild filter && isReserved topic) && levelsMatch (levels filter) (levels topic)

theorem filterSelects_of_open {topic : String} (hOpen : isReserved topic = false)
    (filter : String) :
    filterSelects filter topic = levelsMatch (levels filter) (levels topic) := by
  rw [filterSelects, hOpen, Bool.and_false, Bool.not_false, Bool.true_and]

example : filterSelects "#" "$SYS/load" = false ∧ filterSelects "$SYS/#" "$SYS/load" = true := by
  decide

/-- In a binding key `#` is a wildcard in any place. -/
def wordsMatch : List Token → List Token → Bool
  | [], key => key.isEmpty
  | p :: ps, key =>
      if p = anyNumber then key.tails.any fun rest => wordsMatch ps rest
      else
        match key with
        | [] => false
        | w :: ws => (p == anyOne || p == w) && wordsMatch ps ws

/-- Whether a binding key selects the routing key of a message. -/
def keySelects (binding key : String) : Bool :=
  wordsMatch (tokens binding) (tokens key)

/-! ## Tokens and levels -/

theorem mem_of_mem_splitOn {sep c : Char} {l t : List Char} (ht : t ∈ l.splitOn sep)
    (hc : c ∈ t) : c ∈ l ∧ c ≠ sep := by
  induction l generalizing t with
  | nil =>
    rw [List.splitOn_nil, List.mem_singleton] at ht
    subst ht
    cases hc
  | cons a l ih =>
    rw [List.splitOn_cons_eq_if_modifyHead] at ht
    split at ht
    · rcases List.mem_cons.mp ht with rfl | hRest
      · cases hc
      · obtain ⟨hMember, hOther⟩ := ih hRest hc
        exact ⟨List.mem_cons_of_mem a hMember, hOther⟩
    · rename_i hOther
      obtain ⟨first, others, hSplit⟩ := List.exists_cons_of_ne_nil (List.splitOn_ne_nil sep l)
      rw [hSplit] at ih ht
      rcases List.mem_cons.mp ht with rfl | hRest
      · rcases List.mem_cons.mp hc with rfl | hFirst
        · exact ⟨List.mem_cons_self, by simpa using hOther⟩
        · obtain ⟨hMember, hNe⟩ := ih List.mem_cons_self hFirst
          exact ⟨List.mem_cons_of_mem a hMember, hNe⟩
      · obtain ⟨hMember, hNe⟩ := ih (List.mem_cons_of_mem first hRest) hc
        exact ⟨List.mem_cons_of_mem a hMember, hNe⟩

theorem tokens_ne_nil (s : String) : tokens s ≠ [] :=
  List.splitOn_ne_nil _ _

theorem not_mem_of_mem_tokens {s : String} {t : Token} (ht : t ∈ tokens s) : '.' ∉ t :=
  fun hc => (mem_of_mem_splitOn ht hc).2 rfl

theorem splitOn_intercalate_flatMap (sep : Char) {ts : List Token} (hts : ts ≠ []) :
    ([sep].intercalate ts).splitOn sep = ts.flatMap fun t => t.splitOn sep := by
  induction ts with
  | nil => exact (hts rfl).elim
  | cons t ts ih =>
    cases ts with
    | nil => simp
    | cons t' ts =>
      have hJoin : [sep].intercalate (t :: t' :: ts) =
          t ++ sep :: [sep].intercalate (t' :: ts) := by
        simp [List.intercalate]
      rw [hJoin, List.splitOn_append_cons_self, ih (List.cons_ne_nil _ _)]
      rfl

theorem levels_toTopicFilter (pattern : String) : levels (toTopicFilter pattern) =
    (tokens pattern).flatMap fun t => (filterLevel t).splitOn '/' := by
  have hTokens : (tokens pattern).map filterLevel ≠ [] := by simp [tokens_ne_nil]
  rw [levels, toTopicFilter, String.toList_ofList, splitOn_intercalate_flatMap '/' hTokens,
    List.flatMap_map]

theorem tokens_ofTokens {ts : List Token} (hts : ts ≠ []) (hWhole : ∀ t ∈ ts, '.' ∉ t) :
    tokens (ofTokens ts) = ts := by
  rw [tokens, ofTokens, String.toList_ofList]
  exact List.splitOn_intercalate '.' hWhole hts

/-- The word of a binding key for a token of a pattern. -/
def keyWord (t : Token) : Token :=
  if t = anyRest then anyNumber else t

theorem tokens_toBindingKey (pattern : String) :
    tokens (toBindingKey pattern) = (tokens pattern).map keyWord := by
  apply tokens_ofTokens
  · simp [tokens_ne_nil]
  · intro w hw
    obtain ⟨t, ht, rfl⟩ := List.mem_map.mp hw
    split
    · decide
    · exact not_mem_of_mem_tokens ht

theorem tokens_concat_anyRest (q : String) : tokens (q ++ ".>") = tokens q ++ [anyRest] := by
  have hChars : (q ++ ".>").toList = q.toList ++ '.' :: anyRest := by
    rw [String.toList_append]
    rfl
  rw [tokens, hChars, List.splitOn_append_cons_self]
  rfl

/-- No channel topic is one of a broker's own. -/
theorem isReserved_topicName (channel subtopic : String) :
    isReserved (toTopicFilter (topicName channel subtopic)) = false := by
  have hRoot : '.' ∉ root.toList := by decide
  obtain ⟨rest, hTopic⟩ : ∃ rest, topicName channel subtopic = root ++ "." ++ rest := by
    unfold topicName
    split
    · exact ⟨channel, rfl⟩
    · exact ⟨channel ++ "." ++ subtopic, by simp only [String.append_assoc]⟩
  have hTokens : tokens (topicName channel subtopic) = root.toList :: tokens rest := by
    rw [hTopic, tokens_append hRoot]
  obtain ⟨t, ts, hRest⟩ := List.exists_cons_of_ne_nil (tokens_ne_nil rest)
  have hLevel : filterLevel root.toList = root.toList := by decide
  rw [isReserved, toTopicFilter, String.toList_ofList, hTokens, hRest, List.map_cons,
    List.map_cons, List.intercalate_cons_cons, hLevel, List.append_assoc]
  rfl

/-! ## Patterns that translate -/

/-- The text has none of the special characters of the other grammars. -/
structure Portable (s : String) : Prop where
  slash : '/' ∉ s.toList
  plus : '+' ∉ s.toList
  hash : '#' ∉ s.toList

/-- The text has no special character of any of the grammars. -/
structure Concrete (s : String) : Prop extends Portable s where
  star : '*' ∉ s.toList
  angle : '>' ∉ s.toList

theorem Portable.not_mem {s : String} (h : Portable s) {t : Token} (ht : t ∈ tokens s) :
    '+' ∉ t ∧ '#' ∉ t :=
  ⟨fun hc => h.plus (mem_of_mem_splitOn ht hc).1, fun hc => h.hash (mem_of_mem_splitOn ht hc).1⟩

/-- Levels are as whole as the tokens that they are written for. -/
theorem slash_not_mem_filterLevel {s : String} (hWhole : '/' ∉ s.toList) {t : Token}
    (ht : t ∈ tokens s) : '/' ∉ filterLevel t := by
  unfold filterLevel
  split
  · decide
  · split
    · decide
    · exact fun hc => hWhole (mem_of_mem_splitOn ht hc).1

theorem levels_of_whole {s : String} (hWhole : '/' ∉ s.toList) :
    levels (toTopicFilter s) = (tokens s).map filterLevel := by
  rw [levels_toTopicFilter, List.map_eq_flatMap]
  refine List.flatMap_congr fun t ht => ?_
  exact List.splitOn_eq_singleton (slash_not_mem_filterLevel hWhole ht)

/-- The pattern selects the subject, or the part of it before the wildcard in last place
does. -/
def Covers (ps ss : List Token) : Prop :=
  tokensMatch ps ss = true ∨ ∃ qs, ps = qs ++ [anyRest] ∧ tokensMatch qs ss = true

theorem covers_anyRest (ss : List Token) : Covers [anyRest] ss := by
  cases ss with
  | nil => exact .inr ⟨[], rfl, rfl⟩
  | cons s ss => exact .inl rfl

/-- Away from the wildcard in last place a pattern is compared token by token. -/
theorem covers_cons_iff {p : Token} (hp : p ≠ anyRest) (ps ss : List Token) :
    Covers (p :: ps) ss ↔ ∃ s ss', ss = s :: ss' ∧ (p = anyOne ∨ p = s) ∧ Covers ps ss' := by
  have hMatch : ∀ qs, tokensMatch (p :: qs) ss = true ↔
      ∃ s ss', ss = s :: ss' ∧ (p = anyOne ∨ p = s) ∧ tokensMatch qs ss' = true := by
    intro qs
    cases ss with
    | nil => simp [tokensMatch, hp]
    | cons s ss' => simp [tokensMatch, hp]
  constructor
  · rintro (hSelects | ⟨qs, hLast, hSelects⟩)
    · obtain ⟨s, ss', hSplit, hToken, hRest⟩ := (hMatch ps).mp hSelects
      exact ⟨s, ss', hSplit, hToken, .inl hRest⟩
    · cases qs with
      | nil => exact (hp (List.cons.inj hLast).1).elim
      | cons q qs =>
        obtain ⟨rfl, rfl⟩ := List.cons.inj hLast
        obtain ⟨s, ss', hSplit, hToken, hRest⟩ := (hMatch qs).mp hSelects
        exact ⟨s, ss', hSplit, hToken, .inr ⟨qs, rfl, hRest⟩⟩
  · rintro ⟨s, ss', hSplit, hToken, hRest | ⟨qs, rfl, hRest⟩⟩
    · exact .inl ((hMatch ps).mpr ⟨s, ss', hSplit, hToken, hRest⟩)
    · exact .inr ⟨p :: qs, rfl, (hMatch qs).mpr ⟨s, ss', hSplit, hToken, hRest⟩⟩

theorem ne_anyRest_of_not_last {p : Token} {ps : List Token}
    (hLast : anyRest ∉ (p :: ps).dropLast) (hNotLast : ¬(p = anyRest ∧ ps = [])) :
    p ≠ anyRest ∧ anyRest ∉ ps.dropLast := by
  cases ps with
  | nil => exact ⟨fun hp => hNotLast ⟨hp, rfl⟩, List.not_mem_nil⟩
  | cons p' ps =>
    rw [List.dropLast_cons_cons, List.mem_cons, not_or] at hLast
    exact ⟨Ne.symm hLast.1, hLast.2⟩

theorem filterLevel_eq_iff {p : Token} (hp : p ≠ anyRest) (hPlus : '+' ∉ p) (hHash : '#' ∉ p)
    (s : Token) :
    (filterLevel p = anyLevel ∨ filterLevel p = filterLevel s) ↔ (p = anyOne ∨ p = s) := by
  have hNotPlus : ∀ t : Token, '+' ∉ t → t ≠ anyLevel := by
    rintro t ht rfl
    exact ht (List.mem_singleton_self _)
  have hNotHash : ∀ t : Token, '#' ∉ t → t ≠ anyNumber := by
    rintro t ht rfl
    exact ht (List.mem_singleton_self _)
  have hPattern : filterLevel p = if p = anyOne then anyLevel else p := if_neg hp
  rw [hPattern]
  by_cases hOne : p = anyOne
  · simp [hOne]
  · have hSame : p = filterLevel s ↔ p = s := by
      unfold filterLevel
      split
      · rename_i hRest
        exact iff_of_false (hNotHash p hHash) (hRest ▸ hp)
      · split
        · rename_i hOther
          exact iff_of_false (hNotPlus p hPlus) (hOther ▸ hOne)
        · rfl
    simp only [hOne, if_false, hNotPlus p hPlus, false_or, hSame]

theorem levelsMatch_iff_covers {ps ss : List Token} (hLast : anyRest ∉ ps.dropLast)
    (hPattern : ∀ t ∈ ps, '+' ∉ t ∧ '#' ∉ t) :
    levelsMatch (ps.map filterLevel) (ss.map filterLevel) = true ↔ Covers ps ss := by
  induction ps generalizing ss with
  | nil =>
    cases ss with
    | nil => exact iff_of_true rfl (.inl rfl)
    | cons s ss => simp [levelsMatch, Covers, tokensMatch]
  | cons p ps ih =>
    by_cases hEnd : p = anyRest ∧ ps = []
    · obtain ⟨rfl, rfl⟩ := hEnd
      exact iff_of_true rfl (covers_anyRest ss)
    · obtain ⟨hp, hRest⟩ := ne_anyRest_of_not_last hLast hEnd
      obtain ⟨hToken, hTokens⟩ := List.forall_mem_cons.mp hPattern
      have hNumber : filterLevel p ≠ anyNumber := by
        intro hSame
        rw [filterLevel, if_neg hp] at hSame
        split at hSame
        · exact absurd hSame (by decide)
        · exact hToken.2 (hSame ▸ List.mem_singleton_self '#')
      rw [covers_cons_iff hp]
      cases ss with
      | nil => simp [levelsMatch, hNumber]
      | cons s ss =>
        have hCompare := filterLevel_eq_iff hp hToken.1 hToken.2 s
        simp [levelsMatch, hNumber, ← ih hRest hTokens, ← hCompare]

theorem wordsMatch_iff_covers {ps ss : List Token} (hLast : anyRest ∉ ps.dropLast)
    (hPattern : ∀ t ∈ ps, '#' ∉ t) :
    wordsMatch (ps.map keyWord) ss = true ↔ Covers ps ss := by
  induction ps generalizing ss with
  | nil =>
    cases ss with
    | nil => exact iff_of_true rfl (.inl rfl)
    | cons s ss => simp [wordsMatch, Covers, tokensMatch]
  | cons p ps ih =>
    by_cases hEnd : p = anyRest ∧ ps = []
    · obtain ⟨rfl, rfl⟩ := hEnd
      -- Nothing is left to match behind the wildcard, and the empty suffix is a choice.
      have hAny : wordsMatch [anyNumber] ss = true := by
        rw [wordsMatch.eq_def]
        exact List.any_eq_true.mpr ⟨[], (List.mem_tails _ _).mpr List.nil_suffix, rfl⟩
      exact iff_of_true hAny (covers_anyRest ss)
    · obtain ⟨hp, hRest⟩ := ne_anyRest_of_not_last hLast hEnd
      obtain ⟨hToken, hTokens⟩ := List.forall_mem_cons.mp hPattern
      have hWord : keyWord p = p := if_neg hp
      have hNumber : p ≠ anyNumber := by
        rintro rfl
        exact hToken (List.mem_singleton_self '#')
      rw [covers_cons_iff hp, List.map_cons, hWord]
      cases ss with
      | nil => simp [wordsMatch, hNumber]
      | cons s ss => simp [wordsMatch, hNumber, ← ih hRest hTokens]

theorem covers_tokens_iff (pattern subject : String) :
    Covers (tokens pattern) (tokens subject) ↔
      selects pattern subject = true ∨ ∃ q, pattern = q ++ ".>" ∧ selects q subject = true := by
  refine or_congr Iff.rfl ⟨?_, ?_⟩
  · rintro ⟨qs, hTokens, hSelects⟩
    have hSome : qs ≠ [] := by
      rintro rfl
      rw [tokensMatch, List.isEmpty_iff] at hSelects
      exact tokens_ne_nil subject hSelects
    have hWhole : ∀ t ∈ qs, '.' ∉ t := fun t ht =>
      not_mem_of_mem_tokens (hTokens ▸ List.mem_append_left _ ht)
    have hBack := tokens_ofTokens hSome hWhole
    refine ⟨ofTokens qs, tokens_injective ?_, ?_⟩
    · rw [tokens_concat_anyRest, hBack, hTokens]
    · rw [selects, hBack, hSelects]
  · rintro ⟨q, rfl, hSelects⟩
    exact ⟨tokens q, tokens_concat_anyRest q, hSelects⟩

/-- A pattern and what it is translated to select the same channel topics, but for the topic
that is left when the wildcard in last place stands for nothing. -/
theorem translated_selects {pattern channel subtopic : String} (hPattern : Portable pattern)
    (hLast : anyRest ∉ (tokens pattern).dropLast)
    (hSubject : Concrete (topicName channel subtopic)) :
    (filterSelects (toTopicFilter pattern) (toTopicFilter (topicName channel subtopic)) = true ↔
        selects pattern (topicName channel subtopic) = true ∨
          ∃ q, pattern = q ++ ".>" ∧ selects q (topicName channel subtopic) = true) ∧
      (keySelects (toBindingKey pattern) (topicName channel subtopic) = true ↔
        selects pattern (topicName channel subtopic) = true ∨
          ∃ q, pattern = q ++ ".>" ∧ selects q (topicName channel subtopic) = true) := by
  rw [← covers_tokens_iff]
  constructor
  · rw [filterSelects_of_open (isReserved_topicName channel subtopic),
      levels_of_whole hPattern.slash, levels_of_whole hSubject.slash]
    exact levelsMatch_iff_covers hLast fun t ht => hPattern.not_mem ht
  · rw [keySelects, tokens_toBindingKey]
    exact wordsMatch_iff_covers hLast fun t ht => (hPattern.not_mem ht).2

theorem translated_selects_reading : Portable "channels.*.>" ∧
    anyRest ∉ (tokens "channels.*.>").dropLast ∧ Concrete (topicName "abc" "temp") ∧
    selects "channels.*.>" (topicName "abc" "temp") = true ∧
    filterSelects (toTopicFilter "channels.*.>") (toTopicFilter (topicName "abc" "temp")) = true ∧
    keySelects (toBindingKey "channels.*.>") (topicName "abc" "temp") = true := by
  have hPattern : Portable "channels.*.>" := ⟨by decide, by decide, by decide⟩
  have hLast : anyRest ∉ (tokens "channels.*.>").dropLast := by decide
  have hSubject : Concrete (topicName "abc" "temp") :=
    ⟨⟨by decide, by decide, by decide⟩, by decide, by decide⟩
  have hSelects : selects "channels.*.>" (topicName "abc" "temp") = true := by cbv
  obtain ⟨hFilter, hKey⟩ := translated_selects hPattern hLast hSubject
  exact ⟨hPattern, hLast, hSubject, hSelects, hFilter.mpr (.inl hSelects),
    hKey.mpr (.inl hSelects)⟩

/-- What is published on a channel itself reaches those who asked for its subtopics only,
if they asked in another grammar. -/
theorem selects_less_than_translated : Portable "channels.abc.>" ∧
    anyRest ∉ (tokens "channels.abc.>").dropLast ∧ Concrete (topicName "abc" "") ∧
    selects "channels.abc.>" (topicName "abc" "") = false ∧
    filterSelects (toTopicFilter "channels.abc.>") (toTopicFilter (topicName "abc" "")) = true ∧
    keySelects (toBindingKey "channels.abc.>") (topicName "abc" "") = true := by
  have hSubject : topicName "abc" "" = "channels.abc" := by cbv
  refine ⟨⟨by decide, by decide, by decide⟩, by decide, ?_, by cbv, by cbv, by cbv⟩
  rw [hSubject]
  exact ⟨⟨by decide, by decide, by decide⟩, by decide, by decide⟩

end DeviceBus.Subject
