import DeviceBus.Proofs.Subject.Patterns
import Mathlib.Data.Set.Function

/-! # Topic filters, read back

A subject that is translated for a broker of topics and read back is the same just if it has
no wildcard and no slash. Without the special characters of topic filters, no two subjects
have one filter.
-/

namespace DeviceBus.Subject

/-! ## Levels -/

theorem filterLevel_spec (t : Token) : filterLevel t ≠ anyRest ∧ filterLevel t ≠ anyOne ∧
    (filterLevel t = [] ↔ t = []) ∧ ('.' ∉ t → '.' ∉ filterLevel t) := by
  unfold filterLevel
  split
  · rename_i hRest
    subst hRest
    decide
  · rename_i hRest
    split
    · rename_i hOne
      subst hOne
      decide
    · rename_i hOne
      exact ⟨hRest, hOne, Iff.rfl, id⟩

theorem filterLevel_of_plain {t : Token} (hRest : t ≠ anyRest) (hOne : t ≠ anyOne) :
    filterLevel t = t := by
  rw [filterLevel, if_neg hRest, if_neg hOne]

theorem filterLevel_eq_self_iff {t : Token} :
    filterLevel t = t ↔ t ≠ anyOne ∧ t ≠ anyRest := by
  constructor
  · intro hSame
    obtain ⟨hRest, hOne, -⟩ := filterLevel_spec t
    exact ⟨hSame ▸ hOne, hSame ▸ hRest⟩
  · rintro ⟨hOne, hRest⟩
    exact filterLevel_of_plain hRest hOne

/-! ## Filters apart -/

/-- The token that a level of a filter stands for. -/
def levelToken (t : Token) : Token :=
  if t = anyNumber then anyRest else if t = anyLevel then anyOne else t

/-- No part of the topic is spelled as only filters spell it. -/
structure Native (topic : String) : Prop where
  slash : '/' ∉ topic.toList
  level : anyLevel ∉ tokens topic
  number : anyNumber ∉ tokens topic

theorem levelToken_filterLevel {t : Token} (hLevel : t ≠ anyLevel) (hNumber : t ≠ anyNumber) :
    levelToken (filterLevel t) = t := by
  unfold filterLevel
  split
  · rename_i hRest
    exact hRest.symm
  · split
    · rename_i hOne
      exact hOne.symm
    · rw [levelToken, if_neg hNumber, if_neg hLevel]

theorem Native.tokens_eq {topic : String} (h : Native topic) :
    (levels (toTopicFilter topic)).map levelToken = tokens topic := by
  rw [levels_of_whole h.slash, List.map_map]
  have hBack : ∀ t ∈ tokens topic, (levelToken ∘ filterLevel) t = t := by
    intro t ht
    apply levelToken_filterLevel
    · rintro rfl
      exact h.level ht
    · rintro rfl
      exact h.number ht
  exact (List.map_congr_left hBack).trans (List.map_id _)

theorem Native.eq_of_filter {topic topic' : String} (h : Native topic) (h' : Native topic')
    (hSame : toTopicFilter topic = toTopicFilter topic') : topic = topic' := by
  apply tokens_injective
  rw [← h.tokens_eq, hSame, h'.tokens_eq]

theorem exists_token_of_mem {s : String} {c : Char} (hc : c ∈ s.toList) (hDot : c ≠ '.') :
    ∃ t ∈ tokens s, c ∈ t := by
  have hJoin : ['.'].intercalate (tokens s) = s.toList := List.intercalate_splitOn _
  rw [← hJoin] at hc
  generalize tokens s = ts at hc
  induction ts with
  | nil => cases hc
  | cons t ts ih =>
    cases ts with
    | nil => exact ⟨t, List.mem_cons_self, by simpa using hc⟩
    | cons t' ts =>
      rw [List.intercalate_cons_cons, List.append_assoc, List.mem_append,
        List.singleton_append, List.mem_cons] at hc
      rcases hc with hFirst | hSep | hRest
      · exact ⟨t, List.mem_cons_self, hFirst⟩
      · exact (hDot hSep).elim
      · obtain ⟨t'', hMember, hToken⟩ := ih hRest
        exact ⟨t'', List.mem_cons_of_mem t hMember, hToken⟩

/-- No token has a special character of topic filters. -/
def Unmarked (s : String) : Prop :=
  ∀ t ∈ tokens s, '/' ∉ t ∧ '+' ∉ t ∧ '#' ∉ t

theorem Unmarked.native {s : String} (h : Unmarked s) : Native s where
  slash hSlash := by
    obtain ⟨t, ht, hc⟩ := exists_token_of_mem hSlash (by decide)
    exact (h t ht).1 hc
  level hLevel := (h _ hLevel).2.1 (List.mem_singleton_self '+')
  number hNumber := (h _ hNumber).2.2 (List.mem_singleton_self '#')

/-! ## Slashes -/

/-- A slash of a topic is a dot of the subject. -/
def unslash (c : Char) : Char :=
  if c = '/' then '.' else c

theorem unslash_ne_slash (c : Char) : unslash c ≠ '/' := by
  unfold unslash
  split
  · decide
  · assumption

theorem slash_not_mem_ofSlashTopic (topic : String) : '/' ∉ (ofSlashTopic topic).toList := by
  have hChars : (ofSlashTopic topic).toList = topic.toList.map unslash := String.toList_ofList
  rw [hChars, List.mem_map]
  rintro ⟨c, -, hc⟩
  exact unslash_ne_slash c hc

theorem map_unslash_of_whole {cs : List Char} (hWhole : '/' ∉ cs) : cs.map unslash = cs := by
  have hKept : ∀ c ∈ cs, unslash c = c := by
    intro c hc
    refine if_neg ?_
    rintro rfl
    exact hWhole hc
  exact (List.map_congr_left hKept).trans (List.map_id cs)

theorem map_unslash_intercalate {ls : List Token} (hWhole : ∀ l ∈ ls, '/' ∉ l) :
    (['/'].intercalate ls).map unslash = ['.'].intercalate ls := by
  induction ls with
  | nil => rfl
  | cons l ls ih =>
    obtain ⟨hFirst, hRest⟩ := List.forall_mem_cons.mp hWhole
    cases ls with
    | nil => simpa using map_unslash_of_whole hFirst
    | cons l' ls =>
      rw [List.intercalate_cons_cons, List.intercalate_cons_cons, List.map_append,
        List.map_append, ih hRest, map_unslash_of_whole hFirst]
      rfl

/-- What comes back is the levels of the filter, joined by dots. -/
theorem ofSlashTopic_toTopicFilter {s : String} (hWhole : '/' ∉ s.toList) :
    ofSlashTopic (toTopicFilter s) = ofTokens ((tokens s).map filterLevel) := by
  have hLevels : ∀ l ∈ (tokens s).map filterLevel, '/' ∉ l := by
    intro l hl
    obtain ⟨t, ht, rfl⟩ := List.mem_map.mp hl
    exact slash_not_mem_filterLevel hWhole ht
  have hBack : ofSlashTopic (toTopicFilter s) =
      String.ofList ((['/'].intercalate ((tokens s).map filterLevel)).map unslash) := by
    rw [ofSlashTopic, toTopicFilter, String.toList_ofList]
    rfl
  rw [hBack, map_unslash_intercalate hLevels, ofTokens]

theorem ofTokens_map_filterLevel_iff (s : String) :
    ofTokens ((tokens s).map filterLevel) = s ↔ isWildcard s = false := by
  have hSome : (tokens s).map filterLevel ≠ [] := by simp [tokens_ne_nil]
  have hWhole : ∀ l ∈ (tokens s).map filterLevel, '.' ∉ l := by
    intro l hl
    obtain ⟨t, ht, rfl⟩ := List.mem_map.mp hl
    exact (filterLevel_spec t).2.2.2 (not_mem_of_mem_tokens ht)
  have hTokens : tokens s = (tokens s).map filterLevel ↔
      ofTokens ((tokens s).map filterLevel) = s := by
    refine tokens_eq_iff.trans ⟨fun h => h.2.2, fun h => ⟨hSome, hWhole, h⟩⟩
  calc ofTokens ((tokens s).map filterLevel) = s
      ↔ (tokens s).map filterLevel = (tokens s).map id := by
        rw [← hTokens, List.map_id, eq_comm]
    _ ↔ ∀ t ∈ tokens s, t ≠ anyOne ∧ t ≠ anyRest := by
        rw [List.map_inj_left]
        exact forall₂_congr fun t _ => filterLevel_eq_self_iff
    _ ↔ isWildcard s = false := (isWildcard_eq_false_iff s).symm

/-- A subject comes back from its filter just if it has no wildcard and no slash, and without
special characters of filters subjects can be told by their filters. -/
theorem filters_reversible :
    (∀ s, ofSlashTopic (toTopicFilter s) = s ↔ isWildcard s = false ∧ '/' ∉ s.toList) ∧
      Set.InjOn toTopicFilter {s | Unmarked s} := by
  refine ⟨fun s => ⟨fun hBack => ?_, ?_⟩, ?_⟩
  · have hWhole : '/' ∉ s.toList := hBack ▸ slash_not_mem_ofSlashTopic (toTopicFilter s)
    rw [ofSlashTopic_toTopicFilter hWhole, ofTokens_map_filterLevel_iff] at hBack
    exact ⟨hBack, hWhole⟩
  · rintro ⟨hPlain, hWhole⟩
    rw [ofSlashTopic_toTopicFilter hWhole, ofTokens_map_filterLevel_iff]
    exact hPlain
  · intro s hs s' hs' hSame
    exact hs.native.eq_of_filter hs'.native hSame

/-- Empty tokens and special characters inside of tokens come back, a wildcard does not. -/
theorem filters_reversible_odd : ofSlashTopic (toTopicFilter ".a*.+.#") = ".a*.+.#" ∧
    ofSlashTopic (toTopicFilter "a.>") ≠ "a.>" ∧ Unmarked "a.*" ∧ Unmarked "a.>" ∧
    toTopicFilter "a.*" ≠ toTopicFilter "a.>" := by
  have hOne : Unmarked "a.*" := by
    have hTokens : tokens "a.*" = [['a'], anyOne] := by cbv
    rw [Unmarked, hTokens]
    decide
  have hRest : Unmarked "a.>" := by
    have hTokens : tokens "a.>" = [['a'], anyRest] := by cbv
    rw [Unmarked, hTokens]
    decide
  refine ⟨(filters_reversible.1 ".a*.+.#").mpr ⟨by decide, by decide⟩, fun hBack => ?_, hOne,
    hRest, fun hSame => ?_⟩
  · exact absurd ((filters_reversible.1 "a.>").mp hBack).1 (by decide)
  · exact absurd (filters_reversible.2 hOne hRest hSame) (by decide)

end DeviceBus.Subject
