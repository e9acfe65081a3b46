import DeviceBus.Gateway.Path
import Mathlib.Data.List.Basic

/-! # Topics of channel paths

The channel of an accepted path is one token without wildcards, so it is the second
token of the path's topic and stays readable there. Whatever the subtopic holds, a
topic selects subjects of its own channel only, and no two paths have the same topic.
-/

namespace DeviceBus

namespace Subject

theorem tokens_join (s t : String) : tokens (s ++ "." ++ t) = tokens s ++ tokens t := by
  have hChars : (s ++ "." ++ t).toList = s.toList ++ '.' :: t.toList := by
    simp
  rw [tokens, hChars, List.splitOn_append_cons_self]
  rfl

theorem tokens_of_whole {subject : String} (hWhole : '.' ∉ subject.toList) :
    tokens subject = [subject.toList] :=
  List.splitOn_eq_singleton hWhole

theorem tokens_append {first : String} (hWhole : '.' ∉ first.toList) (rest : String) :
    tokens (first ++ "." ++ rest) = first.toList :: tokens rest := by
  rw [tokens_join, tokens_of_whole hWhole]
  rfl

theorem tokens_injective {s s' : String} (hSame : tokens s = tokens s') : s = s' := by
  have hJoin := congrArg (['.'].intercalate ·) hSame
  simp only [tokens, List.intercalate_splitOn] at hJoin
  exact String.toList_inj.mp hJoin

theorem tokens_topicName {channel : String} (hWhole : '.' ∉ channel.toList) (subtopic : String) :
    tokens (topicName channel subtopic) =
      root.toList :: channel.toList :: if subtopic = "" then [] else tokens subtopic := by
  have hRoot : '.' ∉ root.toList := by decide
  unfold topicName
  split
  · rw [tokens_append hRoot, tokens_of_whole hWhole]
  · have hSplit : root ++ "." ++ channel ++ "." ++ subtopic =
        root ++ "." ++ (channel ++ "." ++ subtopic) := by
      simp only [String.append_assoc]
    rw [hSplit, tokens_append hRoot, tokens_append hWhole]

end Subject

namespace Gateway

theorem ChannelPath.isLiteral_iff {channel : String} : isLiteral channel = true ↔
    channel ≠ "" ∧ '.' ∉ channel.toList ∧ '*' ∉ channel.toList ∧ '>' ∉ channel.toList := by
  simp only [isLiteral, Bool.and_eq_true, decide_eq_true_eq, Bool.not_eq_true',
    List.any_eq_false, Bool.or_eq_true, not_or]
  constructor
  · rintro ⟨hSome, hChars⟩
    exact ⟨hSome, fun hc => (hChars _ hc).1.1 rfl, fun hc => (hChars _ hc).1.2 rfl,
      fun hc => (hChars _ hc).2 rfl⟩
  · rintro ⟨hSome, hDot, hOne, hRest⟩
    refine ⟨hSome, fun c hc => ⟨⟨?_, ?_⟩, ?_⟩⟩
    · rintro rfl
      exact hDot hc
    · rintro rfl
      exact hOne hc
    · rintro rfl
      exact hRest hc

/-- A path that some request can have. -/
def ChannelPath.Accepted (path : ChannelPath) : Prop :=
  ∃ segments, ChannelPath.parse? segments = some path

variable {path path' : ChannelPath}

theorem ChannelPath.Accepted.literal (hAccepted : path.Accepted) :
    isLiteral path.channel = true := by
  obtain ⟨segments, hParse⟩ := hAccepted
  unfold parse? at hParse
  split at hParse
  · split at hParse
    · rename_i hLegal
      cases hParse
      exact hLegal.2.2.1
    · cases hParse
  · cases hParse

theorem ChannelPath.Accepted.not_mem (hAccepted : path.Accepted) {c : Char}
    (hSpecial : c = '.' ∨ c = '*' ∨ c = '>') : c ∉ path.channel.toList := by
  obtain ⟨-, hDot, hOne, hRest⟩ := isLiteral_iff.mp hAccepted.literal
  rcases hSpecial with rfl | rfl | rfl
  · exact hDot
  · exact hOne
  · exact hRest

theorem ChannelPath.Accepted.ne_anyOne (hAccepted : path.Accepted) :
    path.channel.toList ≠ Subject.anyOne := by
  intro hSame
  exact hAccepted.not_mem (.inr (.inl rfl)) (hSame ▸ List.mem_singleton_self '*')

theorem ChannelPath.Accepted.ne_anyRest (hAccepted : path.Accepted) :
    path.channel.toList ≠ Subject.anyRest := by
  intro hSame
  exact hAccepted.not_mem (.inr (.inr rfl)) (hSame ▸ List.mem_singleton_self '>')

theorem ChannelPath.Accepted.tokens_topic (hAccepted : path.Accepted) :
    Subject.tokens path.topic = Subject.root.toList :: path.channel.toList ::
      if path.subtopic = "" then [] else Subject.tokens path.subtopic :=
  Subject.tokens_topicName (hAccepted.not_mem (.inl rfl)) path.subtopic

/-- A topic has the wildcards of its subtopic and no others. -/
theorem ChannelPath.Accepted.isWildcard_topic (hAccepted : path.Accepted) :
    Subject.isWildcard path.topic = Subject.isWildcard path.subtopic := by
  have hOne := hAccepted.ne_anyOne
  have hRest := hAccepted.ne_anyRest
  have hRoot : (Subject.root.toList == Subject.anyOne || Subject.root.toList == Subject.anyRest) =
      false := by decide
  have hChannel : (path.channel.toList == Subject.anyOne ||
      path.channel.toList == Subject.anyRest) = false := by
    simp [hOne, hRest]
  rw [Subject.isWildcard, hAccepted.tokens_topic, List.any_cons, List.any_cons, hRoot, hChannel,
    Bool.false_or, Bool.false_or]
  split
  · rename_i hEmpty
    rw [hEmpty]
    rfl
  · rfl

theorem ChannelPath.Accepted.channel_eq (hAccepted : path.Accepted) (hAccepted' : path'.Accepted)
    (hSelects : Subject.selects path.topic path'.topic = true) : path.channel = path'.channel := by
  rw [Subject.selects, hAccepted.tokens_topic, hAccepted'.tokens_topic, Subject.tokensMatch,
    if_neg fun hLast => List.cons_ne_nil _ _ hLast.2] at hSelects
  rw [Bool.and_eq_true, Subject.tokensMatch, if_neg fun hLast => hAccepted.ne_anyRest hLast.1]
    at hSelects
  have hChannel := (Bool.and_eq_true_iff.mp hSelects.2).1
  rw [Bool.or_eq_true, beq_iff_eq, beq_iff_eq] at hChannel
  rcases hChannel with hWildcard | hSame
  · exact (hAccepted.ne_anyOne hWildcard).elim
  · exact String.toList_inj.mp hSame

theorem ChannelPath.Accepted.eq_of_topic (hAccepted : path.Accepted) (hAccepted' : path'.Accepted)
    (hTopic : path.topic = path'.topic) : path = path' := by
  have hTokens := congrArg Subject.tokens hTopic
  rw [hAccepted.tokens_topic, hAccepted'.tokens_topic, List.cons.injEq, List.cons.injEq] at hTokens
  obtain ⟨-, hChannel, hRest⟩ := hTokens
  have hNonempty : ∀ s, Subject.tokens s ≠ [] := fun s => List.splitOnP_ne_nil _ _
  obtain ⟨channel, subtopic⟩ := path
  obtain ⟨channel', subtopic'⟩ := path'
  dsimp only at hChannel hRest
  obtain rfl := String.toList_inj.mp hChannel
  congr 1
  split at hRest
  · rename_i hEmpty
    split at hRest
    · rename_i hEmpty'
      rw [hEmpty, hEmpty']
    · exact (hNonempty subtopic' hRest.symm).elim
  · split at hRest
    · exact (hNonempty subtopic hRest).elim
    · exact Subject.tokens_injective hRest

end Gateway

end DeviceBus
