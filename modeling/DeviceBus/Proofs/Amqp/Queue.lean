import DeviceBus.Amqp.Queue
import DeviceBus.Proofs.Subject.Dialects

/-! # Who shares a queue

The name of a shared queue has the tokens of the group and then those of the binding key,
and nothing that tells where the group ends. So two groups have one queue for their keys
just when one of them goes on from the other, after a dot, with tokens that the other's key
begins with. Groups of equally many tokens, as those without dots, never share a queue.
-/

namespace DeviceBus

namespace Subject

theorem exists_tokens_eq {s : String} {first rest : List Token} (hRest : rest ≠ [])
    (hTokens : tokens s = first ++ rest) : ∃ t, tokens t = rest := by
  refine ⟨ofTokens rest, tokens_ofTokens hRest fun t ht => not_mem_of_mem_tokens (s := s) ?_⟩
  rw [hTokens]
  exact List.mem_append_right first ht

end Subject

namespace Amqp

open Subject

variable {group group' key key' : String}

/-- The second group goes on from the first one with the beginning of the first one's key, and
has the rest of that key. -/
def Overlaps (group key group' key' : String) : Prop :=
  ∃ between, group' = group ++ "." ++ between ∧ key = between ++ "." ++ key'

theorem tokens_name (group key : String) :
    tokens (Queue.declared key (some group)).name = tokens group ++ tokens key :=
  tokens_join group key

theorem Overlaps.name_eq (h : Overlaps group key group' key') :
    (Queue.declared key (some group)).name = (Queue.declared key' (some group')).name := by
  obtain ⟨between, rfl, rfl⟩ := h
  apply tokens_injective
  simp only [tokens_name, tokens_join, List.append_assoc]

/-- What the tokens of the second group have beyond those of the first one is a text between
dots, or nothing. -/
theorem eq_or_overlaps {between : List Token} (hGroup : tokens group' = tokens group ++ between)
    (hKey : tokens key = between ++ tokens key') :
    (group = group' ∧ key = key') ∨ Overlaps group key group' key' := by
  by_cases hNone : between = []
  · subst hNone
    rw [List.append_nil] at hGroup
    exact .inl ⟨(tokens_injective hGroup).symm, tokens_injective hKey⟩
  · obtain ⟨text, rfl⟩ := exists_tokens_eq hNone hGroup
    rw [← tokens_join] at hGroup hKey
    exact .inr ⟨text, tokens_injective hGroup, tokens_injective hKey⟩

theorem name_eq_iff : (Queue.declared key (some group)).name =
    (Queue.declared key' (some group')).name ↔
      (group = group' ∧ key = key') ∨ Overlaps group key group' key' ∨
        Overlaps group' key' group key := by
  constructor
  · intro hSame
    have hTokens := congrArg tokens hSame
    rw [tokens_name, tokens_name] at hTokens
    rcases List.append_eq_append_iff.mp hTokens with
      ⟨between, hGroup, hKey⟩ | ⟨between, hGroup, hKey⟩
    · exact (eq_or_overlaps hGroup hKey).imp_right .inl
    · exact (eq_or_overlaps hGroup hKey).imp (fun ⟨hGroup, hKey⟩ => ⟨hGroup.symm, hKey.symm⟩) .inr
  · rintro (⟨rfl, rfl⟩ | hOverlap | hOverlap)
    · rfl
    · exact hOverlap.name_eq
    · exact hOverlap.name_eq.symm

theorem Overlaps.length_lt (h : Overlaps group key group' key') :
    (tokens group).length < (tokens group').length := by
  obtain ⟨between, rfl, -⟩ := h
  have hSome := List.length_pos_of_ne_nil (tokens_ne_nil between)
  rw [tokens_join, List.length_append]
  omega

/-- Groups of equally many tokens share a queue only if they are one group with one key. -/
theorem name_inj_of_length (hLength : (tokens group).length = (tokens group').length) :
    (Queue.declared key (some group)).name = (Queue.declared key' (some group')).name ↔
      group = group' ∧ key = key' := by
  rw [name_eq_iff, or_iff_left]
  rintro (hOverlap | hOverlap)
  · exact hOverlap.length_lt.ne hLength
  · exact hOverlap.length_lt.ne hLength.symm

/-- The name of a queue tells its group and its key from those of another one, unless one of
the groups goes on from the other. -/
theorem queues_apart_iff (group group' pattern pattern' : String) :
    ((Queue.declared (toBindingKey pattern) (some group)).name =
        (Queue.declared (toBindingKey pattern') (some group')).name ↔
      group = group' ∧ toBindingKey pattern = toBindingKey pattern') ↔
    ¬Overlaps group (toBindingKey pattern) group' (toBindingKey pattern') ∧
      ¬Overlaps group' (toBindingKey pattern') group (toBindingKey pattern) := by
  constructor
  · intro hTells
    constructor
    · intro hOverlap
      have hSame := (hTells.mp hOverlap.name_eq).1
      exact hOverlap.length_lt.ne (congrArg (List.length ∘ tokens) hSame)
    · intro hOverlap
      have hSame := (hTells.mp hOverlap.name_eq.symm).1
      exact hOverlap.length_lt.ne (congrArg (List.length ∘ tokens) hSame.symm)
  · rintro ⟨hNot, hNot'⟩
    rw [name_eq_iff, or_iff_left (not_or.mpr ⟨hNot, hNot'⟩)]

/-- A group that is named like another one and the first token of every channel topic. What
the two observe are different channels, and they share a queue. -/
theorem queues_not_apart : "g" ≠ "" ∧ "g.channels" ≠ "" ∧
    (Queue.declared (toBindingKey (topicName "channels" "x")) (some "g")).name =
      "g.channels.channels.x" ∧
    (Queue.declared (toBindingKey (topicName "x" "")) (some "g.channels")).name =
      "g.channels.channels.x" ∧
    ¬("g" = "g.channels" ∧
      toBindingKey (topicName "channels" "x") = toBindingKey (topicName "x" "")) := by
  exact ⟨by decide, by decide, by cbv, by cbv, fun hSame => absurd hSame.1 (by decide)⟩

end Amqp

end DeviceBus
