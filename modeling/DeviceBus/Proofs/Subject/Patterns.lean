import DeviceBus.Proofs.Subject.Dialects

/-! # What a pattern selects, place by place

The loop that compares a pattern with a subject stops early and looks ahead for the
wildcard in last place. Here its answer is a statement about the tokens in their places.
-/

namespace DeviceBus.Subject

/-! ## Tokens -/

/-- Tokens are the only way to write a text as dot-free parts joined by dots. -/
theorem tokens_eq_iff {s : String} {ts : List Token} :
    tokens s = ts ↔ ts ≠ [] ∧ (∀ t ∈ ts, '.' ∉ t) ∧ ofTokens ts = s := by
  constructor
  · rintro rfl
    refine ⟨tokens_ne_nil s, fun t ht => not_mem_of_mem_tokens ht, ?_⟩
    rw [ofTokens, tokens, List.intercalate_splitOn, String.ofList_toList]
  · rintro ⟨hSome, hWhole, rfl⟩
    exact tokens_ofTokens hSome hWhole

/-! ## Places -/

/-- In each of the first `k` places the pattern has `*` or the token of the subject. -/
def Agree (k : ℕ) (ps ss : List Token) : Prop :=
  ∀ i < k, ∃ p s, ps[i]? = some p ∧ ss[i]? = some s ∧ (p = anyOne ∨ p = s)

theorem agree_zero (ps ss : List Token) : Agree 0 ps ss :=
  fun i hi => absurd hi (Nat.not_lt_zero i)

theorem agree_succ_cons {k : ℕ} {p s : Token} {ps ss : List Token} :
    Agree (k + 1) (p :: ps) (s :: ss) ↔ (p = anyOne ∨ p = s) ∧ Agree k ps ss := by
  constructor
  · intro hAgree
    refine ⟨?_, fun i hi => hAgree (i + 1) (Nat.succ_lt_succ hi)⟩
    obtain ⟨p', s', hp, hs, hToken⟩ := hAgree 0 k.succ_pos
    cases hp
    cases hs
    exact hToken
  · rintro ⟨hToken, hRest⟩ i hi
    cases i with
    | zero => exact ⟨p, s, rfl, rfl, hToken⟩
    | succ i => exact hRest i (Nat.lt_of_succ_lt_succ hi)

/-- The pattern agrees with a subject of its length, or it ends in `>` and agrees with a
subject of no fewer tokens in the places before. -/
def Fits (ps ss : List Token) : Prop :=
  (ps.length = ss.length ∧ Agree ps.length ps ss) ∨
    (ps.getLast? = some anyRest ∧ ps.length ≤ ss.length ∧ Agree (ps.length - 1) ps ss)

theorem fits_anyRest_iff (ss : List Token) : Fits [anyRest] ss ↔ ss ≠ [] := by
  constructor
  · rintro (⟨hLength, -⟩ | ⟨-, hLength, -⟩) rfl
    · cases hLength
    · exact absurd hLength (Nat.not_succ_le_zero 0)
  · intro hSome
    exact .inr ⟨rfl, List.length_pos_iff.mpr hSome, agree_zero _ ss⟩

theorem fits_nil_iff (ss : List Token) : Fits [] ss ↔ ss = [] := by
  constructor
  · rintro (⟨hLength, -⟩ | ⟨hLast, -⟩)
    · exact List.length_eq_zero_iff.mp hLength.symm
    · cases hLast
  · rintro rfl
    exact .inl ⟨rfl, agree_zero [] []⟩

theorem not_fits_cons_nil (p : Token) (ps : List Token) : ¬Fits (p :: ps) [] := by
  rintro (⟨hLength, -⟩ | ⟨-, hLength, -⟩)
  · cases hLength
  · exact absurd hLength (Nat.not_succ_le_zero _)

theorem fits_cons_cons_iff {p s : Token} {ps ss : List Token}
    (hNotLast : ¬(p = anyRest ∧ ps = [])) :
    Fits (p :: ps) (s :: ss) ↔ (p = anyOne ∨ p = s) ∧ Fits ps ss := by
  cases ps with
  | nil =>
    have hLast : p ≠ anyRest := fun hp => hNotLast ⟨hp, rfl⟩
    rw [fits_nil_iff]
    simp [Fits, agree_succ_cons, agree_zero, hLast, and_comm]
  | cons q qs =>
    have hShorter : (p :: q :: qs).length - 1 = ((q :: qs).length - 1) + 1 := rfl
    have hPattern : (p :: q :: qs).length = (q :: qs).length + 1 := rfl
    have hSubject : (s :: ss).length = ss.length + 1 := rfl
    rw [Fits, Fits, hShorter, hPattern, hSubject, agree_succ_cons, agree_succ_cons,
      List.getLast?_cons_cons, Nat.add_right_cancel_iff, Nat.add_le_add_iff_right]
    tauto

theorem tokensMatch_iff_fits (ps ss : List Token) : tokensMatch ps ss = true ↔ Fits ps ss := by
  induction ps generalizing ss with
  | nil => rw [tokensMatch, List.isEmpty_iff, fits_nil_iff]
  | cons p ps ih =>
    by_cases hLast : p = anyRest ∧ ps = []
    · obtain ⟨rfl, rfl⟩ := hLast
      rw [fits_anyRest_iff]
      cases ss <;> simp [tokensMatch]
    · cases ss with
      | nil =>
        rw [tokensMatch, if_neg hLast]
        exact iff_of_false Bool.false_ne_true (not_fits_cons_nil p ps)
      | cons s ss =>
        rw [fits_cons_cons_iff hLast, ← ih, tokensMatch, if_neg hLast, Bool.and_eq_true,
          Bool.or_eq_true, beq_iff_eq, beq_iff_eq]

/-- Before the last place a `>` is a token like others. -/
theorem Fits.inner_anyRest {ps ss : List Token} (hFits : Fits ps ss) {i : ℕ}
    (hInner : i + 1 < ps.length) (hRest : ps[i]? = some anyRest) : ss[i]? = some anyRest := by
  have hAgree : Agree (ps.length - 1) ps ss := by
    rcases hFits with ⟨-, hAgree⟩ | ⟨-, -, hAgree⟩
    · exact fun j hj => hAgree j (by omega)
    · exact hAgree
  obtain ⟨p, s, hp, hs, hToken⟩ := hAgree i (by omega)
  rw [hRest] at hp
  cases hp
  rcases hToken with hOne | rfl
  · exact absurd hOne (by decide)
  · exact hs

/-- Without wildcards tokens agree with themselves only. -/
theorem fits_iff_eq {ps ss : List Token} (hPlain : ∀ p ∈ ps, p ≠ anyOne ∧ p ≠ anyRest) :
    Fits ps ss ↔ ps = ss := by
  induction ps generalizing ss with
  | nil => rw [fits_nil_iff, eq_comm]
  | cons p ps ih =>
    obtain ⟨hToken, hTokens⟩ := List.forall_mem_cons.mp hPlain
    cases ss with
    | nil => exact iff_of_false (not_fits_cons_nil p ps) (List.cons_ne_nil p ps)
    | cons s ss =>
      rw [fits_cons_cons_iff fun hLast => hToken.2 hLast.1, ih hTokens, List.cons.injEq,
        or_iff_right hToken.1]

theorem isWildcard_eq_false_iff (pattern : String) :
    isWildcard pattern = false ↔ ∀ p ∈ tokens pattern, p ≠ anyOne ∧ p ≠ anyRest := by
  simp [isWildcard]

theorem selects_iff_places (pattern subject : String) :
    (selects pattern subject = true ↔
        ((tokens pattern).length = (tokens subject).length ∧
            Agree (tokens pattern).length (tokens pattern) (tokens subject)) ∨
          ((tokens pattern).getLast? = some anyRest ∧
            (tokens pattern).length ≤ (tokens subject).length ∧
            Agree ((tokens pattern).length - 1) (tokens pattern) (tokens subject))) ∧
      (selects pattern subject = true → ∀ i, i + 1 < (tokens pattern).length →
        (tokens pattern)[i]? = some anyRest → (tokens subject)[i]? = some anyRest) ∧
      (isWildcard pattern = false → (selects pattern subject = true ↔ pattern = subject)) := by
  have hFits : selects pattern subject = true ↔ Fits (tokens pattern) (tokens subject) :=
    tokensMatch_iff_fits _ _
  refine ⟨hFits, fun hSelects i hInner => (hFits.mp hSelects).inner_anyRest hInner, ?_⟩
  intro hPlain
  rw [hFits, fits_iff_eq ((isWildcard_eq_false_iff pattern).mp hPlain)]
  exact ⟨fun hTokens => tokens_injective hTokens, congrArg tokens⟩

/-- An empty token is a token, a wildcard inside a token is none, and an inner `>` stands
for itself. -/
theorem selects_iff_places_odd : selects "a..>" "a..b.c" = true ∧ selects ">.a" "b.a" = false ∧
    isWildcard "a*.>>." = false ∧ selects "a*.>>." "a*.>>" = false := by
  have hPlain : isWildcard "a*.>>." = false := by decide
  refine ⟨?_, ?_, hPlain, ?_⟩
  · have hPattern : tokens "a..>" = [['a'], [], anyRest] := by cbv
    have hSubject : tokens "a..b.c" = [['a'], [], ['b'], ['c']] := by cbv
    refine (selects_iff_places "a..>" "a..b.c").1.mpr (.inr ?_)
    rw [hPattern, hSubject]
    refine ⟨rfl, by decide, agree_succ_cons.mpr ⟨.inr rfl, agree_succ_cons.mpr ⟨.inr rfl, ?_⟩⟩⟩
    exact agree_zero _ _
  · refine Bool.eq_false_iff.mpr fun hSelects => ?_
    have hInner := (selects_iff_places ">.a" "b.a").2.1 hSelects 0 (by decide) (by decide)
    exact absurd hInner (by decide)
  · refine Bool.eq_false_iff.mpr fun hSelects => ?_
    have hSame := ((selects_iff_places "a*.>>." "a*.>>").2.2 hPlain).mp hSelects
    exact absurd hSame (by decide)

end DeviceBus.Subject
