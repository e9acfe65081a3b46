import DeviceBus.Proofs.Facade
import DeviceBus.Proofs.Registry.Flat

/-! # A facade with a reservation and the same facade without

Two facades are handled alike, and one of them has made a reservation that the other has not.
The tickets that both draw from then on differ by the one that the reservation took. But for
this numbering and for the reserved pair they stay the same, also when the reservation is gone.
-/

namespace DeviceBus

variable {H : Type}

/-! ## Numbers with a gap -/

/-- What the number `n` is when the number in the gap is left out. -/
def skip (gap : Option Nat) (n : Nat) : Nat :=
  match gap with
  | none => n
  | some k => if n < k then n else n + 1

section

variable {gap : Option Nat} {k m n : Nat}

@[simp] theorem skip_none (n : Nat) : skip none n = n := rfl

theorem skip_some (k n : Nat) : skip (some k) n = if n < k then n else n + 1 := rfl

theorem skip_inj : skip gap m = skip gap n ↔ m = n := by
  cases gap with
  | none => exact Iff.rfl
  | some k =>
    rw [skip_some, skip_some]
    split <;> split <;> omega

theorem skip_ne (k n : Nat) : skip (some k) n ≠ k := by
  rw [skip_some]
  split <;> omega

theorem skip_of_lt (hLess : n < k) : skip (some k) n = n :=
  if_pos hLess

theorem skip_of_le (hLe : k ≤ n) : skip (some k) n = n + 1 :=
  if_neg (Nat.not_lt_of_le hLe)

theorem skip_eq_self (hBelow : ∀ k, gap = some k → n < k) : skip gap n = n := by
  cases gap with
  | none => rfl
  | some k => exact skip_of_lt (hBelow k rfl)

theorem skip_succ (hPast : ∀ k, gap = some k → k ≤ n) : skip gap (n + 1) = skip gap n + 1 := by
  cases gap with
  | none => rfl
  | some k =>
    have hLe := hPast k rfl
    rw [skip_of_le hLe, skip_of_le (Nat.le_succ_of_le hLe)]

end

def Subscription.renumber (gap : Option Nat) (s : Subscription H) : Subscription H :=
  { s with ticket := skip gap s.ticket }

namespace Facade

variable {f f' g g' : Facade H} {gap : Option Nat} {client topic : String} {handle k : Nat}
  {own : String → String → Option (Subscription H)}

/-! ## Both facades -/

/-- The facade `f` has what `g` has and what is its own; its tickets have a gap. -/
structure Beside (gap : Option Nat) (own : String → String → Option (Subscription H))
    (f g : Facade H) : Prop where
  group : f.group = g.group
  nextTicket : f.registry.nextTicket = skip gap g.registry.nextTicket
  drawn : ∀ k, gap = some k → k ≤ g.registry.nextTicket
  pair : ∀ t c, f.registry.get? t c =
    (own t c).or ((g.registry.get? t c).map (Subscription.renumber gap))
  own : ∀ t c s, own t c = some s → gap = some s.ticket ∧ g.registry.get? t c = none
  active : ∀ k, skip gap k ∈ f.active ↔ k ∈ g.active
  same : gap = none → f = g

theorem Beside.refl (f : Facade H) : f.Beside none (fun _ _ => none) f where
  group := rfl
  nextTicket := rfl
  drawn _ hGap := by cases hGap
  pair t c := by
    cases f.registry.get? t c with
    | none => rfl
    | some s => rfl
  own _ _ _ hOwn := by cases hOwn
  active _ := Iff.rfl
  same _ := rfl

theorem Beside.pair_of_clear (hBeside : f.Beside gap own g) (hClear : own topic client = none) :
    f.registry.get? topic client =
      (g.registry.get? topic client).map (Subscription.renumber gap) := by
  rw [hBeside.pair, hClear, Option.none_or]

theorem Beside.pair_none_iff (hBeside : f.Beside gap own g) (hClear : own topic client = none) :
    f.registry.get? topic client = none ↔ g.registry.get? topic client = none := by
  rw [hBeside.pair_of_clear hClear, Option.map_eq_none_iff]

/-- A pair carries a ticket in both facades or in none of them. -/
theorem Beside.carries (hBeside : f.Beside gap own g) (topic client : String) (k : Nat) :
    (∃ s, own topic client = none ∧ g.registry.get? topic client = some s ∧ s.ticket = k ∧
        f.registry.get? topic client = some (s.renumber gap)) ∨
      (∀ s, g.registry.get? topic client = some s → s.ticket ≠ k) ∧
        ∀ s, f.registry.get? topic client = some s → s.ticket ≠ skip gap k := by
  cases hOwn : own topic client with
  | some s =>
    obtain ⟨hGap, hNone⟩ := hBeside.own topic client s hOwn
    refine .inr ⟨fun s' hs' => ?_, fun s' hs' => ?_⟩
    · rw [hNone] at hs'
      cases hs'
    · rw [hBeside.pair, hOwn] at hs'
      cases hs'
      rw [hGap]
      exact (skip_ne _ _).symm
  | none =>
    have hPair := hBeside.pair_of_clear hOwn
    cases hOther : g.registry.get? topic client with
    | none =>
      rw [hOther] at hPair
      refine .inr ⟨fun _ hs => ?_, fun _ hs => ?_⟩
      · cases hs
      · rw [hPair] at hs
        cases hs
    | some s =>
      rw [hOther] at hPair
      by_cases hTicket : s.ticket = k
      · exact .inl ⟨s, rfl, rfl, hTicket, hPair⟩
      · refine .inr ⟨fun s' hs' => ?_, fun s' hs' => ?_⟩
        · cases hs'
          exact hTicket
        · rw [hPair] at hs'
          cases hs'
          exact fun hSame => hTicket (skip_inj.mp hSame)

/-- The same is put in the place of one pair. -/
theorem Beside.update (hBeside : f.Beside gap own g) (hClear : own topic client = none)
    (x : Option (Subscription H)) (hGroup : f'.group = f.group) (hGroup' : g'.group = g.group)
    (hNext : f'.registry.nextTicket = skip gap g'.registry.nextTicket)
    (hDrawn : g.registry.nextTicket ≤ g'.registry.nextTicket)
    (hPairs : ∀ t c, f'.registry.get? t c =
      if t = topic ∧ c = client then x.map (Subscription.renumber gap) else f.registry.get? t c)
    (hPairs' : ∀ t c, g'.registry.get? t c =
      if t = topic ∧ c = client then x else g.registry.get? t c)
    (hActive : ∀ k, skip gap k ∈ f'.active ↔ k ∈ g'.active)
    (hSame : gap = none → f = g → f' = g') :
    f'.Beside gap own g' where
  group := by rw [hGroup, hGroup', hBeside.group]
  nextTicket := hNext
  drawn k hGap := Nat.le_trans (hBeside.drawn k hGap) hDrawn
  pair t c := by
    rw [hPairs, hPairs']
    split
    · rename_i hOwn
      rw [hOwn.1, hOwn.2, hClear, Option.none_or]
    · exact hBeside.pair t c
  own t c s hOwn := by
    rw [hPairs', if_neg]
    · exact hBeside.own t c s hOwn
    · rintro ⟨rfl, rfl⟩
      rw [hClear] at hOwn
      cases hOwn
  active := hActive
  same hGap := hSame hGap (hBeside.same hGap)

/-! ## What is done to both -/

theorem Beside.reserve (hBeside : f.Beside gap own g) (hClear : own topic client = none)
    (handler : H) :
    (∃ e, f.reserve client topic handler = .error e ∧ g.reserve client topic handler = .error e) ∨
      ∃ k f' g', f.reserve client topic handler = .ok (skip gap k, f') ∧
        g.reserve client topic handler = .ok (k, g') ∧ f'.Beside gap own g' := by
  cases hNames : checkNames client topic with
  | error e =>
    exact .inl ⟨e, by simp only [Facade.reserve, hNames], by simp only [Facade.reserve, hNames]⟩
  | ok names =>
    obtain ⟨hTopic, hClient⟩ := checkNames_eq_ok_iff.mp hNames
    have hTaken := not_congr (hBeside.pair_none_iff hClear)
    rcases g.reserve_of_names hTopic hClient handler with ⟨hTaken', hg⟩ | ⟨hFree, k, g', hg⟩
    · rcases f.reserve_of_names hTopic hClient handler with ⟨-, hf⟩ | ⟨hFree, -⟩
      · exact .inl ⟨_, hf, hg⟩
      · exact (hTaken.mpr hTaken' hFree).elim
    · rcases f.reserve_of_names hTopic hClient handler with ⟨hTaken', -⟩ | ⟨-, ticket, f', hf⟩
      · exact (hTaken.mp hTaken' hFree).elim
      · obtain ⟨hRegistry, hActive, hGroup⟩ := reserve_eq_ok hf
        obtain ⟨hRegistry', hActive', hGroup'⟩ := reserve_eq_ok hg
        obtain ⟨rfl, hNext, -, hPairs⟩ := Registry.reserve?_eq_some hRegistry
        obtain ⟨rfl, hNext', -, hPairs'⟩ := Registry.reserve?_eq_some hRegistry'
        rw [hBeside.nextTicket] at hf hNext hPairs hActive
        refine .inr ⟨_, f', g', hf, hg, hBeside.update hClear
          (some ⟨g.registry.nextTicket, none, handler⟩) hGroup hGroup' ?_ ?_ hPairs hPairs' ?_ ?_⟩
        · rw [hNext, hNext', skip_succ hBeside.drawn]
        · rw [hNext']
          exact Nat.le_succ _
        · intro k
          rw [hActive, hActive', List.mem_cons, List.mem_cons, skip_inj, hBeside.active]
        · rintro rfl rfl
          rw [hf] at hg
          cases hg
          rfl

theorem Beside.remove (hBeside : f.Beside gap own g) (hClear : own topic client = none) :
    (∃ e, f.remove client topic = .error e ∧ g.remove client topic = .error e) ∨
      ∃ s f' g', f.remove client topic = .ok (s.renumber gap, f') ∧
        g.remove client topic = .ok (s, g') ∧ f'.Beside gap own g' := by
  cases hNames : checkNames client topic with
  | error e =>
    exact .inl ⟨e, by simp only [Facade.remove, hNames], by simp only [Facade.remove, hNames]⟩
  | ok names =>
    obtain ⟨hTopic, hClient⟩ := checkNames_eq_ok_iff.mp hNames
    have hSame := hBeside.pair_of_clear hClear
    rcases g.remove_of_names hTopic hClient with ⟨hNone, hg⟩ | ⟨s, g', hPair, hg⟩
    · rw [hNone] at hSame
      rcases f.remove_of_names hTopic hClient with ⟨-, hf⟩ | ⟨s, f', hPair, -⟩
      · exact .inl ⟨_, hf, hg⟩
      · rw [hSame] at hPair
        cases hPair
    · rw [hPair] at hSame
      rcases f.remove_of_names hTopic hClient with ⟨hNone, -⟩ | ⟨s', f', hPair', hf⟩
      · rw [hSame] at hNone
        cases hNone
      · obtain rfl := Option.some.inj (hSame.symm.trans hPair')
        obtain ⟨hRegistry, hActive, hGroup⟩ := remove_eq_ok hf
        obtain ⟨hRegistry', hActive', hGroup'⟩ := remove_eq_ok hg
        obtain ⟨-, hNext, hPairs⟩ := Registry.remove?_eq_some hRegistry
        obtain ⟨-, hNext', hPairs'⟩ := Registry.remove?_eq_some hRegistry'
        refine .inr ⟨s, f', g', hf, hg, hBeside.update hClear none hGroup hGroup' ?_ ?_
          hPairs hPairs' ?_ ?_⟩
        · rw [hNext, hNext', hBeside.nextTicket]
        · exact Nat.le_of_eq hNext'.symm
        · intro k
          simp only [hActive, hActive', List.mem_filter, decide_eq_true_eq, ne_eq, hBeside.active,
            Subscription.renumber, skip_inj]
        · rintro rfl rfl
          rw [hf] at hg
          cases hg
          rfl

theorem Beside.deactivate (hBeside : f.Beside gap own g) (k : Nat) :
    (f.deactivate (skip gap k)).Beside gap own (g.deactivate k) where
  group := hBeside.group
  nextTicket := hBeside.nextTicket
  drawn := hBeside.drawn
  pair := hBeside.pair
  own := hBeside.own
  active m := by
    rw [mem_deactivate, mem_deactivate, hBeside.active, ne_eq, skip_inj]
  same hGap := by
    rw [hBeside.same hGap, hGap, skip_none]

theorem Beside.attach (hBeside : f.Beside gap own g) (client topic : String) (k handle : Nat) :
    (∃ f' g', f.attach client topic (skip gap k) handle = (true, f') ∧
        g.attach client topic k handle = (true, g') ∧ f'.Beside gap own g') ∨
      ∃ f' g', f.attach client topic (skip gap k) handle = (false, f') ∧
        g.attach client topic k handle = (false, g') ∧ f'.Beside gap own g' := by
  rcases hBeside.carries topic client k with
    ⟨s, hClear, hPair, rfl, hPair'⟩ | ⟨hOther, hOther'⟩
  · obtain ⟨f', hf⟩ := exists_attach hPair' rfl handle
    obtain ⟨g', hg⟩ := exists_attach hPair rfl handle
    obtain ⟨hRegistry, hActive, hGroup⟩ := attach_eq_true hf
    obtain ⟨hRegistry', hActive', hGroup'⟩ := attach_eq_true hg
    obtain ⟨s₁, hs₁, -, hNext, hPairs⟩ := Registry.attach?_eq_some hRegistry
    obtain ⟨s₂, hs₂, -, hNext', hPairs'⟩ := Registry.attach?_eq_some hRegistry'
    obtain rfl := Option.some.inj (hPair'.symm.trans hs₁)
    obtain rfl := Option.some.inj (hPair.symm.trans hs₂)
    refine .inl ⟨f', g', hf, hg, hBeside.update hClear (some { s with handle := some handle })
      hGroup hGroup' ?_ ?_ hPairs hPairs' ?_ ?_⟩
    · rw [hNext, hNext', hBeside.nextTicket]
    · exact Nat.le_of_eq hNext'.symm
    · intro k
      rw [hActive, hActive', hBeside.active]
    · rintro rfl rfl
      exact congrArg Prod.snd (hf.symm.trans hg)
  · refine .inr ⟨_, _, ?_, ?_, hBeside.deactivate k⟩
    · simp only [Facade.attach, Registry.attach?_eq_none_iff.mpr hOther']
    · simp only [Facade.attach, Registry.attach?_eq_none_iff.mpr hOther]

theorem Beside.discard (hBeside : f.Beside gap own g) (client topic : String) (k : Nat) :
    (f.discard client topic (skip gap k)).Beside gap own (g.discard client topic k) := by
  rcases hBeside.carries topic client k with
    ⟨s, hClear, hPair, rfl, hPair'⟩ | ⟨hOther, hOther'⟩
  · obtain ⟨hNext, hPairs⟩ := Registry.discard_of_own hPair' rfl
    obtain ⟨hNext', hPairs'⟩ := Registry.discard_of_own hPair rfl
    refine hBeside.update hClear none rfl rfl ?_ ?_ hPairs hPairs' hBeside.active ?_
    · exact hNext.trans (hBeside.nextTicket.trans (congrArg (skip gap) hNext'.symm))
    · exact Nat.le_of_eq hNext'.symm
    · rintro rfl rfl
      rfl
  · rw [Facade.discard, Facade.discard, Registry.discard_of_other hOther,
      Registry.discard_of_other hOther']
    exact hBeside

theorem Beside.receive? (hBeside : f.Beside gap own g) (k : Nat) (data : Bytes) :
    f.receive? (skip gap k) data = g.receive? k data := by
  simp only [Facade.receive?, hBeside.active]

theorem Beside.drain (hBeside : f.Beside none own g) :
    f.drain.1 = g.drain.1 ∧ f.drain.2.Beside none own g.drain.2 := by
  obtain rfl := hBeside.same rfl
  have hNone : own = fun _ _ => none := by
    funext t c
    cases hOwn : own t c with
    | none => rfl
    | some s => cases (hBeside.own t c s hOwn).1
  rw [hNone]
  exact ⟨rfl, .refl _⟩

/-! ## Without a reservation -/

theorem Beside.pair_eq (hBeside : f.Beside gap (fun _ _ => none) g) (topic client : String) :
    f.registry.get? topic client =
      (g.registry.get? topic client).map (Subscription.renumber gap) :=
  hBeside.pair_of_clear rfl

theorem Beside.containsTopic_eq (hBeside : f.Beside gap (fun _ _ => none) g)
    (hPruned : f.registry.Pruned) (hPruned' : g.registry.Pruned) (topic : String) :
    f.registry.containsTopic topic = g.registry.containsTopic topic := by
  rw [Bool.eq_iff_iff, Registry.containsTopic, Registry.containsTopic, Table.contains_iff,
    Table.contains_iff, hPruned.topic_iff, hPruned'.topic_iff]
  simp only [ne_eq, hBeside.pair_none_iff rfl]

theorem Beside.size_eq (hBeside : f.Beside gap (fun _ _ => none) g) :
    f.registry.size = g.registry.size := by
  have hInjective : Function.Injective fun entry : (String × String) × Subscription H =>
      (entry.1, entry.2.renumber gap) := by
    rintro ⟨pair, ticket, handle, handler⟩ ⟨pair', ticket', handle', handler'⟩ hSame
    simpa [Subscription.renumber, skip_inj] using hSame
  have hPerm : f.registry.listing.Perm (g.registry.listing.map fun entry =>
      (entry.1, entry.2.renumber gap)) := by
    rw [List.perm_ext_iff_of_nodup f.registry.nodup_listing
      (g.registry.nodup_listing.map hInjective)]
    rintro ⟨⟨topic, client⟩, s⟩
    rw [Registry.mem_listing_iff, hBeside.pair_eq, Option.map_eq_some_iff, List.mem_map]
    constructor
    · rintro ⟨s, hs, rfl⟩
      exact ⟨_, Registry.mem_listing_iff.mpr hs, rfl⟩
    · rintro ⟨⟨⟨topic, client⟩, s⟩, hMem, hSame⟩
      cases hSame
      exact ⟨s, Registry.mem_listing_iff.mp hMem, rfl⟩
  rw [Registry.size_eq, Registry.size_eq, hPerm.length_eq, List.length_map]

/-! ## The reservation comes and goes -/

def reservation (topic client : String) (s : Subscription H) (t c : String) :
    Option (Subscription H) :=
  if t = topic ∧ c = client then some s else none

theorem beside_reserve {ticket : Nat} {handler : H}
    (hReserve : g.reserve client topic handler = .ok (ticket, f))
    (hPairs : ∀ t c s, g.registry.get? t c = some s → s.ticket < g.registry.nextTicket)
    (hActive : ∀ k ∈ g.active, k < g.registry.nextTicket) :
    f.Beside (some ticket) (reservation topic client { ticket, handler }) g := by
  obtain ⟨hRegistry, hOnce, hGroup⟩ := reserve_eq_ok hReserve
  obtain ⟨rfl, hNext, hFree, hPair⟩ := Registry.reserve?_eq_some hRegistry
  constructor
  · exact hGroup
  · rw [hNext, skip_of_le (Nat.le_refl _)]
  · rintro k ⟨rfl⟩
    exact Nat.le_refl _
  · intro t c
    rw [hPair, reservation]
    split
    · rfl
    · rw [Option.none_or]
      cases hOld : g.registry.get? t c with
      | none => rfl
      | some s => rw [Option.map_some, Subscription.renumber, skip_of_lt (hPairs t c s hOld)]
  · intro t c s hOwn
    rw [reservation] at hOwn
    split at hOwn
    · rename_i hSame
      cases hOwn
      exact ⟨rfl, hSame.1 ▸ hSame.2 ▸ hFree⟩
    · cases hOwn
  · intro k
    rw [hOnce, List.mem_cons, or_iff_right (skip_ne _ _)]
    -- An active ticket lies below the gap, where nothing is shifted.
    constructor
    · intro hMem
      rcases Nat.lt_or_ge k g.registry.nextTicket with hBelow | hAbove
      · rwa [skip_of_lt hBelow] at hMem
      · rw [skip_of_le hAbove] at hMem
        exact (Nat.not_lt_of_le (Nat.le_succ_of_le hAbove) (hActive _ hMem)).elim
    · intro hMem
      rw [skip_of_lt (hActive k hMem)]
      exact hMem
  · intro hGap
    cases hGap

theorem Beside.dropped {s : Subscription H}
    (hBeside : f.Beside gap (reservation topic client s) g) :
    (f.discard client topic s.ticket).Beside gap (fun _ _ => none) g := by
  have hOwn : reservation topic client s topic client = some s := if_pos ⟨rfl, rfl⟩
  obtain ⟨rfl, hFree⟩ := hBeside.own topic client s hOwn
  have hHeld : f.registry.get? topic client = some s := by
    rw [hBeside.pair, hOwn, Option.some_or]
  obtain ⟨hNext, hPairs⟩ := Registry.discard_of_own hHeld rfl
  constructor
  · exact hBeside.group
  · exact hNext.trans hBeside.nextTicket
  · exact hBeside.drawn
  · intro t c
    rw [Option.none_or]
    refine (hPairs t c).trans ?_
    split
    · rename_i hSame
      rw [hSame.1, hSame.2, hFree, Option.map_none]
    · rename_i hOther
      rw [hBeside.pair, reservation, if_neg hOther, Option.none_or]
  · intro t c s' hNone
    cases hNone
  · exact hBeside.active
  · intro hGap
    cases hGap

end Facade

end DeviceBus
