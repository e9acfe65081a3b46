import DeviceBus.Table

/-! # What a table holds after a change

A table is read through `get?`, and every change is described by what it does
to `get?` at each key.
-/

namespace DeviceBus.Table

variable {K V : Type} [DecidableEq K]

theorem lookup_filter_ne (entries : List (K × V)) (key key' : K) :
    (entries.filter fun entry => entry.1 ≠ key).lookup key' =
      if key' = key then none else entries.lookup key' := by
  induction entries with
  | nil => simp
  | cons entry rest ih =>
    obtain ⟨k, v⟩ := entry
    by_cases hk : k = key
    · subst hk
      rw [List.filter_cons_of_neg (by simp), ih]
      by_cases hSame : key' = k
      · rw [if_pos hSame, if_pos hSame]
      · rw [if_neg hSame, if_neg hSame, List.lookup_cons, beq_eq_false_iff_ne.mpr hSame]
    · rw [List.filter_cons_of_pos (by simpa using hk), List.lookup_cons, List.lookup_cons, ih]
      by_cases hSame : key' = k
      · subst hSame
        simp [hk]
      · simp [beq_eq_false_iff_ne.mpr hSame]

@[simp] theorem get?_empty (key : K) : (∅ : Table K V).get? key = none := rfl

@[simp] theorem get?_erase (t : Table K V) (key key' : K) :
    (t.erase key).get? key' = if key' = key then none else t.get? key' :=
  lookup_filter_ne t.entries key key'

@[simp] theorem get?_insert (t : Table K V) (key key' : K) (value : V) :
    (t.insert key value).get? key' = if key' = key then some value else t.get? key' := by
  have hAppend : (t.insert key value).get? key' =
      ((t.erase key).get? key').or ([(key, value)].lookup key') := List.lookup_append
  rw [hAppend, get?_erase, List.lookup_cons, List.lookup_nil]
  by_cases hSame : key' = key
  · simp [hSame]
  · simp [hSame, beq_eq_false_iff_ne.mpr hSame]

theorem get?_foldl_insert (f : K → V) (keys : List K) (t : Table K V) (key : K) :
    (keys.foldl (fun t key => t.insert key (f key)) t).get? key =
      if key ∈ keys then some (f key) else t.get? key := by
  induction keys generalizing t with
  | nil => rfl
  | cons key' rest ih =>
    rw [List.foldl_cons, ih, get?_insert]
    by_cases hRest : key ∈ rest
    · simp [hRest]
    · by_cases hSame : key = key'
      · simp [hSame]
      · simp [hRest, hSame]

theorem get?_eq_some_iff {t : Table K V} {key : K} {value : V} :
    t.get? key = some value ↔ (key, value) ∈ t.entries := by
  have hNodup := t.nodup
  unfold get?
  generalize t.entries = entries at hNodup ⊢
  induction entries with
  | nil => simp
  | cons entry rest ih =>
    obtain ⟨k, v⟩ := entry
    simp only [List.map_cons, List.nodup_cons] at hNodup
    rw [List.lookup_cons, List.mem_cons]
    by_cases hSame : key = k
    · subst hSame
      have hAbsent : (key, value) ∉ rest := fun h => hNodup.1 (List.mem_map.mpr ⟨_, h, rfl⟩)
      simp [hAbsent, eq_comm]
    · simp [beq_eq_false_iff_ne.mpr hSame, hSame, ih hNodup.2]

theorem contains_iff {t : Table K V} {key : K} : t.contains key = true ↔ t.get? key ≠ none := by
  rw [contains, Option.isSome_iff_ne_none]

theorem isEmpty_iff {t : Table K V} : t.isEmpty = true ↔ ∀ key, t.get? key = none := by
  rw [isEmpty, List.isEmpty_iff]
  constructor
  · intro h key
    rw [get?, h, List.lookup_nil]
  · intro h
    apply List.eq_nil_iff_forall_not_mem.mpr
    rintro ⟨key, value⟩ hMem
    rw [← get?_eq_some_iff, h key] at hMem
    cases hMem

theorem mem_values_iff {t : Table K V} {value : V} :
    value ∈ t.values ↔ ∃ key, t.get? key = some value := by
  simp only [values, List.mem_map, Prod.exists, exists_eq_right, get?_eq_some_iff]

/-- The values of a table on both sides of the one under a key. -/
theorem values_split {t : Table K V} {key : K} {value : V} (hAt : t.get? key = some value) :
    ∃ before after, t.values = before ++ value :: after ∧
      ∀ v ∈ before ++ after, ∃ key', key' ≠ key ∧ t.get? key' = some v := by
  obtain ⟨before, after, hEntries⟩ := List.append_of_mem (get?_eq_some_iff.mp hAt)
  refine ⟨before.map Prod.snd, after.map Prod.snd, by simp [values, hEntries], ?_⟩
  intro v hMem
  rw [← List.map_append, List.mem_map] at hMem
  obtain ⟨⟨key', v⟩, hEntry, rfl⟩ := hMem
  refine ⟨key', ?_, ?_⟩
  · rintro rfl
    have hNodup := t.nodup
    rw [hEntries, List.map_append, List.map_cons, List.nodup_append, List.nodup_cons] at hNodup
    obtain ⟨-, ⟨hLater, -⟩, hApart⟩ := hNodup
    rcases List.mem_append.mp hEntry with hBefore | hAfter
    · exact hApart _ (List.mem_map.mpr ⟨_, hBefore, rfl⟩) _ List.mem_cons_self rfl
    · exact hLater (List.mem_map.mpr ⟨_, hAfter, rfl⟩)
  · rw [get?_eq_some_iff, hEntries, List.mem_append, List.mem_cons]
    rcases List.mem_append.mp hEntry with hBefore | hAfter
    · exact .inl hBefore
    · exact .inr (.inr hAfter)

theorem entries_erase (t : Table K V) (key : K) :
    (t.erase key).entries = t.entries.filter fun entry => entry.1 ≠ key := rfl

theorem erase_of_new {t : Table K V} {key : K} (hNew : t.get? key = none) : t.erase key = t := by
  have hKept : (t.erase key).entries = t.entries := by
    refine List.filter_eq_self.mpr fun entry hEntry => decide_eq_true ?_
    rintro rfl
    cases hNew.symm.trans (get?_eq_some_iff.mpr hEntry)
  cases t
  exact Table.mk.injEq .. ▸ hKept

theorem entries_insert_of_new {t : Table K V} {key : K} (hNew : t.get? key = none) (value : V) :
    (t.insert key value).entries = t.entries ++ [(key, value)] := by
  have hInsert : (t.insert key value).entries = (t.erase key).entries ++ [(key, value)] := rfl
  rw [hInsert, erase_of_new hNew]

theorem mem_keys_iff {t : Table K V} {key : K} : key ∈ t.keys ↔ t.get? key ≠ none := by
  rw [Option.ne_none_iff_exists']
  simp only [keys, List.mem_map, Prod.exists, exists_and_right, exists_eq_right, get?_eq_some_iff]

end DeviceBus.Table
