import Mathlib.Data.Finset.Card
import Mathlib.Data.Finset.Preimage
import DeviceBus.Proofs.Json.Values
import DeviceBus.Proofs.Table
import DeviceBus.Routes.Run

/-! # Route maps

A record is read back as it was written, whatever text it holds. So what a map answers about
a key depends on the last write under this key of its tree alone, and the trees of one store
are finite maps that do not meet.
-/

namespace DeviceBus

/-! ## Records -/

namespace RouteRecord

open Json

theorem int64?_of_int {v : Value} {n : Int64} (hInt : v.int? = some n.toInt) :
    v.int64? = some n := by
  have hBounds : Int64.minValue.toInt ≤ n.toInt ∧ n.toInt ≤ Int64.maxValue.toInt :=
    ⟨n.minValue_le_toInt, n.toInt_le⟩
  simp only [Value.int64?, hInt, Option.bind_eq_bind, Option.bind_some, if_pos hBounds,
    Int64.ofInt_toInt]

theorem read?_write (r : RouteRecord) : read? r.write = some r := by
  obtain ⟨pieces, hText, hValue⟩ := reads_ofText r.value
  obtain ⟨numeral, hNumber, hInt⟩ := exists_numeral r.savedAt.toInt
  have hMembers : List.Forall₂ ReadsMember
      [("value", ofText r.value), ("saved_at", ofInt r.savedAt.toInt)]
      [("value", .string pieces), ("saved_at", .number numeral)] :=
    .cons ⟨rfl, hValue⟩ (.cons ⟨rfl, hNumber⟩ .nil)
  obtain ⟨written, hNamed, hRead⟩ := reads_ofMembers hMembers (List.cons_ne_nil _ _)
  have hFields : (Value.object written).fields? ["value", "saved_at"] =
      some [some (.string pieces), some (.number numeral)] := by
    rw [Value.fields?, Value.members?, hNamed]
    · rfl
    · simp
  have hOwn : (Value.string pieces).text? = some r.value := hText
  rw [read?, write, hRead.ofBytes?]
  simp only [Option.bind_eq_bind, Option.bind_some, hFields, hOwn, int64?_of_int hInt]

end RouteRecord

namespace Routes

/-! ## Trees -/

theorem tree_setTree (r : Routes) (name : String) (records : Table Bytes Bytes) (name' : String) :
    (r.setTree name records).tree name' = if name' = name then records else r.tree name' := by
  rw [tree, setTree, Table.get?_insert]
  by_cases hSame : name' = name
  · simp [hSame]
  · simp [hSame, Utf8.encode_inj, tree]

theorem get?_setTree (r : Routes) (name : String) (records : Table Bytes Bytes) (name' : String)
    (octets : Bytes) : ((r.setTree name records).tree name').get? octets =
      if name' = name then records.get? octets else (r.tree name').get? octets := by
  rw [tree_setTree]
  split
  · rfl
  · rfl

theorem get?_put (r : Routes) (name key : String) (written : Bytes) (name' : String)
    (octets : Bytes) : ((r.put name key written).tree name').get? octets =
      if name' = name ∧ octets = Utf8.encode key then some written
      else (r.tree name').get? octets := by
  rw [put, get?_setTree, Table.get?_insert]
  by_cases hSame : name' = name
  · simp [hSame]
  · simp [hSame]

theorem get?_remove (r : Routes) (name key name' : String) (octets : Bytes) :
    ((r.remove name key).tree name').get? octets =
      if name' = name ∧ octets = Utf8.encode key then none
      else (r.tree name').get? octets := by
  rw [remove, get?_setTree, Table.get?_erase]
  by_cases hSame : name' = name
  · simp [hSame]
  · simp [hSame]

theorem tree_remove_of_absent {r : Routes} {name key : String}
    (hAbsent : (r.tree name).get? (Utf8.encode key) = none) (name' : String) :
    (r.remove name key).tree name' = r.tree name' := by
  rw [remove, tree_setTree, Table.erase_of_new hAbsent]
  split
  · rename_i hSame
    rw [hSame]
  · rfl

/-! ## What calls leave -/

/-- What a write leaves under a key. -/
inductive Mark where
  | saved (record : RouteRecord)
  | removed
  /-- Octets that came from elsewhere. -/
  | foreign (written : Bytes)

def Mark.octets? : Mark → Option Bytes
  | .saved record => some record.write
  | .removed => none
  | .foreign written => some written

variable {M : Type}

/-- The map and the key that a call writes to, and what it leaves there. -/
def Call.write? : Call M → Option (M × String × Mark)
  | .save map key value now => some (map, key, .saved { value, savedAt := now })
  | .remove map key => some (map, key, .removed)
  | .put map key written => some (map, key, .foreign written)
  | .get _ _ | .record _ _ | .size _ => none

variable (tree : M → String) (name key : String)

/-- What a call leaves under the key of the tree, if it writes there. -/
def Call.mark? (call : Call M) : Option Mark :=
  match call.write? with
  | some (map, key', mark) => if name = tree map ∧ key = key' then some mark else none
  | none => none

/-- What the last write under the key of the tree has left there. -/
def lastMark? (calls : List (Call M)) : Option Mark :=
  (calls.filterMap (Call.mark? tree name key)).getLast?

/-- There is something under the key after the calls. -/
def Present (calls : List (Call M)) : Prop :=
  ∃ mark, lastMark? tree name key calls = some mark ∧ mark ≠ .removed

/-- The record that is found under the key after the calls: what the last of them saved there.
Octets from elsewhere may be no record. -/
def found (calls : List (Call M)) : Except RouteError (Option RouteRecord) :=
  match lastMark? tree name key calls with
  | some (.saved record) => .ok (some record)
  | some (.foreign written) =>
      match RouteRecord.read? written with
      | some record => .ok (some record)
      | none => .error .malformed
  | some .removed | none => .ok none

/-- What a call is answered after other calls. -/
inductive Lawful (before : List (Call M)) : Call M → Answer → Prop
  | save (map : M) (key value : String) (now : Int64) :
      Lawful before (.save map key value now) .done
  | remove (map : M) (key : String) : Lawful before (.remove map key) .done
  | put (map : M) (key : String) (written : Bytes) : Lawful before (.put map key written) .done
  | get (map : M) (key : String) : Lawful before (.get map key)
      (.value ((found tree (tree map) key before).map fun record => record.map RouteRecord.value))
  | record (map : M) (key : String) :
      Lawful before (.record map key) (.record (found tree (tree map) key before))
  | size (map : M) (keys : Finset String)
      (hKeys : ∀ key, key ∈ keys ↔ Present tree (tree map) key before) :
      Lawful before (.size map) (.size keys.card)

variable {tree name key} {r : Routes} {calls : List (Call M)}

theorem lastMark?_concat (calls : List (Call M)) (call : Call M) :
    lastMark? tree name key (calls ++ [call]) =
      (call.mark? tree name key).or (lastMark? tree name key calls) := by
  rw [lastMark?, lastMark?, List.filterMap_append, List.getLast?_append]
  cases hMark : call.mark? tree name key with
  | none => simp [hMark]
  | some mark => simp [hMark]

theorem get?_serve (r : Routes) (call : Call M) (name : String) (octets : Bytes) :
    ((serve tree r call).2.tree name).get? octets =
      match call.write? with
      | some (map, key, mark) =>
          if name = tree map ∧ octets = Utf8.encode key then mark.octets?
          else (r.tree name).get? octets
      | none => (r.tree name).get? octets := by
  cases call with
  | save map key value now => exact get?_put r (tree map) key _ name octets
  | remove map key => exact get?_remove r (tree map) key name octets
  | put map key written => exact get?_put r (tree map) key written name octets
  | get | record | size => rfl

/-- A tree that is not the tree of the map stays as it is. -/
theorem tree_serve_of_ne {call : Call M} (hOther : tree call.map ≠ name) :
    (serve tree r call).2.tree name = r.tree name := by
  cases call with
  | save map | remove map | put map => exact (tree_setTree _ _ _ _).trans (if_neg hOther.symm)
  | get | record | size => rfl

/-! ## The store after the calls -/

/-- The store has what the calls have left, and nothing else. -/
structure Holds (tree : M → String) (calls : List (Call M)) (r : Routes) : Prop where
  get? : ∀ name key, (r.tree name).get? (Utf8.encode key) =
    (lastMark? tree name key calls).bind Mark.octets?
  keys : ∀ name octets, (r.tree name).get? octets ≠ none → ∃ key, Utf8.encode key = octets

namespace Holds

theorem empty : Holds tree [] {} :=
  ⟨fun _ _ => rfl, fun _ _ hSome => (hSome rfl).elim⟩

theorem serve (h : Holds tree calls r) (call : Call M) :
    Holds tree (calls ++ [call]) (Routes.serve tree r call).2 := by
  constructor
  · intro name key
    rw [get?_serve, lastMark?_concat, Call.mark?, h.get?]
    cases call.write? with
    | none => rfl
    | some write =>
      obtain ⟨map, key', mark⟩ := write
      simp only [Utf8.encode_inj]
      split
      · rfl
      · rfl
  · intro name octets hSome
    rw [get?_serve] at hSome
    cases hWrite : call.write? with
    | none =>
      rw [hWrite] at hSome
      exact h.keys name octets hSome
    | some write =>
      obtain ⟨map, key', mark⟩ := write
      simp only [hWrite] at hSome
      split at hSome
      · rename_i hSame
        exact ⟨key', hSame.2.symm⟩
      · exact h.keys name octets hSome

theorem serveAll (h : Holds tree calls r) (more : List (Call M)) :
    Holds tree (calls ++ more) (Routes.serveAll tree r more).2 := by
  induction more generalizing calls r with
  | nil =>
    rw [List.append_nil]
    exact h
  | cons call rest ih =>
    rw [List.append_cons]
    exact ih (h.serve call)

theorem present_iff (h : Holds tree calls r) :
    Present tree name key calls ↔ (r.tree name).get? (Utf8.encode key) ≠ none := by
  rw [h.get?, Present]
  cases lastMark? tree name key calls with
  | none => simp
  | some mark => cases mark <;> simp [Mark.octets?]

theorem record_eq (h : Holds tree calls r) : r.record name key = found tree name key calls := by
  rw [record, h.get?, found]
  cases lastMark? tree name key calls with
  | none => rfl
  | some mark =>
    cases mark with
    | saved record => simp [Mark.octets?, RouteRecord.read?_write]
    | removed => rfl
    | foreign written => rfl

theorem exists_keys (h : Holds tree calls r) (name : String) :
    ∃ keys : Finset String, (∀ key, key ∈ keys ↔ Present tree name key calls) ∧
      r.size name = keys.card := by
  have hInjective : Function.Injective Utf8.encode := fun _ _ => Utf8.encode_inj.mp
  refine ⟨(r.tree name).keys.toFinset.preimage Utf8.encode hInjective.injOn, fun key => ?_, ?_⟩
  · rw [Finset.mem_preimage, List.mem_toFinset, Table.mem_keys_iff, h.present_iff]
  · have hImage : ((r.tree name).keys.toFinset.preimage Utf8.encode hInjective.injOn).image
        Utf8.encode = (r.tree name).keys.toFinset := by
      ext octets
      rw [Finset.mem_image]
      constructor
      · rintro ⟨key, hKey, rfl⟩
        exact Finset.mem_preimage.mp hKey
      · intro hOctets
        have hSome := Table.mem_keys_iff.mp (List.mem_toFinset.mp hOctets)
        obtain ⟨key, rfl⟩ := h.keys name octets hSome
        exact ⟨key, Finset.mem_preimage.mpr hOctets, rfl⟩
    have hLength : (r.tree name).keys.length = r.size name := List.length_map _
    rw [← Finset.card_image_of_injective _ hInjective, hImage, ← hLength]
    exact (List.toFinset_card_of_nodup (r.tree name).nodup).symm

theorem lawful (h : Holds tree calls r) (call : Call M) :
    Lawful tree calls call (Routes.serve tree r call).1 := by
  cases call with
  | save map key value now => exact .save map key value now
  | remove map key => exact .remove map key
  | put map key written => exact .put map key written
  | get map key =>
    rw [Routes.serve, value, h.record_eq]
    exact .get map key
  | record map key =>
    rw [Routes.serve, h.record_eq]
    exact .record map key
  | size map =>
    obtain ⟨keys, hKeys, hSize⟩ := h.exists_keys (tree map)
    rw [Routes.serve, hSize]
    exact .size map keys hKeys

end Holds

/-! ## Runs -/

theorem serveAll_cons (r : Routes) (call : Call M) (rest : List (Call M)) :
    serveAll tree r (call :: rest) = ((serve tree r call).1 ::
      (serveAll tree (serve tree r call).2 rest).1,
        (serveAll tree (serve tree r call).2 rest).2) := rfl

theorem serveAll_append (r : Routes) (before more : List (Call M)) :
    serveAll tree r (before ++ more) =
      ((serveAll tree r before).1 ++ (serveAll tree (serveAll tree r before).2 more).1,
        (serveAll tree (serveAll tree r before).2 more).2) := by
  induction before generalizing r with
  | nil => rfl
  | cons call rest ih =>
    rw [List.cons_append, serveAll_cons, serveAll_cons, ih]
    rfl

theorem length_serveAll (r : Routes) (calls : List (Call M)) :
    (serveAll tree r calls).1.length = calls.length := by
  induction calls generalizing r with
  | nil => rfl
  | cons call rest ih =>
    rw [serveAll_cons, List.length_cons, List.length_cons, ih]

/-- The maps of a store after some calls on them. -/
structure FiniteMaps (tree : M → String) (calls : List (Call M)) : Prop where
  /-- Every call is answered from the calls before it. -/
  answers : ∀ before call after, calls = before ++ call :: after → ∃ answer,
    (serveAll tree {} calls).1[before.length]? = some answer ∧ Lawful tree before call answer
  /-- One more call leaves the trees of other maps as they are. -/
  apart : ∀ call name, tree call.map ≠ name →
    (serve tree (serveAll tree {} calls).2 call).2.tree name =
      (serveAll tree {} calls).2.tree name
  /-- To remove what is not there leaves all trees as they are. -/
  idle : ∀ map key, ¬Present tree (tree map) key calls → ∀ name,
    (serve tree (serveAll tree {} calls).2 (.remove map key)).2.tree name =
      (serveAll tree {} calls).2.tree name

/-- Over every run the maps of a store are finite maps, one for each tree. -/
theorem finite_maps (tree : M → String) (calls : List (Call M)) : FiniteMaps tree calls where
  answers := by
    rintro before call after rfl
    refine ⟨(serve tree (serveAll tree {} before).2 call).1, ?_, ?_⟩
    · rw [serveAll_append, List.getElem?_append_right (length_serveAll _ _).le,
        length_serveAll, Nat.sub_self]
      rfl
    · exact (Holds.empty.serveAll before).lawful call
  apart := fun call name hOther => tree_serve_of_ne hOther
  idle := by
    intro map key hAbsent name
    have h : Holds tree calls (serveAll tree {} calls).2 := Holds.empty.serveAll calls
    rw [h.present_iff, not_not] at hAbsent
    exact tree_remove_of_absent hAbsent name

/-- Two maps of one tree, and one map of another. -/
def sharedTrees : Fin 3 → String
  | 0 | 1 => "channels"
  | 2 => "things"

def sharedCalls : List (Call (Fin 3)) :=
  [.save 0 "k" "v" 1, .save 1 "k" "\"\\\n" (-1), .remove 2 "k", .record 0 "k", .get 2 "k"]

theorem finite_maps_shared : FiniteMaps sharedTrees sharedCalls ∧
    (serveAll sharedTrees {} sharedCalls).1[3]? =
      some (.record (.ok (some { value := "\"\\\n", savedAt := -1 }))) ∧
    (serveAll sharedTrees {} sharedCalls).1[4]? = some (.value (.ok none)) := by
  have h := finite_maps sharedTrees sharedCalls
  obtain ⟨recorded, hRecorded, hRecord⟩ := h.answers (sharedCalls.take 3) _ _ rfl
  obtain ⟨got, hGot, hGet⟩ := h.answers (sharedCalls.take 4) _ _ rfl
  refine ⟨h, ?_, ?_⟩
  · cases hRecord
    exact hRecorded
  · cases hGet
    exact hGot

end Routes

end DeviceBus
