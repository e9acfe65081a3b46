/-! # Finite maps

A table lists its entries in the order in which their keys came in. No key
occurs twice, which the type records.
-/

namespace DeviceBus

structure Table (K V : Type) where
  entries : List (K × V)
  nodup : (entries.map Prod.fst).Nodup

namespace Table

instance {K V : Type} : EmptyCollection (Table K V) :=
  ⟨{ entries := [], nodup := List.nodup_nil }⟩

variable {K V : Type} [DecidableEq K]

def get? (t : Table K V) (key : K) : Option V :=
  t.entries.lookup key

def contains (t : Table K V) (key : K) : Bool :=
  (t.get? key).isSome

def keys (t : Table K V) : List K :=
  t.entries.map Prod.fst

def values (t : Table K V) : List V :=
  t.entries.map Prod.snd

def size (t : Table K V) : Nat :=
  t.entries.length

def isEmpty (t : Table K V) : Bool :=
  t.entries.isEmpty

def erase (t : Table K V) (key : K) : Table K V where
  entries := t.entries.filter fun entry => entry.1 ≠ key
  nodup := t.nodup.sublist (List.filter_sublist.map Prod.fst)

/-- Replaces the value of a key, or adds the key at the end. -/
def insert (t : Table K V) (key : K) (value : V) : Table K V where
  entries := (t.erase key).entries ++ [(key, value)]
  nodup := by
    rw [List.map_append, List.nodup_append]
    refine ⟨(t.erase key).nodup, by simp, ?_⟩
    simp only [erase, List.mem_map, List.mem_filter, List.map_cons, List.map_nil,
      List.mem_singleton]
    rintro a ⟨entry, ⟨-, h⟩, rfl⟩ b rfl
    simpa using h

end Table

end DeviceBus
