import DeviceBus.Wire.Varint

/-! # Tagged fields

A message is a sequence of fields, each led by a key that packs a tag and the
form of its content. A reader can pass over any field whose tag it does not
know, groups included: a group runs to the end key with its own tag and holds
further fields, nested at most one hundred deep.
-/

namespace DeviceBus.Wire

inductive Form where
  | varint
  | fixed64
  | delimited
  | groupStart
  | groupEnd
  | fixed32
  deriving DecidableEq

def Form.number : Form → Nat
  | .varint => 0
  | .fixed64 => 1
  | .delimited => 2
  | .groupStart => 3
  | .groupEnd => 4
  | .fixed32 => 5

def Form.ofNumber? : Nat → Option Form
  | 0 => some .varint
  | 1 => some .fixed64
  | 2 => some .delimited
  | 3 => some .groupStart
  | 4 => some .groupEnd
  | 5 => some .fixed32
  | _ => none

structure Key where
  tag : Nat
  form : Form
  deriving DecidableEq

def Key.write (key : Key) : Bytes :=
  Varint.write (key.tag * 8 + key.form.number)

/-- Keys have at most 32 bits, and no tag is zero. -/
def Key.read? (bs : Bytes) : Option (Key × Bytes) := do
  let (n, rest) ← Varint.read? bs
  let form ← Form.ofNumber? (n % 8)
  if n < UInt32.size ∧ n / 8 ≠ 0 then some (⟨n / 8, form⟩, rest) else none

/-- An octet string after its length. -/
def writeDelimited (content : Bytes) : Bytes :=
  Varint.write content.length ++ content

def readDelimited? (bs : Bytes) : Option (Bytes × Bytes) := do
  let (length, rest) ← Varint.read? bs
  let content := rest.take length
  if content.length = length then some (content, rest.drop length) else none

def drop? (n : Nat) (bs : Bytes) : Option Bytes :=
  if n ≤ bs.length then some (bs.drop n) else none

/-- Passes over content that holds no fields. -/
def skipPlain? (form : Form) (bs : Bytes) : Option Bytes :=
  match form with
  | .varint => (Varint.read? bs).map Prod.snd
  | .fixed64 => drop? 8 bs
  | .delimited => (readDelimited? bs).map Prod.snd
  | .fixed32 => drop? 4 bs
  | .groupStart => none
  | .groupEnd => none

theorem Key.length_of_read? {bs rest : Bytes} {key : Key} (h : Key.read? bs = some (key, rest)) :
    rest.length < bs.length := by
  simp only [Key.read?, Option.bind_eq_bind, Option.bind_eq_some_iff] at h
  obtain ⟨⟨n, rest'⟩, hn, form, -, h⟩ := h
  split at h
  · cases h
    exact Varint.length_of_read? hn
  · exact absurd h (by simp)

theorem length_of_readDelimited? {bs content rest : Bytes}
    (h : readDelimited? bs = some (content, rest)) : rest.length < bs.length := by
  simp only [readDelimited?, Option.bind_eq_bind, Option.bind_eq_some_iff] at h
  obtain ⟨⟨n, rest'⟩, hn, h⟩ := h
  have : rest'.length < bs.length := Varint.length_of_read? hn
  dsimp only at h
  split at h
  · cases h
    simp only [List.length_drop]
    omega
  · exact absurd h (by simp)

theorem length_of_skipPlain? {form : Form} {bs rest : Bytes}
    (h : skipPlain? form bs = some rest) : rest.length ≤ bs.length := by
  cases form <;> simp only [skipPlain?, Option.map_eq_some_iff] at h
  · obtain ⟨⟨n, rest'⟩, hn, rfl⟩ := h
    exact Nat.le_of_lt (Varint.length_of_read? hn)
  · grind [drop?]
  · obtain ⟨⟨content, rest'⟩, hn, rfl⟩ := h
    exact Nat.le_of_lt (length_of_readDelimited? hn)
  · exact absurd h (by simp)
  · exact absurd h (by simp)
  · grind [drop?]

/-- How deep groups may nest. -/
def maxDepth : Nat := 100

/-- Passes over the rest of the groups whose tags are `opened`, the innermost
first. -/
def skipGroups? (opened : List Nat) (bs : Bytes) : Option Bytes :=
  match opened with
  | [] => some bs
  | tag :: outer =>
      match _h : Key.read? bs with
      | none => none
      | some (key, rest) =>
          if key.form = .groupEnd then
            if key.tag = tag then skipGroups? outer rest else none
          else if maxDepth ≤ (tag :: outer).length then none
          else if key.form = .groupStart then skipGroups? (key.tag :: tag :: outer) rest
          else
            match _h' : skipPlain? key.form rest with
            | none => none
            | some rest' => skipGroups? (tag :: outer) rest'
termination_by bs.length
decreasing_by
  · exact Key.length_of_read? _h
  · exact Key.length_of_read? _h
  · exact Nat.lt_of_le_of_lt (length_of_skipPlain? _h') (Key.length_of_read? _h)

/-- Passes over the content of a field with the given key. -/
def skip? (key : Key) (bs : Bytes) : Option Bytes :=
  if key.form = .groupStart then skipGroups? [key.tag] bs else skipPlain? key.form bs

theorem length_of_skipGroups? {opened : List Nat} {bs rest : Bytes}
    (h : skipGroups? opened bs = some rest) : rest.length ≤ bs.length := by
  fun_induction skipGroups? opened bs with
  | case1 => grind
  | case2 => exact absurd h (by simp)
  | case3 _ _ _ _ hk _ ih => exact Nat.le_trans (ih h) (Nat.le_of_lt (Key.length_of_read? hk))
  | case4 => exact absurd h (by simp)
  | case5 => exact absurd h (by simp)
  | case6 _ _ _ _ _ hk _ _ _ ih => exact Nat.le_trans (ih h) (Nat.le_of_lt (Key.length_of_read? hk))
  | case7 => exact absurd h (by simp)
  | case8 _ _ _ _ _ hk _ _ _ _ hs ih =>
      exact Nat.le_trans (ih h)
        (Nat.le_trans (length_of_skipPlain? hs) (Nat.le_of_lt (Key.length_of_read? hk)))

theorem length_of_skip? {key : Key} {bs rest : Bytes} (h : skip? key bs = some rest) :
    rest.length ≤ bs.length := by
  unfold skip? at h
  split at h
  · exact length_of_skipGroups? h
  · exact length_of_skipPlain? h

end DeviceBus.Wire
