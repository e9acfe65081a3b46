import DeviceBus.Table

/-! # Confirmable messages that wait for an answer

Each exchange is registered under its peer and message ID and is answered
through a slot of its own. A second exchange under the same peer and ID takes
the place of the first, whose slot is then closed.
-/

namespace DeviceBus

abbrev Peer := String

namespace Observe

inductive AckKind where
  | ack
  | reset
  deriving DecidableEq

/-- What a waiting exchange finds in its slot. -/
inductive Slot where
  | waiting
  | answered (kind : AckKind)
  /-- No answer can come, or the answer has been taken. -/
  | closed
  | dropped
  deriving DecidableEq

structure Acks where
  pending : Table (Peer × UInt16) Nat := {}
  /-- Slots are known by their position and are never given away again. -/
  slots : List Slot := []

namespace Acks

def slot (a : Acks) (index : Nat) : Slot :=
  a.slots.getD index .closed

def setSlot (a : Acks) (index : Nat) (s : Slot) : Acks :=
  { a with slots := a.slots.set index s }

/-- Closes a slot that still waits. -/
def closeSlot (a : Acks) (index : Nat) : Acks :=
  if a.slot index = .waiting then a.setSlot index .closed else a

def forget (a : Acks) (peer : Peer) (messageId : UInt16) : Acks :=
  match a.pending.get? (peer, messageId) with
  | none => a
  | some index => { a.closeSlot index with pending := a.pending.erase (peer, messageId) }

/-- Registers an exchange; the answer is its slot. -/
def register (a : Acks) (peer : Peer) (messageId : UInt16) : Nat × Acks :=
  let a := a.forget peer messageId
  let index := a.slots.length
  (index,
    { pending := a.pending.insert (peer, messageId) index, slots := a.slots ++ [.waiting] })

/-- Answers an exchange and takes it out. The answer is false when nothing
waits for it. -/
def resolve (a : Acks) (peer : Peer) (messageId : UInt16) (kind : AckKind) : Bool × Acks :=
  match a.pending.get? (peer, messageId) with
  | none => (false, a)
  | some index =>
      let a := { a with pending := a.pending.erase (peer, messageId) }
      if a.slot index = .waiting then (true, a.setSlot index (.answered kind)) else (false, a)

def drop (a : Acks) (index : Nat) : Acks :=
  a.setSlot index .dropped

/-- What a slot holds now; an answer can be taken once. -/
def poll (a : Acks) (index : Nat) : Slot × Acks :=
  match a.slot index with
  | .answered kind => (.answered kind, a.setSlot index .closed)
  | s => (s, a)

def size (a : Acks) : Nat :=
  a.pending.size

def isEmpty (a : Acks) : Bool :=
  a.pending.isEmpty

end Acks

end Observe

end DeviceBus
