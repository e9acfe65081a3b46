import DeviceBus.Hub

/-! # Calls carried to their end

Runs one call without interruption, unless the backend keeps it waiting, and
dispatches all that waits in the mailboxes. Both are runs of the hub.
-/

namespace DeviceBus

/-- How a backend treats requests of one sort. -/
inductive Manner where
  | carries
  | fails (reason : String)
  /-- It does not answer until it is told to. -/
  | waits
  deriving DecidableEq

def Manner.answer? : Manner → Option Answer
  | .carries => some .carried
  | .fails reason => some (.failed reason)
  | .waits => none

structure Conduct where
  publish : Manner := .carries
  subscribe : Manner := .carries
  unsubscribe : Manner := .carries

namespace Hub

variable {H : Type}

/-- What the backend answers to the request that a call makes next, if it
answers at all. Steps that make no request go on with any answer. -/
def nextAnswer? (conduct : Conduct) : Call H → Option Answer
  | .subscribing _ _ _ _ .asked => conduct.subscribe.answer?
  | .subscribing _ _ _ _ (.surplus _) => conduct.unsubscribe.answer?
  | .releasing _ => conduct.unsubscribe.answer?
  | _ => some .carried

/-- How many steps a call has at most before it returns. -/
def longestCall : Nat := 5

/-- Goes on with a call until it returns or the backend keeps it waiting. -/
def carryOn [Handler H] (h : Hub H) (conduct : Conduct) (number : Nat) :
    Nat → Hub H × List (Report H)
  | 0 => (h, [])
  | steps + 1 =>
      match h.call? number with
      | none => (h, [])
      | some p =>
          match nextAnswer? conduct p.call with
          | none => (h, [])
          | some answer =>
              let (h, first) := h.proceed number answer
              let (h, others) := h.carryOn conduct number steps
              (h, first ++ others)

def resultOf (number : Nat) (reports : List (Report H)) : Option (Except FacadeError Unit) :=
  reports.findSome? fun
    | .returned n result => if n = number then some result else none
    | _ => none

/-- Makes a call and goes on with it as far as it comes. There is no result
while the backend keeps it waiting. -/
def perform [Handler H] (h : Hub H) (conduct : Conduct) (s : Step H) :
    Hub H × List (Report H) × Option (Except FacadeError Unit) :=
  let number := h.nextCall
  let (h, first) := h.step s
  let (h, others) := h.carryOn conduct number longestCall
  let reports := first ++ others
  (h, reports, resultOf number reports)

def dispatchAll [Handler H] (h : Hub H) : Nat → Hub H × List (Report H)
  | 0 => (h, [])
  | count + 1 =>
      match h.broker.nextMailbox? with
      | none => (h, [])
      | some route =>
          let (h, first) := h.dispatch route
          let (h, others) := h.dispatchAll count
          (h, first ++ others)

end Hub

end DeviceBus
