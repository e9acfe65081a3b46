/-! # The life of an observation

An observation is idle until something has been sent, waits while a confirmable
message is out, and ends when its peer is silent for too long or when it is
cancelled. Events that do not apply leave the state as it is.
-/

namespace DeviceBus.Observe

inductive State where
  | idle
  | awaitingAck
  | delivered
  | expired
  | cancelled
  deriving DecidableEq

inductive Event where
  | nonConfirmableSent
  | confirmableSent
  | ackReceived
  | ackTimedOut
  | retriesExhausted
  | resetReceived
  | cancel
  deriving DecidableEq

namespace State

def isTerminal : State → Bool
  | .expired => true
  | .cancelled => true
  | _ => false

def on : State → Event → State
  | .expired, _ => .expired
  | .cancelled, _ => .cancelled
  | _, .cancel => .cancelled
  | _, .resetReceived => .cancelled
  | .idle, .nonConfirmableSent => .delivered
  | .delivered, .nonConfirmableSent => .delivered
  | .idle, .confirmableSent => .awaitingAck
  | .delivered, .confirmableSent => .awaitingAck
  | .awaitingAck, .ackReceived => .delivered
  | .awaitingAck, .retriesExhausted => .expired
  | s, _ => s

end State

end DeviceBus.Observe
