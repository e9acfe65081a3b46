import DeviceBus.Hub.Call

/-! # One order of the steps

A schedule runs each call to its end before the next begins, unless the backend
keeps a subscription waiting, and dispatches what waits in the mailboxes only
when it settles. Every schedule is a run of the hub. How each facade's backend
answers can be set as the schedule goes on.
-/

namespace DeviceBus

/-- A subscribe call whose backend has not answered. -/
structure Held where
  call : Nat
  facade : Nat
  client : String
  topic : String

structure Schedule (H : Type) where
  hub : Hub H := {}
  conducts : List Conduct := []
  /-- Calls that wait, the oldest first. -/
  held : List Held := []
  /-- Calls that the backend has answered and that have not gone on. -/
  due : List (Held × Answer) := []

namespace Schedule

variable {H : Type}

def conduct (s : Schedule H) (i : Nat) : Conduct :=
  s.conducts.getD i {}

def setConduct (s : Schedule H) (i : Nat) (c : Conduct) : Schedule H :=
  { s with conducts := s.conducts.set i c }

def join (s : Schedule H) (group : Option String) : Schedule H :=
  { s with hub := s.hub.join group, conducts := s.conducts ++ [{}] }

def call [Handler H] (s : Schedule H) (i : Nat) (step : Step H) :
    Schedule H × List (Report H) × Option (Except FacadeError Unit) :=
  let (hub, reports, result) := s.hub.perform (s.conduct i) step
  ({ s with hub }, reports, result)

/-! ## Settling -/

def resume [Handler H] (s : Schedule H) (held : Held) (answer : Answer) :
    Schedule H × List (Report H) :=
  let (hub, first) := s.hub.proceed held.call answer
  let (hub, others) := hub.carryOn (s.conduct held.facade) held.call Hub.longestCall
  ({ s with hub }, first ++ others)

def resumeAll [Handler H] (s : Schedule H) : List (Held × Answer) → Schedule H × List (Report H)
  | [] => (s, [])
  | (held, answer) :: rest =>
      let (s, first) := s.resume held answer
      let (s, others) := s.resumeAll rest
      (s, first ++ others)

/-- Lets everything run that can run without a further call. -/
def settle [Handler H] (s : Schedule H) : Schedule H × List (Report H) :=
  let (s, first) := { s with due := [] }.resumeAll s.due
  let (hub, others) := s.hub.dispatchAll s.hub.broker.backlog
  ({ s with hub }, first ++ others)

/-! ## Calls -/

/-- There is no result while the backend keeps the call waiting. -/
def subscribe [Handler H] (s : Schedule H) (i : Nat) (client topic : String) (handler : H) :
    Schedule H × List (Report H) × Option (Except FacadeError Unit) :=
  let (s, before) := s.settle
  let number := s.hub.nextCall
  let (s, reports, result) := s.call i (.subscribe i client topic handler)
  let held : List Held :=
    if result.isNone then [{ call := number, facade := i, client, topic }] else []
  ({ s with held := s.held ++ held }, before ++ reports, result)

def unsubscribe [Handler H] (s : Schedule H) (i : Nat) (client topic : String) :
    Schedule H × List (Report H) × Option (Except FacadeError Unit) :=
  s.call i (.unsubscribe i client topic)

def close [Handler H] (s : Schedule H) (i : Nat) : Schedule H × List (Report H) :=
  let (s, reports, _) := s.call i (.close i)
  (s, reports)

def publish [Handler H] (s : Schedule H) (i : Nat) (channel : String) (message : Envelope) :
    Schedule H × List (Report H) × Option (Except FacadeError Unit) :=
  s.call i (.publish i channel message (((s.conduct i).publish.answer?).getD .carried))

def route (s : Schedule H) (subject : String) (data : Bytes) : Nat × Schedule H :=
  let (count, broker) := s.hub.broker.route subject data
  (count, { s with hub := { s.hub with broker } })

/-- The backend of a facade answers the call that has waited longest. The
answer is false when none waits. -/
def release (s : Schedule H) (i : Nat) (answer : Answer) : Bool × Schedule H :=
  match s.held.find? fun held => held.facade = i with
  | none => (false, s)
  | some held =>
      (true, { s with
        held := s.held.filter fun other => other.call ≠ held.call
        due := s.due ++ [(held, answer)] })

end Schedule

end DeviceBus
