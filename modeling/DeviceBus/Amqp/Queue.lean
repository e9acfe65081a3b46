/-! # Queues bound to a topic exchange

A group shares one queue for each binding key, named by the group and the key.
A subscription without a group gets a queue of its own that the server names.
-/

namespace DeviceBus.Amqp

structure Queue where
  /-- The empty name leaves the choice to the server. -/
  name : String
  passive : Bool := false
  durable : Bool := false
  exclusive : Bool := false
  autoDelete : Bool := false
  noWait : Bool := false
  deriving DecidableEq

/-- The queue that a subscription on `bindingKey` declares. -/
def Queue.declared (bindingKey : String) : Option String → Queue
  | some group => { name := group ++ "." ++ bindingKey, autoDelete := true }
  | none => { name := "", exclusive := true, autoDelete := true }

end DeviceBus.Amqp
