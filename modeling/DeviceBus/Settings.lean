import DeviceBus.Gateway.Basic

/-! # Settings

Every setting has a default. Overrides may give a value for each of them; they
come in five sections.
-/

namespace DeviceBus

structure Settings where
  /-- The host and the port at which datagrams are received. -/
  host : String := "127.0.0.1"
  port : UInt16 := 5683
  brokerUrl : String := "mem://"
  /-- The queue group that all subscriptions join. -/
  queue : Option String := none
  keepAliveSeconds : UInt64 := 3600
  ackTimeoutMillis : UInt64 := 2000
  maxRetransmit : UInt32 := 3
  tokenSecret : String := "change-me"
  logLevel : String := "info"
  deriving DecidableEq

namespace Settings

/-- The address at which datagrams are received. -/
def address (s : Settings) : String :=
  s.host ++ ":" ++ toString s.port

def gateway (s : Settings) : Gateway.Settings where
  keepAlive := Duration.ofSeconds s.keepAliveSeconds.toNat
  retry := {
    maxAttempts := s.maxRetransmit.toNat
    baseDelay := Duration.ofMillis s.ackTimeoutMillis.toNat }

/-- Values that replace defaults. -/
structure Overrides where
  host : Option String := none
  port : Option UInt16 := none
  brokerUrl : Option String := none
  queue : Option String := none
  keepAliveSeconds : Option UInt64 := none
  ackTimeoutMillis : Option UInt64 := none
  maxRetransmit : Option UInt32 := none
  tokenSecret : Option String := none
  logLevel : Option String := none
  deriving DecidableEq

/-- The defaults where nothing overrides them. An empty queue name is none. -/
def Overrides.apply (o : Overrides) : Settings :=
  let default : Settings := {}
  { host := o.host.getD default.host
    port := o.port.getD default.port
    brokerUrl := o.brokerUrl.getD default.brokerUrl
    queue := (o.queue.filter fun name => name ≠ "").or default.queue
    keepAliveSeconds := o.keepAliveSeconds.getD default.keepAliveSeconds
    ackTimeoutMillis := o.ackTimeoutMillis.getD default.ackTimeoutMillis
    maxRetransmit := o.maxRetransmit.getD default.maxRetransmit
    tokenSecret := o.tokenSecret.getD default.tokenSecret
    logLevel := o.logLevel.getD default.logLevel }

end Settings

end DeviceBus
