import DeviceBus.Duration
import DeviceBus.Failure
import DeviceBus.Url
import DeviceBus.Uuid

/-! # How to reach an MQTT broker -/

namespace DeviceBus.Mqtt

structure Options where
  clientId : String
  host : String
  port : Nat
  /-- A user name and a password, both percent-encoded. -/
  credentials : Option (String × String)
  keepAlive : Duration
  deriving DecidableEq

namespace Options

def defaultPort : Nat := 1883

def keepAliveTime : Duration := Duration.ofSeconds 30

/-- What the names of all clients start with. -/
def clientHead : String := "chanbus-"

/-- The options that a URL gives to a client with a random identifier. The URL
has to name a host, and a password counts only beside a user name. -/
def ofUrl (url : String) (random : Bytes) : Except BackendError Options :=
  match (Url.parse? url).bind fun u => u.host.map (u, ·) with
  | some (u, host) => .ok {
      clientId := clientHead ++ Uuid.text random
      host := host.text
      port := u.port.getD defaultPort
      credentials := if u.username = "" then none else some (u.username, u.password.getD "")
      keepAlive := keepAliveTime }
  | none => .error (.invalidUrl url)

end Options

end DeviceBus.Mqtt
