import DeviceBus.Mqtt.Options

/-! # Choosing a backend

The scheme of a URL tells which backend carries messages. Only the backend in
memory is at hand; the others are behind a network that lets nobody in.
-/

namespace DeviceBus

inductive Backend where
  | memory
  | amqp (url : String)
  | mqtt (options : Mqtt.Options)
  deriving DecidableEq

namespace Backend

def name : Backend → String
  | .memory => "memory"
  | .amqp _ => "amqp"
  | .mqtt _ => "mqtt"

/-- The characters before the first `://`. -/
def schemeChars? : List Char → Option (List Char)
  | ':' :: '/' :: '/' :: _ => some []
  | c :: rest => (schemeChars? rest).map (c :: ·)
  | [] => none

/-- The backend that a URL chooses, for a client with a random identifier. -/
def ofUrl (url : String) (random : Bytes) : Except BackendError Backend :=
  match schemeChars? url.toList with
  | none => .error (.invalidUrl url)
  | some cs =>
      let scheme := String.ofList (cs.map Char.toLower)
      if scheme ∈ ["mem", "memory"] then .ok .memory
      else if scheme ∈ ["amqp", "amqps"] then .ok (.amqp url)
      else if scheme ∈ ["mqtt", "tcp"] then (Mqtt.Options.ofUrl url random).map Backend.mqtt
      else .error (.unsupportedScheme scheme)

/-- Connects a backend that is at hand. -/
def connect (backend : Backend) : Except BackendError Unit :=
  match backend with
  | .memory => .ok ()
  | .amqp _ | .mqtt _ => .error (.connect "connection refused")

end Backend

end DeviceBus
