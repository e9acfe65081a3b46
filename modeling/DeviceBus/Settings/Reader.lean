import DeviceBus.Json.Reader
import DeviceBus.Settings

/-! # Reading overrides

Overrides can be read from any kind of value that has records, texts and
numbers in it. What is missing or null overrides nothing; what is there has to
fit, but for what is unknown.
-/

namespace DeviceBus.Settings

/-- How records, texts and numbers are found in values of a kind. -/
structure Reader (V : Type) where
  /-- The fields of these names, in that order. -/
  fields? : List String → V → Option (List (Option V))
  text? : V → Option String
  /-- A number from zero up to, but without, a bound. -/
  below? : Nat → V → Option Nat

namespace Reader

variable {V : Type}

/-- The fields of a section, all of which are missing if the section is. -/
def section? (r : Reader V) (names : List String) : Option V → Option (List (Option V))
  | some v => r.fields? names v
  | none => some (names.map fun _ => none)

def overrides? (r : Reader V) (v : V) : Option Overrides := do
  let [server, broker, coap, auth, log] ←
    r.fields? ["server", "broker", "coap", "auth", "log"] v | none
  let [host, port] ← r.section? ["host", "port"] server | none
  let [url, queue] ← r.section? ["url", "queue"] broker | none
  let [keepAlive, ackTimeout, maxRetransmit] ←
    r.section? ["keep_alive_secs", "ack_timeout_ms", "max_retransmit"] coap | none
  let [secret] ← r.section? ["jwt_secret"] auth | none
  let [level] ← r.section? ["level"] log | none
  some {
    host := ← host.mapM r.text?
    port := (← port.mapM (r.below? UInt16.size)).map UInt16.ofNat
    brokerUrl := ← url.mapM r.text?
    queue := ← queue.mapM r.text?
    keepAliveSeconds := (← keepAlive.mapM (r.below? UInt64.size)).map UInt64.ofNat
    ackTimeoutMillis := (← ackTimeout.mapM (r.below? UInt64.size)).map UInt64.ofNat
    maxRetransmit := (← maxRetransmit.mapM (r.below? UInt32.size)).map UInt32.ofNat
    tokenSecret := ← secret.mapM r.text?
    logLevel := ← level.mapM r.text? }

end Reader

/-- A value that is not null. -/
def present : Option Json.Value → Option Json.Value
  | some .null => none
  | v => v

/-- Overrides in JSON, with every value of its own type. -/
def jsonReader : Reader Json.Value where
  fields? names v := (v.fields? names).map fun fields => fields.map present
  text? := Json.Value.text?
  below? := Json.Value.below?

end DeviceBus.Settings
