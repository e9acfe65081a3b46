import DeviceBus.Table

/-! # Who may use which channel

An authorizer turns a credential into the identity of its publisher, for one
channel. The table of grants is the simplest one.
-/

namespace DeviceBus

inductive AccessError where
  | missingCredential
  | invalidCredential
  | forbidden (channel : String)
  | signing (reason : String)
  deriving DecidableEq

def AccessError.message : AccessError → String
  | .missingCredential => "missing credential"
  | .invalidCredential => "invalid credential"
  | .forbidden channel => "access to channel `" ++ channel ++ "` denied"
  | .signing reason => "failed to sign credential: " ++ reason

/-- The publisher that a credential belongs to if it may use the channel, at a
wall-clock time in nanoseconds since the epoch. -/
abbrev Authorizer := (wall : Int64) → (credential channel : String) → Except AccessError String

structure Grant where
  publisher : String
  channels : List String

/-- Credentials and what they grant. -/
structure Grants where
  table : Table String Grant := {}

namespace Grants

/-- Adds a credential; an earlier grant of it is replaced. -/
def grant (g : Grants) (credential publisher : String) (channels : List String) : Grants :=
  ⟨g.table.insert credential { publisher, channels }⟩

def access (g : Grants) (credential channel : String) : Except AccessError String :=
  if credential = "" then .error .missingCredential
  else
    match g.table.get? credential with
    | none => .error .invalidCredential
    | some grant =>
        if channel ∈ grant.channels then .ok grant.publisher else .error (.forbidden channel)

def authorizer (g : Grants) : Authorizer :=
  fun _ credential channel => g.access credential channel

end Grants

end DeviceBus
