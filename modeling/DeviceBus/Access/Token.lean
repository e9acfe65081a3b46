import DeviceBus.Access
import DeviceBus.Access.WebKey
import DeviceBus.Digest.Hmac
import DeviceBus.Json.Reader
import DeviceBus.Json.Writer
import DeviceBus.Text.Base64Url

/-! # Signed tokens

A token has three parts with dots between them: a header, its claims, and a
signature of both. Whoever knows the secret can issue and verify tokens. Times
are whole seconds since the epoch.
-/

namespace DeviceBus

structure Claims where
  subject : String
  channels : List String
  /-- The last second of the token, but for the leeway. -/
  expiry : UInt64
  deriving DecidableEq

namespace Claims

open Json

def write (c : Claims) : Bytes :=
  ofMembers [("sub", ofText c.subject), ("channels", ofItems (c.channels.map ofText)),
    ("exp", ofInt c.expiry.toNat)]

/-- Whether a value names one audience or several. -/
def isAudience : Value → Bool
  | .string _ => true
  | v => v.texts?.isSome

/-- Whether a value can stand for the time from which a token holds. -/
def isTime : Value → Bool
  | .array items => items.isEmpty
  | .object members => members.isEmpty
  | _ => true

/-- Reads claims from an object. Tokens for an audience are for somebody
else. -/
def ofJson? (v : Value) : Option Claims := do
  let [some subject, some channels, some expiry, audience, start, _issuer] ←
    v.members? ["sub", "channels", "exp", "aud", "nbf", "iss"] | none
  if audience.any isAudience || !start.all isTime then none
  else
    some {
      subject := ← subject.text?
      channels := ← channels.texts?
      expiry := UInt64.ofNat (← expiry.below? UInt64.size) }

end Claims

namespace Token

open Json

/-- How long after its expiry a token is still taken, in seconds. -/
def leeway : Nat := 60

def header : Bytes :=
  ofMembers [("typ", ofText "JWT"), ("alg", ofText "HS256")]

def part (bs : Bytes) : String :=
  String.ofList (Base64Url.digits bs)

def signature (secret message : String) : String :=
  part (Hmac.sign (Utf8.encode secret) (Utf8.encode message))

def ofClaims (secret : String) (claims : Claims) : String :=
  let message := part header ++ "." ++ part claims.write
  message ++ "." ++ signature secret message

/-! ## Reading -/

/-- Whether a value names the one algorithm of the library. -/
def isAlgorithm (v : Value) : Bool :=
  v.isOneOf WebKey.isNull ["HS256"]

/-- The fields of a header, in their order. -/
def headerFields : List String :=
  ["typ", "alg", "cty", "jku", "jwk", "kid", "x5u", "x5c", "x5t", "x5t#S256"]

/-- Whether a header can have a value, or none, in a field. A certificate chain is
a list of texts, and all other fields but the algorithm and the key hold text. -/
def isHeaderField (name : String) (v : Option Value) : Bool :=
  if name = "alg" then v.any isAlgorithm
  else if name = "jwk" then v.all fun v => WebKey.isNull v || WebKey.isKey v
  else if name = "x5c" then (Value.optional? Value.texts? v).isSome
  else (Value.optional? Value.text? v).isSome

def isHeader (v : Value) : Bool :=
  match v.fields? headerFields with
  | some fields => (headerFields.zip fields).all fun (name, v) => isHeaderField name v
  | none => false

def value? (part : List Char) : Option Value :=
  (Base64Url.decode? part).bind Value.ofBytes?

/-- The claims of a token that is signed with the secret, whether or not it has
expired. -/
def claims? (secret token : String) : Option Claims := do
  let [header, claims, signed] := token.toList.splitOn '.' | none
  let message := String.ofList header ++ "." ++ String.ofList claims
  if (value? header).any isHeader && String.ofList signed == signature secret message then
    (value? claims).bind Claims.ofJson?
  else none

/-- The claims of a token that is signed with the secret and has not
expired. -/
def verify (secret : String) (now : Nat) (token : String) : Except AccessError Claims :=
  match claims? secret token with
  | some claims =>
      if claims.expiry.toNat < now - leeway then .error .invalidCredential else .ok claims
  | none => .error .invalidCredential

def access (secret : String) (now : Nat) (credential channel : String) :
    Except AccessError String :=
  if credential = "" then .error .missingCredential
  else do
    let claims ← verify secret now credential
    if channel ∈ claims.channels then .ok claims.subject else .error (.forbidden channel)

def authorizer (secret : String) : Authorizer :=
  fun wall credential channel => access secret (wall.toInt / 1000000000).toNat credential channel

/-! ## Issuing -/

/-- The first and the last second of the calendar, which has years of at most
six digits. -/
def firstSecond : Int := -8334601228800
def lastSecond : Int := 8210266876799

/-- The longest time that a token may be asked for, in seconds. -/
def longest : Nat := 9223372036854775

/-- The expiry of a token, if it falls into the calendar. Expiries before the
epoch count down from the end of the range of 64 bits. -/
def expiry? (now ttl : Int) : Option UInt64 :=
  if ttl.natAbs ≤ longest ∧ firstSecond ≤ now + ttl ∧ now + ttl ≤ lastSecond then
    some (UInt64.ofInt (now + ttl))
  else none

/-- Issues a token for a number of seconds, if it has an expiry. -/
def issue? (secret : String) (now : Int) (publisher : String) (channels : List String)
    (ttl : Int) : Option String :=
  (expiry? now ttl).map fun expiry =>
    ofClaims secret { subject := publisher, channels, expiry }

end Token

end DeviceBus
