import DeviceBus.Json.Value

/-! # Keys in headers

A header may carry a key of one of four kinds. Nobody uses it, but it has to have
the form of one: fields that all keys may have, and those that its kind has.
Other fields may hold anything.
-/

namespace DeviceBus

open Json

/-- Whether a value names one of some things: by a string, or by the name of the
only member of an object, whose value is `isUnit`. -/
def Json.Value.isOneOf (isUnit : Value → Bool) (names : List String) : Value → Bool
  | .string pieces => (Json.text? pieces).any names.contains
  | .object [(name, v)] => (Json.text? name).any names.contains && isUnit v
  | _ => false

namespace WebKey

/-- How deep lists and objects may be nested in a header, from a key on. -/
def deepest : Nat := 126

/-- Whether all strings of a value are text, and lists and objects are nested no
deeper than `depth`. -/
def isWhole : (depth : Nat) → Value → Bool
  | _, .null => true
  | _, .bool _ => true
  | _, .number _ => true
  | _, .string pieces => (Json.text? pieces).isSome
  | depth + 1, .array items => items.all (isWhole depth)
  | depth + 1, .object members =>
      members.all fun (name, v) => (Json.text? name).isSome && isWhole depth v
  | 0, _ => false

def isNull : Value → Bool
  | .null => true
  | _ => false

/-- Whether a value is null or an object without members. -/
def isNothing : Value → Bool
  | .null => true
  | .object members => members.isEmpty
  | _ => false

def isText (v : Value) : Bool :=
  v.text?.isSome

def algorithms : List String :=
  ["HS256", "HS384", "HS512", "ES256", "ES384", "RS256", "RS384", "RS512", "PS256", "PS384",
    "PS512", "EdDSA", "RSA1_5", "RSA-OAEP", "RSA-OAEP-256"]

def curves : List String :=
  ["P-256", "P-384", "P-521", "Ed25519"]

/-- The fields that every key may have, with what they may hold other than
null. -/
def commonFields : List (String × (Value → Bool)) :=
  [("use", isText), ("key_ops", fun v => v.texts?.isSome),
    ("alg", Value.isOneOf isNothing algorithms), ("kid", isText), ("x5u", isText),
    ("x5c", fun v => v.texts?.isSome), ("x5t", isText), ("x5t#S256", isText)]

/-- The fields that the keys of each kind have. -/
def kinds : List (List (String × (Value → Bool))) :=
  let kind (name : String) := ("kty", Value.isOneOf isNull [name])
  let curve := ("crv", Value.isOneOf isNull curves)
  [[kind "EC", curve, ("x", isText), ("y", isText)],
    [kind "RSA", ("n", isText), ("e", isText)],
    [kind "oct", ("k", isText)],
    [kind "OKP", curve, ("x", isText)]]

/-- Whether an object has no field twice and each field passes its test. -/
def hasFields (test : (Value → Bool) → Option Value → Bool)
    (fields : List (String × (Value → Bool))) (v : Value) : Bool :=
  match v.members? (fields.map Prod.fst) with
  | some values => (fields.zip values).all fun ((_, holds), v) => test holds v
  | none => false

def isKey (v : Value) : Bool :=
  isWhole deepest v &&
    hasFields (fun holds v => v.all fun v => isNull v || holds v) commonFields v &&
    kinds.any fun fields => hasFields (fun holds v => v.any holds) fields v

end WebKey

end DeviceBus
