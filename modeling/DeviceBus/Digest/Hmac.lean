import DeviceBus.Digest.Sha256

/-! # Keyed digests

A digest of a message that only holders of the key can make: the key goes into
an inner and an outer digest, in two disguises.
-/

namespace DeviceBus.Hmac

/-- The key as one block: a longer one is replaced by its digest, and zeros
follow. -/
def block (key : Bytes) : Bytes :=
  let key := if 64 < key.length then Sha256.hash key else key
  key ++ List.replicate (64 - key.length) 0

def sign (key message : Bytes) : Bytes :=
  let inner := Sha256.hash ((block key).map (· ^^^ 0x36) ++ message)
  Sha256.hash ((block key).map (· ^^^ 0x5C) ++ inner)

end DeviceBus.Hmac
