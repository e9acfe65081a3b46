import DeviceBus.Url.Ipv6
import DeviceBus.Url.Percent

/-! # Hosts

In a URL of the web a host is a domain or an address. In any other URL it is a
name without meaning, unless it stands in brackets.
-/

namespace DeviceBus.Url

inductive Host where
  | name (text : String)
  | ipv4 (address : Nat)
  | ipv6 (pieces : List Nat)
  deriving DecidableEq

namespace Host

def text : Host → String
  | .name text => text
  | .ipv4 address => Ipv4.text address
  | .ipv6 pieces => "[" ++ Ipv6.text pieces ++ "]"

/-- Characters that no host has. -/
def isForbidden (c : Char) : Bool :=
  "\x00\t\n\r #/:<>?@[\\]^|".toList.contains c

/-- Characters that no domain has. -/
def isForbiddenInDomain (c : Char) : Bool :=
  isOutside c || c == '%' || isForbidden c

def bracketed? (cs : List Char) : Option Host :=
  if cs.getLast? = some ']' then (Ipv6.address? (cs.drop 1).dropLast).map Host.ipv6 else none

/-- A name without meaning. -/
def opaque? (cs : List Char) : Option Host :=
  if cs.head? = some '[' then bracketed? cs
  else if cs.any isForbidden then none
  else some (.name (String.ofList (encoded isOutside cs)))

/-- A domain or an address. Domains are in ASCII. -/
def domain? (cs : List Char) : Option Host := do
  if cs.head? = some '[' then bracketed? cs
  else
    let octets := decodedOctets (Utf8.encode (String.ofList cs))
    let domain := (← Utf8.decode? octets).toList.map Char.toLower
    if domain.isEmpty || domain.any isForbiddenInDomain then none
    else if Ipv4.endsInNumber domain then (Ipv4.address? domain).map Host.ipv4
    else some (.name (String.ofList domain))

end Host

end DeviceBus.Url
