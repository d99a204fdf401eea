import BillingClient.Text.Percent
import BillingClient.Url.Error
import BillingClient.Url.Idna.Domain
import BillingClient.Url.Ipv4
import BillingClient.Url.Ipv6

/-!
Contract: hosts of URLs.

The host of a web address is a domain name, brought to ASCII, or an IP address. Under
another scheme a name is kept as it is, with only its control and non-ASCII characters
percent-encoded.
-/

namespace BillingClient.Url

open BillingClient.Text

inductive Host where
  | name (text : String)
  | ipv4 (address : Nat)
  | ipv6 (pieces : List Nat)
deriving DecidableEq, Repr, Inhabited

namespace Host

/-- The text of a host in a URL. -/
def text : Host → String
  | .name text => text
  | .ipv4 address => String.ofList (Ipv4.chars address)
  | .ipv6 pieces => String.ofList ('[' :: Ipv6.chars pieces ++ [']'])

/-- The address between brackets. -/
def readBracketed (host : List Char) : Except UrlError Host :=
  if host.getLast? = some ']' then
    match Ipv6.read? (host.drop 1).dropLast with
    | some pieces => .ok (.ipv6 pieces)
    | none => .error .invalidIpv6
  else .error .invalidIpv6

/-- The host of a web address. -/
def read (host : List Char) : Except UrlError Host :=
  if host.head? = some '[' then readBracketed host
  else
    let domain? := (Utf8.decode? (Percent.decode (String.ofList host))).bind fun name =>
      Idna.toAscii? name.toList
    match domain? with
    | none => .error .invalidDomain
    | some [] => .error .emptyHost
    | some domain =>
      if Ipv4.endsInNumber domain then
        match Ipv4.read? domain with
        | some address => .ok (.ipv4 address)
        | none => .error .invalidIpv4
      else .ok (.name (String.ofList domain))

/-- The characters that no host may hold as they are. -/
def isForbidden (c : Char) : Bool :=
  ['\x00', '\t', '\n', '\r', ' ', '#', '/', ':', '<', '>', '?', '@', '[', '\\', ']', '^',
    '|'].contains c

/-- Whether a character is printable ASCII. -/
def isPrintable (c : Char) : Bool :=
  0x20 ≤ c.toNat && c.toNat < 0x7F

/-- The host under a scheme that is no web scheme. -/
def readPlain (host : List Char) : Except UrlError Host :=
  if host.head? = some '[' then readBracketed host
  else if host.any isForbidden then .error .invalidHostCharacter
  else .ok (.name (Percent.encode isPrintable (String.ofList host)))

end Host

end BillingClient.Url
