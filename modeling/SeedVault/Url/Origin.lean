import SeedVault.Url.Parser

/-!
# Origins

The origin of an address is what it shares with the other addresses of one site: scheme, host and
port. Only network addresses have one, and the addresses of blobs, whose path is an address.
-/

namespace SeedVault

/-- Scheme, host and port of a site. -/
structure Origin where
  scheme : String
  host : Host
  port : Nat
  deriving DecidableEq, Repr

/-- The text of an origin; a port that the scheme implies is left out. -/
def Origin.text (o : Origin) : String :=
  o.scheme ++ "://" ++ o.host.text
    ++ (if defaultPort? o.scheme = some o.port then "" else ":" ++ Text.Decimal.text o.port)

namespace Url

/-- The origin of a network address. -/
def ownOrigin? (u : Url) : Option Origin := do
  let implied ← defaultPort? u.scheme
  let authority ← u.authority
  let host ← authority.host
  some { scheme := u.scheme, host, port := authority.port.getD implied }

/-- The origin of an address inside at most `depth` others. -/
def originWithin (depth : Nat) (u : Url) : Option Origin :=
  match depth with
  | 0 => u.ownOrigin?
  | depth + 1 =>
    if u.scheme = "blob" then
      match parse u.path.text with
      | .ok inner => inner.originWithin depth
      | .error _ => none
    else u.ownOrigin?

/-- The origin of an address; each address inside another is shorter. -/
def origin? (u : Url) : Option Origin := u.originWithin u.path.text.length

end Url

end SeedVault
