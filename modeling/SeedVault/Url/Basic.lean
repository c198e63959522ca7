import SeedVault.Url.Host

/-!
# Addresses of resources

An address has a scheme, perhaps an authority with a host, a path, and perhaps a query and a
fragment. A path is a list of segments, or, where neither an authority nor a slash follows the
scheme, a plain text. The origin of an address is its scheme with host and port; only the network
schemes have one, and the addresses of blobs have that of the address inside.
-/

namespace SeedVault

/-- The part of an address between the double slash and the path. -/
structure Authority where
  username : String := ""
  password : String := ""
  host : Option Host := none
  /-- The port, unless it is the one the scheme implies. -/
  port : Option Nat := none
  deriving DecidableEq, Repr

/-- The path of an address. -/
inductive UrlPath where
  | segments (names : List String)
  | plain (text : String)
  deriving DecidableEq, Repr

/-- The address of a resource. Each part is in its escaped form. -/
structure Url where
  scheme : String
  authority : Option Authority := none
  path : UrlPath
  query : Option String := none
  fragment : Option String := none
  deriving DecidableEq, Repr

/-- The port a scheme implies. -/
def defaultPort? (scheme : String) : Option Nat :=
  [("http", 80), ("https", 443), ("ws", 80), ("wss", 443), ("ftp", 21)].lookup scheme

/-- Is the scheme one of those whose addresses always have a host or name a file? -/
def isSpecialScheme (scheme : String) : Bool := scheme = "file" || (defaultPort? scheme).isSome

namespace Authority

/-- The text of the user's name and password with the sign behind them. -/
def credentials (a : Authority) : String :=
  if a.username = "" ∧ a.password = "" then ""
  else a.username ++ (if a.password = "" then "" else ":" ++ a.password) ++ "@"

/-- The text of an authority. -/
def text (a : Authority) : String :=
  let port :=
    match a.port with
    | some n => ":" ++ Text.Decimal.text n
    | none => ""
  a.credentials ++ (a.host.map Host.text).getD "" ++ port

end Authority

/-- The text of a path. -/
def UrlPath.text : UrlPath → String
  | segments names => "".intercalate (names.map ("/" ++ ·))
  | plain text => text

namespace Url

/-- What stands between the scheme and the path. Without an authority a path that starts with two
slashes follows a dot, lest it read as one. -/
def beforePath (u : Url) : String :=
  match u.authority, u.path with
  | some a, _ => "//" ++ a.text
  | none, .segments ("" :: _ :: _) => "/."
  | none, _ => ""

/-- The text of an address. -/
def text (u : Url) : String :=
  let part (mark : String) (s? : Option String) := (s?.map (mark ++ ·)).getD ""
  u.scheme ++ ":" ++ u.beforePath ++ u.path.text ++ part "?" u.query ++ part "#" u.fragment

/-- The site that an address is at: its scheme, host and port, and nothing else of it. -/
def site (u : Url) : Url :=
  { scheme := u.scheme
    authority := u.authority.map fun a => { host := a.host, port := a.port }
    path := .segments [] }

/-- Is the text a letter with one of `marks` behind it? -/
def isDrive (marks : List Char) : List Char → Bool
  | [c, m] => c.isAlpha && marks.contains m
  | _ => false

/-- The address of a path of one segment at the same place. The drive of a file stays. -/
def withSegment (u : Url) (name : String) : Except UrlError Url :=
  match u.path with
  | .plain _ => .error .relativeToOpaque
  | .segments names =>
    let drive := if u.scheme = "file" then (names.take 1).filter (isDrive [':'] ·.toList) else []
    .ok { u with path := .segments (drive ++ [name]), query := none, fragment := none }

end Url

end SeedVault
