import SeedVault.Url.Basic

/-!
# Reading addresses

Controls and spaces around an address and line breaks within it do not count. The scheme comes
first; what follows it is cut at the fragment, the query and the authority, each of which has
characters of its own that are escaped. Segments of one or two dots are resolved as they come. The
special schemes take a backslash for a slash and insist on a host, the file scheme apart, which
knows drive letters instead.
-/

namespace SeedVault.Url

open Text

/-- The text of an address without what does not count. -/
def clean (cs : List Char) : List Char :=
  let blank (c : Char) := decide (c.toNat ≤ 32)
  (((cs.dropWhile blank).reverse.dropWhile blank).reverse).filter fun c =>
    c ≠ '\t' && c ≠ '\n' && c ≠ '\r'

/-- The scheme at the front of a text, in lower case, and what follows its colon. -/
def splitScheme? (cs : List Char) : Option (String × List Char) :=
  let name := cs.takeWhile fun c => c.isAlphanum || c == '+' || c == '-' || c == '.'
  match name, cs.drop name.length with
  | first :: _, ':' :: rest =>
    if first.isAlpha then some (String.ofList (name.map Char.toLower), rest) else none
  | _, _ => none

/-- Does a character end the name of a directory? -/
def isSlash (special : Bool) (c : Char) : Bool := c == '/' || (special && c == '\\')

/-- Is the segment a single dot, perhaps escaped? -/
def isDot (segment : List Char) : Bool :=
  [".", "%2e"].contains (String.ofList (segment.map Char.toLower))

/-- Is the segment two dots, perhaps escaped? -/
def isDoubleDot (segment : List Char) : Bool :=
  ["..", "%2e.", ".%2e", "%2e%2e"].contains (String.ofList (segment.map Char.toLower))

/-- The segments `done`, last first, without the last one; a drive letter stays. -/
def shorten (file : Bool) (done : List (List Char)) : List (List Char) :=
  match done with
  | [] => []
  | [d] => if file && isDrive [':'] d then [d] else []
  | _ :: ds => ds

/-- A segment as it is kept, behind those `done`. -/
def settle (file : Bool) (done : List (List Char)) (segment : List Char) : List Char :=
  match done, segment with
  | [], [c, _] =>
    if file && isDrive [':', '|'] segment then [c, ':']
    else Percent.encode Percent.pathSet segment
  | _, _ => Percent.encode Percent.pathSet segment

/-- The segments of a path, resolved behind those `done`, last first. -/
def resolve (file : Bool) (done : List (List Char)) : List (List Char) → List (List Char)
  | [] => done.reverse
  | [last] =>
    if isDoubleDot last then ([] :: shorten file done).reverse
    else if isDot last then ([] :: done).reverse
    else (settle file done last :: done).reverse
  | s :: rest =>
    if isDoubleDot s then resolve file (shorten file done) rest
    else if isDot s then resolve file done rest
    else resolve file (settle file done s :: done) rest

/-- The segments of the path that a text behind an authority or a scheme spells. -/
def readSegments (special : Bool) (cs : List Char) : List String :=
  let behind :=
    match cs with
    | c :: rest => if isSlash special c then rest else cs
    | [] => []
  if cs = [] ∧ !special then []
  else (resolve false [] (splitBy (isSlash special) behind)).map String.ofList

/-- The segments of the path of a file, those in front that are empty left out. -/
def readFileSegments (cs : List Char) : List String :=
  let all := resolve true [] ((splitBy (isSlash true) cs).dropWhile (· == []))
  match all.dropWhile (· == []) with
  | [] => [""]
  | kept => kept.map String.ofList

/-- The text before the first character that satisfies `p`, and the text from it on. -/
def cutAt (p : Char → Bool) (cs : List Char) : List Char × List Char :=
  (cs.takeWhile (!p ·), cs.dropWhile (!p ·))

/-- What follows the scheme, cut into what comes before the query, the query, and the fragment. -/
def splitTail (cs : List Char) : List Char × Option (List Char) × Option (List Char) :=
  let (front, fragment) := cutAt (· == '#') cs
  let (front, query) := cutAt (· == '?') front
  let behindMark : List Char → Option (List Char)
    | [] => none
    | _ :: rest => some rest
  (front, behindMark query, behindMark fragment)

/-- The texts before and behind the last sign that ends the credentials, if there is one. -/
def splitCredentials? (cs : List Char) : Option (List Char × List Char) :=
  let host := (cs.reverse.takeWhile (· ≠ '@')).reverse
  if host.length = cs.length then none
  else some (cs.take (cs.length - host.length - 1), host)

/-- The end of a host: a colon outside brackets. -/
def splitPort (inBrackets : Bool) : List Char → List Char × Option (List Char)
  | [] => ([], none)
  | c :: cs =>
    if c = ':' ∧ !inBrackets then ([], some cs)
    else
      let inside := if c = '[' then true else if c = ']' then false else inBrackets
      let (host, port) := splitPort inside cs
      (c :: host, port)

/-- A port, and what follows its digits. -/
def readPort (scheme : String) (cs : List Char) : Except UrlError (Option Nat × List Char) :=
  let (digits, rest) := cutAt (!Char.isDigit ·) cs
  if rest ≠ [] ∧ rest.head? ≠ some '\\' then .error .invalidPort
  else
    match digits with
    | [] => .ok (none, rest)
    | _ =>
      match Decimal.read 65535 digits with
      | .ok n => .ok (if defaultPort? scheme = some n then none else some n, rest)
      | .error _ => .error .invalidPort

/-- What stands before and behind the sign that ends the credentials; `more` tells whether anything
follows the text. -/
def splitUser (more : Bool) (cs : List Char) : Except UrlError (List Char × List Char) :=
  match splitCredentials? cs with
  | none => .ok ([], cs)
  | some ([], place) => if place = [] ∧ more then .error .emptyHost else .ok ([], place)
  | some found => .ok found

/-- The host that a text spells; only the special schemes insist on one. -/
def readHost (special : Bool) (cs : List Char) : Except UrlError (Option Host) :=
  if cs = [] then if special then .error .emptyHost else .ok none
  else (if special then Host.read cs else Host.readOpaque cs).map some

/-- A host and a port, and what follows its digits. A port needs a host. -/
def readPlace (scheme : String) (cs : List Char) :
    Except UrlError (Option Host × Option Nat × List Char) := do
  let (hostText, port?) := splitPort false cs
  let host ← readHost (isSpecialScheme scheme) hostText
  match host, port? with
  | none, some _ => .error .emptyHost
  | host, some p => (readPort scheme p).map fun (port, rest) => (host, port, rest)
  | host, none => .ok (host, none, [])

/-- An authority; `more` tells whether anything follows it. What of it belongs to the path is given
back. Credentials need a host. -/
def readAuthority (scheme : String) (more : Bool) (cs : List Char) :
    Except UrlError (Authority × List Char) := do
  let (user, place) ← splitUser more cs
  let (name, password) := cutAt (· == ':') user
  let (host, port, rest) ← readPlace scheme place
  let escaped (cs : List Char) := String.ofList (Percent.encode Percent.userSet cs)
  if host = none ∧ (name ≠ [] ∨ 1 < password.length) then .error .emptyHost
  else
    .ok ({ username := escaped name, password := escaped (password.drop 1), host, port }, rest)

/-- The authority and the segments of a file's address. -/
def readFile (cs : List Char) : Except UrlError (Authority × List String) :=
  match cs with
  | a :: b :: rest =>
    if isSlash true a && isSlash true b then
      let (name, behind) := cutAt (isSlash true) rest
      if isDrive [':', '|'] name then .ok ({}, readFileSegments rest)
      else if name = [] then .ok ({}, readFileSegments behind)
      else do
        let host ← Host.read name
        let names := readFileSegments behind
        let onDrive := isDrive [':'] ((names.headD "").toList)
        if host = .domain "localhost" ∨ onDrive then .ok ({}, names)
        else .ok ({ host := some host }, names)
    else .ok ({}, readFileSegments cs)
  | _ => .ok ({}, readFileSegments cs)

/-- The parts of an address in front of the query. -/
def readFront (scheme : String) (more : Bool) (cs : List Char) :
    Except UrlError (Option Authority × UrlPath) := do
  let special := isSpecialScheme scheme
  let behindAuthority (cs : List Char) := do
    let (front, path) := cutAt (isSlash special) cs
    let (authority, rest) ← readAuthority scheme (more || path ≠ []) front
    return (some authority, UrlPath.segments (readSegments special (rest ++ path)))
  if scheme = "file" then
    let (authority, names) ← readFile cs
    return (some authority, .segments names)
  else if special then behindAuthority (cs.dropWhile (isSlash true))
  else
    match cs with
    | '/' :: '/' :: rest => behindAuthority rest
    | '/' :: _ => return (none, .segments (readSegments false cs))
    | _ => return (none, .plain (String.ofList (Percent.encode [] cs)))

/-- The address a text spells. -/
def parse (s : String) : Except UrlError Url := do
  match splitScheme? (clean s.toList) with
  | none => throw .relativeWithoutBase
  | some (scheme, rest) =>
    let (front, query, fragment) := splitTail rest
    let (authority, path) ← readFront scheme (query.isSome || fragment.isSome) front
    let escaped (set cs : List Char) := String.ofList (Percent.encode set cs)
    let querySet :=
      if isSpecialScheme scheme then Percent.specialQuerySet else Percent.querySet
    return { scheme, authority, path, query := query.map (escaped querySet),
             fragment := fragment.map (escaped Percent.fragmentSet) }

end SeedVault.Url
