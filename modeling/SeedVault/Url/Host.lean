import SeedVault.Text.Decimal
import SeedVault.Url.DomainName
import SeedVault.Url.Encode

/-!
# Hosts

A host is a domain name, an address of four bytes, or an address of eight pieces. A name whose last
part is a number is an address of four bytes, whose parts may be decimal, octal or hexadecimal and
may each fill the bytes that the parts behind leave.
-/

namespace SeedVault

/-- A host. -/
inductive Host where
  | domain (name : String)
  | address4 (bits : Nat)
  | address6 (pieces : List Nat)
  deriving DecidableEq, Repr

/-- Why a text is no address of a resource. -/
inductive UrlError where
  | emptyHost
  | idna
  | invalidPort
  | invalidIpv4
  | invalidIpv6
  | invalidDomainCharacter
  | relativeWithoutBase
  | relativeToOpaque
  deriving DecidableEq, Repr

/-- The wording of an error. -/
def UrlError.message : UrlError → String
  | emptyHost => "empty host"
  | idna => "invalid international domain name"
  | invalidPort => "invalid port number"
  | invalidIpv4 => "invalid IPv4 address"
  | invalidIpv6 => "invalid IPv6 address"
  | invalidDomainCharacter => "invalid domain character"
  | relativeWithoutBase => "relative URL without a base"
  | relativeToOpaque => "relative URL with a cannot-be-a-base base"

namespace Host

/-- The number a text spells in a base. -/
def readBase (base : Nat) (cs : List Char) : Option Nat :=
  cs.foldlM (fun n c => do
    let d ← Hex.value? c
    if d < base then some (n * base + d) else none) 0

/-- A part of an address of four bytes. -/
def readPart? (cs : List Char) : Option Nat :=
  match cs with
  | [] => none
  | '0' :: 'x' :: rest => readBase 16 rest
  | '0' :: 'X' :: rest => readBase 16 rest
  | '0' :: c :: rest => readBase 8 (c :: rest)
  | _ => readBase 10 cs

/-- The parts of a name, an empty last one left out. -/
def nameParts (name : List Char) : List (List Char) :=
  let parts := Text.splitAtChar '.' name
  if parts.length > 1 ∧ parts.getLast? = some [] then parts.dropLast else parts

/-- Is the last part of a name a number? -/
def endsInNumber (name : List Char) : Bool :=
  match (nameParts name).getLast? with
  | some last => (last ≠ [] && last.all Char.isDigit) || (readPart? last).isSome
  | none => false

/-- The number that bytes spell in the places of an address of four from place `i` on. -/
def placed (i : Nat) : List Nat → Nat
  | [] => 0
  | n :: ns => n * Nat.pow 256 (3 - i) + placed (i + 1) ns

/-- The address of four bytes that a name spells. -/
def readAddress4 (name : List Char) : Except UrlError Nat :=
  let parts := nameParts name
  match parts.mapM readPart? with
  | none => .error .invalidIpv4
  | some numbers =>
    match numbers.reverse with
    | [] => .error .invalidIpv4
    | last :: front =>
      if numbers.length > 4 ∨ front.any (· > 255) ∨ last ≥ Nat.pow 256 (5 - numbers.length) then
        .error .invalidIpv4
      else
        .ok (placed 0 front.reverse + last)

/-- The pieces of sixteen bits that a text between colons spells; the last may be an address of
four bytes. -/
def readPieces? : List (List Char) → Option (List Nat)
  | [] => some []
  | part :: rest => do
    if rest = [] ∧ part.contains '.' then
      let bytes ← (Text.splitAtChar '.' part).mapM fun p => do
        let n ← readBase 10 p
        if p = [] ∨ p.length > 3 ∨ (p.length > 1 ∧ p.head? = some '0') ∨ n > 255 then none
        else some n
      match bytes with
      | [a, b, c, d] => some [a * 256 + b, c * 256 + d]
      | _ => none
    else
      if part = [] ∨ part.length > 4 then none
      else
        let n ← readBase 16 part
        let ns ← readPieces? rest
        some (n :: ns)

/-- The texts before and behind the first pair of colons. -/
def splitGap? (before : List Char) : List Char → Option (List Char × List Char)
  | ':' :: ':' :: rest => some (before.reverse, rest)
  | c :: rest => splitGap? (c :: before) rest
  | [] => none

/-- The pieces of a text; the empty text has none. -/
def piecesOf? (cs : List Char) : Option (List Nat) :=
  if cs = [] then some [] else readPieces? (Text.splitAtChar ':' cs)

/-- The address of eight pieces that a text spells; a pair of colons stands for zeros. -/
def readAddress6 (cs : List Char) : Except UrlError (List Nat) :=
  let pieces? :=
    match splitGap? [] cs with
    | none => do
      let ps ← piecesOf? cs
      if ps.length = 8 then some ps else none
    | some (front, back) => do
      if front.contains '.' then none
      let f ← piecesOf? front
      let b ← piecesOf? back
      if f.length + b.length ≤ 7 then
        some (f ++ List.replicate (8 - f.length - b.length) 0 ++ b)
      else none
  match pieces? with
  | some ps => .ok ps
  | none => .error .invalidIpv6

/-- The host of one of the special schemes. -/
def read (cs : List Char) : Except UrlError Host :=
  match cs with
  | '[' :: rest =>
    if rest.getLast? = some ']' then (readAddress6 rest.dropLast).map .address6
    else .error .invalidIpv6
  | _ =>
    match Bytes.toString? (Percent.decode (Bytes.ofString (String.ofList cs))) with
    | none => .error .idna
    | some text =>
      match Domain.toAscii? text.toList with
      | none => .error .idna
      | some [] => .error .emptyHost
      | some name =>
        if endsInNumber name then (readAddress4 name).map .address4
        else .ok (.domain (String.ofList name))

/-- The host of any other scheme. -/
def readOpaque (cs : List Char) : Except UrlError Host :=
  match cs with
  | '[' :: rest =>
    if rest.getLast? = some ']' then (readAddress6 rest.dropLast).map .address6
    else .error .invalidIpv6
  | _ =>
    if cs.any (fun c => "\x00\t\n\r #/:<>?@[\\]^|".toList.contains c) then
      .error .invalidDomainCharacter
    else .ok (.domain (String.ofList (Percent.encode [] cs)))

/-- The start and the length of the longest run of zeros; of two the first. -/
def longestGap (pieces : List Nat) : Nat × Nat :=
  let runAt (i : Nat) := ((pieces.drop i).takeWhile (· == 0)).length
  (List.range pieces.length).foldl (fun best i =>
    if runAt i > best.2 then (i, runAt i) else best) (0, 0)

/-- Pieces in hexadecimal between colons. -/
def piecesText (pieces : List Nat) : String :=
  ":".intercalate (pieces.map fun n => String.ofList (Nat.toDigits 16 n))

/-- The text of a host. -/
def text : Host → String
  | domain name => name
  | address4 bits =>
    ".".intercalate ((Bytes.ofNat 4 bits).map fun b => Text.Decimal.text b.toNat)
  | address6 pieces =>
    let (start, length) := longestGap pieces
    if length < 2 then "[" ++ piecesText pieces ++ "]"
    else
      "[" ++ piecesText (pieces.take start) ++ "::" ++ piecesText (pieces.drop (start + length))
        ++ "]"

end Host

end SeedVault
