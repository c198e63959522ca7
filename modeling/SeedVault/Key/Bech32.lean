import SeedVault.Bytes.Bits
import SeedVault.Text.Split

/-!
# Checksummed base-32 text

Data is written as a human-readable part, the separator `1`, symbols of five bits and six symbols
of checksum. The checksum is the remainder of a polynomial over the symbols and the human-readable
part; writing makes it equal to one constant, reading accepts that one and a second. The
human-readable part may hold the separator too: the last one counts.
-/

namespace SeedVault.Bech32

/-- Five bits. -/
abbrev Symbol := BitVec 5

/-- The symbols' characters in the order of their values. -/
def alphabet : List Char := "qpzry9x8gf2tvdw0s3jn54khce6mua7l".toList

/-- The character of a symbol. -/
def char (s : Symbol) : Char := alphabet.getD s.toNat 'q'

/-- The lower case of an ASCII letter. -/
def lower (c : Char) : Char :=
  if 'A' ≤ c ∧ c ≤ 'Z' then Char.ofNat (c.toNat + 32) else c

/-- The symbol of a character of either case. -/
def symbol? (c : Char) : Option Symbol := (alphabet.idxOf? (lower c)).map (BitVec.ofNat 5)

/-- What each of the five bits shifted out of a remainder adds to it. -/
def generators : List (BitVec 30) :=
  [0x3b6a57b2, 0x26508e6d, 0x1ea119fa, 0x3d4233dd, 0x2a1462b3]

/-- Takes a symbol into the remainder. -/
def remainderStep (r : BitVec 30) (s : Symbol) : BitVec 30 :=
  generators.zipIdx.foldl (fun x (g, i) => if r.getLsbD (25 + i) then x ^^^ g else x)
    (r.extractLsb' 0 25 ++ s)

/-- The remainder of some symbols behind the remainder `r`. -/
def remainderFrom (r : BitVec 30) (symbols : List Symbol) : BitVec 30 :=
  symbols.foldl remainderStep r

/-- The remainder of some symbols. -/
def remainder (symbols : List Symbol) : BitVec 30 := remainderFrom 1 symbols

/-- The symbols of a human-readable part: the high bits of its characters, zero, the low bits. -/
def expand (hrp : List Char) : List Symbol :=
  hrp.map (fun c => BitVec.ofNat 5 ((lower c).toNat / 32)) ++
    0 :: hrp.map (fun c => BitVec.ofNat 5 ((lower c).toNat))

/-- The remainder that writing aims at. -/
def writtenConstant : BitVec 30 := 1

/-- The second remainder that reading accepts. -/
def amendedConstant : BitVec 30 := 0x2bc830a3

/-- The number of symbols in a checksum. -/
def checksumLength : Nat := 6

/-- The largest number of characters of a whole text. -/
def lengthLimit : Nat := 1023

/-- The six symbols of a remainder, highest first. -/
def remainderSymbols (r : BitVec 30) : List Symbol :=
  [r.extractLsb' 25 5, r.extractLsb' 20 5, r.extractLsb' 15 5, r.extractLsb' 10 5,
   r.extractLsb' 5 5, r.extractLsb' 0 5]

/-- The checksum behind a human-readable part and data. -/
def checksum (hrp : List Char) (data : List Symbol) : List Symbol :=
  remainderSymbols
    (remainder (expand hrp ++ data ++ List.replicate checksumLength 0) ^^^ writtenConstant)

/-- Bytes as symbols; the last one is filled up with zero bits. -/
def ofBytes (bs : Bytes) : List Symbol :=
  (blocks 5 (Bits.ofBytes bs)).map fun b =>
    BitVec.ofNat 5 (Bits.toNat (b ++ List.replicate (5 - b.length) false))

/-- Symbols as bytes; bits that do not fill a byte are dropped. -/
def toBytes (symbols : List Symbol) : Bytes :=
  let bits := symbols.flatMap fun s => Bits.ofNat 5 s.toNat
  Bits.toBytes (bits.take (bits.length / 8 * 8))

/-- Does a text hold letters of both cases? -/
def mixedCase (cs : List Char) : Bool :=
  cs.any (fun c => 'a' ≤ c && c ≤ 'z') && cs.any (fun c => 'A' ≤ c && c ≤ 'Z')

/-- Is a text a human-readable part: 1 to 83 visible ASCII characters in one case? -/
def isHrp (cs : List Char) : Bool :=
  cs ≠ [] && cs.length ≤ 83 && cs.all (fun c => 33 ≤ c.toNat && c.toNat ≤ 126)
    && !mixedCase cs

/-- The text of some bytes behind a human-readable part, in lower case, if it is short enough. -/
def encode? (hrp : List Char) (bs : Bytes) : Option (List Char) :=
  let data := ofBytes bs
  let cs := hrp.map lower ++ '1' :: (data ++ checksum hrp data).map char
  if cs.length ≤ lengthLimit then some cs else none

/-- The parts of a text before and behind its last separator. -/
def splitLast? (cs : List Char) : Option (List Char × List Char) :=
  let back := cs.reverse
  match back.dropWhile (· ≠ '1') with
  | [] => none
  | _ :: front => some (front.reverse, (back.takeWhile (· ≠ '1')).reverse)

/-- Is this the remainder of a sound text? -/
def isAccepted (r : BitVec 30) : Bool := r = writtenConstant || r = amendedConstant

/-- The human-readable part, as written, and the bytes of a text. -/
def decode? (cs : List Char) : Option (List Char × Bytes) := do
  let (hrp, tail) ← splitLast? cs
  let symbols ← tail.mapM symbol?
  if mixedCase cs || !isHrp hrp || cs.length > lengthLimit then none
  else if symbols.length < checksumLength then none
  else if isAccepted (remainder (expand hrp ++ symbols)) then
    some (hrp, toBytes (symbols.take (symbols.length - checksumLength)))
  else none

end SeedVault.Bech32
