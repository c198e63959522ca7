import SeedVault.Bytes.Bits
import SeedVault.Hash.Sha256
import SeedVault.Phrase.WordCount
import SeedVault.Phrase.WordList
import SeedVault.Text.Blank

/-!
# Entropy as words

Entropy is followed by a checksum, the first bits of its SHA-256 digest, and the bits of both are
cut into groups of eleven, each of which is the number of a word. Reading a phrase checks the
number of its words, then that each is in the list, and then the checksum.
-/

namespace SeedVault.Phrase

/-- The checksum of `e`: one bit for every four bytes. -/
def checksum (e : Bytes) : List Bool := (Bits.ofBytes (Sha256.digest e)).take (e.length / 4)

/-- The words of an entropy. -/
def encode (e : Bytes) : List String :=
  (blocks 11 (Bits.ofBytes e ++ checksum e)).map fun b => wordWithNumber (Bits.toNat b)

/-- The text of some words: one space between neighbours. -/
def join (ws : List String) : String := " ".intercalate ws

/-- Why a text is no phrase. -/
inductive DecodeFault where
  | wordCount (n : Nat)
  | unknownWord
  | checksum
  deriving DecidableEq, Repr

/-- The entropy behind the bits of a phrase of length `c`, if the rest of them is its checksum. -/
def splitChecksum (c : WordCount) (bits : List Bool) : Except DecodeFault Bytes :=
  let e := Bits.toBytes (bits.take c.entropyBits)
  if bits.drop c.entropyBits = checksum e then .ok e else .error .checksum

/-- The entropy a text of words between blanks stands for. -/
def decode (phrase : String) : Except DecodeFault Bytes :=
  let ws := (Text.words phrase.toList).map String.ofList
  match WordCount.ofWords? ws.length with
  | none => .error (.wordCount ws.length)
  | some c =>
    match ws.mapM wordNumber? with
    | none => .error .unknownWord
    | some ns => splitChecksum c (ns.flatMap (Bits.ofNat 11))

end SeedVault.Phrase
