import SeedVault.Bytes.Hex

/-!
# Percent encoding

A byte is written as a percent sign and two upper-case digits. Which characters of a text need it
depends on the part of an address they stand in; bytes outside ASCII always do.
-/

namespace SeedVault.Percent

/-- The upper-case digit of a number below sixteen. -/
def digit (n : Nat) : Char := if n < 10 then Char.ofNat (48 + n) else Char.ofNat (55 + n)

/-- The escape of a byte. -/
def escape (b : UInt8) : List Char := ['%', digit (b.toNat / 16), digit (b.toNat % 16)]

/-- A character, escaped if it is in the set, a control or not ASCII. -/
def encodeChar (set : List Char) (c : Char) : List Char :=
  if c.toNat < 32 ∨ 127 ≤ c.toNat ∨ c ∈ set then
    (Bytes.ofString (String.ofList [c])).flatMap escape
  else [c]

/-- A text with the characters of a set escaped. -/
def encode (set cs : List Char) : List Char := cs.flatMap (encodeChar set)

/-- The byte that two characters spell as an escape. -/
def unescape? (high low : UInt8) : Option UInt8 := do
  let h ← Hex.value? (Char.ofNat high.toNat)
  let l ← Hex.value? (Char.ofNat low.toNat)
  some (UInt8.ofNat (h * 16 + l))

/-- The bytes of a text with its escapes undone; what is no escape stands for itself. -/
def decode : Bytes → Bytes
  | [] => []
  | [b] => [b]
  | [b, c] => [b, c]
  | b :: high :: low :: rest =>
    if b = 37 then
      match unescape? high low with
      | some d => d :: decode rest
      | none => b :: decode (high :: low :: rest)
    else b :: decode (high :: low :: rest)

/-- Escaped in a fragment. -/
def fragmentSet : List Char := [' ', '"', '<', '>', Char.ofNat 0x60]

/-- Escaped in a query. -/
def querySet : List Char := [' ', '"', '#', '<', '>']

/-- Escaped in a query of one of the special schemes. -/
def specialQuerySet : List Char := '\'' :: querySet

/-- Escaped in a path. -/
def pathSet : List Char := fragmentSet ++ ['#', '?', Char.ofNat 0x7b, Char.ofNat 0x7d]

/-- Escaped in a user name or a password. -/
def userSet : List Char := pathSet ++ "/:;=@[\\]^|".toList

end SeedVault.Percent
