import SeedVault.Bytes.Bits
import SeedVault.Text.Decimal

/-!
# Base 64

Three bytes are four digits of the standard alphabet; a shorter last group is padded with equals
signs, which a reader may miss. The bits of a last digit that no byte takes must be zero.
-/

namespace SeedVault.Base64

/-- Why a text is no written byte string. -/
inductive Fault where
  /-- The digits cannot end where they do. -/
  | length
  | byte (b : UInt8) (offset : Nat)
  | lastSymbol (b : UInt8) (offset : Nat)
  deriving DecidableEq, Repr

/-- The wording of a fault. -/
def Fault.message : Fault → String
  | .length => "Encoded text cannot have a 6-bit remainder."
  | .byte b offset =>
    "Invalid byte " ++ Text.Decimal.text b.toNat ++ ", offset " ++ Text.Decimal.text offset ++ "."
  | .lastSymbol b offset =>
    "Invalid last symbol " ++ Text.Decimal.text b.toNat ++ ", offset "
      ++ Text.Decimal.text offset ++ "."

/-- The alphabet. -/
def alphabet : List Char :=
  "ABCDEFGHIJKLMNOPQRSTUVWXYZabcdefghijklmnopqrstuvwxyz0123456789+/".toList

/-- The digit of a group of six bits. -/
def digit (bits : List Bool) : Char := alphabet.getD (Bits.toNat bits) 'A'

/-- The value of a digit. -/
def value? (b : UInt8) : Option Nat := alphabet.idxOf? (Char.ofNat b.toNat)

/-- The text of a byte string. -/
def encode (bs : Bytes) : String :=
  let digits := (blocks 6 (Bits.ofBytes bs)).map fun g =>
    digit (g ++ List.replicate (6 - g.length) false)
  String.ofList (digits ++ List.replicate ((3 - bs.length % 3) % 3) '=')

/-- The sign that fills the last group. -/
def padding : UInt8 := 61

/-- The values of digits from the place `offset` on, up to the padding, and the padding. -/
def readDigits (offset : Nat) : Bytes → Except Fault (List Nat × Bytes)
  | [] => .ok ([], [])
  | b :: bs =>
    if b = padding then .ok ([], b :: bs)
    else
      match value? b with
      | none => .error (.byte b offset)
      | some v => do
        let (values, rest) ← readDigits (offset + 1) bs
        return (v :: values, rest)

/-- Does padding end a text whose digits are `count`? -/
def padsFit (count : Nat) (pads : Bytes) : Bool :=
  pads.all (· == padding) && pads.length ≤ 2 && 2 ≤ count % 4 && count % 4 + pads.length ≤ 4

/-- The byte string a text spells. A text whose length rules out every reading is blamed on its
last byte if that is no digit. -/
def decode (bs : Bytes) : Except Fault Bytes := do
  if bs.length % 4 = 1 then
    match bs.getLast? with
    | some b =>
      if b ≠ padding ∧ value? b = none then throw (.byte b (bs.length - 1))
      else throw .length
    | none => throw .length
  else
    let (values, pads) ← readDigits 0 bs
    if pads ≠ [] ∧ !padsFit values.length pads then throw (.byte padding values.length)
    else
      let bits := values.flatMap (Bits.ofNat 6)
      let kept := bits.length / 8 * 8
      if (bits.drop kept).any id then
        throw (.lastSymbol (bs.getD (values.length - 1) 0) (values.length - 1))
      else return Bits.toBytes (bits.take kept)

end SeedVault.Base64
