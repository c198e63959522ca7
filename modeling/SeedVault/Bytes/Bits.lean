import SeedVault.Bytes.Basic

/-!
# Bit strings

Numbers of a fixed width and byte strings as lists of bits, most significant bit first.
-/

namespace SeedVault.Bits

/-- The lowest `width` bits of a number. -/
def ofNat : (width n : Nat) → List Bool
  | 0, _ => []
  | w + 1, n => n.testBit w :: ofNat w n

/-- The number a bit string spells. -/
def toNat (bits : List Bool) : Nat := bits.foldl (fun n b => 2 * n + b.toNat) 0

/-- The bits of a byte string. -/
def ofBytes (bs : Bytes) : List Bool := bs.flatMap fun b => ofNat 8 b.toNat

/-- The bytes of a bit string, eight bits each. -/
def toBytes (bits : List Bool) : Bytes := (blocks 8 bits).map fun b => UInt8.ofNat (toNat b)

/-- A number is written in as many bits as it is given. -/
@[simp] theorem length_ofNat (width n : Nat) : (ofNat width n).length = width := by
  induction width with
  | zero => rfl
  | succ w ih => simp [ofNat, ih]

/-- Every byte has eight bits. -/
@[simp] theorem length_ofBytes (bs : Bytes) : (ofBytes bs).length = 8 * bs.length := by
  induction bs with
  | nil => rfl
  | cons b bs ih =>
    have : ofBytes (b :: bs) = ofNat 8 b.toNat ++ ofBytes bs := rfl
    rw [this, List.length_append, ih, length_ofNat, List.length_cons]
    omega

end SeedVault.Bits
