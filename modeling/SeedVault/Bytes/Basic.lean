/-!
# Byte strings

Byte strings are lists of bytes. This module holds their reading as big-endian numbers, their
cutting into blocks of one size, and the two facts every fixed-width format rests on: a number
written on `n` bytes has `n` bytes (`length_ofNat`), and a block list loses nothing
(`flatten_blocks`).
-/

namespace SeedVault

/-- A byte string. -/
abbrev Bytes := List UInt8

namespace Bytes

/-- The number a byte string spells, most significant byte first. -/
def toNat (bs : Bytes) : Nat := bs.foldl (fun n b => n * 256 + b.toNat) 0

/-- The lowest `8 * width` bits of a number on `width` bytes, most significant byte first. -/
def ofNat (width n : Nat) : Bytes :=
  match width with
  | 0 => []
  | w + 1 => UInt8.ofNat (n >>> (8 * w)) :: ofNat w n

/-- The lowest `8 * width` bits of a number on `width` bytes, least significant byte first. -/
def ofNatReversed (width n : Nat) : Bytes :=
  match width with
  | 0 => []
  | w + 1 => UInt8.ofNat n :: ofNatReversed w (n >>> 8)

/-- A number is written on as many bytes as it is given. -/
@[simp] theorem length_ofNat (width n : Nat) : (ofNat width n).length = width := by
  induction width with
  | zero => rfl
  | succ w ih => simp [ofNat, ih]

/-- A number is written from its other end on as many bytes as it is given. -/
@[simp] theorem length_ofNatReversed (width n : Nat) :
    (ofNatReversed width n).length = width := by
  induction width generalizing n with
  | zero => rfl
  | succ w ih => simp [ofNatReversed, ih]

/-- The bytes of a text in UTF-8. -/
def ofString (s : String) : Bytes := s.toUTF8.toList

/-- The text a byte string spells in UTF-8, if it spells one. -/
def toString? (bs : Bytes) : Option String := String.fromUTF8? ⟨bs.toArray⟩

end Bytes

/-- Consecutive blocks of `size` elements; the last one may be shorter. -/
def blocks {α : Type} (size : Nat) (xs : List α) : List (List α) :=
  if xs = [] then []
  else if size = 0 then [xs]
  else xs.take size :: blocks size (xs.drop size)
termination_by xs.length
decreasing_by
  rename_i nonempty positive
  have := mt List.length_eq_zero_iff.1 nonempty
  simp only [List.length_drop]
  omega

/-- Cutting into blocks loses nothing. -/
theorem flatten_blocks {α : Type} (size : Nat) (xs : List α) :
    (blocks size xs).flatten = xs := by
  fun_induction blocks size xs with
  | case1 => simp_all
  | case2 => simp
  | case3 xs _ _ ih => simp [ih]

end SeedVault
