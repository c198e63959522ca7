import Mathlib.Algebra.Group.Nat.Defs
import Mathlib.Data.List.Induction
import Mathlib.Tactic.Common
import SeedVault.Bytes.Bits

/-!
# Numbers, bytes and groups of bits

The bits of a number and the number of some bits are inverse to each other on a fixed width
(`Bits.toNat_ofNat`, `Bits.ofNat_toNat`), and a number is read back from its bytes
(`Bytes.toNat_ofNat`). A list of groups of one length is what its concatenation is cut into
(`blocks_flatten`), so bits regroup without loss: into numbers of any width
(`Bits.flatMap_ofNat_blocks`, `Bits.blocks_flatMap_ofNat`), and so into bytes
(`Bits.toBytes_ofBytes`, `Bits.ofBytes_toBytes`).
-/

namespace SeedVault

variable {α : Type}

/-- A map that fixes every member fixes the list. -/
lemma map_eq_self {xs : List α} {f} (fixed : ∀ x ∈ xs, f x = x) : xs.map f = xs :=
  (List.map_congr_left fixed).trans (List.map_id xs)

/-- A group of full length in front is the first block. -/
lemma blocks_append {size} {b xs : List α} (pos : 0 < size) (hb : b.length = size) :
    blocks size (b ++ xs) = b :: blocks size xs := by
  have hne : b ++ xs ≠ [] := by
    intro h
    have hl := congrArg List.length h
    rw [List.length_append, hb, List.length_nil] at hl
    omega
  rw [blocks, if_neg hne, if_neg (by omega), ← hb, List.take_left, List.drop_left]

/-- Groups of one length are the blocks of their concatenation. -/
lemma blocks_flatten {size} {bs : List (List α)} (pos : 0 < size)
    (uniform : ∀ b ∈ bs, b.length = size) : blocks size bs.flatten = bs := by
  induction bs with
  | nil => rw [List.flatten_nil, blocks, if_pos rfl]
  | cons b bs ih =>
    obtain ⟨hb, uniform⟩ := List.forall_mem_cons.1 uniform
    rw [List.flatten_cons, blocks_append pos hb, ih uniform]

/-- A text whose length is a multiple of the size has full blocks only. -/
lemma length_of_mem_blocks {size} {xs b : List α} (full : size ∣ xs.length)
    (mem : b ∈ blocks size xs) : b.length = size := by
  fun_induction blocks size xs with
  | case1 => cases mem
  | case2 xs ne zero =>
    rw [zero] at full
    exact absurd (List.length_eq_zero_iff.1 (Nat.eq_zero_of_zero_dvd full)) ne
  | case3 xs ne pos ih =>
    have le : size ≤ xs.length := Nat.le_of_dvd (List.length_pos_iff.2 ne) full
    cases mem with
    | head => rw [List.length_take, Nat.min_eq_left le]
    | tail _ mem =>
      refine ih ?_ mem
      rw [List.length_drop]
      exact Nat.dvd_sub full (Nat.dvd_refl size)

/-- No block is longer than the size. -/
lemma length_le_of_mem_blocks {size} {xs b : List α} (pos : 0 < size)
    (mem : b ∈ blocks size xs) : b.length ≤ size := by
  fun_induction blocks size xs with
  | case1 => cases mem
  | case2 xs ne zero => omega
  | case3 xs ne _ ih =>
    cases mem with
    | head => exact List.length_take_le size xs
    | tail _ mem => exact ih mem

/-- Filling up the blocks fills up the end of the text. -/
lemma flatMap_blocks_fill {size} (pos : 0 < size) (x : α) (xs : List α) :
    ∃ k < size, ((blocks size xs).flatMap fun b => b ++ List.replicate (size - b.length) x) =
      xs ++ List.replicate k x := by
  fun_induction blocks size xs with
  | case1 => exact ⟨0, pos, rfl⟩
  | case2 xs ne zero => omega
  | case3 xs ne _ ih =>
    obtain ⟨k, lt, rest⟩ := ih
    rcases Nat.lt_or_ge xs.length size with short | full
    · have last : xs.drop size = [] := List.drop_eq_nil_of_le (Nat.le_of_lt short)
      have whole : xs.take size = xs := List.take_of_length_le (Nat.le_of_lt short)
      have := List.length_pos_iff.2 ne
      refine ⟨size - xs.length, by omega, ?_⟩
      rw [whole, last, blocks, if_pos rfl, List.flatMap_singleton]
    · refine ⟨k, lt, ?_⟩
      rw [List.flatMap_cons, rest, List.length_take_of_le full, Nat.sub_self, List.replicate_zero,
        List.append_nil, ← List.append_assoc, List.take_append_drop]

/-- The number of blocks of a text that has full blocks only. -/
lemma length_blocks {size n} {xs : List α} (pos : 0 < size) (hl : xs.length = size * n) :
    (blocks size xs).length = n := by
  have uniform : ∀ b ∈ blocks size xs, b.length = size := fun b mem =>
    length_of_mem_blocks ⟨n, hl⟩ mem
  have total : (blocks size xs).flatten.length = (blocks size xs).length * size := by
    rw [List.length_flatten, List.map_congr_left uniform, List.map_const', List.sum_replicate_nat]
  rw [flatten_blocks, hl, Nat.mul_comm] at total
  exact (Nat.eq_of_mul_eq_mul_right pos total).symm

namespace Bytes

/-- Reading written bytes behind some number puts the written number behind it. -/
lemma foldl_ofNat (w n a) :
    (ofNat w n).foldl (fun n b => n * 256 + b.toNat) a = a * 256 ^ w + n % 256 ^ w := by
  induction w generalizing a with
  | zero => simp [ofNat, Nat.mod_one]
  | succ w ih =>
    have byte : (UInt8.ofNat (n >>> (8 * w))).toNat = n / 256 ^ w % 256 := by
      rw [UInt8.toNat_ofNat', Nat.shiftRight_eq_div_pow, Nat.pow_mul]
    rw [ofNat, List.foldl_cons, ih, byte, Nat.pow_succ, Nat.mod_mul]
    grind

/-- A number of so many bytes is read back from them. -/
lemma toNat_ofNat {w n} (lt : n < 256 ^ w) : toNat (ofNat w n) = n := by
  have h := foldl_ofNat w n 0
  rwa [Nat.zero_mul, Nat.zero_add, Nat.mod_eq_of_lt lt] at h

end Bytes

namespace Bits

/-- One bit more at the end doubles a number and adds the bit. -/
lemma toNat_append_singleton (bits b) : toNat (bits ++ [b]) = 2 * toNat bits + b.toNat := by
  simp only [toNat, List.foldl_append, List.foldl_cons, List.foldl_nil]

/-- The last bit of a number is its parity, and the bits before it are those of its half. -/
lemma ofNat_succ (w n) : ofNat (w + 1) n = ofNat w (n / 2) ++ [n.testBit 0] := by
  induction w with
  | zero => rfl
  | succ w ih =>
    rw [ofNat, ih, ofNat, List.cons_append, Nat.testBit_div_two]

/-- A number is bounded by how many bits it has. -/
lemma toNat_lt (bits) : toNat bits < 2 ^ bits.length := by
  induction bits using List.reverseRecOn with
  | nil => exact Nat.one_pos
  | append_singleton bits b ih =>
    have := Bool.toNat_le b
    rw [toNat_append_singleton, List.length_append, List.length_singleton, Nat.pow_succ]
    omega

/-- A number is read back from its bits if they are enough. -/
lemma toNat_ofNat {w n} (h : n < 2 ^ w) : toNat (ofNat w n) = n := by
  induction w generalizing n with
  | zero => exact (Nat.lt_one_iff.1 h).symm
  | succ w ih =>
    have parity : (n.testBit 0).toNat = n % 2 := by
      rw [Nat.testBit_zero]
      rcases Nat.mod_two_eq_zero_or_one n with e | e <;> simp [e]
    have half : n / 2 < 2 ^ w := by omega
    rw [ofNat_succ, toNat_append_singleton, ih half, parity]
    omega

/-- Bits are written again from their number. -/
lemma ofNat_toNat (bits) : ofNat bits.length (toNat bits) = bits := by
  induction bits using List.reverseRecOn with
  | nil => rfl
  | append_singleton bits b ih =>
    have half : (2 * toNat bits + b.toNat) / 2 = toNat bits := by
      have := Bool.toNat_lt b
      omega
    have parity : (2 * toNat bits + b.toNat).testBit 0 = b := by
      cases b <;> simp [Nat.testBit_zero]
    rw [List.length_append, List.length_singleton, toNat_append_singleton, ofNat_succ, half,
      parity, ih]

/-- The bits of some numbers are `w` for each of them. -/
lemma length_flatMap_ofNat (w) (f : α → Nat) (xs : List α) :
    (xs.flatMap fun x => ofNat w (f x)).length = w * xs.length := by
  rw [List.length_flatMap, List.map_congr_left fun x _ => length_ofNat w (f x), List.map_const',
    List.sum_replicate_nat, Nat.mul_comm]

/-- Bits regrouped as numbers of `w` bits are the same bits. -/
lemma flatMap_ofNat_blocks {w} {bits} (full : w ∣ bits.length) :
    ((blocks w bits).map toNat).flatMap (ofNat w) = bits := by
  have same : ∀ b ∈ blocks w bits, ofNat w (toNat b) = b := by
    intro b mem
    have h := ofNat_toNat b
    rwa [length_of_mem_blocks full mem] at h
  rw [List.flatMap_def, List.map_map]
  have whole : (blocks w bits).map (ofNat w ∘ toNat) = blocks w bits :=
    map_eq_self same
  rw [whole, flatten_blocks]

/-- The bits of a text's blocks, filled up with zeros, are those of the text and less zeros than a
block has bits. -/
lemma flatMap_ofNat_fill {w} (pos : 0 < w) (bits) :
    ∃ k < w, (((blocks w bits).map fun b =>
      toNat (b ++ List.replicate (w - b.length) false)).flatMap (ofNat w)) =
        bits ++ List.replicate k false := by
  obtain ⟨k, lt, filled⟩ := flatMap_blocks_fill pos false bits
  refine ⟨k, lt, ?_⟩
  rw [← filled, List.flatMap_map, List.flatMap_def, List.flatMap_def]
  refine congrArg List.flatten (List.map_congr_left fun b mem => ?_)
  have short := length_le_of_mem_blocks pos mem
  have length : (b ++ List.replicate (w - b.length) false).length = w := by
    rw [List.length_append, List.length_replicate, Nat.add_sub_cancel' short]
  have same := ofNat_toNat (b ++ List.replicate (w - b.length) false)
  rwa [length] at same

/-- Numbers of `w` bits are read back from their bits. -/
lemma blocks_flatMap_ofNat {w} {ns : List Nat} (pos : 0 < w) (bound : ∀ n ∈ ns, n < 2 ^ w) :
    (blocks w (ns.flatMap (ofNat w))).map toNat = ns := by
  have uniform : ∀ b ∈ ns.map (ofNat w), b.length = w := by
    intro b mem
    obtain ⟨n, _, rfl⟩ := List.mem_map.1 mem
    exact length_ofNat w n
  rw [List.flatMap_def, blocks_flatten pos uniform, List.map_map]
  exact map_eq_self fun n mem => toNat_ofNat (bound n mem)

/-- Bytes are read back from their bits. -/
lemma toBytes_ofBytes (bs) : toBytes (ofBytes bs) = bs := by
  have bound : ∀ n ∈ bs.map UInt8.toNat, n < 2 ^ 8 := by
    intro n mem
    obtain ⟨b, _, rfl⟩ := List.mem_map.1 mem
    exact b.toNat_lt
  have h := blocks_flatMap_ofNat (by decide) bound
  rw [List.flatMap_map] at h
  have bytes : toBytes (ofBytes bs) = ((blocks 8 (ofBytes bs)).map toNat).map UInt8.ofNat := by
    rw [List.map_map]
    rfl
  rw [bytes, ofBytes, h, List.map_map]
  exact map_eq_self fun b _ => UInt8.ofNat_toNat

/-- Bits in full bytes are read back from those. -/
lemma ofBytes_toBytes {bits} (full : 8 ∣ bits.length) : ofBytes (toBytes bits) = bits := by
  have byte : ∀ b ∈ blocks 8 bits, (UInt8.ofNat (toNat b)).toNat = toNat b := by
    intro b mem
    have lt := toNat_lt b
    rw [length_of_mem_blocks full mem] at lt
    exact UInt8.toNat_ofNat_of_lt' lt
  calc ofBytes (toBytes bits)
      = ((blocks 8 bits).map fun b => (UInt8.ofNat (toNat b)).toNat).flatMap (ofNat 8) := by
        rw [ofBytes, toBytes, List.flatMap_map, List.flatMap_map]
    _ = ((blocks 8 bits).map toNat).flatMap (ofNat 8) := by rw [List.map_congr_left byte]
    _ = bits := flatMap_ofNat_blocks full

/-- Every eight bits make one byte. -/
lemma length_toBytes {n} {bits} (hl : bits.length = 8 * n) : (toBytes bits).length = n := by
  rw [toBytes, List.length_map, length_blocks (by decide) hl]

end Bits

end SeedVault
