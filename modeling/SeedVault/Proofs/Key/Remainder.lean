import Mathlib.Algebra.Group.Nat.Defs
import Mathlib.Tactic.Common
import SeedVault.Key.Bech32

/-!
# Remainders of symbols

Taking a symbol into a remainder is linear (`remainderStep_xor`), and so is taking in some symbols
(`remainderFrom_xor`). From the remainder zero, six symbols give the remainder they spell
(`remainderFrom_remainderSymbols`). The checksum therefore makes the remainder of the whole the
constant that writing aims at (`remainder_checksum`).
-/

namespace SeedVault.Bech32

/-- What the bits that are shifted out of a remainder add to it, for some generators with the
numbers of their bits. -/
def feedback (r : BitVec 30) (gs : List (BitVec 30 × Nat)) : BitVec 30 :=
  gs.foldr (fun (g, i) x => (if r.getLsbD (25 + i) then g else 0) ^^^ x) 0

/-- One generator more is added if its bit is set. -/
lemma feedback_cons (r g i gs) :
    feedback r ((g, i) :: gs) = (if r.getLsbD (25 + i) then g else 0) ^^^ feedback r gs := rfl

/-- The generators that a loop adds are the feedback. -/
lemma foldl_feedback (r x gs) :
    gs.foldl (fun x (g, i) => if r.getLsbD (25 + i) then x ^^^ g else x) x =
      x ^^^ feedback r gs := by
  induction gs generalizing x with
  | nil => exact BitVec.xor_zero.symm
  | cons entry gs ih =>
    obtain ⟨g, i⟩ := entry
    rw [List.foldl_cons, ih, feedback_cons]
    dsimp only
    split
    case isTrue => rw [BitVec.xor_assoc]
    case isFalse => exact congrArg (x ^^^ ·) BitVec.zero_xor.symm

/-- A step takes up a symbol and adds the feedback. -/
lemma remainderStep_eq (r s) :
    remainderStep r s = (r.extractLsb' 0 25 ++ s) ^^^ feedback r generators.zipIdx :=
  foldl_feedback r _ _

/-- The feedback of a sum is the sum of both. -/
lemma feedback_xor (a b gs) : feedback (a ^^^ b) gs = feedback a gs ^^^ feedback b gs := by
  induction gs with
  | nil => exact BitVec.xor_zero.symm
  | cons entry gs ih =>
    have term : ∀ p q : Bool, (if (p ^^ q) = true then entry.1 else 0) =
        (if p = true then entry.1 else 0) ^^^ (if q = true then entry.1 else 0) := by
      intro p q
      cases p <;> cases q <;> simp
    rw [feedback_cons, feedback_cons, feedback_cons, ih, BitVec.getLsbD_xor, term]
    ac_rfl

/-- Taking in a symbol is linear. -/
lemma remainderStep_xor (a b s t) :
    remainderStep (a ^^^ b) (s ^^^ t) = remainderStep a s ^^^ remainderStep b t := by
  rw [remainderStep_eq, remainderStep_eq, remainderStep_eq, feedback_xor, BitVec.extractLsb'_xor,
    ← BitVec.xor_append]
  ac_rfl

/-- Taking in symbols is linear. -/
lemma remainderFrom_xor {xs ys} (a b) (same : xs.length = ys.length) :
    remainderFrom (a ^^^ b) (List.zipWith (· ^^^ ·) xs ys) =
      remainderFrom a xs ^^^ remainderFrom b ys := by
  induction xs generalizing a b ys with
  | nil =>
    rw [List.eq_nil_of_length_eq_zero same.symm]
    rfl
  | cons x xs ih =>
    obtain ⟨y, ys, rfl⟩ := List.exists_cons_of_length_eq_add_one same.symm
    have step := ih (remainderStep a x) (remainderStep b y) (Nat.succ.inj same)
    rw [← remainderStep_xor] at step
    exact step

/-- A remainder and the symbols behind it add what they give without each other. -/
lemma remainderFrom_eq_xor (r symbols) :
    remainderFrom r symbols =
      remainderFrom r (List.replicate symbols.length 0) ^^^ remainderFrom 0 symbols := by
  have zeros : List.zipWith (· ^^^ ·) (List.replicate symbols.length 0) symbols = symbols := by
    induction symbols with
    | nil => rfl
    | cons s symbols ih =>
      rw [List.length_cons, List.replicate_succ, List.zipWith_cons_cons, ih]
      exact congrArg (· :: symbols) BitVec.zero_xor
  rw [← remainderFrom_xor r 0 List.length_replicate, zeros]
  exact congrArg (remainderFrom · symbols) BitVec.xor_zero.symm

/-- Nothing is added while nothing is shifted out. -/
lemma feedback_of_small {r : BitVec 30} (small : r.toNat < 2 ^ 25) (gs) : feedback r gs = 0 := by
  have clear : ∀ i, r.getLsbD (25 + i) = false := fun i =>
    Nat.testBit_lt_two_pow (Nat.lt_of_lt_of_le small (Nat.pow_le_pow_right (by decide) (by omega)))
  induction gs with
  | nil => rfl
  | cons entry gs ih =>
    rw [feedback_cons, ih, clear]
    exact BitVec.xor_zero

/-- While nothing is shifted out, symbols are appended. -/
lemma toNat_remainderStep {r s} (small : r.toNat < 2 ^ 25) :
    (remainderStep r s).toNat = r.toNat * 32 + s.toNat := by
  have lt : s.toNat < 2 ^ 5 := s.isLt
  have kept : (r.extractLsb' 0 25).toNat = r.toNat := by
    rw [BitVec.extractLsb'_toNat, Nat.shiftRight_zero, Nat.mod_eq_of_lt small]
  rw [remainderStep_eq, feedback_of_small small]
  calc ((r.extractLsb' 0 25 ++ s) ^^^ 0).toNat
      = (r.extractLsb' 0 25 ++ s).toNat := congrArg BitVec.toNat BitVec.xor_zero
    _ = r.toNat <<< 5 ||| s.toNat := by rw [BitVec.toNat_append, kept]
    _ = r.toNat * 32 + s.toNat := by rw [← Nat.shiftLeft_add_eq_or_of_lt lt, Nat.shiftLeft_eq]

/-- Nothing is shifted out by as many symbols as there is room for. -/
lemma toNat_remainderFrom {r symbols} (few : symbols.length ≤ 6)
    (room : r.toNat < 32 ^ (6 - symbols.length)) :
    (remainderFrom r symbols).toNat = symbols.foldl (fun n s => n * 32 + s.toNat) r.toNat := by
  induction symbols generalizing r with
  | nil => rfl
  | cons s symbols ih =>
    rw [List.length_cons] at few room
    have lt : s.toNat < 32 := s.isLt
    have small : r.toNat < 2 ^ 25 := by
      have le : 6 - (symbols.length + 1) ≤ 5 := by omega
      exact Nat.lt_of_lt_of_le room (Nat.pow_le_pow_right (by decide) le)
    have step := toNat_remainderStep (s := s) small
    have room' : (remainderStep r s).toNat < 32 ^ (6 - symbols.length) := by
      have wider : 32 ^ (6 - symbols.length) = 32 ^ (6 - (symbols.length + 1)) * 32 := by
        rw [← Nat.pow_succ, show 6 - symbols.length = (6 - (symbols.length + 1)).succ by omega]
      rw [step, wider]
      omega
    rw [List.foldl_cons, ← step]
    exact ih (by omega) room'

/-- Six symbols behind the remainder zero give the remainder they spell. -/
lemma remainderFrom_remainderSymbols (r) : remainderFrom 0 (remainderSymbols r) = r := by
  have bound := r.isLt
  have length : (remainderSymbols r).length = 6 := rfl
  have zero : (0 : BitVec 30).toNat = 0 := rfl
  have room : (0 : BitVec 30).toNat < 32 ^ (6 - (remainderSymbols r).length) := by
    rw [length]
    decide
  refine BitVec.eq_of_toNat_eq ?_
  rw [toNat_remainderFrom (Nat.le_of_eq length) room, remainderSymbols, zero]
  simp only [List.foldl_cons, List.foldl_nil, BitVec.extractLsb'_toNat, Nat.shiftRight_eq_div_pow]
  omega

/-- The remainder of two parts is that of the second one behind the first. -/
lemma remainderFrom_append (r xs ys) :
    remainderFrom r (xs ++ ys) = remainderFrom (remainderFrom r xs) ys :=
  List.foldl_append

/-- The checksum makes the remainder the constant that writing aims at. -/
lemma remainder_checksum (hrp data) :
    remainder (expand hrp ++ (data ++ checksum hrp data)) = writtenConstant := by
  have length : (checksum hrp data).length = checksumLength := rfl
  have symbols : remainderFrom 0 (checksum hrp data) =
      remainder (expand hrp ++ data ++ List.replicate checksumLength 0) ^^^ writtenConstant :=
    remainderFrom_remainderSymbols _
  rw [← List.append_assoc, remainder, remainderFrom_append, remainderFrom_eq_xor, length, symbols,
    remainder, remainderFrom_append _ _ (List.replicate checksumLength 0), ← BitVec.xor_assoc,
    BitVec.xor_self, BitVec.zero_xor]

end SeedVault.Bech32
