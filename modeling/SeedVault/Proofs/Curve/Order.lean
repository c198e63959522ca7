import SeedVault.Proofs.Curve.Group

/-!
# The order of the generator

The generator has the order `groupOrder`: that multiple of it is computed and the number is prime.
No secret key gives the point at infinity for a public key, then, and every public key fills
33 bytes (`SecretKey.length_publicKey`).
-/

namespace SeedVault.Secp256k1

open WeierstrassCurve.Affine

/-- Secret keys are numbers modulo a prime. -/
instance : Fact groupOrder.Prime := ⟨prime_groupOrder⟩

namespace Projective

/-- The multiple `k • p`, by recursion on the number of bits that `k` may have. -/
def smulBits : (bits k : Nat) → Projective → Projective
  | 0, _, _ => infinity
  | bits + 1, k, p =>
    if k = 0 then infinity
    else
      let rest := smulBits bits (k / 2) p.double
      if k % 2 = 0 then rest else add p rest

/-- A multiple taken over enough bits is the multiple. -/
lemma smulBits_eq_smul (p : Projective) {bits k} (lt : k < 2 ^ bits) :
    smulBits bits k p = p.smul k := by
  induction bits generalizing k p with
  | zero =>
    rw [Nat.lt_one_iff.1 lt, smul, if_pos rfl, smulBits]
  | succ bits ih =>
    have half : k / 2 < 2 ^ bits := by
      rw [Nat.pow_succ] at lt
      omega
    rw [smulBits, smul, ih _ half]

end Projective

/-- The generator is on the curve. -/
lemma nonsingular_generator :
    curve.Nonsingular (Projective.generator.x : FieldElement) Projective.generator.y := by
  have equation : (Projective.generator.y ^ 2 : FieldElement) = Projective.generator.x ^ 3 + 7 := by
    exact_mod_cast (ZMod.natCast_eq_natCast_iff' _ _ fieldOrder).2 (by decide +kernel)
  have upper : (2 * Projective.generator.y : FieldElement) ≠ 0 := by
    exact_mod_cast mt (ZMod.natCast_eq_zero_iff _ fieldOrder).1 (by decide +kernel)
  rw [nonsingular_iff', equation_iff]
  simp only [curve, zero_mul, add_zero]
  exact ⟨equation, .inr upper⟩

/-- The generator as a point of the curve. -/
def basePoint : curve.Point := .some _ _ nonsingular_generator

/-- The generator stands for the base point. -/
lemma represents_generator : Represents Projective.generator basePoint := by
  have z : (Projective.generator.z : FieldElement) = 1 := Nat.cast_one
  refine .affine _ ⟨by decide, ?_, ?_, ?_⟩
  · rw [z]
    exact one_ne_zero
  · rw [z, one_pow, mul_one]
  · rw [z, one_pow, mul_one]

/-- The whole multiple of the generator is at infinity. -/
lemma groupOrder_nsmul_basePoint : groupOrder • basePoint = 0 := by
  rw [← (represents_generator.smul groupOrder).z_eq_zero_iff,
    ← Projective.smulBits_eq_smul _ (show groupOrder < 2 ^ 256 by decide)]
  decide +kernel

/-- The base point has the order that the secret keys are bounded by. -/
lemma addOrderOf_basePoint : addOrderOf basePoint = groupOrder :=
  addOrderOf_eq_prime groupOrder_nsmul_basePoint (Point.some_ne_zero _)

/-- The multiples of the generator that are at infinity. -/
lemma generate_eq_infinity_iff (k) : generate k = .infinity ↔ groupOrder ∣ k := by
  have zero := (represents_generator.smul k).z_eq_zero_iff
  rw [← addOrderOf_dvd_iff_nsmul_eq_zero, addOrderOf_basePoint] at zero
  rw [← zero, generate, Projective.point]
  split_ifs with h
  · exact iff_of_true rfl h
  · exact iff_of_false id h

/-- A point is written on thirty-three bytes. -/
lemma length_compressed {p : Point} (h : p ≠ .infinity) : p.compressed.length = 33 := by
  cases p with
  | infinity => exact absurd rfl h
  | affine x y => rw [Point.compressed, List.length_cons, Bytes.length_ofNat]

/-- Every public key is on 33 bytes. -/
lemma SecretKey.length_publicKey (k : SecretKey) : k.publicKey.length = 33 := by
  refine length_compressed fun infinity => ?_
  have dvd := (generate_eq_infinity_iff k.number).1 infinity
  exact absurd (Nat.le_of_dvd k.positive dvd) (Nat.not_le.2 k.inRange)

end SeedVault.Secp256k1
