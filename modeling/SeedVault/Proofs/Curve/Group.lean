import Mathlib.AlgebraicGeometry.EllipticCurve.Affine.Point
import SeedVault.Proofs.Curve.Primes

/-!
# Triples stand for points of the curve

The arithmetic on triples is that of the group of points of `y² = x³ + 7` over the field. Its
formulas give the coordinates that the tangent and the line through two points give
(`HasCoordinates.double`, `HasCoordinates.chord`), so doubles, sums and multiples of triples stand
for those of the points (`Represents.double`, `Represents.add`, `Represents.smul`).
-/

namespace SeedVault.Secp256k1

open WeierstrassCurve.Affine

/-- Field elements are numbers modulo a prime. -/
instance : Fact fieldOrder.Prime := ⟨prime_fieldOrder⟩

/-- The field. -/
abbrev FieldElement := ZMod fieldOrder

/-- The curve `y² = x³ + 7`. -/
def curve : WeierstrassCurve.Affine FieldElement := ⟨0, 0, 0, 0, 7⟩

/-! ## Arithmetic in the field -/

/-- Products are reduced. -/
lemma mul_lt (a b) : mul a b < fieldOrder := Nat.mod_lt _ prime_fieldOrder.pos

/-- Differences are reduced. -/
lemma sub_lt (a b) : sub a b < fieldOrder := Nat.mod_lt _ prime_fieldOrder.pos

/-- The product of numbers is that of the field. -/
@[simp]
lemma cast_mul (a b : Nat) : (mul a b : FieldElement) = a * b := by
  rw [mul, ZMod.natCast_mod, Nat.cast_mul]

/-- The difference of reduced numbers is that of the field. -/
lemma cast_sub {a b : Nat} (lt : b < fieldOrder) : (sub a b : FieldElement) = a - b := by
  rw [sub, ZMod.natCast_mod, Nat.cast_sub (by omega), Nat.cast_add, ZMod.natCast_self, add_zero]

/-- Only zero is the zero of the field among the reduced numbers. -/
lemma cast_eq_zero_iff {a : Nat} (lt : a < fieldOrder) : (a : FieldElement) = 0 ↔ a = 0 := by
  rw [ZMod.natCast_eq_zero_iff]
  exact ⟨fun dvd => Nat.eq_zero_of_dvd_of_lt dvd lt, fun zero => zero ▸ dvd_zero _⟩

/-! ## Coordinates of doubles and sums -/

namespace Projective

/-- The first coordinate of a doubled point. -/
lemma double_x (p : Projective) :
    (p.double.x : FieldElement) = (3 * p.x ^ 2) ^ 2 - 8 * p.x * p.y ^ 2 := by
  simp only [double, cast_sub (Nat.mod_lt _ prime_fieldOrder.pos), cast_mul, ZMod.natCast_mod,
    Nat.cast_mul, Nat.cast_ofNat]
  ring

/-- The second coordinate of a doubled point. -/
lemma double_y (p : Projective) :
    (p.double.y : FieldElement)
      = 3 * p.x ^ 2 * (4 * p.x * p.y ^ 2 - p.double.x) - 8 * p.y ^ 4 := by
  simp only [double, cast_sub (Nat.mod_lt _ prime_fieldOrder.pos), cast_sub (sub_lt _ _), cast_mul,
    ZMod.natCast_mod, Nat.cast_mul, Nat.cast_ofNat]
  ring

/-- The denominator of a doubled point. -/
lemma double_z (p : Projective) : (p.double.z : FieldElement) = 2 * p.y * p.z := by
  simp only [double, cast_mul, Nat.cast_mul, Nat.cast_ofNat]

/-- The denominator of a doubled point is reduced. -/
lemma double_z_lt (p : Projective) : p.double.z < fieldOrder := mul_lt _ _

/-- The difference of the abscissas over a common denominator. -/
def gapX (p q : Projective) : Nat :=
  sub (mul q.x (mul p.z p.z)) (mul p.x (mul q.z q.z))

/-- The difference of the ordinates over a common denominator. -/
def gapY (p q : Projective) : Nat :=
  sub (mul q.y (mul (mul p.z p.z) p.z)) (mul p.y (mul (mul q.z q.z) q.z))

/-- The difference of two first coordinates is reduced. -/
lemma gapX_lt (p q : Projective) : gapX p q < fieldOrder := sub_lt _ _

/-- The difference of two second coordinates is reduced. -/
lemma gapY_lt (p q : Projective) : gapY p q < fieldOrder := sub_lt _ _

/-- The sum of two points on no vertical line. -/
def chord (p q : Projective) : Projective :=
  let u := mul p.x (mul q.z q.z)
  let s := mul p.y (mul (mul q.z q.z) q.z)
  let h := gapX p q
  let r := gapY p q
  let hh := mul h h
  let hhh := mul hh h
  let w := mul u hh
  let x := sub (mul r r) ((hhh + 2 * w) % fieldOrder)
  { x
    y := sub (mul r (sub w x)) (mul s hhh)
    z := mul (mul p.z q.z) h }

/-- Two points with coordinates are added by the chord through them, unless it is upright or they
are one point. -/
lemma add_eq {p q : Projective} (hp : p.z ≠ 0) (hq : q.z ≠ 0) :
    p.add q =
      if gapX p q = 0 then if gapY p q = 0 then p.double else infinity else chord p q := by
  rw [add, if_neg hp, if_neg hq]
  rfl

/-- The difference of two first coordinates over a common denominator. -/
lemma cast_gapX (p q : Projective) :
    (gapX p q : FieldElement) = q.x * p.z ^ 2 - p.x * q.z ^ 2 := by
  simp only [gapX, cast_sub (mul_lt _ _), cast_mul, pow_two]

/-- The difference of two second coordinates over a common denominator. -/
lemma cast_gapY (p q : Projective) :
    (gapY p q : FieldElement) = q.y * p.z ^ 3 - p.y * q.z ^ 3 := by
  simp only [gapY, cast_sub (mul_lt _ _), cast_mul, pow_succ, pow_zero, one_mul]

/-- The first coordinate of a sum along a chord. -/
lemma chord_x (p q : Projective) :
    ((chord p q).x : FieldElement)
      = gapY p q ^ 2 - (gapX p q ^ 3 + 2 * (p.x * q.z ^ 2 * gapX p q ^ 2)) := by
  simp only [chord, cast_sub (Nat.mod_lt _ prime_fieldOrder.pos), cast_mul, ZMod.natCast_mod,
    Nat.cast_add, Nat.cast_mul, Nat.cast_ofNat]
  ring

/-- The second coordinate of a sum along a chord. -/
lemma chord_y (p q : Projective) :
    ((chord p q).y : FieldElement)
      = gapY p q * (p.x * q.z ^ 2 * gapX p q ^ 2 - (chord p q).x)
        - p.y * q.z ^ 3 * gapX p q ^ 3 := by
  simp only [chord, cast_sub (sub_lt _ _), cast_sub (mul_lt _ _), cast_mul]
  ring

/-- The denominator of a sum along a chord. -/
lemma chord_z (p q : Projective) :
    ((chord p q).z : FieldElement) = p.z * q.z * gapX p q := by
  simp only [chord, cast_mul]

/-- The denominator of a sum along a chord is reduced. -/
lemma chord_z_lt (p q : Projective) : (chord p q).z < fieldOrder := mul_lt _ _

end Projective

/-! ## Tangents and secants -/

/-- The opposite of a point has the opposite second coordinate. -/
lemma curve_negY (x y : FieldElement) : curve.negY x y = -y := by
  simp only [negY, curve, zero_mul, sub_zero]

/-- The first coordinate of a sum from the slope. -/
lemma curve_addX (x₁ x₂ l : FieldElement) : curve.addX x₁ x₂ l = l ^ 2 - x₁ - x₂ := by
  simp only [addX, curve, zero_mul, add_zero, sub_zero]

/-- The second coordinate of a sum from the slope. -/
lemma curve_addY (x₁ x₂ y₁ l : FieldElement) :
    curve.addY x₁ x₂ y₁ l = l * (x₁ - curve.addX x₁ x₂ l) - y₁ := by
  rw [addY, curve_negY, negAddY]
  ring

/-- The slope of the tangent at a point, without its denominator. -/
lemma tangent_mul {x y : FieldElement} (h : 2 * y ≠ 0) (ne : y ≠ curve.negY x y) :
    curve.slope x x y y * (2 * y) = 3 * x ^ 2 := by
  rw [slope_of_Y_ne rfl ne, curve_negY, sub_neg_eq_add, ← two_mul, div_mul_cancel₀ _ h]
  simp only [curve, mul_zero, zero_mul, add_zero, sub_zero]

/-- The slope of the line through two points, without its denominator. -/
lemma secant_mul {x₁ x₂ : FieldElement} (y₁ y₂) (ne : x₁ ≠ x₂) :
    curve.slope x₁ x₂ y₁ y₂ * (x₂ - x₁) = y₂ - y₁ := by
  rw [slope_of_X_ne ne, ← neg_sub x₁ x₂, mul_neg, div_mul_cancel₀ _ (sub_ne_zero.2 ne), neg_sub]

/-! ## Coordinates that triples give -/

/-- A triple gives two coordinates over powers of its last number. -/
structure HasCoordinates (p : Projective) (x y : FieldElement) : Prop where
  lt : p.z < fieldOrder
  ne : (p.z : FieldElement) ≠ 0
  hx : (p.x : FieldElement) = x * p.z ^ 2
  hy : (p.y : FieldElement) = y * p.z ^ 3

namespace HasCoordinates

variable {p q : Projective} {x x₁ x₂ y y₁ y₂ l : FieldElement}

/-- A point with coordinates has a denominator. -/
lemma z_ne_zero (hp : HasCoordinates p x y) : p.z ≠ 0 := mt (cast_eq_zero_iff hp.lt).2 hp.ne

/-- The denominator of a doubled point, in terms of its coordinates. -/
lemma cast_double_z (hp : HasCoordinates p x y) :
    (p.double.z : FieldElement) = 2 * y * p.z ^ 4 := by
  rw [Projective.double_z, hp.hy]
  ring

/-- The double has the coordinates that the tangent gives. -/
lemma double (hp : HasCoordinates p x y) (upper : 2 * y ≠ 0) (slope : l * (2 * y) = 3 * x ^ 2) :
    HasCoordinates p.double (curve.addX x x l) (curve.addY x x y l) := by
  have hx : (p.double.x : FieldElement) = curve.addX x x l * p.double.z ^ 2 := by
    rw [Projective.double_x, hp.cast_double_z, hp.hx, hp.hy, curve_addX]
    linear_combination -(l * (2 * y) + 3 * x ^ 2) * p.z ^ 8 * slope
  refine ⟨p.double_z_lt, ?_, hx, ?_⟩
  · rw [hp.cast_double_z]
    exact mul_ne_zero upper (pow_ne_zero 4 hp.ne)
  · rw [Projective.double_y, hx, hp.cast_double_z, hp.hx, hp.hy, curve_addY, curve_addX]
    linear_combination -4 * y ^ 2 * p.z ^ 12 * (3 * x - l ^ 2) * slope

/-- The difference of two first coordinates, in terms of those. -/
lemma cast_gapX (hp : HasCoordinates p x₁ y₁) (hq : HasCoordinates q x₂ y₂) :
    (p.gapX q : FieldElement) = (x₂ - x₁) * (p.z * q.z) ^ 2 := by
  rw [Projective.cast_gapX, hp.hx, hq.hx]
  ring

/-- The difference of two second coordinates, in terms of those. -/
lemma cast_gapY (hp : HasCoordinates p x₁ y₁) (hq : HasCoordinates q x₂ y₂) :
    (p.gapY q : FieldElement) = (y₂ - y₁) * (p.z * q.z) ^ 3 := by
  rw [Projective.cast_gapY, hp.hy, hq.hy]
  ring

/-- There is no such difference exactly if the first coordinates are the same. -/
lemma gapX_eq_zero_iff (hp : HasCoordinates p x₁ y₁) (hq : HasCoordinates q x₂ y₂) :
    p.gapX q = 0 ↔ x₁ = x₂ := by
  rw [← cast_eq_zero_iff (p.gapX_lt q), hp.cast_gapX hq,
    mul_eq_zero_iff_right (pow_ne_zero 2 (mul_ne_zero hp.ne hq.ne)), sub_eq_zero, eq_comm]

/-- There is no such difference exactly if the second coordinates are the same. -/
lemma gapY_eq_zero_iff (hp : HasCoordinates p x₁ y₁) (hq : HasCoordinates q x₂ y₂) :
    p.gapY q = 0 ↔ y₁ = y₂ := by
  rw [← cast_eq_zero_iff (p.gapY_lt q), hp.cast_gapY hq,
    mul_eq_zero_iff_right (pow_ne_zero 3 (mul_ne_zero hp.ne hq.ne)), sub_eq_zero, eq_comm]

/-- The sum has the coordinates that the line through the two points gives. -/
lemma chord (hp : HasCoordinates p x₁ y₁) (hq : HasCoordinates q x₂ y₂) (ne : x₁ ≠ x₂)
    (slope : l * (x₂ - x₁) = y₂ - y₁) :
    HasCoordinates (p.chord q) (curve.addX x₁ x₂ l) (curve.addY x₁ x₂ y₁ l) := by
  have hz : ((p.chord q).z : FieldElement) = (x₂ - x₁) * (p.z * q.z) ^ 3 := by
    rw [Projective.chord_z, hp.cast_gapX hq]
    ring
  have hx : ((p.chord q).x : FieldElement) = curve.addX x₁ x₂ l * (p.chord q).z ^ 2 := by
    rw [Projective.chord_x, hz, hp.cast_gapX hq, hp.cast_gapY hq, hp.hx, curve_addX, ← slope]
    ring
  refine ⟨p.chord_z_lt q, ?_, hx, ?_⟩
  · rw [hz]
    exact mul_ne_zero (sub_ne_zero.2 ne.symm) (pow_ne_zero 3 (mul_ne_zero hp.ne hq.ne))
  · rw [Projective.chord_y, hx, hz, hp.cast_gapX hq, hp.cast_gapY hq, hp.hx, hp.hy, curve_addY,
      ← slope]
    ring

end HasCoordinates

/-! ## Points that triples stand for -/

/-- A triple stands for a point of the curve. -/
inductive Represents : Projective → curve.Point → Prop
  | infinity {p} (z : p.z = 0) : Represents p 0
  | affine {p x y} (h : curve.Nonsingular x y) (hp : HasCoordinates p x y) :
    Represents p (.some x y h)

namespace Represents

variable {p q : Projective} {P Q : curve.Point}

/-- Only triples at infinity stand for the neutral element. -/
lemma z_eq_zero_iff (h : Represents p P) : p.z = 0 ↔ P = 0 := by
  cases h with
  | infinity z => exact iff_of_true z rfl
  | affine h hp => exact iff_of_false hp.z_ne_zero (Point.some_ne_zero h)

/-- A double stands for the sum of a point with itself. -/
lemma double (h : Represents p P) : Represents p.double (P + P) := by
  cases h with
  | infinity z =>
    rw [add_zero]
    refine .infinity ((cast_eq_zero_iff p.double_z_lt).1 ?_)
    rw [Projective.double_z, z, Nat.cast_zero, mul_zero]
  | @affine x y h hp =>
    by_cases vertical : 2 * y = 0
    · have opposite : y = curve.negY x y := by
        rw [curve_negY, ← add_eq_zero_iff_eq_neg, ← two_mul, vertical]
      rw [Point.add_self_of_Y_eq opposite]
      refine .infinity ((cast_eq_zero_iff p.double_z_lt).1 ?_)
      rw [hp.cast_double_z, vertical, zero_mul]
    · have ne : y ≠ curve.negY x y := by
        rwa [curve_negY, Ne, ← add_eq_zero_iff_eq_neg, ← two_mul]
      rw [Point.add_self_of_Y_ne ne]
      exact .affine _ (hp.double vertical (tangent_mul vertical ne))

/-- The sum of two triples stands for the sum of their points. -/
lemma add (h : Represents p P) (h' : Represents q Q) : Represents (p.add q) (P + Q) := by
  cases h with
  | infinity z =>
    rw [Projective.add, if_pos z, zero_add]
    exact h'
  | @affine x₁ y₁ h₁ hp =>
    cases h' with
    | infinity z =>
      rw [Projective.add, if_neg hp.z_ne_zero, if_pos z, add_zero]
      exact .affine h₁ hp
    | @affine x₂ y₂ h₂ hq =>
      have eqX := hp.gapX_eq_zero_iff hq
      have eqY := hp.gapY_eq_zero_iff hq
      rw [Projective.add_eq hp.z_ne_zero hq.z_ne_zero]
      split_ifs with sameX sameY
      · -- the two points are one
        obtain rfl := eqX.1 sameX
        obtain rfl := eqY.1 sameY
        exact double (.affine h₁ hp)
      · -- the two points are opposite
        have opposite := (Y_eq_of_X_eq h₁.1 h₂.1 (eqX.1 sameX)).resolve_left (mt eqY.2 sameY)
        rw [Point.add_of_Y_eq (eqX.1 sameX) opposite]
        exact .infinity rfl
      · have ne : x₁ ≠ x₂ := mt eqX.2 sameX
        rw [Point.add_of_X_ne ne]
        exact .affine _ (hp.chord hq ne (secant_mul y₁ y₂ ne))

/-- Multiples of a triple stand for those of its point. -/
lemma smul (k) (h : Represents p P) : Represents (p.smul k) (k • P) := by
  induction k, p using Projective.smul.induct generalizing P with
  | case1 p =>
    rw [Projective.smul, if_pos rfl, zero_nsmul]
    exact .infinity rfl
  | case2 k p ne even ih =>
    rw [Projective.smul, if_neg ne, if_pos even, show k • P = (k / 2) • (P + P) by
      rw [← two_nsmul, ← mul_nsmul, show 2 * (k / 2) = k by omega]]
    exact ih h.double
  | case3 k p ne odd ih =>
    rw [Projective.smul, if_neg ne, if_neg odd, show k • P = P + (k / 2) • (P + P) by
      rw [← two_nsmul, ← mul_nsmul, ← succ_nsmul', show 2 * (k / 2) + 1 = k by omega]]
    exact h.add (ih h.double)

end Represents

end SeedVault.Secp256k1
