import SeedVault.Bytes.Basic

/-!
# The curve secp256k1

The group of points of `y² = x³ + 7` over the field of `fieldOrder` elements. Sums are computed on
projective triples `(x, y, z)`, which stand for the point `(x / z², y / z³)`, or for the point at
infinity if `z` is zero, so that one inversion is enough for a whole multiple.
-/

namespace SeedVault.Secp256k1

/-- The number of elements of the field. -/
def fieldOrder : Nat := 0xfffffffffffffffffffffffffffffffffffffffffffffffffffffffefffffc2f

/-- The number of points of the group. -/
def groupOrder : Nat := 0xfffffffffffffffffffffffffffffffebaaedce6af48a03bbfd25e8cd0364141

/-- The power of a number modulo `m`. -/
def powMod (m base exponent : Nat) : Nat :=
  if exponent = 0 then 1 % m
  else
    let half := powMod m (base * base % m) (exponent / 2)
    if exponent % 2 = 0 then half else base * half % m

/-- The inverse of a number modulo a prime. -/
def inverse (prime a : Nat) : Nat := powMod prime a (prime - 2)

/-- A point in projective coordinates. -/
structure Projective where
  x : Nat
  y : Nat
  z : Nat

/-- A point of the group. -/
inductive Point where
  | infinity
  | affine (x y : Nat)
  deriving DecidableEq, Repr

/-- Difference in the field. -/
def sub (a b : Nat) : Nat := (a + fieldOrder - b) % fieldOrder

/-- Product in the field. -/
def mul (a b : Nat) : Nat := a * b % fieldOrder

namespace Projective

/-- The neutral element. -/
def infinity : Projective := ⟨1, 1, 0⟩

/-- The chosen generator. -/
def generator : Projective :=
  ⟨0x79be667ef9dcbbac55a06295ce870b07029bfcdb2dce28d959f2815b16f81798,
   0x483ada7726a3c4655da4fbfc0e1108a8fd17b448a68554199c47d08ffb10d4b8, 1⟩

/-- Twice a point. -/
def double (p : Projective) : Projective :=
  let xx := mul p.x p.x
  let yy := mul p.y p.y
  let yyyy := mul yy yy
  let s := 4 * mul p.x yy % fieldOrder
  let m := 3 * xx
  let x := sub (mul m m) (2 * s % fieldOrder)
  { x
    y := sub (mul m (sub s x)) (8 * yyyy % fieldOrder)
    z := mul (2 * p.y) p.z }

/-- Sum of two points. -/
def add (p q : Projective) : Projective :=
  if p.z = 0 then q
  else if q.z = 0 then p
  else
    let pzz := mul p.z p.z
    let qzz := mul q.z q.z
    let u := mul p.x qzz
    let v := mul q.x pzz
    let s := mul p.y (mul qzz q.z)
    let t := mul q.y (mul pzz p.z)
    let h := sub v u
    let r := sub t s
    if h = 0 then
      if r = 0 then p.double else infinity
    else
      let hh := mul h h
      let hhh := mul hh h
      let w := mul u hh
      let x := sub (mul r r) ((hhh + 2 * w) % fieldOrder)
      { x
        y := sub (mul r (sub w x)) (mul s hhh)
        z := mul (mul p.z q.z) h }

/-- The multiple `k • p`. -/
def smul (k : Nat) (p : Projective) : Projective :=
  if k = 0 then infinity
  else
    let rest := smul (k / 2) p.double
    if k % 2 = 0 then rest else add p rest

/-- The point a triple stands for. -/
def point (p : Projective) : Point :=
  if p.z = 0 then .infinity
  else
    let i := inverse fieldOrder p.z
    let ii := mul i i
    .affine (mul p.x ii) (mul p.y (mul ii i))

end Projective

/-- The multiple of the generator by `k`. -/
def generate (k : Nat) : Point := (Projective.generator.smul k).point

/-- A point on 33 bytes: the parity of `y`, then `x`; the point at infinity is one zero byte. -/
def Point.compressed : Point → Bytes
  | .infinity => [0]
  | .affine x y => (if y % 2 = 0 then 2 else 3) :: Bytes.ofNat 32 x

/-- A secret key: a number between zero and the group order, both excluded. -/
structure SecretKey where
  number : Nat
  positive : 0 < number
  inRange : number < groupOrder
  deriving DecidableEq

namespace SecretKey

/-- The key of a number, if the number is in range. -/
def ofNat? (n : Nat) : Option SecretKey :=
  if h : 0 < n ∧ n < groupOrder then some ⟨n, h.1, h.2⟩ else none

/-- The key on 32 bytes. -/
def bytes (k : SecretKey) : Bytes := Bytes.ofNat 32 k.number

/-- The public key in compressed form. -/
def publicKey (k : SecretKey) : Bytes := (generate k.number).compressed

end SecretKey

end SeedVault.Secp256k1
