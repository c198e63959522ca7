/-!
# Binary fractions as decimals

A decimal is read by taking as many of its digits as fit 64 bits and scaling by a power of ten. A
binary fraction is written with the fewest digits that lie nearer to it than to any other, and of
those with the nearest.
-/

namespace SeedVault.Real

/-- A power of ten. -/
def power (n : Nat) : Float := Float.ofScientific 1 false n

/-- Takes out of a positive or zero `x` the powers of ten beyond the three hundred and eighth. -/
def shrink (x : Float) (n : Nat) : Float × Nat :=
  if n ≤ 308 then (x, n)
  else if x == 0 then (x, 0)
  else shrink (x / power 308) (n - 308)
termination_by n

/-- The fraction `significand * 10 ^ exponent`, if it is finite. -/
def scale? (significand : Nat) (exponent : Int) : Option Float :=
  let x := significand.toUInt64.toFloat
  if exponent < 0 then
    let (x, n) := shrink x exponent.natAbs
    some (x / power n)
  else if x == 0 then some x
  else if exponent > 308 then none
  else
    let y := x * power exponent.natAbs
    if y.isFinite then some y else none

/-- The bounds of what rounds to `m * 2 ^ q`, and the fraction itself, all as multiples of
`2 ^ (q - 2)`. Below a power of two the distance to the next fraction is halved. -/
def bounds (m : Nat) (q : Int) : Nat × Nat × Nat :=
  (4 * m - (if m = 0x10000000000000 ∧ q > -1074 then 1 else 2), 4 * m, 4 * m + 2)

/-- The number of decimal digits of the whole part of `n / d`, less one, or the negative number of
places to its first digit. -/
def decimalExponent (n d : Nat) : Int :=
  if n ≥ d then (Nat.toDigits 10 (n / d)).length - 1
  else
    let zeros := (Nat.toDigits 10 (d / n)).length
    if n * Nat.pow 10 (zeros - 1) ≥ d then -((zeros - 1 : Nat) : Int) else -(zeros : Int)

/-- The multiple of `10 ^ k` that lies within the bounds `lo / d` and `hi / d` and is nearest to
`mid / d`; of two equally near ones the even one. The bounds themselves count if `closed`. -/
def nearest? (lo mid hi d : Nat) (closed : Bool) (k : Int) : Option Nat :=
  let (s, t) := if k ≥ 0 then (1, Nat.pow 10 k.natAbs) else (Nat.pow 10 k.natAbs, 1)
  let unit := d * t
  let below := mid * s / unit
  let inside := fun c => if closed then lo * s ≤ c * unit ∧ c * unit ≤ hi * s
    else lo * s < c * unit ∧ c * unit < hi * s
  let down := mid * s - below * unit
  let up := (below + 1) * unit - mid * s
  if inside below ∧ inside (below + 1) then
    if down < up ∨ (down = up ∧ below % 2 = 0) then some below else some (below + 1)
  else if inside below then some below
  else if inside (below + 1) then some (below + 1)
  else none

/-- The shortest decimal `digits * 10 ^ exponent` of the positive fraction `m * 2 ^ q`. -/
def shortest (m : Nat) (q : Int) : Nat × Int :=
  let (lo, mid, hi) := bounds m q
  let (s, d) := if q ≥ 2 then (Nat.pow 2 (q - 2).natAbs, 1) else (1, Nat.pow 2 (2 - q).natAbs)
  let top := decimalExponent (mid * s) d
  let found := (List.range 17).findSome? fun (n : Nat) =>
    (nearest? (lo * s) (mid * s) (hi * s) d (m % 2 = 0) (top - n)).map fun c => (c, top - (n : Int))
  found.getD (mid * s / d, 0)

/-- The digits without zeros at their end, and the exponent raised for each zero. -/
def normalise (digits : List Char) (exponent : Int) : List Char × Int :=
  let zeros := (digits.reverse.takeWhile (· == '0')).length
  (digits.take (digits.length - zeros), exponent + zeros)

/-- The text of digits with the point `point` places behind their start: with an exponent if there
are more than sixteen places before it or more than five zeros behind it. -/
def layout (digits : List Char) (exponent : Int) : List Char :=
  let point : Int := digits.length + exponent
  if 0 ≤ exponent ∧ point ≤ 16 then
    digits ++ List.replicate exponent.natAbs '0' ++ ['.', '0']
  else if 0 < point ∧ point ≤ 16 then
    digits.take point.natAbs ++ '.' :: digits.drop point.natAbs
  else if -5 < point ∧ point ≤ 0 then
    '0' :: '.' :: (List.replicate point.natAbs '0' ++ digits)
  else
    let sign := if point - 1 < 0 then ['-'] else []
    let power := 'e' :: (sign ++ Nat.toDigits 10 (point - 1).natAbs)
    match digits with
    | [d] => d :: power
    | d :: ds => d :: '.' :: ds ++ power
    | [] => power

/-- The text of a finite fraction. -/
def text (x : Float) : String :=
  let bits : Nat := x.toBits.toNat
  let sign := if bits ≥ 0x8000000000000000 then "-" else ""
  let field : Nat := bits / 0x10000000000000 % 0x800
  let mantissa : Nat := bits % 0x10000000000000
  let (m, q) : Nat × Int :=
    if field = 0 then (mantissa, -1074) else (mantissa + 0x10000000000000, (field : Int) - 1075)
  if m = 0 then sign ++ "0.0"
  else
    let (c, k) := shortest m q
    let (digits, exponent) := normalise (Nat.toDigits 10 c) k
    sign ++ String.ofList (layout digits exponent)

end SeedVault.Real
