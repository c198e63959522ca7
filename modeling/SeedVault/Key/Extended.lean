import SeedVault.Curve.Secp256k1
import SeedVault.Hash.Hmac
import SeedVault.Hash.Sha512
import SeedVault.Text.Decimal
import SeedVault.Text.Split

/-!
# Hierarchical keys

An extended key is a secret key with a chain code. A seed gives a master key, and every key gives
one child for each number below `2 ^ 32`; numbers from `2 ^ 31` on are hardened and need the secret
key, the others only the public one. A path text names the numbers from the master key down.
-/

namespace SeedVault

open Secp256k1

/-- The number of the first hardened child. -/
def hardenedOffset : Nat := 0x80000000

/-- Why a key could not be derived. -/
inductive WalkError where
  | path
  | outOfRange
  deriving DecidableEq, Repr

/-- A secret key with a chain code. -/
structure ExtendedKey where
  secret : SecretKey
  chainCode : Bytes
  deriving DecidableEq

namespace ExtendedKey

/-- The tag of a message, cut in two halves of 32 bytes. -/
def halves (key message : Bytes) : Bytes × Bytes :=
  ((Hmac.keyed Sha512.hash key).tag message).splitAt 32

/-- The master key of a seed. -/
def master? (seed : Bytes) : Option ExtendedKey :=
  let (left, right) := halves (Bytes.ofString "Bitcoin seed") seed
  (SecretKey.ofNat? (Bytes.toNat left)).map fun secret => ⟨secret, right⟩

/-- What a child's tag is taken of: the secret key for a hardened child, else the public key. -/
def childMessage (k : ExtendedKey) (number : Nat) : Bytes :=
  (if hardenedOffset ≤ number then 0 :: k.secret.bytes else k.secret.publicKey)
    ++ Bytes.ofNat 4 number

/-- The child with a number. -/
def child? (k : ExtendedKey) (number : Nat) : Option ExtendedKey := do
  let (left, right) := halves k.chainCode (k.childMessage number)
  let shift ← SecretKey.ofNat? (Bytes.toNat left)
  let secret ← SecretKey.ofNat? ((shift.number + k.secret.number) % groupOrder)
  return ⟨secret, right⟩

/-- The number a segment of a path names: an index on 31 bits, raised by an apostrophe. -/
def childNumber? (cs : List Char) : Option Nat :=
  let (digits, offset) :=
    match cs.getLast? with
    | some '\'' => (cs.dropLast, hardenedOffset)
    | _ => (cs, 0)
  match Text.Decimal.read Text.Decimal.max32 digits with
  | .ok index => if index < hardenedOffset then some (index + offset) else none
  | .error _ => none

/-- The numbers a path names. -/
def childNumbers? (path : String) : Option (List Nat) :=
  match Text.splitAtChar '/' path.toList with
  | ['m'] :: segments => segments.mapM childNumber?
  | _ => none

/-- The descendant along some numbers. -/
def descend? (k : ExtendedKey) (numbers : List Nat) : Option ExtendedKey :=
  numbers.foldlM child? k

/-- The descendant of a seed's master key along some numbers. -/
def walk? (seed : Bytes) (numbers : List Nat) : Option ExtendedKey :=
  (master? seed).bind (·.descend? numbers)

/-- The key that a seed gives at a path. -/
def derive (seed : Bytes) (path : String) : Except WalkError ExtendedKey :=
  match childNumbers? path with
  | none => .error .path
  | some numbers => (walk? seed numbers).elim (.error .outOfRange) .ok

end ExtendedKey

end SeedVault
