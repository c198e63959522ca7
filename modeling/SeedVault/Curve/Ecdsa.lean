import SeedVault.Curve.Secp256k1
import SeedVault.Hash.Hmac
import SeedVault.Hash.Sha256

/-!
# Deterministic signatures

Signatures over secp256k1 whose nonce is drawn from the key and the message by a keyed hash, so
that signing needs no randomness and the same message always gets the same signature. Of the two
values `s` and `groupOrder - s` the lower one is written.
-/

namespace SeedVault.Ecdsa

open Secp256k1

/-- The state of the nonce source: a key and a value of the keyed hash. -/
structure NonceSource where
  key : Bytes
  value : Bytes

namespace NonceSource

/-- The tag of a message under the current key. -/
def tag (s : NonceSource) (message : Bytes) : Bytes := (Hmac.keyed Sha256.hash s.key).tag message

/-- Sets a new key from `seed`, and a new value from the new key. -/
def reseed (s : NonceSource) (mark : UInt8) (seed : Bytes) : NonceSource :=
  let s : NonceSource := { s with key := s.tag (s.value ++ mark :: seed) }
  { s with value := s.tag s.value }

/-- The source for a secret key and a message digest. -/
def start (secret digest : Bytes) : NonceSource :=
  let s : NonceSource := ⟨List.replicate 32 0, List.replicate 32 1⟩
  (s.reseed 0 (secret ++ digest)).reseed 1 (secret ++ digest)

/-- The first candidate in range, out of at most `tries`. -/
def nonce? (tries : Nat) (s : NonceSource) : Option SecretKey :=
  match tries with
  | 0 => none
  | n + 1 =>
    let value := s.tag s.value
    match SecretKey.ofNat? (Bytes.toNat value) with
    | some k => some k
    | none => nonce? n (reseed { s with value } 0 [])

end NonceSource

/-- The signature `r` then `s`, 32 bytes each, over the SHA-256 digest of a message. There is none
if no nonce out of 128 is usable; each fails with a probability below `2 ^ -127`. -/
def sign? (secret : SecretKey) (message : Bytes) : Option Bytes := do
  let z := Bytes.toNat (Sha256.digest message) % groupOrder
  let nonce ← (NonceSource.start secret.bytes (Bytes.ofNat 32 z)).nonce? 128
  match generate nonce.number with
  | .infinity => none
  | .affine x _ =>
    let r := x % groupOrder
    let s := inverse groupOrder nonce.number * (z + r * secret.number) % groupOrder
    if r = 0 ∨ s = 0 then none
    else
      let low := if s > groupOrder / 2 then groupOrder - s else s
      some (Bytes.ofNat 32 r ++ Bytes.ofNat 32 low)

end SeedVault.Ecdsa
