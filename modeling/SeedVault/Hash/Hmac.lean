import SeedVault.Hash.BlockHash

/-!
# Keyed hashing and key stretching

A keyed hash runs the message behind a first block made of the key, and the digest of that behind a
second one. Both blocks are taken in once when the key is set (`Hmac.keyed`), so a key that is used
many times costs two blocks a tag. `stretch` repeats tagging to make guessing a password slow.
-/

namespace SeedVault

/-- A key of the keyed hash over `H`: the chaining states behind its two key blocks. -/
structure Hmac (H : BlockHash) where
  inner : H.State
  outer : H.State

namespace Hmac

/-- Sets a key; one longer than a block is hashed first. -/
def keyed (H : BlockHash) (key : Bytes) : Hmac H :=
  let short := if key.length ≤ H.blockSize then key else H.digest key
  let block := short ++ List.replicate (H.blockSize - short.length) 0
  { inner := H.compress H.init (block.map (· ^^^ 0x36))
    outer := H.compress H.init (block.map (· ^^^ 0x5c)) }

/-- The tag of a message. -/
def tag {H : BlockHash} (k : Hmac H) (message : Bytes) : Bytes :=
  H.resume k.outer H.blockSize (H.resume k.inner H.blockSize message)

/-- The exclusive or of the first `n` tags in the chain that starts at `u`, added to `sum`. -/
def chain {H : BlockHash} (k : Hmac H) (n : Nat) (u sum : Bytes) : Bytes :=
  match n with
  | 0 => sum
  | n + 1 =>
    let v := k.tag u
    chain k n v (sum.zipWith (· ^^^ ·) v)

/-- The first block of key material stretched out of a password with `rounds + 1` tags. -/
def stretch (H : BlockHash) (rounds : Nat) (password salt : Bytes) : Bytes :=
  let k := keyed H password
  let first := k.tag (salt ++ Bytes.ofNat 4 1)
  k.chain rounds first first

end Hmac

end SeedVault
