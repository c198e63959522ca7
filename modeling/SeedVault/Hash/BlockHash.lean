import SeedVault.Bytes.Basic

/-!
# Hash functions that chain over blocks

A block hash folds a compression function over a padded message. The padding is one set bit, zeros
up to the next place that leaves room for the length, and the length in bits, so the padded message
is a whole number of blocks. `resume` hashes from a chaining state that has already taken whole
blocks in; `digest` is the case in which it has taken in none.
-/

namespace SeedVault

/-- A compression function with the framing that makes it a hash function. -/
structure BlockHash where
  /-- Chaining states. -/
  State : Type
  /-- The chaining state before any block. -/
  init : State
  /-- Bytes in a block. -/
  blockSize : Nat
  /-- The length of a message in bits, on a fixed number of bytes. -/
  lengthField : Nat → Bytes
  /-- Takes one block into the chaining state. -/
  compress : State → Bytes → State
  /-- The digest a final chaining state stands for. -/
  output : State → Bytes

namespace BlockHash

/-- What follows a message of `length` bytes: a set bit, zeros, and the length in bits. -/
def padding (H : BlockHash) (length : Nat) : Bytes :=
  let field := H.lengthField (8 * length)
  let used := (length + 1 + field.length) % H.blockSize
  0x80 :: (List.replicate ((H.blockSize - used) % H.blockSize) 0 ++ field)

/-- The digest of `taken` bytes already in the state `s`, followed by `message`. -/
def resume (H : BlockHash) (s : H.State) (taken : Nat) (message : Bytes) : Bytes :=
  H.output <|
    (blocks H.blockSize (message ++ H.padding (taken + message.length))).foldl H.compress s

/-- The digest of a message. -/
def digest (H : BlockHash) (message : Bytes) : Bytes := H.resume H.init 0 message

end BlockHash

end SeedVault
