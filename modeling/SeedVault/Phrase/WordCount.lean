import SeedVault.Text.Decimal

/-!
# Lengths of seed phrases

A seed phrase has 12, 15, 18, 21 or 24 words. Each word stands for eleven bits; of every 33 bits 32
are entropy and one is checksum.
-/

namespace SeedVault

/-- The length of a seed phrase. -/
inductive WordCount where
  | twelve
  | fifteen
  | eighteen
  | twentyOne
  | twentyFour
  deriving DecidableEq, Repr

namespace WordCount

/-- All lengths, ascending. -/
def all : List WordCount := [twelve, fifteen, eighteen, twentyOne, twentyFour]

/-- A phrase has twelve words if nothing else is said. -/
instance : Inhabited WordCount := ⟨twelve⟩

/-- The number of words. -/
def words : WordCount → Nat
  | twelve => 12
  | fifteen => 15
  | eighteen => 18
  | twentyOne => 21
  | twentyFour => 24

/-- The bits of checksum. -/
def checksumBits (c : WordCount) : Nat := c.words / 3

/-- The bits of entropy. -/
def entropyBits (c : WordCount) : Nat := 32 * c.checksumBits

/-- The bytes of entropy. -/
def entropyBytes (c : WordCount) : Nat := c.entropyBits / 8

/-- The length with `n` words. -/
def ofWords? (n : Nat) : Option WordCount := all.find? (·.words == n)

/-- The length with `n` bits of entropy. -/
def ofEntropyBits? (n : Nat) : Option WordCount := all.find? (·.entropyBits == n)

/-- What is said of a text that is no length. -/
def expectation : String := "word count must be one of 12, 15, 18, 21 or 24"

/-- The length a text spells. -/
def parse (s : String) : Option WordCount :=
  match Text.Decimal.read Text.Decimal.max64 s.toList with
  | .ok n => ofWords? n
  | .error _ => none

end WordCount

end SeedVault
