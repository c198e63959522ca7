import SeedVault.Phrase.Basic

/-!
# Sources of entropy

A source is an endless supply of bytes and the number of those already drawn. Drawing a phrase
takes as many bytes as its length asks for, and never the same bytes twice.
-/

namespace SeedVault

/-- An endless supply of bytes, of which the first `drawn` are used up. -/
structure EntropySource where
  supply : Nat → UInt8
  drawn : Nat := 0

namespace EntropySource

/-- The next `n` bytes. -/
def next (s : EntropySource) (n : Nat) : Bytes := (List.range n).map fun i => s.supply (s.drawn + i)

/-- Draws a fresh phrase. -/
def generate (s : EntropySource) (c : WordCount) : Mnemonic × EntropySource :=
  let e := s.next c.entropyBytes
  ({ phrase := Phrase.join (Phrase.encode e), entropy := e },
   { s with drawn := s.drawn + c.entropyBytes })

end EntropySource

end SeedVault
