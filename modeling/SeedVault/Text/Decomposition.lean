import SeedVault.Text.DecompositionTable

/-!
# Decomposed normal forms

A text is decomposed character by character, and then every run of combining marks is sorted by
class, marks of one class keeping their order. Korean syllables decompose by arithmetic.
-/

namespace SeedVault.Text

/-- The combining class of a code point; zero if it starts a new run. -/
def combiningClass (n : Nat) : Nat :=
  ((findRun? combiningTree n).map fun (_, c) => c).getD 0

/-- The letters of a Korean syllable. -/
def syllableLetters? (n : Nat) : Option (List Nat) :=
  if 0xac00 ≤ n ∧ n < 0xac00 + 11172 then
    let i := n - 0xac00
    let letters := [0x1100 + i / 588, 0x1161 + i % 588 / 28]
    some (if i % 28 = 0 then letters else letters ++ [0x11a7 + i % 28])
  else none

/-- The full canonical decomposition of a code point. -/
def canonicalDecomposition (n : Nat) : List Nat :=
  match syllableLetters? n with
  | some letters => letters
  | none => (canonicalTree.find? n).getD [n]

/-- The full compatibility decomposition of a code point. -/
def compatibleDecomposition (n : Nat) : List Nat :=
  ((findRun? compatibleRunTree n).map fun (distance, target) => [target + distance]).getD
    ((compatibleTree.find? n).getD (canonicalDecomposition n))

/-- Puts a code point behind a text in reverse, in front of the marks of higher class. -/
def insertMark (n : Nat) : List Nat → List Nat
  | [] => [n]
  | m :: ms =>
    if combiningClass n ≠ 0 ∧ combiningClass n < combiningClass m then m :: insertMark n ms
    else n :: m :: ms

/-- Sorts the runs of combining marks. -/
def orderMarks (ns : List Nat) : List Nat :=
  (ns.foldl (fun out n => insertMark n out) []).reverse

/-- The text of some code points. -/
def ofCodes (ns : List Nat) : List Char := ns.map Char.ofNat

/-- The canonical decomposition of a text, as code points. -/
def canonicalCodes (cs : List Char) : List Nat :=
  orderMarks (cs.flatMap fun c => canonicalDecomposition c.toNat)

/-- The compatibility decomposition of a text: normal form KD. -/
def decompose (cs : List Char) : List Char :=
  ofCodes (orderMarks (cs.flatMap fun c => compatibleDecomposition c.toNat))

end SeedVault.Text
