/-!
# Punycode

A label with characters outside ASCII is written as its ASCII characters, a hyphen, and the other
characters in the order of their code points, each as the number of places skipped since the last
one. These numbers have digits of varying weight in base 36, and the weights adapt to the numbers
seen so far.
-/

namespace SeedVault.Punycode

/-- The character of a digit below 36. -/
def digitChar (d : Nat) : Char := if d < 26 then Char.ofNat (97 + d) else Char.ofNat (22 + d)

/-- The digit of a character. -/
def digit? (c : Char) : Option Nat :=
  if 'a' ≤ c ∧ c ≤ 'z' then some (c.toNat - 97)
  else if 'A' ≤ c ∧ c ≤ 'Z' then some (c.toNat - 65)
  else if '0' ≤ c ∧ c ≤ '9' then some (c.toNat - 22)
  else none

/-- The threshold of the digit at weight position `k` under a bias. -/
def threshold (k bias : Nat) : Nat := min 26 (max 1 (k - bias))

/-- Divides a difference by 35 until it is small. -/
def reduce (delta k : Nat) : Nat × Nat :=
  if delta > 455 then reduce (delta / 35) (k + 36) else (delta, k)
termination_by delta
decreasing_by omega

/-- The bias after a difference, at which `points` characters are in place. -/
def adapt (delta points : Nat) (first : Bool) : Nat :=
  let delta := if first then delta / 700 else delta / 2
  let (delta, k) := reduce (delta + delta / points) 0
  k + 36 * delta / (delta + 38)

/-- The digits of a difference. -/
def writeDelta (bias k q : Nat) : List Char :=
  let t := threshold k bias
  if q < t then [digitChar q]
  else digitChar (t + (q - t) % (36 - t)) :: writeDelta bias (k + 36) ((q - t) / (36 - t))
termination_by q
decreasing_by
  have low : 1 ≤ threshold k bias := by simp only [threshold]; omega
  have : (q - threshold k bias) / (36 - threshold k bias) ≤ q - threshold k bias :=
    Nat.div_le_self _ _
  omega

/-- What writing carries along: the text so far, the difference, the bias and the number of
characters in place. -/
structure Writer where
  text : List Char
  delta : Nat
  bias : Nat
  placed : Nat

/-- Passes one character of the label while the code point `n` is being placed. -/
def Writer.pass (basic n : Nat) (w : Writer) (c : Char) : Writer :=
  if c.toNat < n then { w with delta := w.delta + 1 }
  else if c.toNat = n then
    { text := w.text ++ writeDelta w.bias 36 w.delta
      delta := 0
      bias := adapt w.delta (w.placed + 1) (w.placed = basic)
      placed := w.placed + 1 }
  else w

/-- Places the code points of a sorted list, the next possible one being `n`. -/
def writeFrom (label : List Char) (basic n : Nat) (points : List Nat) (w : Writer) : List Char :=
  match points with
  | [] => w.text
  | m :: rest =>
    let w := label.foldl (Writer.pass basic m)
      { w with delta := w.delta + (m - n) * (w.placed + 1) }
    writeFrom label basic (m + 1) rest { w with delta := w.delta + 1 }

/-- The ASCII form of a label. -/
def encode (label : List Char) : List Char :=
  let ascii := label.filter (·.toNat < 128)
  let points := ((label.filter (128 ≤ ·.toNat)).map Char.toNat).mergeSort (· ≤ ·)
  let start := if ascii = [] then [] else ascii ++ ['-']
  writeFrom label ascii.length 128 points.eraseDups ⟨start, 0, 72, ascii.length⟩

/-- The number that digits spell from weight `w` on, added to `i`, and the rest of the text. -/
def readDelta? (bias k w i : Nat) : List Char → Option (Nat × List Char)
  | [] => none
  | c :: cs => do
    let d ← digit? c
    let i := i + d * w
    let t := threshold k bias
    if d < t then some (i, cs) else readDelta? bias (k + 36) (w * (36 - t)) i cs

/-- Puts characters into a label as the digits tell. -/
def readFrom? (fuel n i bias : Nat) (label : List Char) (cs : List Char) : Option (List Char) :=
  match fuel, cs with
  | _, [] => some label
  | 0, _ => none
  | fuel + 1, cs => do
    let (j, rest) ← readDelta? bias 36 1 i cs
    let points := label.length + 1
    let n := n + j / points
    let place := j % points
    if n > 0x10ffff ∨ (0xd800 ≤ n ∧ n < 0xe000) then none
    else
      readFrom? fuel n (place + 1) (adapt (j - i) points (i = 0))
        (label.take place ++ Char.ofNat n :: label.drop place) rest

/-- The label that an ASCII form stands for. -/
def decode? (cs : List Char) : Option (List Char) :=
  let back := cs.reverse
  let tail := (back.takeWhile (· ≠ '-')).reverse
  let start := (back.drop (tail.length + 1)).reverse
  let (start, tail) := if tail.length = cs.length then ([], cs) else (start, tail)
  readFrom? (tail.length + 1) 128 0 72 start tail

end SeedVault.Punycode
