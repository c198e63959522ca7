import SeedVault.Text.Composition
import SeedVault.Text.Lowercase
import SeedVault.Url.DomainTable
import SeedVault.Url.Punycode

/-!
# International domain names

A domain name is brought to one form: its characters are folded, normalised and checked, and labels
with characters outside ASCII get their ASCII form. Labels must not start with a mark, must not mix
writing directions, and may use the joiners only where they join. A label that already has an ASCII
form must be the form of a label in order.
-/

namespace SeedVault.Domain

open Text

/-- Classes of writing direction. -/
inductive Direction where
  | left
  | right
  | arabicLetter
  | arabicNumber
  | european
  | separator
  | commonSeparator
  | terminator
  | neutral
  | boundary
  | mark
  | other
  deriving DecidableEq, Repr

/-- The class of a number in the table. -/
def Direction.ofNumber : Nat → Direction
  | 0 => left
  | 1 => right
  | 2 => arabicLetter
  | 3 => arabicNumber
  | 4 => european
  | 5 => separator
  | 6 => commonSeparator
  | 7 => terminator
  | 8 => neutral
  | 9 => boundary
  | 10 => mark
  | _ => other

/-- The class of a character. -/
def direction (c : Char) : Direction :=
  match findRun? directionTree c.toNat with
  | some (_, n) => .ofNumber n
  | none => .left

/-- The replacement of a character; none if no domain name may hold it. -/
def replacement? (c : Char) : Option (List Char) :=
  let n := c.toNat
  if n < 128 then some (lowercase [c])
  else if droppedRanges.covers n then some []
  else if refusedRanges.covers n then none
  else
    match replacedTree.find? n with
    | some codes => some (ofCodes codes)
    | none =>
      let m := lowerCode replacedRuns n
      if m ≠ n ∨ (replacedRuns.find? n).isSome then some [Char.ofNat m]
      else some ((ofCodes (compatibleDecomposition n)).flatMap fun d => lowercase [d])

/-- The ASCII characters that no host may hold: controls, the space, and what delimits the parts of
an address. -/
def isForbidden (c : Char) : Bool :=
  c.toNat ≤ 32 || c.toNat = 127 || "%#/:<>?@[\\]^|".toList.contains c

/-- Is the label's direction one, from its first character to its last? -/
def hasOneDirection (label : List Char) : Bool :=
  let ds := label.map direction
  let last? := (ds.reverse.dropWhile (· == .mark)).head?
  let neutralOnes : List Direction :=
    [.european, .separator, .commonSeparator, .terminator, .neutral, .boundary, .mark]
  match ds.head?, last? with
  | some .left, some last =>
    ds.all (fun d => d == .left || neutralOnes.contains d) && [.left, .european].contains last
  | some first, some last =>
    [.right, .arabicLetter].contains first
      && ds.all (fun d =>
        [.right, .arabicLetter, .arabicNumber].contains d || neutralOnes.contains d)
      && [.right, .arabicLetter, .arabicNumber, .european].contains last
      && !(ds.contains .european && ds.contains .arabicNumber)
  | _, _ => ds = []

/-- Does the text have a character that is written from right to left? -/
def isBidirectional (cs : List Char) : Bool :=
  cs.any fun c => [Direction.right, .arabicLetter, .arabicNumber].contains (direction c)

/-- The joining type of a character. -/
def shape? (c : Char) : Option Nat := (findRun? shapingTree c.toNat).map (·.2)

/-- Are the joiners behind `before`, which is in reverse, where they may be? -/
def joinersFit (before : List Char) : List Char → Bool
  | [] => true
  | c :: cs =>
    let behindVirama :=
      match before with
      | b :: _ => combiningClass b.toNat = 9
      | [] => false
    let joins (side : Nat) (text : List Char) :=
      match text.dropWhile (shape? · == some 3) with
      | d :: _ => shape? d == some side || shape? d == some 2
      | [] => false
    let fits :=
      if c.toNat = 0x200d then behindVirama
      else if c.toNat = 0x200c then behindVirama || (joins 0 before && joins 1 cs)
      else true
    fits && joinersFit (c :: before) cs

/-- Is the character its own replacement? -/
def isSettled (c : Char) : Bool :=
  match replacement? c with
  | some cs => compose cs = [c]
  | none => false

/-- Is a label in order? -/
def isLabel (label : List Char) : Bool :=
  match label with
  | [] => true
  | c :: _ =>
    label.all (fun c => isSettled c || (c.toNat < 128 && !c.isUpper)) && !markRanges.covers c.toNat
      && joinersFit [] label

/-- The start of every ASCII form. -/
def asciiStart : List Char := ['x', 'n', '-', '-']

/-- The characters of a label, read from its ASCII form if it has one. -/
def readLabel? (label : List Char) : Option (List Char) :=
  match dropLead? asciiStart label with
  | none => some label
  | some form =>
    if form.any (128 ≤ ·.toNat) then none
    else
      match Punycode.decode? form with
      | none => none
      | some cs =>
        if cs.all (·.toNat < 128) ∨ compose cs ≠ cs then none else some cs

/-- The ASCII form of a label. -/
def writeLabel (label : List Char) : List Char :=
  if label.all (·.toNat < 128) then label else asciiStart ++ Punycode.encode label

/-- The ASCII form of a domain name. -/
def toAscii? (name : List Char) : Option (List Char) := do
  let folded ← name.mapM replacement?
  let labels ← (splitAtChar '.' (compose folded.flatten)).mapM readLabel?
  if !labels.all isLabel then none
  else if labels.flatten.any isForbidden then none
  else if labels.any isBidirectional && !labels.all hasOneDirection then none
  else some (joinWith ['.'] (labels.map writeLabel))

end SeedVault.Domain
