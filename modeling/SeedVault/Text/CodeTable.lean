/-!
# Tables over code points

A table is written as lines of text: entries end with a semicolon, the hexadecimal numbers of an
entry are separated by blanks, and the first number is the key. An entry may go on in the next line.
A table is searched as a balanced tree.
-/

namespace SeedVault.Text

/-- A search tree over numbers. -/
inductive CodeTree (α : Type) where
  | leaf
  | node (left : CodeTree α) (key : Nat) (value : α) (right : CodeTree α)

namespace CodeTree

/-- The value at a key. -/
def find? {α : Type} (t : CodeTree α) (k : Nat) : Option α :=
  match t with
  | leaf => none
  | node l key v r => if k < key then l.find? k else if k = key then some v else r.find? k

/-- A tree of at most the given depth over a sorted list, and the entries that do not fit. -/
def fill {α : Type} (depth : Nat) (entries : List (Nat × α)) :
    CodeTree α × List (Nat × α) :=
  match depth with
  | 0 => (leaf, entries)
  | d + 1 =>
    match fill d entries with
    | (l, []) => (l, [])
    | (l, (k, v) :: rest) =>
      let (r, rest) := fill d rest
      (node l k v r, rest)

/-- The tree over a sorted list of fewer than 65536 entries. -/
def ofSorted {α : Type} (entries : List (Nat × α)) : CodeTree α := (fill 16 entries).1

end CodeTree

/-- The value of a lower-case hexadecimal digit. -/
def hexValue (c : Char) : Nat := if c.toNat < 97 then c.toNat - 48 else c.toNat - 87

/-- What has been read of a table: finished entries and the numbers of the current one, both in
reverse, and the number under way. -/
structure TableReader where
  entries : List (List Nat) := []
  numbers : List Nat := []
  number : Nat := 0

/-- Reads one more character. -/
def TableReader.step (r : TableReader) (c : Char) : TableReader :=
  if c = ';' then { entries := (r.number :: r.numbers).reverse :: r.entries }
  else if c = ' ' then { r with numbers := r.number :: r.numbers, number := 0 }
  else { r with number := r.number * 16 + hexValue c }

/-- The entries of a table's lines. -/
def tableEntries (lines : List String) : List (List Nat) :=
  let step (r : TableReader) (line : String) := line.toList.foldl TableReader.step r
  (lines.foldl step {}).entries.reverse

/-- The ranges of a table whose entries are a first and a last number, or one number alone. -/
def tableRanges (lines : List String) : List (Nat × Nat) :=
  (tableEntries lines).filterMap fun
    | [n] => some (n, n)
    | [first, last] => some (first, last)
    | _ => none

/-- The first number of an entry and the others. -/
def keyed? : List Nat → Option (Nat × List Nat)
  | k :: v => some (k, v)
  | [] => none

/-- A search tree of the entries' numbers by their first. -/
def tableTree (lines : List String) : CodeTree (List Nat) :=
  CodeTree.ofSorted ((tableEntries lines).filterMap keyed?)

/-- A search tree of ranges by their first number. -/
def rangeTree (ranges : List (Nat × Nat)) : CodeTree Nat := CodeTree.ofSorted ranges

/-- Does a number lie in a range of the tree? -/
def CodeTree.covers (t : CodeTree Nat) (n : Nat) : Bool :=
  match t with
  | leaf => false
  | node l first last r => if n < first then l.covers n else n ≤ last || r.covers n

end SeedVault.Text
