import SeedVault.Toml.Value

/-!
# Documents of TOML

A document is a list of sections, each a header in brackets with the entries behind it; the first
one may have no header. A table is gathered from all sections whose headers start with its name,
wherever they stand, and a header in double brackets adds a table to an array. A section that
repeats a table ends it with a fault, which counts only if nothing in front of it is wrong.
-/

namespace SeedVault.Toml

/-- A header with its entries. -/
structure Section where
  /-- The number of characters from the header to the end. -/
  start : Nat := 0
  header : List String := []
  isArray : Bool := false
  entries : List (String × Value) := []
  deriving Inhabited

/-- A line of a document. -/
inductive Line where
  | header (s : Section)
  | entry (key : List String) (v : Value)

/-- The text behind blank lines and comments. -/
def dropEmptyLines (fuel : Nat) (cs : List Char) : Except ReadError (Unit × List Char) :=
  Value.dropLines fuel cs

/-- The names of a header and what closes it. -/
def readHeader (fuel : Nat) (isArray first : Bool) (cs : List Char) :
    Except ReadError (List String × List Char) := do
  match fuel with
  | 0 => throw ⟨.unexpectedEof, 0⟩
  | fuel + 1 =>
    let cs := dropBlanks cs
    let (more, cs) ← if first then .ok (true, cs) else eat .period cs
    if more then
      let (name, cs) ← readKey (dropBlanks cs)
      let (names, cs) ← readHeader fuel isArray false cs
      return (name :: names, cs)
    else
      let (_, cs) ← expect .rightBracket cs
      let (_, cs) ← if isArray then expect .rightBracket cs else .ok ((), cs)
      let cs := dropBlanks cs
      let (comment, cs) ← eatComment cs
      if comment then return ([], cs)
      else
        let (_, cs) ← expectLineEnd cs
        return ([], cs)

/-- The next line that says something. -/
def readLine (cs : List Char) : Except ReadError (Option Line × List Char) := do
  let (_, cs) ← dropEmptyLines (cs.length + 1) cs
  let start := cs.length
  let (found, behind) ← readToken cs
  match found with
  | none => return (none, [])
  | some .leftBracket =>
    let (isArray, cs) ← eat .leftBracket behind
    let (header, cs) ← readHeader (cs.length + 1) isArray true cs
    return (some (.header { start, header, isArray }), cs)
  | some _ =>
    let (key, cs) ← Value.readDottedKey (cs.length + 1) cs
    let (_, cs) ← expect .equals (dropBlanks cs)
    let (v, cs) ← Value.readFrom (cs.length + 1) (dropBlanks cs)
    let cs := dropBlanks cs
    let (comment, cs) ← eatComment cs
    if comment then return (some (.entry key v), cs)
    else
      let (_, cs) ← expectLineEnd cs
      return (some (.entry key v), cs)

/-- The sections of a document of `length` characters; `current` is being read. -/
def readSections (fuel length : Nat) (current : Option Section) (cs : List Char) :
    Except ReadError (List Section) := do
  match fuel with
  | 0 => return current.toList
  | fuel + 1 =>
    let (line, cs) ← readLine cs
    match line with
    | none => return current.toList
    | some (.header s) =>
      let rest ← readSections fuel length (some s) cs
      return current.toList ++ rest
    | some (.entry key v) =>
      let s := current.getD { start := length }
      let entries ← Value.addEntry key v s.entries
      readSections fuel length (some { s with entries }) cs

/-- Sections, the numbers of those whose entries have found their table, and the place of the last
section. -/
structure Gathering where
  sections : List Section
  lastStart : Nat
  taken : List Nat := []

namespace Gathering

/-- The section with a number. -/
def at_ (g : Gathering) (i : Nat) : Section := g.sections.getD i {}

/-- The first section from number `from_` on and below `limit` that is not taken and whose header
starts with `names`. -/
def nextSection? (g : Gathering) (names : List String) (from_ limit : Nat) : Option Nat :=
  ((List.range limit).drop from_).find? fun i =>
    !g.taken.contains i && names.isPrefixOf (g.at_ i).header && decide (i < g.sections.length)

/-- The next section below `limit` with the header of section `i` that adds to the same array. -/
def nextOfArray (g : Gathering) (i limit : Nat) : Nat :=
  (((List.range limit).drop (i + 1)).find? fun j =>
    (g.at_ j).header == (g.at_ i).header && (g.at_ j).isArray).getD limit

mutual

/-- The entries of the table whose name is the first `depth` names of section `parent`, taken from
the sections from number `cur` on and below `limit`; and the fault that ends it. -/
def entries (fuel : Nat) (depth parent cur limit : Nat) (g : Gathering) :
    List (String × Value) × Option ReadError × Gathering :=
  match fuel with
  | 0 => ([], none, g)
  | fuel + 1 =>
    if parent = limit ∨ cur = limit then ([], none, g)
    else
      match g.nextSection? ((g.at_ parent).header.take depth) cur limit with
      | none => ([], none, g)
      | some pos =>
        let s := g.at_ pos
        if parent ≠ pos ∧ (g.at_ parent).header = s.header then
          ([], some ⟨.duplicateTable (".".intercalate s.header), s.start⟩, g)
        else
          let parent :=
            if s.header.length < (g.at_ parent).header.length then pos else parent
          match s.header[depth]? with
          | some name =>
            let (v, g) :=
              if s.isArray ∧ depth + 1 = s.header.length then items fuel depth pos limit g
              else table fuel (depth + 1) pos 0 limit g
            let (rest, fault, g) := entries fuel depth parent (pos + 1) limit g
            ((name, v) :: rest, fault, g)
          | none =>
            if s.isArray then ([], some ⟨.redefinedAsArray, s.start⟩, g)
            else
              let g := { g with taken := pos :: g.taken }
              let (rest, fault, g) := entries fuel depth parent pos limit g
              (s.entries ++ rest, fault, g)

/-- A table as `entries` gathers it. -/
def table (fuel : Nat) (depth parent cur limit : Nat) (g : Gathering) : Value × Gathering :=
  match fuel with
  | 0 => (.table [] none g.lastStart, g)
  | fuel + 1 =>
    let (es, fault, g) := entries fuel depth parent cur limit g
    (.table es fault g.lastStart, g)

/-- The array that section `pos` and those below `limit` with the same header make up. -/
def items (fuel : Nat) (depth pos limit : Nat) (g : Gathering) : Value × Gathering :=
  match fuel with
  | 0 => (.array [] g.lastStart, g)
  | fuel + 1 =>
    if pos = limit then (.array [] g.lastStart, g)
    else
      let next := g.nextOfArray pos limit
      let own := (g.at_ pos).entries
      let g := { g with taken := pos :: g.taken }
      let (es, fault, g) := entries fuel (depth + 1) pos 0 next g
      let item := Value.table (own ++ es) fault g.lastStart
      match items fuel depth next limit g with
      | (.array rest _, g) => (.array (item :: rest) g.lastStart, g)
      | (_, g) => (.array [item] g.lastStart, g)

end

/-- The table of all sections. -/
def root (g : Gathering) : Value :=
  let count := g.sections.length
  let names := g.sections.foldl (fun n s => n + s.header.length) 0
  (g.table (2 * (count + 2) * (names + 4)) 0 0 0 count).1

end Gathering

/-- The table a document spells. -/
def parse (text : String) : Except ReadError Value := do
  let cs :=
    match text.toList with
    | c :: rest => if c.toNat = 0xfeff then rest else c :: rest
    | [] => []
  let sections ← readSections (cs.length + 1) text.length none cs
  let lastStart := (sections.getLast?.map (·.start)).getD text.length
  return Gathering.root { sections, lastStart }

end SeedVault.Toml
