import SeedVault.Json.Skip
import SeedVault.Json.Writer
import SeedVault.Text.Place
import SeedVault.Text.Quoted

/-!
# JSON of a shape

A shape says what is wanted of a text: any value, a text, a list, or a record of named fields, which
may also be written as the list of its fields in their order. Reading goes from left to right, so of
several faults the first one counts; it is reported with its place in the value. Fields that the
shape does not name are skipped, and a field may come only once.
-/

namespace SeedVault.Json

/-- What is wanted of a value. -/
inductive Shape where
  | any
  | text
  | optionalText
  | list (item : Shape)
  /-- Named fields, each with its shape and whether it must be there. -/
  | record (name : String) (fields : List (String × Shape × Bool))

/-- A fault at a place. -/
structure Misfit where
  place : Place
  error : ReadError
  deriving DecidableEq, Repr

namespace Misfit

/-- A fault at the root. -/
def ofError (e : ReadError) : Misfit := ⟨[], e⟩

/-- The fault as seen from the value around. -/
def under (step : PlaceStep) (m : Misfit) : Misfit := { m with place := step :: m.place }

/-- The wording of a fault in a text. -/
def message (m : Misfit) (text : List Char) : String :=
  m.place.describe (m.error.message text)

end Misfit

/-- The kind of a value as it is named in errors. -/
def kindText : Json → String
  | .null => "null"
  | .bool true => "boolean \x60true\x60"
  | .bool false => "boolean \x60false\x60"
  | .int n => "integer \x60" ++ write (.int n) ++ "\x60"
  | .real x => "floating point \x60" ++ Real.text x ++ "\x60"
  | .string s => "string " ++ Text.quoted s
  | .array _ => "sequence"
  | .object _ => "map"

/-- What is said of a value of the wrong kind. -/
def wrongKind (v : Json) (expected : String) : String :=
  "invalid type: " ++ kindText v ++ ", expected " ++ expected

namespace Shape

/-- What is said to be expected by a shape. -/
def expectation : Shape → String
  | .any => "any value"
  | .text => "a string"
  | .optionalText => "a string"
  | .list _ => "a sequence"
  | .record name _ => "struct " ++ name

/-- The error for a value that is not of the kind a shape wants. -/
def reject {α : Type} (s : Shape) (cs : List Char) : Except Misfit (α × List Char) :=
  let wrong (v : Json) (left : Nat) : Except Misfit (α × List Char) :=
    .error ⟨[], .contents (wrongKind v s.expectation), left⟩
  match skipBlanks cs with
  | [] => .error ⟨[], .eofInValue, 0⟩
  | c :: rest =>
    if c = '[' then wrong (.array []) rest.length
    else if c = Char.ofNat 0x7b then wrong (.object []) rest.length
    else
      match readValue (c :: rest) with
      | .error e => .error (.ofError e)
      | .ok (.int n, rest) => wrong (.int n) (rest.length - 1)
      | .ok (.real x, rest) => wrong (.real x) (rest.length - 1)
      | .ok (v, rest) => wrong v rest.length

/-- Is there a field of the name among those found? -/
def isFound (name : String) (found : List (String × Json)) : Bool := (found.lookup name).isSome

mutual

/-- The value of a shape at the front of a text; `depth` is how deep it may nest. -/
def readFrom (fuel depth : Nat) (s : Shape) (cs : List Char) :
    Except Misfit (Json × List Char) :=
  match fuel with
  | 0 => .error ⟨[], .eofInValue, 0⟩
  | fuel + 1 =>
    match s, skipBlanks cs with
    | .any, cs => (readValueFrom (2 * cs.length + 2) depth cs).mapError .ofError
    | .text, '"' :: rest => (do
      let (t, rest) ← readString rest
      return (Json.string t, rest)).mapError .ofError
    | .optionalText, 'n' :: rest =>
      (readIdent ['u', 'l', 'l'] .null rest).mapError .ofError
    | .optionalText, '"' :: rest => readFrom fuel depth .text ('"' :: rest)
    | .list item, '[' :: rest =>
      if depth ≤ 1 then .error ⟨[], .tooDeep, rest.length⟩
      else do
        let (items, rest) ← readItems fuel (depth - 1) item 0 rest
        return (.array items, rest)
    | .record name fields, c :: rest =>
      if c ≠ '[' ∧ c ≠ Char.ofNat 0x7b then reject (.record name fields) (c :: rest)
      else if depth ≤ 1 then .error ⟨[], .tooDeep, rest.length⟩
      else if c = '[' then do
        let (found, rest) ← readInOrder fuel (depth - 1) (.record name fields) fields 0 rest
        return (ofFields found, rest)
      else do
        let (found, rest) ← readFields fuel (depth - 1) fields [] true rest
        return (ofFields found, rest)
    | s, cs => reject s cs

/-- The items of a list from the one with number `index` on. -/
def readItems (fuel depth : Nat) (item : Shape) (index : Nat) (cs : List Char) :
    Except Misfit (List Json × List Char) :=
  match fuel with
  | 0 => .error ⟨[], .eofInList, 0⟩
  | fuel + 1 => do
    let (more, cs) ← (readListNext (index = 0) cs).mapError .ofError
    if more then
      let (v, cs) ← (readFrom fuel depth item cs).mapError (.under (.item index))
      let (vs, cs) ← readItems fuel depth item (index + 1) cs
      return (v :: vs, cs)
    else return ([], cs)

/-- The fields of a record that is written as a list, from the one with number `index` on. -/
def readInOrder (fuel depth : Nat) (whole : Shape) (fields : List (String × Shape × Bool))
    (index : Nat) (cs : List Char) : Except Misfit (List (String × Json) × List Char) :=
  match fuel, fields with
  | 0, _ => .error ⟨[], .eofInList, 0⟩
  | _ + 1, [] =>
    match skipBlanks cs with
    | [] => .error ⟨[], .eofInList, 0⟩
    | ']' :: rest => .ok ([], rest)
    | ',' :: rest =>
      match skipBlanks rest with
      | ']' :: r => .error ⟨[], .trailingComma, r.length⟩
      | r => .error ⟨[], .trailingCharacters, r.length - 1⟩
    | _ :: rest => .error ⟨[], .trailingCharacters, rest.length⟩
  | fuel + 1, (name, shape, required) :: others => do
    let (more, rest) ← (readListNext (index = 0) cs).mapError .ofError
    if more then
      let (v, rest) ← (readFrom fuel depth shape rest).mapError (.under (.item index))
      let (vs, rest) ← readInOrder fuel depth whole others (index + 1) rest
      return ((name, v) :: vs, rest)
    else if required then
      let total := match whole with | .record _ all => all.length | _ => 0
      let elements := if total = 1 then " element" else " elements"
      throw ⟨[], .contents ("invalid length " ++ Text.Decimal.text index ++ ", expected "
        ++ whole.expectation ++ " with " ++ Text.Decimal.text total ++ elements), rest.length⟩
    else readInOrder fuel depth whole others (index + 1) (']' :: rest)

/-- The fields of a record, `found` being those already read. -/
def readFields (fuel depth : Nat) (fields : List (String × Shape × Bool))
    (found : List (String × Json)) (first : Bool) (cs : List Char) :
    Except Misfit (List (String × Json) × List Char) :=
  match fuel with
  | 0 => .error ⟨[], .eofInObject, 0⟩
  | fuel + 1 => do
    let (name?, cs) ← (readName first cs).mapError .ofError
    match name? with
    | none =>
      match fields.find? fun (name, _, required) => required && !isFound name found with
      | some (name, _, _) =>
        throw ⟨[], .contents ("missing field \x60" ++ name ++ "\x60"), cs.length⟩
      | none => return (found, cs)
    | some name =>
      match fields.lookup name with
      | none =>
        let (_, cs) ← (readColon cs).mapError .ofError
        let (_, cs) ← (skipValue cs).mapError fun e => .under (.field name) (.ofError e)
        readFields fuel depth fields found false cs
      | some (shape, _) =>
        if isFound name found then
          throw ⟨[], .contents ("duplicate field \x60" ++ name ++ "\x60"),
            (skipBlanks cs).length - 1⟩
        else
          let (_, cs) ← (readColon cs).mapError .ofError
          let (v, cs) ← (readFrom fuel depth shape cs).mapError (.under (.field name))
          readFields fuel depth fields ((name, v) :: found) false cs

end

/-- The value of a shape at the front of a text. -/
def read (s : Shape) (cs : List Char) : Except Misfit (Json × List Char) :=
  readFrom (3 * cs.length + 3) depthLimit s cs

/-- The value of a shape that a whole text is. -/
def parse (s : Shape) (cs : List Char) : Except Misfit Json := do
  let (v, rest) ← s.read cs
  match skipBlanks rest with
  | [] => return v
  | _ :: r => throw ⟨[], .trailingCharacters, r.length⟩

end Shape

end SeedVault.Json
