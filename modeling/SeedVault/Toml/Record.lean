import SeedVault.Text.Place
import SeedVault.Text.Quoted
import SeedVault.Toml.Document

/-!
# Records in TOML

A record is read from a table whose keys are its fields, or from an array of its fields in their
order. Each key overrides one field of a record of defaults, so the order of the keys does not
matter; a key may come only once. A strict record refuses keys that are no fields, the others ignore
them.
-/

namespace SeedVault.Toml

/-- A fault in the contents of a document, with the keys it was found under. -/
structure Misfit where
  place : Place := []
  keys : List String := []
  fault : Fault
  left : Nat
  deriving DecidableEq, Repr

namespace Misfit

/-- A fault of the document itself. -/
def ofError (e : ReadError) : Misfit := { fault := e.fault, left := e.left }

/-- A fault of the contents. -/
def contents (what : String) (left : Nat) : Misfit := { fault := .contents what, left }

/-- The fault as seen from the table around. -/
def underKey (name : String) (m : Misfit) : Misfit :=
  { m with place := .field name :: m.place, keys := name :: m.keys }

/-- The fault as seen from the array around. -/
def underItem (index : Nat) (m : Misfit) : Misfit := { m with place := .item index :: m.place }

/-- The line and the column, in bytes, behind a text; both are counted from one. -/
def lineAndColumn (before : List Char) : Nat × Nat :=
  before.foldl (fun (line, column) c =>
    if c = '\n' then (line + 1, 1) else (line, column + c.utf8Size)) (1, 1)

/-- The wording of a fault in a document. -/
def message (m : Misfit) (document : String) : String :=
  let cs := document.toList
  let (line, column) := lineAndColumn (cs.take (cs.length - m.left))
  let key := if m.keys = [] then "" else " for key \x60" ++ ".".intercalate m.keys ++ "\x60"
  m.place.describe (m.fault.message ++ key ++ " at line " ++ Text.Decimal.text line ++ " column "
    ++ Text.Decimal.text column)

end Misfit

namespace Value

/-- The kind of a value as it is named in errors. -/
def kindText : Value → String
  | integer (.ofNat n) _ => "integer \x60" ++ Text.Decimal.text n ++ "\x60"
  | integer (.negSucc n) _ => "integer \x60-" ++ Text.Decimal.text (n + 1) ++ "\x60"
  | float s _ => "floating point \x60" ++ s ++ "\x60"
  | bool true _ => "boolean \x60true\x60"
  | bool false _ => "boolean \x60false\x60"
  | text s _ => "string " ++ Text.quoted s
  | array _ _ => "sequence"
  | date _ | table _ _ _ | dotted _ _ => "map"

/-- The error for a value of the wrong kind. -/
def wrongKind (v : Value) (expected : String) : Misfit :=
  .contents ("invalid type: " ++ v.kindText ++ ", expected " ++ expected) v.start

mutual

/-- The first fault within a value. -/
def innerFault? : Value → Option Misfit
  | table es fault _ => innerFaultOfEntries? es <|> fault.map fun e =>
    { Misfit.ofError e with place := [.unknown] }
  | dotted es _ => innerFaultOfEntries? es
  | array vs _ => innerFaultOfItems? 0 vs
  | _ => none

/-- The first fault within some entries. -/
def innerFaultOfEntries? : List (String × Value) → Option Misfit
  | [] => none
  | (name, v) :: es => (innerFault? v).map (.underKey name) <|> innerFaultOfEntries? es

/-- The first fault within items from the one with number `index` on. -/
def innerFaultOfItems? (index : Nat) : List Value → Option Misfit
  | [] => none
  | v :: vs => (innerFault? v).map (.underItem index) <|> innerFaultOfItems? (index + 1) vs

end

/-- The text that a value is. -/
def readText (expected : String) : Value → Except Misfit String
  | text s _ => .ok s
  | v => .error (v.wrongKind expected)

/-- The truth value that a value is. -/
def readBool : Value → Except Misfit Bool
  | bool b _ => .ok b
  | v => .error (v.wrongKind "a boolean")

end Value

/-- A field of a record: its key, and how a value overrides it. `around` places the table. -/
structure RecordField (α : Type) where
  name : String
  override (around : Nat) (v : Value) (record : α) : Except Misfit α

/-- A kind of record: its name, its fields, and whether other keys are refused. -/
structure RecordKind (α : Type) where
  name : String
  fields : List (RecordField α)
  strict : Bool

namespace RecordKind

variable {α : Type}

/-- The field of a key. -/
def field? (k : RecordKind α) (name : String) : Option (RecordField α) :=
  k.fields.find? (·.name == name)

/-- The error for a key that is no field. -/
def unknownKey (k : RecordKind α) (name : String) (around : Nat) : Misfit :=
  let ticked (s : String) := "\x60" ++ s ++ "\x60"
  { place := [.field name]
    fault := .contents ("unknown field " ++ ticked name ++ ", expected one of "
      ++ ", ".intercalate (k.fields.map fun f => ticked f.name))
    left := around }

/-- A record overridden by the entries of a table, of which the keys `seen` have come before. -/
def readEntries (k : RecordKind α) (around : Nat) (seen : List String) (record : α) :
    List (String × Value) → Except Misfit α
  | [] => .ok record
  | (name, v) :: rest =>
    match k.field? name with
    | none =>
      if k.strict then .error (k.unknownKey name around)
      else
        match v.innerFault? with
        | some m => .error (m.underKey name)
        | none => k.readEntries around seen record rest
    | some f =>
      if seen.contains name then
        .error (.contents ("duplicate field \x60" ++ name ++ "\x60") around)
      else
        match f.override around v record with
        | .error m => .error (m.underKey name)
        | .ok record => k.readEntries around (name :: seen) record rest

/-- A record overridden by values in the order of its fields, from the one with number `index` on;
too many values are a fault. -/
def readItems (k : RecordKind α) (around index total : Nat) (record : α) :
    List (RecordField α) → List Value → Except Misfit α
  | _, [] => .ok record
  | [], _ :: _ =>
    let elements := if index = 1 then " element" else " elements"
    .error (.contents ("invalid length " ++ Text.Decimal.text total ++ ", expected "
      ++ Text.Decimal.text index ++ elements ++ " in sequence") around)
  | f :: fs, v :: vs =>
    match f.override around v record with
    | .error m => .error (m.underItem index)
    | .ok record => k.readItems around (index + 1) total record fs vs

/-- A record overridden by a value. -/
def read (k : RecordKind α) (around : Nat) (record : α) (v : Value) : Except Misfit α :=
  match v with
  | .table es fault start => do
    let record ← k.readEntries start [] record es
    match fault with
    | some e => .error { Misfit.ofError e with place := [.unknown] }
    | none => return record
  | .dotted es start => k.readEntries start [] record es
  | .array vs _ => k.readItems around 0 vs.length record k.fields vs
  | v => .error (v.wrongKind ("struct " ++ k.name))

end RecordKind

end SeedVault.Toml
