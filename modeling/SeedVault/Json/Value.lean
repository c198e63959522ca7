/-!
# JSON values

A number is an integer that fits 64 bits, with or without sign, or else a binary fraction. The
fields of an object are kept in the order of their names, one for each name.
-/

namespace SeedVault

/-- A JSON value. -/
inductive Json where
  | null
  | bool (b : Bool)
  | int (n : Int)
  | real (x : Float)
  | string (s : String)
  | array (items : List Json)
  | object (fields : List (String × Json))
  deriving Inhabited

namespace Json

/-- Puts a field among sorted ones, in place of any former one of its name. -/
def insertField (name : String) (value : Json) :
    List (String × Json) → List (String × Json)
  | [] => [(name, value)]
  | (n, v) :: rest =>
    if name < n then (name, value) :: (n, v) :: rest
    else if name = n then (name, value) :: rest
    else (n, v) :: insertField name value rest

/-- The object with some fields; of two with one name the last counts. -/
def ofFields (fields : List (String × Json)) : Json :=
  .object (fields.foldl (fun sorted (n, v) => insertField n v sorted) [])

/-- A natural number as a value. -/
def ofNat (n : Nat) : Json := .int n

/-- A text as a value, or null. -/
def ofOption (s? : Option String) : Json := (s?.map .string).getD .null

/-- The field of a name. -/
def field? (name : String) : Json → Option Json
  | .object fields => fields.lookup name
  | _ => none

/-- The text a value is. -/
def string? : Json → Option String
  | .string s => some s
  | _ => none

/-- The natural number a value is. -/
def nat? : Json → Option Nat
  | .int (.ofNat n) => some n
  | _ => none

/-- The items of an array. -/
def items? : Json → Option (List Json)
  | .array items => some items
  | _ => none

end Json

end SeedVault
