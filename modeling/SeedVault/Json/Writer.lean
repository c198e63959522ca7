import SeedVault.Json.Real
import SeedVault.Json.Value
import SeedVault.Text.Decimal

/-!
# JSON text

Values are written without blanks. In a text the quote, the backslash and the control characters
are escaped, those that have a letter by it and the others by four hexadecimal digits.
-/

namespace SeedVault.Json

/-- A character inside quotes. -/
def escape (c : Char) : List Char :=
  match c with
  | '"' => ['\\', '"']
  | '\\' => ['\\', '\\']
  | '\n' => ['\\', 'n']
  | '\r' => ['\\', 'r']
  | '\t' => ['\\', 't']
  | '\x08' => ['\\', 'b']
  | '\x0c' => ['\\', 'f']
  | _ =>
    if c.toNat < 16 then ['\\', 'u', '0', '0', '0'] ++ Nat.toDigits 16 c.toNat
    else if c.toNat < 32 then ['\\', 'u', '0', '0'] ++ Nat.toDigits 16 c.toNat
    else [c]

/-- A text in quotes. -/
def quote (s : String) : String := String.ofList ('"' :: (s.toList.flatMap escape ++ ['"']))

mutual

/-- The text of a value. -/
def write : Json → String
  | .null => "null"
  | .bool true => "true"
  | .bool false => "false"
  | .int (.ofNat n) => Text.Decimal.text n
  | .int (.negSucc n) => "-" ++ Text.Decimal.text (n + 1)
  | .real x => Real.text x
  | .string s => quote s
  | .array items => "[" ++ ",".intercalate (writeItems items) ++ "]"
  | .object fields => "\x7b" ++ ",".intercalate (writeFields fields) ++ "\x7d"

/-- The texts of some values. -/
def writeItems : List Json → List String
  | [] => []
  | v :: vs => write v :: writeItems vs

/-- The texts of some fields. -/
def writeFields : List (String × Json) → List String
  | [] => []
  | (n, v) :: fs => (quote n ++ ":" ++ write v) :: writeFields fs

end

end SeedVault.Json
