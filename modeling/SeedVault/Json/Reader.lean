import SeedVault.Json.Real
import SeedVault.Json.Value
import SeedVault.Text.Decimal

/-!
# Reading JSON

Reading goes from left to right and stops at the first fault. A fault is placed by what is left of
the text behind the last character looked at, from which its line and column follow. Values may be
nested 127 deep.
-/

namespace SeedVault.Json

/-- What is wrong with a text. -/
inductive Fault where
  | eofInList
  | eofInObject
  | eofInString
  | eofInValue
  | expectedColon
  | expectedListEnd
  | expectedObjectEnd
  | expectedIdent
  | expectedValue
  | invalidEscape
  | invalidNumber
  | numberOutOfRange
  | invalidCodePoint
  | controlCharacter
  | keyNotString
  | loneSurrogate
  | trailingComma
  | trailingCharacters
  | endOfEscape
  | tooDeep
  /-- The text is sound but its contents are not what is wanted. -/
  | contents (what : String)
  /-- The text could not be got. -/
  | unreadable (why : String)
  deriving DecidableEq, Repr

/-- The wording of a fault. -/
def Fault.message : Fault → String
  | eofInList => "EOF while parsing a list"
  | eofInObject => "EOF while parsing an object"
  | eofInString => "EOF while parsing a string"
  | eofInValue => "EOF while parsing a value"
  | expectedColon => "expected `:`"
  | expectedListEnd => "expected `,` or `]`"
  | expectedObjectEnd => "expected `,` or `\x7d`"
  | expectedIdent => "expected ident"
  | expectedValue => "expected value"
  | invalidEscape => "invalid escape"
  | invalidNumber => "invalid number"
  | numberOutOfRange => "number out of range"
  | invalidCodePoint => "invalid unicode code point"
  | controlCharacter => "control character (\\u0000-\\u001F) found while parsing a string"
  | keyNotString => "key must be a string"
  | loneSurrogate => "lone leading surrogate in hex escape"
  | trailingComma => "trailing comma"
  | trailingCharacters => "trailing characters"
  | endOfEscape => "unexpected end of hex escape"
  | tooDeep => "recursion limit exceeded"
  | contents what => what
  | unreadable why => why

/-- A fault and the number of characters not looked at before it was found. -/
structure ReadError where
  fault : Fault
  left : Nat
  deriving DecidableEq, Repr

/-- A fault found without looking at the rest. -/
def fail {α : Type} (f : Fault) (rest : List Char) : Except ReadError (α × List Char) :=
  .error ⟨f, rest.length⟩

/-- A fault found by looking at the first character of the rest. -/
def failAt {α : Type} (f : Fault) (rest : List Char) : Except ReadError (α × List Char) :=
  .error ⟨f, rest.length - 1⟩

/-- Is the character a blank of JSON? -/
def isBlank (c : Char) : Bool := c == ' ' || c == '\n' || c == '\t' || c == '\r'

/-- The text behind its blanks. -/
def skipBlanks (cs : List Char) : List Char := cs.dropWhile isBlank

/-- The value of a hexadecimal digit. -/
def hexDigit? (c : Char) : Option Nat :=
  if '0' ≤ c ∧ c ≤ '9' then some (c.toNat - 48)
  else if 'a' ≤ c ∧ c ≤ 'f' then some (c.toNat - 87)
  else if 'A' ≤ c ∧ c ≤ 'F' then some (c.toNat - 55)
  else none

/-- Four hexadecimal digits. -/
def readUnit : List Char → Except ReadError (Nat × List Char)
  | a :: b :: c :: d :: rest =>
    match hexDigit? a, hexDigit? b, hexDigit? c, hexDigit? d with
    | some a, some b, some c, some d => .ok (((a * 16 + b) * 16 + c) * 16 + d, rest)
    | _, _, _, _ => fail .invalidEscape rest
  | _ => fail .eofInString []

/-- A character given by one or two units of sixteen bits. -/
def readUnicode (cs : List Char) : Except ReadError (Char × List Char) := do
  let (n, cs) ← readUnit cs
  if 0xdc00 ≤ n ∧ n < 0xe000 then fail .loneSurrogate cs
  else if 0xd800 ≤ n ∧ n < 0xdc00 then
    match cs with
    | '\\' :: 'u' :: cs =>
      let (m, cs) ← readUnit cs
      if 0xdc00 ≤ m ∧ m < 0xe000 then
        return (Char.ofNat (0x10000 + (n - 0xd800) * 0x400 + (m - 0xdc00)), cs)
      else fail .loneSurrogate cs
    | [] => fail .eofInString []
    | ['\\'] => fail .eofInString []
    | '\\' :: cs => failAt .endOfEscape cs
    | cs => failAt .endOfEscape cs
  else return (Char.ofNat n, cs)

/-- The character of an escape of one letter. -/
def escapeChar? : Char → Option Char
  | '"' => some '"'
  | '\\' => some '\\'
  | '/' => some '/'
  | 'b' => some '\x08'
  | 'f' => some '\x0c'
  | 'n' => some '\n'
  | 'r' => some '\r'
  | 't' => some '\t'
  | _ => none

/-- The rest of a string behind its quote, up to and with the closing one. -/
def readStringFrom (fuel : Nat) (sofar cs : List Char) :
    Except ReadError (String × List Char) :=
  match fuel, cs with
  | 0, _ => fail .eofInString []
  | _, [] => fail .eofInString []
  | _ + 1, '"' :: rest => .ok (String.ofList sofar.reverse, rest)
  | fuel + 1, '\\' :: 'u' :: rest => do
    let (c, rest) ← readUnicode rest
    readStringFrom fuel (c :: sofar) rest
  | _ + 1, ['\\'] => fail .eofInString []
  | fuel + 1, '\\' :: e :: rest =>
    match escapeChar? e with
    | some c => readStringFrom fuel (c :: sofar) rest
    | none => fail .invalidEscape rest
  | fuel + 1, c :: rest =>
    if c.toNat < 32 then fail .controlCharacter rest else readStringFrom fuel (c :: sofar) rest

/-- A string behind its opening quote. -/
def readString (cs : List Char) : Except ReadError (String × List Char) :=
  readStringFrom (cs.length + 1) [] cs

/-- Digits from the front, with the number they add to those of value `n`. -/
def digitsFrom (n : Nat) : List Char → Nat × Nat × List Char
  | [] => (n, 0, [])
  | c :: cs =>
    match Text.Decimal.digit? c with
    | none => (n, 0, c :: cs)
    | some d =>
      let (n, count, rest) := digitsFrom (n * 10 + d) cs
      (n, count + 1, rest)

/-- The number with as many digits as fit 64 bits, and the number of digits left out. -/
def cutDigits (digits : List Char) (n : Nat) : Nat × Nat :=
  match digits with
  | [] => (n, 0)
  | c :: cs =>
    let m := n * 10 + (c.toNat - 48)
    if m ≤ Text.Decimal.max64 then cutDigits cs m else (n, cs.length + 1)

/-- The exponent behind a number, if there is one. -/
def readExponent (cs : List Char) : Except ReadError (Int × List Char) :=
  match cs with
  | c :: rest =>
    if c == 'e' || c == 'E' then
      let (negative, digits) :=
        match rest with
        | '-' :: r => (true, r)
        | '+' :: r => (false, r)
        | r => (false, r)
      match digits with
      | [] => fail .eofInValue []
      | d :: r =>
        if d.isDigit then
          let (n, _, rest) := digitsFrom 0 digits
          .ok (if negative then -(n : Int) else n, rest)
        else fail .invalidNumber r
    else .ok (0, cs)
  | [] => .ok (0, cs)

/-- A number behind its sign. -/
def readNumber (negative : Bool) (cs : List Char) : Except ReadError (Json × List Char) := do
  let whole := cs.takeWhile Char.isDigit
  let rest := cs.drop whole.length
  match whole with
  | [] =>
    match rest with
    | [] => fail .eofInValue []
    | _ :: r => fail .invalidNumber r
  | '0' :: _ :: _ => failAt .invalidNumber (whole.tail ++ rest)
  | _ =>
    let (fraction, rest) ←
      match rest with
      | '.' :: r =>
        let ds := r.takeWhile Char.isDigit
        match ds, r with
        | [], [] => fail .eofInValue []
        | [], _ => failAt .invalidNumber r
        | _, _ => .ok (ds, r.drop ds.length)
      | _ => .ok ([], rest)
    let (exponent, behind) ← readExponent rest
    let plain := fraction = [] ∧ behind.length = rest.length
    let (n, _, _) := digitsFrom 0 whole
    if plain ∧ !negative ∧ n ≤ Text.Decimal.max64 then return (.int n, behind)
    else if plain ∧ negative ∧ 0 < n ∧ Text.Decimal.fits64 (-n) then
      return (.int (-(n : Int)), behind)
    else
      let (significand, cut) := cutDigits (whole ++ fraction) 0
      match Real.scale? significand (exponent + cut - fraction.length) with
      | some x => return (.real (if negative then -x else x), behind)
      | none => fail .numberOutOfRange behind

/-- The rest of a word whose first letter has been read. -/
def readIdent (letters : List Char) (value : Json) (cs : List Char) :
    Except ReadError (Json × List Char) :=
  match letters, cs with
  | [], cs => .ok (value, cs)
  | _ :: _, [] => fail .eofInValue []
  | l :: letters, c :: cs => if l = c then readIdent letters value cs else fail .expectedIdent cs

/-- What stands behind an item of a list: another item or the end. -/
def readListNext (first : Bool) (cs : List Char) : Except ReadError (Bool × List Char) :=
  match skipBlanks cs with
  | [] => fail .eofInList []
  | ']' :: rest => .ok (false, rest)
  | c :: rest =>
    if first then .ok (true, c :: rest)
    else if c = ',' then
      match skipBlanks rest with
      | [] => fail .eofInValue []
      | ']' :: r => fail .trailingComma r
      | r => .ok (true, r)
    else fail .expectedListEnd rest

/-- The name of the next field with its colon, or the end of an object. -/
def readName (first : Bool) (cs : List Char) : Except ReadError (Option String × List Char) := do
  let name (cs : List Char) : Except ReadError (Option String × List Char) := do
    match cs with
    | [] => fail .eofInValue []
    | '"' :: rest =>
      let (name, rest) ← readString rest
      return (some name, rest)
    | c :: rest =>
      if c = Char.ofNat 0x7d then fail .trailingComma rest else fail .keyNotString rest
  match skipBlanks cs with
  | [] => fail .eofInObject []
  | c :: rest =>
    if c = Char.ofNat 0x7d then return (none, rest)
    else if first then name (c :: rest)
    else if c = ',' then name (skipBlanks rest)
    else fail .expectedObjectEnd rest

/-- The colon behind the name of a field. -/
def readColon (cs : List Char) : Except ReadError (Unit × List Char) :=
  match skipBlanks cs with
  | [] => fail .eofInObject []
  | ':' :: rest => .ok ((), rest)
  | _ :: rest => fail .expectedColon rest

mutual

/-- A value; `depth` is how deep it may nest. -/
def readValueFrom (fuel depth : Nat) (cs : List Char) : Except ReadError (Json × List Char) :=
  match fuel with
  | 0 => fail .eofInValue []
  | fuel + 1 =>
    match skipBlanks cs with
    | [] => fail .eofInValue []
    | 'n' :: rest => readIdent ['u', 'l', 'l'] .null rest
    | 't' :: rest => readIdent ['r', 'u', 'e'] (.bool true) rest
    | 'f' :: rest => readIdent ['a', 'l', 's', 'e'] (.bool false) rest
    | '-' :: rest => readNumber true rest
    | '"' :: rest => do
      let (s, rest) ← readString rest
      return (.string s, rest)
    | c :: rest =>
      if c.isDigit then readNumber false (c :: rest)
      else if c = '[' then
        if depth ≤ 1 then fail .tooDeep rest
        else do
          let (items, rest) ← readItemsFrom fuel (depth - 1) true rest
          return (.array items, rest)
      else if c = Char.ofNat 0x7b then
        if depth ≤ 1 then fail .tooDeep rest
        else do
          let (fields, rest) ← readFieldsFrom fuel (depth - 1) true rest
          return (ofFields fields, rest)
      else fail .expectedValue rest

/-- The items of a list up to its end. -/
def readItemsFrom (fuel depth : Nat) (first : Bool) (cs : List Char) :
    Except ReadError (List Json × List Char) :=
  match fuel with
  | 0 => fail .eofInList []
  | fuel + 1 => do
    let (more, cs) ← readListNext first cs
    if more then
      let (item, cs) ← readValueFrom fuel depth cs
      let (items, cs) ← readItemsFrom fuel depth false cs
      return (item :: items, cs)
    else return ([], cs)

/-- The fields of an object up to its end. -/
def readFieldsFrom (fuel depth : Nat) (first : Bool) (cs : List Char) :
    Except ReadError (List (String × Json) × List Char) :=
  match fuel with
  | 0 => fail .eofInObject []
  | fuel + 1 => do
    let (name?, cs) ← readName first cs
    match name? with
    | none => return ([], cs)
    | some name =>
      let ((), cs) ← readColon cs
      let (value, cs) ← readValueFrom fuel depth cs
      let (fields, cs) ← readFieldsFrom fuel depth false cs
      return ((name, value) :: fields, cs)

end

/-- How deep values may nest, and one more. -/
def depthLimit : Nat := 128

/-- The value at the front of a text. -/
def readValue (cs : List Char) : Except ReadError (Json × List Char) :=
  readValueFrom (2 * cs.length + 2) depthLimit cs

/-- The value that a whole text is. -/
def parse (text : String) : Except ReadError Json := do
  let (value, rest) ← readValue text.toList
  match skipBlanks rest with
  | [] => return value
  | _ :: r => (fail .trailingCharacters r).map Prod.fst

/-- The line and the column, in bytes, of the end of a text. -/
def placeAfter (read : List Char) : Nat × Nat :=
  read.foldl (fun (line, column) c =>
    if c = '\n' then (line + 1, 0) else (line, column + c.utf8Size)) (1, 0)

/-- The wording of an error in a text. -/
def ReadError.message (e : ReadError) (text : List Char) : String :=
  match e.fault with
  | .unreadable why => why
  | _ =>
    let (line, column) := placeAfter (text.take (text.length - e.left))
    e.fault.message ++ " at line " ++ Text.Decimal.text line ++ " column "
      ++ Text.Decimal.text column

end SeedVault.Json
