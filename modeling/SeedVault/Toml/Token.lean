import SeedVault.Text.Blank
import SeedVault.Text.Decimal
import SeedVault.Text.Split

/-!
# Tokens of TOML

A document is read token by token: bare words, strings in their four spellings, and single
characters. A carriage return in front of a line feed does not count. A fault is placed by the
number of characters from it to the end of the document.
-/

namespace SeedVault.Toml

/-- A token. -/
inductive Token where
  | keylike (text : String)
  | text (value : String) (multiline : Bool)
  | whitespace
  | comment
  | newline
  | equals
  | period
  | comma
  | colon
  | plus
  | leftBrace
  | rightBrace
  | leftBracket
  | rightBracket
  deriving DecidableEq, Repr

/-- The name of a kind of token. -/
def Token.describe : Token → String
  | keylike _ => "an identifier"
  | text _ true => "a multiline string"
  | text _ false => "a string"
  | whitespace => "whitespace"
  | comment => "a comment"
  | newline => "a newline"
  | equals => "an equals"
  | period => "a period"
  | comma => "a comma"
  | colon => "a colon"
  | plus => "a plus"
  | leftBrace => "a left brace"
  | rightBrace => "a right brace"
  | leftBracket => "a left bracket"
  | rightBracket => "a right bracket"

/-- What is wrong with a document. -/
inductive Fault where
  | unexpectedEof
  | invalidCharInString (c : Char)
  | invalidEscape (c : Char)
  | invalidHexEscape (c : Char)
  | invalidEscapeValue (n : Nat)
  | newlineInString
  | unexpected (c : Char)
  | unterminatedString
  | wanted (expected found : String)
  | invalidNumber
  | invalidDate
  | duplicateTable (name : String)
  | redefinedAsArray
  | multilineKey
  | dottedKeyType
  | unquotedString
  /-- The document is sound but its contents are not what is wanted. -/
  | contents (what : String)
  deriving DecidableEq, Repr

/-- A character in an error: hidden ones and those outside ASCII as escapes. -/
def escapeChar (c : Char) : String :=
  match c with
  | '\t' => "\\t"
  | '\r' => "\\r"
  | '\n' => "\\n"
  | '\'' => "\\'"
  | '"' => "\\\""
  | '\\' => "\\\\"
  | _ =>
    if 32 ≤ c.toNat ∧ c.toNat < 127 then c.toString
    else "\\u\x7b" ++ String.ofList (Nat.toDigits 16 c.toNat) ++ "\x7d"

/-- The wording of a fault. -/
def Fault.message : Fault → String
  | unexpectedEof => "unexpected eof encountered"
  | invalidCharInString c => "invalid character in string: \x60" ++ escapeChar c ++ "\x60"
  | invalidEscape c => "invalid escape character in string: \x60" ++ escapeChar c ++ "\x60"
  | invalidHexEscape c => "invalid hex escape character in string: \x60" ++ escapeChar c ++ "\x60"
  | invalidEscapeValue n => "invalid escape value: \x60" ++ Text.Decimal.text n ++ "\x60"
  | newlineInString => "newline in string found"
  | unexpected c => "unexpected character found: \x60" ++ escapeChar c ++ "\x60"
  | unterminatedString => "unterminated string"
  | wanted expected found => "expected " ++ expected ++ ", found " ++ found
  | invalidNumber => "invalid number"
  | invalidDate => "invalid date"
  | duplicateTable name => "redefinition of table \x60" ++ name ++ "\x60"
  | redefinedAsArray => "table redefined as array"
  | multilineKey => "multiline strings are not allowed for key"
  | dottedKeyType => "dotted key attempted to extend non-table type"
  | unquotedString => "invalid TOML value, did you mean to use a quoted string?"
  | contents what => what

/-- A fault and the number of characters from it to the end. -/
structure ReadError where
  fault : Fault
  left : Nat
  deriving DecidableEq, Repr

/-- The first character and the rest. -/
def next? : List Char → Option (Char × List Char)
  | [] => none
  | '\r' :: '\n' :: rest => some ('\n', rest)
  | c :: rest => some (c, rest)

/-- May the character stand in a bare word? -/
def isKeyChar (c : Char) : Bool := c.isAlphanum || c == '-' || c == '_'

/-- The text behind blanks. -/
def dropBlanks (cs : List Char) : List Char := cs.dropWhile fun c => c == ' ' || c == '\t'

/-- The text behind blanks and line ends. -/
def dropSpace (cs : List Char) : List Char :=
  match cs with
  | [] => []
  | '\r' :: '\n' :: rest => dropSpace rest
  | c :: rest => if c == ' ' || c == '\t' || c == '\n' then dropSpace rest else c :: rest

/-- May the character stand in a string as it is? -/
def isPlain (c : Char) : Bool := c == '\t' || (32 ≤ c.toNat && c.toNat ≠ 127)

/-- The value of a hexadecimal digit. -/
def hexDigit? (c : Char) : Option Nat :=
  if '0' ≤ c ∧ c ≤ '9' then some (c.toNat - 48)
  else if 'a' ≤ c ∧ c ≤ 'f' then some (c.toNat - 87)
  else if 'A' ≤ c ∧ c ≤ 'F' then some (c.toNat - 55)
  else none

/-- The number of `count` hexadecimal digits behind digits of value `n`; `start` places the string
they stand in. -/
def readHex (start count n : Nat) (cs : List Char) : Except ReadError (Nat × List Char) :=
  match count with
  | 0 => .ok (n, cs)
  | count + 1 =>
    match next? cs with
    | none => .error ⟨.unterminatedString, start⟩
    | some (c, rest) =>
      match hexDigit? c with
      | some d => readHex start count (n * 16 + d) rest
      | none => .error ⟨.invalidHexEscape c, cs.length⟩

/-- The character of an escape given by its code. -/
def readCode (start at_ count : Nat) (cs : List Char) : Except ReadError (Char × List Char) := do
  let (n, rest) ← readHex start count 0 cs
  if n < 0xd800 ∨ (0xe000 ≤ n ∧ n < 0x110000) then return (Char.ofNat n, rest)
  else throw ⟨.invalidEscapeValue n, at_⟩

/-- The characters that an escape behind a backslash stands for. -/
def readEscape (start : Nat) (multiline : Bool) (cs : List Char) :
    Except ReadError (List Char × List Char) :=
  match next? cs with
  | none => .error ⟨.unterminatedString, start⟩
  | some (c, rest) =>
    match c with
    | '"' => .ok (['"'], rest)
    | '\\' => .ok (['\\'], rest)
    | 'b' => .ok (['\x08'], rest)
    | 'f' => .ok (['\x0c'], rest)
    | 'n' => .ok (['\n'], rest)
    | 'r' => .ok (['\r'], rest)
    | 't' => .ok (['\t'], rest)
    | 'u' => do
      let (d, rest) ← readCode start cs.length 4 rest
      return ([d], rest)
    | 'U' => do
      let (d, rest) ← readCode start cs.length 8 rest
      return ([d], rest)
    | _ =>
      if multiline ∧ c = '\n' then .ok ([], dropSpace rest)
      else if multiline ∧ (c = ' ' ∨ c = '\t') then
        match next? (dropBlanks rest) with
        | some ('\n', rest) => .ok ([], dropSpace rest)
        | some _ => .error ⟨.invalidEscape c, cs.length⟩
        | none => .ok ([], [])
      else .error ⟨.invalidEscape c, cs.length⟩

/-- The quotes at the end of a string of several lines: how many of them belong to it. -/
def closingQuotes (delimiter : Char) (cs : List Char) : Option (Nat × List Char) :=
  let count := (cs.takeWhile (· == delimiter)).length
  if count < 3 then none
  else
    let used := min count 5
    some (used - 3, cs.drop used)

/-- The rest of a string, up to and with what closes it; `start` places its first quote. -/
def readText (fuel start : Nat) (delimiter : Char) (multiline : Bool) (sofar cs : List Char) :
    Except ReadError (String × List Char) :=
  match fuel with
  | 0 => .error ⟨.unterminatedString, start⟩
  | fuel + 1 =>
    match next? cs with
    | none => .error ⟨.unterminatedString, start⟩
    | some (c, rest) =>
      if c = '\n' then
        if multiline then readText fuel start delimiter multiline ('\n' :: sofar) rest
        else .error ⟨.newlineInString, cs.length⟩
      else if c = delimiter then
        if multiline then
          match closingQuotes delimiter cs with
          | some (inside, behind) =>
            .ok (String.ofList (sofar.reverse ++ List.replicate inside delimiter), behind)
          | none => readText fuel start delimiter multiline (c :: sofar) rest
        else .ok (String.ofList sofar.reverse, rest)
      else if c = '\\' ∧ delimiter = '"' then
        match readEscape start multiline rest with
        | .error e => .error e
        | .ok (ds, rest) => readText fuel start delimiter multiline (ds.reverse ++ sofar) rest
      else if isPlain c then readText fuel start delimiter multiline (c :: sofar) rest
      else .error ⟨.invalidCharInString c, cs.length⟩

/-- A string behind its first quote. -/
def readString (delimiter : Char) (cs : List Char) : Except ReadError (Token × List Char) := do
  let start := cs.length + 1
  match cs with
  | c :: d :: rest =>
    if c = delimiter ∧ d = delimiter then
      let body := match next? rest with | some ('\n', r) => r | _ => rest
      let (value, rest) ← readText (body.length + 1) start delimiter true [] body
      return (.text value true, rest)
    else
      let (value, rest) ← readText (cs.length + 1) start delimiter false [] cs
      return (.text value false, rest)
  | _ =>
    let (value, rest) ← readText (cs.length + 1) start delimiter false [] cs
    return (.text value false, rest)

/-- The text behind a comment, up to the end of its line. -/
def dropComment (cs : List Char) : List Char :=
  cs.dropWhile fun c => c == '\t' || 32 ≤ c.toNat

/-- The next token, if the text has not ended. -/
def readToken (cs : List Char) : Except ReadError (Option Token × List Char) :=
  match next? cs with
  | none => .ok (none, [])
  | some (c, rest) =>
    let one (t : Token) : Except ReadError (Option Token × List Char) := .ok (some t, rest)
    match c with
    | '\n' => one .newline
    | '=' => one .equals
    | '.' => one .period
    | ',' => one .comma
    | ':' => one .colon
    | '+' => one .plus
    | '[' => one .leftBracket
    | ']' => one .rightBracket
    | '#' => .ok (some .comment, dropComment rest)
    | '\'' => (readString '\'' rest).map fun (t, r) => (some t, r)
    | '"' => (readString '"' rest).map fun (t, r) => (some t, r)
    | _ =>
      if c = ' ' ∨ c = '\t' then .ok (some .whitespace, dropBlanks rest)
      else if c = Char.ofNat 0x7b then one .leftBrace
      else if c = Char.ofNat 0x7d then one .rightBrace
      else if isKeyChar c then
        .ok (some (.keylike (String.ofList (cs.takeWhile isKeyChar))), cs.dropWhile isKeyChar)
      else .error ⟨.unexpected c, cs.length⟩

/-- The text behind a token, if that is what comes next. -/
def eat (t : Token) (cs : List Char) : Except ReadError (Bool × List Char) := do
  let (found, rest) ← readToken cs
  return if found = some t then (true, rest) else (false, cs)

/-- The error for a token in place of another one. -/
def unwanted {α : Type} (expected : String) (found : Option Token) (at_ : Nat) :
    Except ReadError (α × List Char) :=
  match found with
  | some t => .error ⟨.wanted expected t.describe, at_⟩
  | none => .error ⟨.wanted expected "eof", 0⟩

/-- The text behind a token that has to come next. -/
def expect (t : Token) (cs : List Char) : Except ReadError (Unit × List Char) := do
  let (found, rest) ← readToken cs
  if found = some t then return ((), rest) else unwanted t.describe found cs.length

/-- The text behind the end of a line, or the end of the text. -/
def expectLineEnd (cs : List Char) : Except ReadError (Unit × List Char) := do
  let (found, rest) ← readToken cs
  match found with
  | none => return ((), rest)
  | some .newline => return ((), rest)
  | some t => throw ⟨.wanted "newline" t.describe, cs.length⟩

/-- The text behind a comment with its line end, if there is one. -/
def eatComment (cs : List Char) : Except ReadError (Bool × List Char) := do
  match cs with
  | '#' :: rest =>
    let (_, rest) ← expectLineEnd (dropComment rest)
    return (true, rest)
  | _ => return (false, cs)

/-- The name of a key. -/
def readKey (cs : List Char) : Except ReadError (String × List Char) := do
  let (found, rest) ← readToken cs
  match found with
  | some (.keylike s) => return (s, rest)
  | some (.text s false) => return (s, rest)
  | some (.text _ true) => throw ⟨.multilineKey, cs.length⟩
  | t => unwanted "a table key" t cs.length

end SeedVault.Toml
