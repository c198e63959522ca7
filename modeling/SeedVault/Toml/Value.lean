import SeedVault.Toml.Token

/-!
# Values of TOML

A value is written on the right of a key. Whole numbers are decimal with an optional sign, or
hexadecimal, octal or binary; underscores may stand between digits. Each value keeps the place where
it starts.
-/

namespace SeedVault.Toml

/-- A value, with the number of characters from its start to the end of the document. -/
inductive Value where
  | integer (n : Int) (start : Nat)
  | float (text : String) (start : Nat)
  | bool (b : Bool) (start : Nat)
  | text (s : String) (start : Nat)
  | date (start : Nat)
  | array (items : List Value) (start : Nat)
  /-- A table; `fault` stands behind its entries if more of it is spelled wrongly. -/
  | table (entries : List (String × Value)) (fault : Option ReadError) (start : Nat)
  /-- A table that keys with points in them have made; such keys may add to it. -/
  | dotted (entries : List (String × Value)) (start : Nat)
  deriving Repr

namespace Value

/-- The place where a value starts. -/
def start : Value → Nat
  | integer _ n | float _ n | bool _ n | text _ n | date n | array _ n | table _ _ n
  | dotted _ n => n

/-- A number as if it started elsewhere. -/
def startingAt (at_ : Nat) : Value → Value
  | integer n _ => integer n at_
  | float s _ => float s at_
  | v => v

/-- The value of a digit in a base. -/
def digitIn? (base : Nat) (c : Char) : Option Nat :=
  match hexDigit? c with
  | some d => if d < base then some d else none
  | none => none

/-- The length of the digits at the front of a word, underscores included. `start` places the word,
`at_` the next character. -/
def scanDigits (base start at_ : Nat) (leadingZeros first zero underscore : Bool) :
    List Char → Except ReadError Nat
  | [] => if first || underscore then .error ⟨.invalidNumber, start⟩ else .ok 0
  | c :: cs =>
    if c = '0' ∧ first then
      (scanDigits base start (at_ - 1) leadingZeros false true underscore cs).map (· + 1)
    else if (digitIn? base c).isSome then
      if !first && zero && !leadingZeros then .error ⟨.invalidNumber, at_⟩
      else (scanDigits base start (at_ - 1) leadingZeros false zero false cs).map (· + 1)
    else if c = '_' ∧ first then .error ⟨.invalidNumber, at_⟩
    else if c = '_' ∧ !underscore then
      (scanDigits base start (at_ - 1) leadingZeros false zero true cs).map (· + 1)
    else if first || underscore then .error ⟨.invalidNumber, start⟩
    else .ok 0

/-- A word cut behind the digits at its front, a sign included if one is allowed. -/
def splitDigits (base start : Nat) (sign leadingZeros : Bool) (cs : List Char) :
    Except ReadError (List Char × List Char) := do
  let signs :=
    match cs with
    | c :: _ => if sign && (c == '+' || c == '-') then 1 else 0
    | [] => 0
  let count ← scanDigits base start (start - signs) leadingZeros true false false (cs.drop signs)
  return (cs.take (signs + count), cs.drop (signs + count))

/-- The number that digits spell, underscores apart. -/
def digitsValue (base : Nat) (cs : List Char) : Nat :=
  cs.foldl (fun n c => (digitIn? base c).elim n (n * base + ·)) 0

/-- A whole number. -/
def readInteger (base start : Nat) (cs : List Char) : Except ReadError Int := do
  let (digits, rest) ← splitDigits base start (base = 10) (base ≠ 10) cs
  if rest ≠ [] then throw ⟨.invalidNumber, start⟩
  else
    let size := digitsValue base digits
    let n : Int := if digits.head? = some '-' then -size else size
    if Text.Decimal.fits64 n then return n else throw ⟨.invalidNumber, start⟩

/-- Is the number that digits before a point and an exponent spell below the largest fraction? -/
def isFinite (whole fraction exponent : List Char) : Bool :=
  let significand := digitsValue 10 (whole ++ fraction)
  let size := digitsValue 10 exponent
  if significand = 0 ∨ exponent.head? = some '-' then true
  else if size > 400 + fraction.length then false
  else
    significand * Nat.pow 10 size <
      (Nat.pow 2 1024 - Nat.pow 2 970) * Nat.pow 10 (fraction.filter (· ≠ '_')).length

/-- The rest of a fraction behind its digits before the point. -/
def readExponent (start : Nat) (suffix cs : List Char) :
    Except ReadError (List Char × List Char) := do
  match suffix with
  | [] => return ([], cs)
  | c :: digits =>
    if c ≠ 'e' ∧ c ≠ 'E' then throw ⟨.invalidNumber, start⟩
    else if digits = [] then
      let (_, cs) ← eat .plus cs
      let at_ := cs.length
      let (found, cs) ← readToken cs
      match found with
      | some (.keylike s) =>
        let (digits, rest) ← splitDigits 10 at_ false true s.toList
        if rest ≠ [] then throw ⟨.invalidNumber, start⟩ else return (digits, cs)
      | _ => throw ⟨.invalidNumber, start⟩
    else
      let at_ := start
      let (digits, rest) ← splitDigits 10 at_ true true digits
      if rest ≠ [] then throw ⟨.invalidNumber, start⟩ else return (digits, cs)

/-- A fraction that starts with a word and may go on behind it. -/
def readFloat (start : Nat) (word : List Char) (after : Option (List Char)) (cs : List Char) :
    Except ReadError (Value × List Char) := do
  let (whole, suffix) ← splitDigits 10 start true false word
  let (fraction, suffix) ←
    match after with
    | none => pure ([], suffix)
    | some places =>
      if suffix ≠ [] then throw ⟨.invalidNumber, start⟩
      else splitDigits 10 (cs.length + places.length) false true places
  let (exponent, cs) ← readExponent start suffix cs
  if isFinite whole fraction exponent then
    let point := if fraction = [] then [] else '.' :: fraction
    let power := if exponent = [] then [] else 'E' :: exponent
    return (.float (String.ofList ((whole ++ point ++ power).filter (· ≠ '_'))) start, cs)
  else throw ⟨.invalidNumber, start⟩

/-- A number whose first word has been read. -/
def readNumber (start : Nat) (word cs : List Char) : Except ReadError (Value × List Char) := do
  let based (base : Nat) (digits : List Char) : Except ReadError (Value × List Char) := do
    let n ← readInteger base (start - 2) digits
    return (.integer n start, cs)
  match word with
  | '0' :: 'x' :: digits => based 16 digits
  | '0' :: 'o' :: digits => based 8 digits
  | '0' :: 'b' :: digits => based 2 digits
  | _ =>
    if word.contains 'e' || word.contains 'E' then readFloat start word none cs
    else
      let (point, cs) ← eat .period cs
      if point then
        let at_ := cs.length
        let (found, cs) ← readToken cs
        match found with
        | some (.keylike after) => readFloat start word (some after.toList) cs
        | _ => throw ⟨.invalidNumber, at_⟩
      else if ["inf", "-inf", "nan", "-nan"].contains (String.ofList word) then
        return (.float (String.ofList word) start, cs)
      else
        let n ← readInteger 10 start word
        return (.integer n start, cs)

/-- A word that has to come next in a date. -/
def expectWord (start : Nat) (cs : List Char) : Except ReadError (Unit × List Char) := do
  let (found, rest) ← readToken cs
  match found with
  | some (.keylike _) => return ((), rest)
  | _ => throw ⟨.invalidDate, start⟩

/-- A word behind a mark, if the mark comes next. -/
def wordBehind (mark : Token) (start : Nat) (cs : List Char) :
    Except ReadError (Unit × List Char) := do
  let (found, rest) ← eat mark cs
  if found then expectWord start rest else return ((), cs)

/-- A space and the hour behind it, if they come next. -/
def dropHour (cs : List Char) : List Char :=
  match cs with
  | ' ' :: c :: rest => if isKeyChar c then (c :: rest).dropWhile isKeyChar else cs
  | _ => cs

/-- A date or time whose first word has been read, and the colon behind it if `colon`. -/
def readDate (start : Nat) (colon : Bool) (cs : List Char) :
    Except ReadError (Value × List Char) := do
  let cs := dropHour cs
  let (more, cs) ← if colon then .ok (true, cs) else eat .colon cs
  if more then
    let (_, cs) ← expectWord start cs
    let (_, cs) ← expect .colon cs
    let (_, cs) ← expectWord start cs
    let (_, cs) ← wordBehind .period start cs
    let (_, cs) ← wordBehind .plus start cs
    let (_, cs) ← wordBehind .colon start cs
    return (.date start, cs)
  else return (.date start, cs)

/-- Does a word start a date? -/
def startsDate (word : List Char) : Bool :=
  let inside := word.drop 1
  let exponent (cs : List Char) := (cs.zip (cs.drop 1)).any fun (c, d) =>
    (c == 'e' || c == 'E') && d == '-'
  word.contains 'T' || word.contains 't' || (inside.contains '-' && !exponent word)

/-- A value that starts with a bare word. -/
def readWord (start : Nat) (word cs : List Char) : Except ReadError (Value × List Char) := do
  let starts := match word with | c :: _ => c == '-' || c.isDigit | [] => false
  if word = "inf".toList ∨ word = "nan".toList then readNumber start word cs
  else if !starts then throw ⟨.unquotedString, start⟩
  else if startsDate word then readDate start false cs
  else
    let (colon, cs) ← eat .colon cs
    if colon then readDate start true cs else readNumber start word cs

/-- Puts a value under a key of several parts behind the entries already there. -/
def addEntry (key : List String) (v : Value) (entries : List (String × Value)) :
    Except ReadError (List (String × Value)) :=
  match key with
  | [] => .ok entries
  | [name] => .ok (entries ++ [(name, v)])
  | name :: rest =>
    let rec extend (before : List (String × Value)) :
        List (String × Value) → Except ReadError (List (String × Value))
      | [] => do
        let inner ← addEntry rest v []
        return before ++ [(name, .dotted inner v.start)]
      | (n, old) :: others =>
        if n = name then
          match old with
          | .dotted inner at_ => do
            let inner ← addEntry rest v inner
            return before ++ (n, .dotted inner at_) :: others
          | _ => .error ⟨.dottedKeyType, old.start⟩
        else extend (before ++ [(n, old)]) others
    extend [] entries

/-- A key of several parts. -/
def readDottedKey (fuel : Nat) (cs : List Char) :
    Except ReadError (List String × List Char) := do
  match fuel with
  | 0 => throw ⟨.unexpectedEof, 0⟩
  | fuel + 1 =>
    let (name, cs) ← readKey cs
    let (more, cs) ← eat .period (dropBlanks cs)
    if more then
      let (names, cs) ← readDottedKey fuel (dropBlanks cs)
      return (name :: names, cs)
    else return ([name], cs)

/-- The text behind blanks, line ends and comments. -/
def dropLines (fuel : Nat) (cs : List Char) : Except ReadError (Unit × List Char) := do
  match fuel with
  | 0 => return ((), cs)
  | fuel + 1 =>
    let cs := dropBlanks cs
    match next? cs with
    | some ('\n', rest) => dropLines fuel rest
    | _ =>
      let (comment, rest) ← eatComment cs
      if comment then dropLines fuel rest else return ((), cs)

mutual

/-- A value. -/
def readFrom (fuel : Nat) (cs : List Char) : Except ReadError (Value × List Char) := do
  match fuel with
  | 0 => throw ⟨.unexpectedEof, 0⟩
  | fuel + 1 =>
    let start := cs.length
    let (found, rest) ← readToken cs
    match found with
    | none => throw ⟨.unexpectedEof, 0⟩
    | some (.text s _) => return (.text s start, rest)
    | some (.keylike "true") => return (.bool true start, rest)
    | some (.keylike "false") => return (.bool false start, rest)
    | some (.keylike word) => readWord start word.toList rest
    | some .plus =>
      let (found, after) ← readToken rest
      match found with
      | some (.keylike word) =>
        let (v, rest) ← readNumber rest.length word.toList after
        return (v.startingAt start, rest)
      | _ => throw ⟨.invalidNumber, rest.length⟩
    | some .leftBrace =>
      let rest := dropBlanks rest
      let (done, rest) ← eat .rightBrace rest
      if done then return (.table [] none start, rest)
      else
        let (entries, rest) ← readEntries fuel [] rest
        return (.table entries none start, rest)
    | some .leftBracket =>
      let (items, rest) ← readItems fuel rest
      return (.array items start, rest)
    | some t => throw ⟨.wanted "a value" t.describe, start⟩

/-- The entries of a table in braces, behind those already read. -/
def readEntries (fuel : Nat) (entries : List (String × Value)) (cs : List Char) :
    Except ReadError (List (String × Value) × List Char) := do
  match fuel with
  | 0 => throw ⟨.unexpectedEof, 0⟩
  | fuel + 1 =>
    let (key, cs) ← readDottedKey fuel cs
    let (_, cs) ← expect .equals (dropBlanks cs)
    let (v, cs) ← readFrom fuel (dropBlanks cs)
    let entries ← addEntry key v entries
    let (done, cs) ← eat .rightBrace (dropBlanks cs)
    if done then return (entries, cs)
    else
      let (_, cs) ← expect .comma cs
      readEntries fuel entries (dropBlanks cs)

/-- The items of an array. -/
def readItems (fuel : Nat) (cs : List Char) : Except ReadError (List Value × List Char) := do
  match fuel with
  | 0 => throw ⟨.unexpectedEof, 0⟩
  | fuel + 1 =>
    let (_, cs) ← dropLines (cs.length + 1) cs
    let (done, cs) ← eat .rightBracket cs
    if done then return ([], cs)
    else
      let (v, cs) ← readFrom fuel cs
      let (_, cs) ← dropLines (cs.length + 1) cs
      let (more, cs) ← eat .comma cs
      if more then
        let (vs, cs) ← readItems fuel cs
        return (v :: vs, cs)
      else
        let (_, cs) ← dropLines (cs.length + 1) cs
        let (_, cs) ← expect .rightBracket cs
        return ([v], cs)

end

end Value

end SeedVault.Toml
