import SeedVault.Json.Reader

/-!
# Skipping JSON

A value that nobody asked for is skipped without being built. Less is demanded of it than of others:
it may be nested to any depth, its numbers may be of any size, and its escapes need not pair up.
-/

namespace SeedVault.Json

/-- The text behind a string whose opening quote has been read. -/
def skipStringFrom (fuel : Nat) (cs : List Char) : Except ReadError (Unit × List Char) :=
  match fuel, cs with
  | 0, _ => fail .eofInString []
  | _, [] => fail .eofInString []
  | _ + 1, '"' :: rest => .ok ((), rest)
  | fuel + 1, '\\' :: 'u' :: rest => do
    let (_, rest) ← readUnit rest
    skipStringFrom fuel rest
  | _ + 1, ['\\'] => fail .eofInString []
  | fuel + 1, '\\' :: e :: rest =>
    if (escapeChar? e).isSome then skipStringFrom fuel rest else fail .invalidEscape rest
  | fuel + 1, c :: rest =>
    if c.toNat < 32 then fail .controlCharacter rest else skipStringFrom fuel rest

/-- The text behind a string whose opening quote has been read. -/
def skipString (cs : List Char) : Except ReadError (Unit × List Char) :=
  skipStringFrom (cs.length + 1) cs

/-- The text behind a number, of which the sign has been read. -/
def skipNumber (cs : List Char) : Except ReadError (Unit × List Char) := do
  let whole := cs.takeWhile Char.isDigit
  let rest := cs.drop whole.length
  match whole with
  | [] =>
    match rest with
    | [] => fail .eofInValue []
    | _ :: r => fail .invalidNumber r
  | '0' :: _ :: _ => failAt .invalidNumber (whole.tail ++ rest)
  | _ =>
    let rest ←
      match rest with
      | '.' :: r =>
        let places := r.takeWhile Char.isDigit
        match places, r with
        | [], [] => .error ⟨.eofInValue, 0⟩
        | [], _ => .error ⟨.invalidNumber, r.length - 1⟩
        | _, _ => .ok (r.drop places.length)
      | _ => .ok rest
    let (_, rest) ← readExponent rest
    return ((), rest)

mutual

/-- The text behind a value that stands within `frames`, innermost first, and behind those. A frame
is true for an object and false for a list. -/
def skipWithin (fuel : Nat) (frames : List Bool) (cs : List Char) :
    Except ReadError (Unit × List Char) :=
  match fuel with
  | 0 => fail .eofInValue []
  | fuel + 1 =>
    match skipBlanks cs with
    | [] => fail .eofInValue []
    | 'n' :: rest => do
      let (_, rest) ← readIdent ['u', 'l', 'l'] .null rest
      skipBehind fuel false frames rest
    | 't' :: rest => do
      let (_, rest) ← readIdent ['r', 'u', 'e'] .null rest
      skipBehind fuel false frames rest
    | 'f' :: rest => do
      let (_, rest) ← readIdent ['a', 'l', 's', 'e'] .null rest
      skipBehind fuel false frames rest
    | '-' :: rest => do
      let (_, rest) ← skipNumber rest
      skipBehind fuel false frames rest
    | '"' :: rest => do
      let (_, rest) ← skipString rest
      skipBehind fuel false frames rest
    | c :: rest =>
      if c.isDigit then do
        let (_, rest) ← skipNumber (c :: rest)
        skipBehind fuel false frames rest
      else if c = '[' then skipBehind fuel true (false :: frames) rest
      else if c = Char.ofNat 0x7b then skipBehind fuel true (true :: frames) rest
      else fail .expectedValue rest

/-- The text behind the frames; `first` tells whether the innermost one is still empty. -/
def skipBehind (fuel : Nat) (first : Bool) (frames : List Bool) (cs : List Char) :
    Except ReadError (Unit × List Char) :=
  match fuel, frames with
  | 0, _ => fail .eofInValue []
  | _, [] => .ok ((), cs)
  | fuel + 1, isObject :: outer =>
    let member (cs : List Char) := do
      if isObject then
        match skipBlanks cs with
        | [] => fail .eofInObject []
        | '"' :: rest =>
          let (_, rest) ← skipString rest
          let (_, rest) ← readColon rest
          skipWithin fuel (isObject :: outer) rest
        | _ :: rest => fail .keyNotString rest
      else skipWithin fuel (isObject :: outer) cs
    match skipBlanks cs with
    | [] => fail (if isObject then .eofInObject else .eofInList) []
    | c :: rest =>
      if c = (if isObject then Char.ofNat 0x7d else ']') then skipBehind fuel false outer rest
      else if first then member (c :: rest)
      else if c = ',' then member rest
      else fail (if isObject then .expectedObjectEnd else .expectedListEnd) rest

end

/-- The text behind a value. -/
def skipValue (cs : List Char) : Except ReadError (Unit × List Char) :=
  skipWithin (2 * cs.length + 2) [] cs

end SeedVault.Json
