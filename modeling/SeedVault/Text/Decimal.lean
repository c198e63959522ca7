/-!
# Decimal numbers

Numbers are written without sign or leading zeros. They are read with any number of leading zeros
and at most one leading plus sign, up to a limit; the first character that is at fault decides the
error.
-/

namespace SeedVault.Text.Decimal

/-- The digits of a number, most significant first. -/
def write (n : Nat) : List Char :=
  if n < 10 then [Char.ofNat (48 + n)] else write (n / 10) ++ [Char.ofNat (48 + n % 10)]
termination_by n

/-- The decimal text of a number. -/
def text (n : Nat) : String := String.ofList (write n)

/-- The value of a digit. -/
def digit? (c : Char) : Option Nat :=
  if '0' ≤ c ∧ c ≤ '9' then some (c.toNat - 48) else none

/-- Why a text is no number in range. -/
inductive Fault where
  | empty
  | invalidDigit
  | tooLarge
  deriving DecidableEq, Repr

/-- The wording of a fault. -/
def Fault.message : Fault → String
  | .empty => "cannot parse integer from empty string"
  | .invalidDigit => "invalid digit found in string"
  | .tooLarge => "number too large to fit in target type"

/-- Continues reading behind digits of value `n`. -/
def readFrom (limit n : Nat) : List Char → Except Fault Nat
  | [] => .ok n
  | c :: cs =>
    match digit? c with
    | none => .error .invalidDigit
    | some d => if n * 10 + d ≤ limit then readFrom limit (n * 10 + d) cs else .error .tooLarge

/-- The number a text spells, if it is at most `limit`. -/
def read (limit : Nat) : List Char → Except Fault Nat
  | [] => .error .empty
  | ['+'] => .error .invalidDigit
  | '+' :: cs => readFrom limit 0 cs
  | cs => readFrom limit 0 cs

/-- The largest number on 32 bits. -/
def max32 : Nat := 0xffffffff

/-- The largest number on 64 bits. -/
def max64 : Nat := 0xffffffffffffffff

/-- Does a number with a sign fit into 64 bits? -/
def fits64 (n : Int) : Bool := -0x8000000000000000 ≤ n && n < 0x8000000000000000

end SeedVault.Text.Decimal
