/-!
# Cutting and joining text

Text is worked on as a list of characters. `splitBy` cuts at every character of a class and keeps
empty parts, so `k` separators give `k + 1` parts; `joinWith` puts one separator between
neighbours.
-/

namespace SeedVault.Text

/-- The parts of a text between the characters that satisfy `p`. -/
def splitBy (p : Char → Bool) : List Char → List (List Char)
  | [] => [[]]
  | c :: cs =>
    if p c then [] :: splitBy p cs
    else
      match splitBy p cs with
      | [] => [[c]]
      | w :: ws => (c :: w) :: ws

/-- The parts of a text between the occurrences of one character. -/
def splitAtChar (sep : Char) (cs : List Char) : List (List Char) := splitBy (· == sep) cs

/-- The parts with `sep` between neighbours. -/
def joinWith (sep : List Char) : List (List Char) → List Char
  | [] => []
  | [w] => w
  | w :: ws => w ++ sep ++ joinWith sep ws

/-- A text has at least one part, be it an empty one. -/
theorem splitBy_ne_nil (p : Char → Bool) (cs : List Char) : splitBy p cs ≠ [] := by
  cases cs with
  | nil => simp [splitBy]
  | cons c cs =>
    rw [splitBy]
    split
    · simp
    · split <;> simp

/-- What follows `lead`, if the text starts with it. -/
def dropLead? (lead cs : List Char) : Option (List Char) :=
  match lead, cs with
  | [], cs => some cs
  | _ :: _, [] => none
  | l :: lead, c :: cs => if l = c then dropLead? lead cs else none

end SeedVault.Text
