import SeedVault.Text.Decimal

/-!
# Spans of time

A span is a number of milliseconds. It is written in seconds with the fraction that remains, or in
milliseconds if it is shorter than a second; the empty span is written in nanoseconds.
-/

namespace SeedVault.Text

/-- The last nonzero digit and all digits before it. -/
def dropTrailingZeros (cs : List Char) : List Char := (cs.reverse.dropWhile (· == '0')).reverse

/-- The text of a span of `ms` milliseconds. -/
def spanText (ms : Nat) : String :=
  if ms = 0 then "0ns"
  else if ms < 1000 then Decimal.text ms ++ "ms"
  else
    let places := dropTrailingZeros ((Decimal.write (1000 + ms % 1000)).drop 1)
    let fraction := if places = [] then "" else "." ++ String.ofList places
    Decimal.text (ms / 1000) ++ fraction ++ "s"

end SeedVault.Text
