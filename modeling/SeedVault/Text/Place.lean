import SeedVault.Text.Decimal

/-!
# Places in structured data

A place is reached from the root by naming a field or counting items, outermost first. Its text
joins the names by points, with the numbers of items in brackets; the root is a single point. Where
a fault keeps the next name from being known, a question mark stands for it.
-/

namespace SeedVault

/-- A step to a part of a value. -/
inductive PlaceStep where
  | field (name : String)
  | item (index : Nat)
  | unknown
  deriving DecidableEq, Repr

/-- A place in a value. -/
abbrev Place := List PlaceStep

namespace Place

/-- The text of the steps behind others, or of the first ones. -/
def textFrom (separator : String) : Place → String
  | [] => ""
  | .field name :: rest => separator ++ name ++ textFrom "." rest
  | .unknown :: rest => separator ++ "?" ++ textFrom "." rest
  | .item index :: rest => "[" ++ Text.Decimal.text index ++ "]" ++ textFrom "." rest

/-- Does a place say nothing of where it is? -/
def isVague (p : Place) : Bool := p.all (· == .unknown)

/-- The text of a place. -/
def text (p : Place) : String := if p.isVague then "." else textFrom "" p

/-- What is said of a fault at a place: if the place says nothing, the fault alone. -/
def describe (p : Place) (fault : String) : String :=
  if p.isVague then fault else p.text ++ ": " ++ fault

end Place

end SeedVault
