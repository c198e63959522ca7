import SeedVault.Json.Shape
import SeedVault.Text.Blank
import SeedVault.Text.Decimal

/-!
# Derivation paths

A path is a list of steps, each an index below `2 ^ 31` that may be hardened. It is written as `m`
followed by a slash, the decimal index and, for a hardened step, an apostrophe, for each step. Only
this spelling is read, with blanks around it or without.
-/

namespace SeedVault

/-- One step of a path. -/
structure PathStep where
  index : Nat
  hardened : Bool
  inRange : index < 0x80000000
  deriving DecidableEq, Repr

/-- A derivation path. -/
structure DerivationPath where
  steps : List PathStep
  deriving DecidableEq, Repr

/-- A text that is no path. -/
structure InvalidPath where
  text : String
  deriving DecidableEq, Repr

/-- The wording of the error. -/
def InvalidPath.message (e : InvalidPath) : String := "invalid derivation path `" ++ e.text ++ "`"

namespace PathStep

/-- The text of a step. -/
def render (s : PathStep) : List Char :=
  Text.Decimal.write s.index ++ if s.hardened then ['\''] else []

/-- An index and what is left of its text without the mark of a hardened step. -/
def splitMark (cs : List Char) : List Char × Bool :=
  match cs.getLast? with
  | some '\'' => (cs.dropLast, true)
  | _ => (cs, false)

/-- The step a text spells, if it is spelled as `render` does. -/
def parse? (cs : List Char) : Option PathStep :=
  let (digits, hardened) := splitMark cs
  match Text.Decimal.read Text.Decimal.max32 digits with
  | .ok index =>
    if h : index < 0x80000000 ∧ Text.Decimal.write index = digits then some ⟨index, hardened, h.1⟩
    else none
  | .error _ => none

end PathStep

namespace DerivationPath

/-- The text of a list of steps. -/
def render (steps : List PathStep) : List Char :=
  'm' :: steps.flatMap fun s => '/' :: s.render

/-- The text of a path. -/
def text (p : DerivationPath) : String := String.ofList (render p.steps)

/-- The steps a text spells. -/
def parseSteps? (cs : List Char) : Option (List PathStep) :=
  match Text.splitAtChar '/' cs with
  | ['m'] :: segments => segments.mapM PathStep.parse?
  | _ => none

/-- The path a text spells, blanks around it apart. -/
def parse (s : String) : Except InvalidPath DerivationPath :=
  match parseSteps? (Text.trim s.toList) with
  | some steps => .ok ⟨steps⟩
  | none => .error ⟨s⟩

/-- A path as a JSON value: its text. -/
def toJson (p : DerivationPath) : Json := .string p.text

/-- The path a JSON value is, or what is said of a value that is none. -/
def ofJson : Json → Except String DerivationPath
  | .string s => (parse s).mapError (·.message)
  | v => .error (v.wrongKind "a string")

/-- A hardened step. -/
def hardened (index : Nat) (h : index < 0x80000000 := by decide) : PathStep := ⟨index, true, h⟩

/-- A step that is not hardened. -/
def plain (index : Nat) (h : index < 0x80000000 := by decide) : PathStep := ⟨index, false, h⟩

/-- The path of the first account of the ecosystem's coin type. -/
instance : Inhabited DerivationPath :=
  ⟨⟨[hardened 44, hardened 118, hardened 0, plain 0, plain 0]⟩⟩

end DerivationPath

end SeedVault
