import SeedVault.Config.Basic
import SeedVault.Phrase.Entropy
import SeedVault.Report.Basic
import SeedVault.Storage.Layout

/-!
# The machine a command runs on

All that a command can read or change: files, variables, its input, a source of entropy, the
network, and what it has written.
-/

namespace SeedVault

/-- A machine. -/
structure Machine where
  files : Directory
  /-- The directory at which relative paths start. -/
  current : List String
  environment : String → Option String
  /-- What is read from the standard input. -/
  input : Except IoError String
  entropy : EntropySource
  network : Network
  /-- The results written so far. -/
  output : String := ""
  /-- The messages written so far. -/
  messages : String := ""

/-- Something to do on a machine, which gives an `α` or fails. -/
abbrev Job (α : Type) : Type := ExceptT Report (StateM Machine) α

namespace Job

/-- A result that does not depend on the machine. -/
def ofExcept {α : Type} (x : Except Report α) : Job α := fun m => (x, m)

/-- Writes a result. -/
def print (text : String) : StateM Machine Unit :=
  modify fun m => { m with output := m.output ++ text }

/-- Writes a message. -/
def tell (text : String) : StateM Machine Unit :=
  modify fun m => { m with messages := m.messages ++ text }

/-- Says which of how many steps begins. -/
def announce (index total : Nat) (what : String) : StateM Machine Unit :=
  tell ("[" ++ Text.Decimal.text index ++ "/" ++ Text.Decimal.text total ++ "] " ++ what ++ "\n")

/-- Writes a value as a result. -/
def printJson (v : Json) : Job Unit := print (Json.write v)

/-- Draws a fresh phrase. -/
def drawPhrase (c : WordCount) : StateM Machine Mnemonic :=
  modifyGet fun m =>
    let (phrase, entropy) := m.entropy.generate c
    (phrase, { m with entropy })

/-- The configuration below a root. -/
def configuration (l : Layout) : Job Configuration := do
  let m ← get
  let content := m.files.readFile (pathFrom m.current l.appConfig)
  ofExcept ((Configuration.ofFileOrDefault content).mapError Report.ofConfig)

/-- The deriver that the configuration asks for. -/
def deriver (l : Layout) (c : Configuration) : Job AccountDeriver :=
  ofExcept (noting ("invalid config (" ++ l.appConfig ++ ")") Report.ofDerive c.deriver)

end Job

end SeedVault
