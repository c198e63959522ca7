import SeedVault.Command.GivenPhrase
import SeedVault.Command.KeptPhrase
import SeedVault.Command.Trial

/-!
# Runs of the tool

A run reads the command line, does what it says, and ends with a code: zero if all went well. A
failure is written as a message, with its causes.
-/

namespace SeedVault

/-- Does what the tool is told to do, below a root. -/
def Action.job (l : Layout) : Action → Job Unit
  | generate count => Job.generate count
  | validate phrase => Job.validate phrase
  | derive phrase options => Job.derive l phrase options
  | keep phrase => Job.keep l phrase
  | showKept => Job.showKept l
  | forget => Job.forget l
  | tryOut choice inProcess => Job.tryOut l choice inProcess

namespace Machine

/-- The variables that a run may look at. -/
def variableNames : List String := ["SEEDKEEPER_ROOT", "HOME"] ++ RunInputs.variableNames

/-- The root that is named, or the default one. -/
def layout (m : Machine) (named : Option String) : Layout :=
  .ofRoot (named.getD (Layout.defaultRoot (m.environment "SEEDKEEPER_ROOT") (m.environment "HOME")))

/-- Runs an action; says whether it went well. -/
def perform (root : Option String) (action : Action) (m : Machine) : Bool × Machine :=
  match action.job (m.layout root) m with
  | (.ok (), m) => (true, m)
  | (.error r, m) => (false, (Job.tell ("Error: " ++ r.text ++ "\n") m).2)

/-- Runs the tool with arguments; says whether it went well. -/
def run (args : List String) (m : Machine) : Bool × Machine :=
  match Action.command.parse args with
  | .ok (action, g) => m.perform (g.value? "root") action
  | .error (.help text) => (true, (Job.print (text ++ "\n") m).2)
  | .error (.fault f) =>
    let advice := "\nRun " ++ Action.command.name ++ " --help for more information.\n"
    (false, (Job.tell (f.message ++ advice) m).2)

end Machine

end SeedVault
