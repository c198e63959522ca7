import SeedVault.Scenario.Basic

/-!
# Trials of a page

Scenarios are run on one page, each on the page that those before have left, whatever became of
them.
-/

namespace SeedVault

/-- What comes of a task on a page, and the page behind it. -/
def PageTask.on {π α : Type} (task : PageTask π α) (p : π) : Except Report α × π := task p

/-- A scenario to run. -/
inductive ScenarioRequest where
  | autogenerated
  | custom (phrase : String)
  deriving DecidableEq, Repr

namespace Scenario

variable {π : Type} [SeedPage π]

/-- Runs a scenario. -/
def serve (d : AccountDeriver) : ScenarioRequest → PageTask π ScenarioResult
  | .autogenerated => autogenerated d
  | .custom phrase => custom d phrase

/-- The page that some scenarios leave behind when they are run in their order. -/
def serveAll (d : AccountDeriver) (qs : List ScenarioRequest) (p : π) : π :=
  qs.foldl (fun p q => ((serve d q).on p).2) p

end Scenario

end SeedVault
