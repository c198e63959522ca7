import SeedVault.Scenario.Page
import SeedVault.Storage.Secret

/-!
# Scenarios for seed phrases

Two things that a page must do. A phrase that it suggests is kept when it is accepted, and the same
account is there after the page is loaded again. A phrase that the user enters is kept exactly as
it was typed. Both are checked from outside, through the value in the application's storage.
-/

namespace SeedVault

/-- What a scenario found. -/
structure ScenarioResult where
  name : String
  address : String
  deriving DecidableEq, Repr

namespace Scenario

variable {π : Type}

/-- The task, with a note on what was being done if it fails. -/
def during {α : Type} (note : String) (task : PageTask π α) : PageTask π α := fun p =>
  let (result, p) := task p
  (result.mapError (Report.during note), p)

/-- Fails with a note. -/
def fail {α : Type} (note : String) : PageTask π α := throw [.note note]

/-- The address of the account of a stored value. -/
def addressOf (d : AccountDeriver) (stored : Option String) : Except Report String :=
  match stored with
  | none => .error [.note "storage key is empty"]
  | some text => do
    let m ← noting "stored seed phrase is invalid" (fun e => [.phrase e]) (Mnemonic.parse text)
    let keys ← (d.derive m).mapError Report.ofDerive
    return keys.address

variable [SeedPage π]

/-- The address of the account that the page keeps. -/
def keptAddress (d : AccountDeriver) : PageTask π String := do
  let stored ← SeedPage.storedText Secret.storageKey
  liftExcept (addressOf d stored)
where
  /-- A result that does not depend on the page. -/
  liftExcept (x : Except Report String) : PageTask π String := fun p => (x, p)

/-- Accepts the suggested phrase and loads the page again. -/
def autogenerated (d : AccountDeriver) : PageTask π ScenarioResult := do
  SeedPage.setPhrase none
  let address ← during "no usable seed phrase after accepting the generated one" (keptAddress d)
  SeedPage.reload
  let again ← during "seed phrase did not survive a reload" (keptAddress d)
  if again = address then return { name := "autogenerated seed phrase", address }
  else fail ("address changed after reload: " ++ address ++ " != " ++ again)

/-- Enters a phrase. -/
def custom (d : AccountDeriver) (phrase : String) : PageTask π ScenarioResult := do
  SeedPage.setPhrase (some phrase)
  let stored ← SeedPage.storedText Secret.storageKey
  if stored = some phrase then
    let address ← keptAddress d
    return { name := "custom seed phrase", address }
  else fail "stored value does not match the entered seed phrase"

end Scenario

end SeedVault
