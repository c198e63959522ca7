import SeedVault.Browser.Task
import SeedVault.Report.Basic

/-!
# Automation of a wallet

What takes a wallet's extension through its steps: one operation for each, which may succeed, fail,
or not end in time. Any automation can be recorded, so that the calls it got can be read off, each
with what came of it.
-/

namespace SeedVault

/-- Operations that take the extension through its steps, in the state `δ`. Each may take as long
as its limit says, in milliseconds. -/
class WalletAutomation (δ : Type) where
  /-- Loads the extension of a version. -/
  install (version : String) (limit : Nat) (d : δ) : Outcome Report Unit × δ
  /-- Says whether the extension took the password. -/
  unlock (password : String) (limit : Nat) (d : δ) : Outcome Report Bool × δ
  /-- Gives the address that the extension shows for the account. -/
  importAccount (m : Mnemonic) (limit : Nat) (d : δ) : Outcome Report String × δ
  /-- Gives the address that the application gets from the extension. -/
  connect (app : Url) (limit : Nat) (d : δ) : Outcome Report String × δ

/-- A call of one of the operations. -/
inductive WalletCall where
  | install (version : String)
  | unlock (password : String)
  | importAccount (m : Mnemonic)
  | connect (app : Url)

/-- The step that a call is for. -/
def WalletCall.step : WalletCall → WalletStep
  | install _ => .install
  | unlock _ => .unlock
  | importAccount _ => .importAccount
  | connect _ => .connect

/-- A call with what came of it. -/
inductive WalletEvent where
  | install (version : String) (outcome : Outcome Report Unit)
  | unlock (password : String) (outcome : Outcome Report Bool)
  | importAccount (m : Mnemonic) (outcome : Outcome Report String)
  | connect (app : Url) (outcome : Outcome Report String)

/-- The call of an event. -/
def WalletEvent.call : WalletEvent → WalletCall
  | install version _ => .install version
  | unlock password _ => .unlock password
  | importAccount m _ => .importAccount m
  | connect app _ => .connect app

/-- An automation with the calls it got and its answers to them, in their order. -/
structure Recorded (δ : Type) where
  automation : δ
  events : List WalletEvent := []

namespace Recorded

variable {δ : Type} [WalletAutomation δ]

/-- The calls that were recorded. -/
def calls (r : Recorded δ) : List WalletCall := r.events.map WalletEvent.call

/-- Passes a call on and records it with its outcome. -/
def pass {α : Type} (event : Outcome Report α → WalletEvent) (op : δ → Outcome Report α × δ)
    (r : Recorded δ) : Outcome Report α × Recorded δ :=
  let (outcome, automation) := op r.automation
  (outcome, { automation, events := r.events ++ [event outcome] })

/-- What the automation is asked for is passed on and recorded with the answer. -/
instance : WalletAutomation (Recorded δ) where
  install version limit := pass (.install version) (WalletAutomation.install version limit)
  unlock password limit := pass (.unlock password) (WalletAutomation.unlock password limit)
  importAccount m limit := pass (.importAccount m) (WalletAutomation.importAccount m limit)
  connect app limit := pass (.connect app) (WalletAutomation.connect app limit)

end Recorded

end SeedVault
