import SeedVault.Wallet.Automation
import SeedVault.Wallet.Inputs

/-!
# Runs of a wallet

A run takes the extension through its steps, each of them once and in their order. The account that
is imported is derived here too, and the extension has to report the same address, at the import and
again when the application is connected. The first failure ends the run: whatever is asked of it
afterwards is refused, and the automation is not called again.
-/

namespace SeedVault

/-- Why a step failed, and how far the run had come. -/
structure StepError where
  step : WalletStep
  lastState : WalletState
  fault : StepFault
  /-- What brought the fault about. -/
  cause : Report := []
  deriving DecidableEq, Repr

/-- The report of a failing step. A failure of the automation stands for itself. -/
def StepError.report (e : StepError) : Report :=
  .step e.step e.lastState e.fault ::
    match e.fault with
    | .driver => e.cause
    | fault => .stepFault fault :: e.cause

/-- A run: how far it is, which address was imported, and whether it has failed. -/
structure WalletRun (δ : Type) where
  automation : δ
  deriver : AccountDeriver
  /-- How long one step may take, in milliseconds. -/
  limit : Nat
  state : WalletState := .uninstalled
  address : Option String := none
  failed : Bool := false

/-- Something to do in a run, which gives an `α` or fails. -/
abbrev RunStep (δ α : Type) : Type := ExceptT StepError (StateM (WalletRun δ)) α

/-- What comes of it in a run, and the run behind it. -/
def RunStep.on {δ α : Type} (act : RunStep δ α) (r : WalletRun δ) :
    Except StepError α × WalletRun δ :=
  act r

namespace WalletRun

variable {δ α : Type}

/-- Fails, and the run with it. -/
def giveUp (step : WalletStep) (fault : StepFault) (cause : Report) : RunStep δ α := do
  let r ← get
  set { r with failed := true }
  throw { step, lastState := r.state, fault, cause }

/-- Refuses a step out of turn, and every step of a run that has failed. -/
def guardStep (step : WalletStep) : RunStep δ Unit := do
  let r ← get
  if r.failed ∨ r.state ≠ step.source then giveUp step .invalidTransition []

/-- Has the automation do a step's work. -/
def perform (step : WalletStep) (op : Nat → δ → Outcome Report α × δ) : RunStep δ α := do
  let r ← get
  let (outcome, automation) := op r.limit r.automation
  set { r with automation }
  match outcome with
  | .done a =>
    modify fun r => { r with state := step.target }
    return a
  | .failed cause => giveUp step .driver cause
  | .expired => giveUp step (.timeout r.limit) []

/-- Fails after a step's work, which counts as not done. -/
def takeBack (step : WalletStep) (fault : StepFault) : RunStep δ α := do
  modify fun r => { r with state := step.source }
  giveUp step fault []

/-- Fails if another address was reported than the one expected. -/
def compareAddress (step : WalletStep) (expected actual : String) : RunStep δ Unit :=
  if actual = expected then pure () else takeBack step (.addressMismatch expected actual)

variable [WalletAutomation δ]

/-- Installs the extension. -/
def install (version : String) : RunStep δ Unit := do
  guardStep .install
  perform .install (WalletAutomation.install version)

/-- Unlocks the extension. -/
def unlock (password : String) : RunStep δ Unit := do
  guardStep .unlock
  if ← perform .unlock (WalletAutomation.unlock password) then pure ()
  else takeBack .unlock .rejectedPassword

/-- The address of the account of a phrase. -/
def deriveAddress (m : Mnemonic) : RunStep δ String := do
  match (← get).deriver.derive m with
  | .ok keys => return keys.address
  | .error e => giveUp .importAccount .derivation (.ofDerive e)

/-- Imports the account of a phrase. -/
def importAccount (m : Mnemonic) : RunStep δ String := do
  guardStep .importAccount
  let expected ← deriveAddress m
  compareAddress .importAccount expected
    (← perform .importAccount (WalletAutomation.importAccount m))
  modify fun r => { r with address := some expected }
  return expected

/-- Connects the application. -/
def connect (app : Url) : RunStep δ String := do
  guardStep .connect
  let actual ← perform .connect (WalletAutomation.connect app)
  let expected := (← get).address.getD ""
  compareAddress .connect expected actual
  return expected

/-- Takes the extension from its installation to the connected application. -/
def toConnected (inputs : WalletInputs) : RunStep δ String := do
  install inputs.extensionVersion
  unlock inputs.password
  let _ ← importAccount inputs.mnemonic
  connect inputs.appUrl

end WalletRun

end SeedVault
