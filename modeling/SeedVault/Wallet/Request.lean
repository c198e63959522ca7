import SeedVault.Wallet.Run

/-!
# Requests to a run

What can be asked of a run: one of its steps, or all of them. Requests are served one after the
other, whatever became of those before; the log tells what each one gave.
-/

namespace SeedVault

/-- What can be asked of a run. -/
inductive WalletRequest where
  | install (version : String)
  | unlock (password : String)
  | importAccount (m : Mnemonic)
  | connect (app : Url)
  | toConnected (inputs : WalletInputs)

/-- What a request gives: an address if it is about one. -/
abbrev WalletAnswer : Type := Except StepError (Option String)

namespace WalletRun

variable {δ : Type}

/-- A run that has not begun. -/
def fresh (d : δ) (deriver : AccountDeriver) (limit : Nat) : WalletRun δ :=
  { automation := d, deriver, limit }

variable [WalletAutomation δ]

/-- Serves a request. -/
def serve : WalletRequest → RunStep δ (Option String)
  | .install version => do
    install version
    return none
  | .unlock password => do
    unlock password
    return none
  | .importAccount m => do
    return some (← importAccount m)
  | .connect app => do
    return some (← connect app)
  | .toConnected inputs => do
    return some (← toConnected inputs)

/-- Serves requests in their order. -/
def serveAll (qs : List WalletRequest) (r : WalletRun δ) :
    List (WalletRequest × WalletAnswer) × WalletRun δ :=
  match qs with
  | [] => ([], r)
  | q :: qs =>
    let first := (serve q).on r
    let others := serveAll qs first.2
    ((q, first.1) :: others.1, others.2)

end WalletRun

end SeedVault
