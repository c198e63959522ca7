/-!
# Progress of a wallet's extension

The extension is installed, unlocked, given an account and connected to an application, one step
after the other.
-/

namespace SeedVault

/-- How far the extension is. -/
inductive WalletState where
  | uninstalled
  | installed
  | unlocked
  | imported
  | connected
  deriving DecidableEq, Repr

/-- The name of a state. -/
def WalletState.text : WalletState → String
  | uninstalled => "uninstalled"
  | installed => "installed"
  | unlocked => "unlocked"
  | imported => "imported"
  | connected => "connected"

/-- A step from one state to the next. -/
inductive WalletStep where
  | install
  | unlock
  | importAccount
  | connect
  deriving DecidableEq, Repr

namespace WalletStep

/-- The name of a step. -/
def text : WalletStep → String
  | install => "install extension"
  | unlock => "unlock"
  | importAccount => "import account"
  | connect => "connect"

/-- The state a step starts in. -/
def source : WalletStep → WalletState
  | install => .uninstalled
  | unlock => .installed
  | importAccount => .unlocked
  | connect => .imported

/-- The state a step leads to. -/
def target : WalletStep → WalletState
  | install => .installed
  | unlock => .unlocked
  | importAccount => .imported
  | connect => .connected

end WalletStep

end SeedVault
