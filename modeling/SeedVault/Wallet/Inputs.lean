import SeedVault.Phrase.Basic
import SeedVault.Url.Basic

/-!
# Inputs of a wallet's run
-/

namespace SeedVault

/-- What the steps of a wallet need. -/
structure WalletInputs where
  extensionVersion : String
  password : String
  mnemonic : Mnemonic
  appUrl : Url

end SeedVault
