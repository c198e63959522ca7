/-!
# Selectors of elements

Where on their pages the elements are that a run touches. A selector that starts with a slash or a
parenthesis is an XPath, any other is CSS.
-/

namespace SeedVault

/-- A text in a record, by name. -/
structure TextField (α : Type) where
  name : String
  get : α → String
  set : String → α → α

/-- The elements on the pages of the wallet's extension, and on the page that connects to it. -/
structure WalletSelectors where
  unlockPassword : String := "input[type=password]"
  unlockSubmit : String := "button[type=submit]"
  unlockError : String := "//*[contains(text(), 'Invalid password')]"
  homeMarker : String := "//*[contains(text(), 'Total Balance')]"
  registerImport : String := "//button[contains(., 'Import an existing wallet')]"
  registerRecoveryPhrase : String := "//button[contains(., 'Use recovery phrase')]"
  mnemonicWords : String := "form input[type=password], form input[type=text]"
  mnemonicSubmit : String := "//button[contains(., 'Import')]"
  walletName : String := "input[name=name]"
  walletPassword : String := "input[name=password]"
  walletPasswordConfirm : String := "input[name=confirmPassword]"
  registerSubmit : String := "//button[contains(., 'Next')]"
  registerFinish : String := "//button[contains(., 'Save')]"
  accountAddress : String := "[data-address]"
  appConnect : String := "//button[contains(., 'Connect')]"
  approve : String := "//button[contains(., 'Approve')]"
  deriving DecidableEq, Repr, Inhabited

namespace WalletSelectors

/-- The selectors by name. -/
def fields : List (TextField WalletSelectors) :=
  [⟨"unlock_password", (·.unlockPassword), fun s r => { r with unlockPassword := s }⟩,
   ⟨"unlock_submit", (·.unlockSubmit), fun s r => { r with unlockSubmit := s }⟩,
   ⟨"unlock_error", (·.unlockError), fun s r => { r with unlockError := s }⟩,
   ⟨"home_marker", (·.homeMarker), fun s r => { r with homeMarker := s }⟩,
   ⟨"register_import", (·.registerImport), fun s r => { r with registerImport := s }⟩,
   ⟨"register_recovery_phrase", (·.registerRecoveryPhrase),
     fun s r => { r with registerRecoveryPhrase := s }⟩,
   ⟨"mnemonic_words", (·.mnemonicWords), fun s r => { r with mnemonicWords := s }⟩,
   ⟨"mnemonic_submit", (·.mnemonicSubmit), fun s r => { r with mnemonicSubmit := s }⟩,
   ⟨"wallet_name", (·.walletName), fun s r => { r with walletName := s }⟩,
   ⟨"wallet_password", (·.walletPassword), fun s r => { r with walletPassword := s }⟩,
   ⟨"wallet_password_confirm", (·.walletPasswordConfirm),
     fun s r => { r with walletPasswordConfirm := s }⟩,
   ⟨"register_submit", (·.registerSubmit), fun s r => { r with registerSubmit := s }⟩,
   ⟨"register_finish", (·.registerFinish), fun s r => { r with registerFinish := s }⟩,
   ⟨"account_address", (·.accountAddress), fun s r => { r with accountAddress := s }⟩,
   ⟨"app_connect", (·.appConnect), fun s r => { r with appConnect := s }⟩,
   ⟨"approve", (·.approve), fun s r => { r with approve := s }⟩]

end WalletSelectors

/-- The elements on the application's page for seed phrases. -/
structure PhrasePageSelectors where
  acceptFresh : String :=
    "//button[contains(., 'Continue with the autogenerated seed phrase')]"
  enterOwn : String :=
    "//button[contains(., 'I want to enter my own recovery phrase instead')]"
  phraseInput : String := "textarea"
  phraseSubmit : String := "//div[@role='dialog']//button[@type='submit']"
  deriving DecidableEq, Repr, Inhabited

namespace PhrasePageSelectors

/-- The selectors by name. -/
def fields : List (TextField PhrasePageSelectors) :=
  [⟨"accept_generated", (·.acceptFresh), fun s r => { r with acceptFresh := s }⟩,
   ⟨"enter_own", (·.enterOwn), fun s r => { r with enterOwn := s }⟩,
   ⟨"phrase_input", (·.phraseInput), fun s r => { r with phraseInput := s }⟩,
   ⟨"phrase_submit", (·.phraseSubmit), fun s r => { r with phraseSubmit := s }⟩]

end PhrasePageSelectors

end SeedVault
