import SeedVault.Report.Basic
import SeedVault.Wallet.Inputs

/-!
# Inputs of a run from the environment

A run takes its inputs from eight variables. A variable that is blank counts as unset. They are read
in one order, and the first that is missing or wrong is named. The wallet's phrase and password are
kept as they are set, since the application is given them as typed; the other values are trimmed.
-/

namespace SeedVault

/-- The inputs of a run. -/
structure RunInputs where
  baseUrl : Url
  extensionVersion : String
  walletMnemonic : Mnemonic
  /-- The wallet's phrase as it is set. -/
  walletPhrase : String
  walletPassword : String
  secondaryMnemonic : Option Mnemonic
  secondaryAddress : Option String
  webdriverUrl : Url
  /-- How long one step of the wallet may take, in milliseconds. -/
  transitionTimeout : Nat

namespace RunInputs

/-- The address of a local browser driver. -/
def defaultWebdriverUrl : Url :=
  { scheme := "http"
    authority := some { host := some (.address4 0x7f000001), port := some 9515 }
    path := .segments [""] }

/-- Half a minute. -/
def defaultTransitionTimeout : Nat := 30000

/-- Is there nothing but blanks in a text? -/
def isBlankText (s : String) : Bool := s.toList.all Text.isBlank

/-- The value of a variable, unless it is blank. -/
def optional (lookup : String → Option String) (name : String) : Option String :=
  (lookup name).filter fun v => !isBlankText v

/-- The value of a variable that has to be there. -/
def required (lookup : String → Option String) (name : String) : Except Report String :=
  match optional lookup name with
  | some v => .ok v
  | none => .error [.note ("environment variable \x60" ++ name ++ "\x60 is not set")]

/-- The phrase in the value of a variable. -/
def readMnemonic (name value : String) : Except Report Mnemonic :=
  noting ("\x60" ++ name ++ "\x60 is not a valid mnemonic") (fun e => [.phrase e])
    (Mnemonic.parse value)

/-- The address of a resource in the value of a variable. -/
def readUrl (name value : String) : Except Report Url :=
  noting ("\x60" ++ name ++ "\x60 is not a valid URL") (fun e => [.url e])
    (Url.parse (Text.trimmed value))

/-- The span of time in the value of a variable. -/
def readTimeout (name value : String) : Except Report Nat :=
  noting ("\x60" ++ name ++ "\x60 must be a number of milliseconds") (fun e => [.number e])
    (Text.Decimal.read Text.Decimal.max64 (Text.trim value.toList))

/-- What is read from a variable, if it is set. -/
def readOptional {α : Type} (lookup : String → Option String) (name : String)
    (read : String → String → Except Report α) : Except Report (Option α) :=
  match optional lookup name with
  | some v => (read name v).map some
  | none => .ok none

/-- The variables that the inputs are taken from. -/
def variableNames : List String :=
  ["TEST_BASE_URL", "TEST_KEPLR_EXTENSION_VERSION", "TEST_WALLET_MNEMONIC", "TEST_WALLET_PASSWORD",
   "TEST_SECONDARY_WALLET_MNEMONIC", "TEST_SECONDARY_WALLET_ADDRESS", "TEST_WEBDRIVER_URL",
   "TEST_TRANSITION_TIMEOUT_MS"]

/-- The inputs that the variables give. -/
def ofLookup (lookup : String → Option String) : Except Report RunInputs := do
  let baseUrl ← readUrl "TEST_BASE_URL" (← required lookup "TEST_BASE_URL")
  let extensionVersion := Text.trimmed (← required lookup "TEST_KEPLR_EXTENSION_VERSION")
  let walletPhrase ← required lookup "TEST_WALLET_MNEMONIC"
  let walletMnemonic ← readMnemonic "TEST_WALLET_MNEMONIC" walletPhrase
  let walletPassword ← required lookup "TEST_WALLET_PASSWORD"
  let secondaryMnemonic ← readOptional lookup "TEST_SECONDARY_WALLET_MNEMONIC" readMnemonic
  let secondaryAddress := (optional lookup "TEST_SECONDARY_WALLET_ADDRESS").map Text.trimmed
  let webdriverUrl ← readOptional lookup "TEST_WEBDRIVER_URL" readUrl
  let transitionTimeout ← readOptional lookup "TEST_TRANSITION_TIMEOUT_MS" readTimeout
  return {
    baseUrl, extensionVersion, walletMnemonic, walletPhrase, walletPassword, secondaryMnemonic
    secondaryAddress
    webdriverUrl := webdriverUrl.getD defaultWebdriverUrl
    transitionTimeout := transitionTimeout.getD defaultTransitionTimeout }

/-- What the steps of the first wallet need. -/
def primary (r : RunInputs) : WalletInputs :=
  { extensionVersion := r.extensionVersion, password := r.walletPassword,
    mnemonic := r.walletMnemonic, appUrl := r.baseUrl }

/-- Checks that the second wallet's phrase and address name one account, where both are given. -/
def checkSecondary (r : RunInputs) (d : AccountDeriver) : Except Report Unit :=
  match r.secondaryMnemonic, r.secondaryAddress with
  | some m, some expected => do
    let keys ← noting "failed to derive the secondary wallet" Report.ofDerive (d.derive m)
    if keys.address = expected then return ()
    else
      throw [.note ("secondary wallet mnemonic derives " ++ keys.address ++ ", expected "
        ++ expected)]
  | _, _ => .ok ()

/-- What may be shown of the inputs: neither phrases nor the password. -/
def redacted (r : RunInputs) : String :=
  let address :=
    match r.secondaryAddress with
    | some a => "Some(" ++ Text.quoted a ++ ")"
    | none => "None"
  "HarnessConfig \x7b base_url: " ++ Text.quoted r.baseUrl.text
    ++ ", extension_version: " ++ Text.quoted r.extensionVersion
    ++ ", secondary_wallet_address: " ++ address
    ++ ", webdriver_url: " ++ Text.quoted r.webdriverUrl.text
    ++ ", transition_timeout: " ++ Text.spanText r.transitionTimeout ++ ", .. \x7d"

end RunInputs

end SeedVault
