import SeedVault.Command.Action
import SeedVault.Command.Machine
import SeedVault.Config.Environment
import SeedVault.Scenario.Basic
import SeedVault.Scenario.BrowserPage
import SeedVault.Scenario.InProcessApp
import SeedVault.Wallet.Extension
import SeedVault.Wallet.Run

/-!
# Trials of the application and the wallet

A trial takes the wallet's extension through its steps in a browser, and then, if it is asked to,
runs the scenarios for seed phrases on the application's page in the same browser. Whatever comes
of it, a browser that was started is ended, and its end is the last request of the trial. Without a
browser the scenarios run against an application in this process.
-/

namespace SeedVault.Job

/-- What a scenario found, as a result. -/
def scenarioJson (r : ScenarioResult) : Json :=
  .ofFields [("address", .string r.address), ("name", .string r.name)]

/-- Runs both scenarios on a page; the first of them is step `index` of `total`. -/
def seedPhraseTrials {π : Type} [SeedPage π] (d : AccountDeriver) (phrase : String)
    (index total : Nat) (page : π) :
    StateM Machine (Except Report (List ScenarioResult) × π) := do
  announce index total "Using the autogenerated seed phrase"
  match (Scenario.autogenerated d : PageTask π ScenarioResult) page with
  | (.error e, page) => return (.error e, page)
  | (.ok generated, page) =>
    announce (index + 1) total "Entering a custom seed phrase"
    match (Scenario.custom d phrase : PageTask π ScenarioResult) page with
    | (.error e, page) => return (.error e, page)
    | (.ok custom, page) => return (.ok [generated, custom], page)

/-- Runs the scenarios against an application in this process. -/
def localTrial (d : AccountDeriver) : Job Json := do
  let phrase ← drawPhrase default
  let app : InProcessApp := { deriver := d, entropy := (← get).entropy }
  let (result, app) ← seedPhraseTrials d phrase.phrase 0 2 app
  modify fun m => { m with entropy := app.entropy }
  let reports ← ofExcept result
  return .ofFields [("scenarios", .array (reports.map scenarioJson))]

/-- The extension's automation as it is configured. -/
def extension (l : Layout) (config : Configuration) (inputs : RunInputs) (d : AccountDeriver)
    (m : Machine) : WalletExtension :=
  { settings :=
      { server := inputs.webdriverUrl
        bundlesDir := config.browser.extensionsDir.getD l.extensionsDir
        chain := d.chain
        selectors := config.browser.wallet
        headless := config.browser.headless
        stepTimeout := config.browser.stepTimeout }
    files := m.files
    current := m.current
    network := m.network }

/-- Runs the scenarios on the application's page in the browser that the extension is in. -/
def pageTrial (config : Configuration) (inputs : RunInputs) (d : AccountDeriver) (address : String)
    (wallet : WalletExtension) : StateM Machine (Except Report Json × WalletExtension) := do
  match wallet.session with
  | none => return (.error [.note "browser is not running"], wallet)
  | some s =>
    let app : BrowserPage :=
      { browser := s.browser, baseUrl := inputs.baseUrl, selectors := config.browser.app,
        limit := config.browser.stepTimeout, network := wallet.network }
    let (result, app) ← seedPhraseTrials d inputs.walletPhrase 1 3 app
    let json (reports : List ScenarioResult) : Json :=
      .ofFields [("address", .string address), ("scenarios", .array (reports.map scenarioJson))]
    return (result.map json, { wallet with network := app.network })

/-- Takes the wallet's extension through its steps, and runs the scenarios if they are chosen. -/
def walletTrial (choice : TrialChoice) (config : Configuration) (inputs : RunInputs)
    (d : AccountDeriver) (wallet : WalletExtension) :
    StateM Machine (Except Report Json × WalletExtension) := do
  announce 0 (if choice.hasSeedPhrase then 3 else 1) "Preparing wallet extension"
  let run : WalletRun WalletExtension :=
    { automation := wallet, deriver := d, limit := inputs.transitionTimeout }
  match (WalletRun.toConnected inputs.primary : RunStep WalletExtension String) run with
  | (.error e, run) => return (.error e.report, run.automation)
  | (.ok address, run) =>
    if choice.hasSeedPhrase then pageTrial config inputs d address run.automation
    else return (.ok (.ofFields [("address", .string address)]), run.automation)

/-- Runs a trial in a browser, and ends the browser. -/
def browserTrial (l : Layout) (choice : TrialChoice) (config : Configuration) (d : AccountDeriver) :
    Job Json := do
  let m ← get
  let inputs ← ofExcept (RunInputs.ofLookup m.environment)
  ofExcept (inputs.checkSecondary d)
  let (result, wallet) ← walletTrial choice config inputs d (extension l config inputs d m)
  let (_, wallet) := wallet.close
  modify fun m => { m with network := wallet.network }
  ofExcept result

/-- Runs a trial and writes what it found. -/
def tryOut (l : Layout) (choice : TrialChoice) (inProcess : Bool) : Job Unit := do
  let config ← configuration l
  let d ← deriver l config
  printJson (← if inProcess then localTrial d else browserTrial l choice config d)

end SeedVault.Job
