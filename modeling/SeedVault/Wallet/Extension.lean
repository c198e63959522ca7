import SeedVault.Browser.Client
import SeedVault.Config.Basic
import SeedVault.Extension.Unpacked
import SeedVault.Wallet.Automation

/-!
# The wallet's extension in a browser

The steps of a wallet on the extension's own pages. A browser is started with the unpacked extension
and nothing else; the pages are then worked through as a user would do it, from the selectors of
their elements. A fresh extension has no password yet: the one it is unlocked with is set when the
account is imported.
-/

namespace SeedVault

/-- What the automation of the extension is set to. -/
structure ExtensionSettings where
  /-- The server that starts browsers. -/
  server : Url
  bundlesDir : String
  chain : String
  selectors : WalletSelectors := {}
  headless : Bool := false
  /-- How long to look for one element, in milliseconds. -/
  stepTimeout : Nat := 10000

/-- A browser in which the extension is loaded. -/
structure ExtensionSession where
  browser : Browser
  extensionId : String
  deriving DecidableEq, Repr

/-- The automation of the extension, on a machine with its files and its network. -/
structure WalletExtension where
  settings : ExtensionSettings
  files : Directory
  /-- The directory at which relative paths start. -/
  current : List String
  network : Network
  /-- The password that a fresh extension is to be given. -/
  password : Option String := none
  session : Option ExtensionSession := none

/-- What comes of unlocking the extension. -/
inductive Unlocking where
  | accepted
  | rejected
  /-- There is no password yet. -/
  | fresh
  deriving DecidableEq, Repr

open WebTask (reporting)

namespace ExtensionSession

/-- The address of one of the extension's pages. -/
def page (s : ExtensionSession) (name : String) : String :=
  "chrome-extension://" ++ s.extensionId ++ "/" ++ name

/-- Waits for the element of a selector. -/
def wait (s : ExtensionSession) (limit : Nat) (selector : String) : WebTask Report Element :=
  reporting (s.browser.await (.ofSelector selector) limit)

/-- Clicks on the element of a selector, once it is there. -/
def click (s : ExtensionSession) (limit : Nat) (selector : String) : WebTask Report Unit := do
  let e ← s.wait limit selector
  reporting (s.browser.click e)

/-- Types a text into the element of a selector, once it is there. -/
def fillIn (s : ExtensionSession) (limit : Nat) (selector text : String) :
    WebTask Report Unit := do
  let e ← s.wait limit selector
  reporting (s.browser.sendKeys e text)

/-- The number of the first selector that has an element, counted from `index`. -/
def findAny (s : ExtensionSession) (index : Nat) :
    List String → WebTask WebError (Option Nat)
  | [] => return none
  | selector :: others => do
    match ← s.browser.find? (.ofSelector selector) with
    | some _ => return some index
    | none => s.findAny (index + 1) others

/-- Waits until one of several selectors has an element, and gives its number. -/
def awaitAny (s : ExtensionSession) (limit : Nat) (selectors : List String) :
    WebTask Report Nat := do
  match ← reporting ((s.findAny 0 selectors).poll limit) with
  | some index => return index
  | none =>
    let names := ", ".intercalate (selectors.map Text.quoted)
    .fail [.note ("none of [" ++ names ++ "] appeared")]

/-- Types each word of a phrase into its own input. -/
def typeWords (s : ExtensionSession) : List (Element × String) → WebTask Report Unit
  | [] => return ()
  | (input, word) :: others => do
    reporting (s.browser.sendKeys input word)
    s.typeWords others

/-- Gives the extension a name and a password. -/
def setPassword (s : ExtensionSession) (limit : Nat) (sel : WalletSelectors) (password : String) :
    WebTask Report Unit := do
  s.fillIn limit sel.walletName "seedkeeper"
  s.fillIn limit sel.walletPassword password
  s.fillIn limit sel.walletPasswordConfirm password

/-- The script that reads the address an element shows. -/
def addressScript : String :=
  "return arguments[0].getAttribute('data-address') || arguments[0].textContent;"

/-- The script that asks the extension for the account of a chain, from the application's page. -/
def accountScript : String :=
  let margin := "                "
  "\n" ++ margin ++ "const done = arguments[arguments.length - 1];\n"
    ++ margin ++ "window.keplr.getKey(arguments[0])\n"
    ++ margin ++ "    .then((key) => done(key.bech32Address))\n"
    ++ margin ++ "    .catch(() => done(null));\n"
    ++ margin

end ExtensionSession

namespace WalletExtension

open ExtensionSession

/-- The name of the extension. -/
def extensionName : String := "keplr"

/-- What the browser is asked to be: one that loads the bundle and no other extension. -/
def capabilities (headless : Bool) (bundle : UnpackedExtension) : Json :=
  let args := ["--disable-extensions-except=" ++ bundle.directory,
    "--load-extension=" ++ bundle.directory] ++ if headless then ["--headless=new"] else []
  let options := Json.ofFields [("args", .array (args.map .string))]
  .ofFields [("browserName", .string "chrome"), ("goog:chromeOptions", options)]

/-- The session that the extension has to be in. -/
def needSession (d : WalletExtension) : WebTask Report ExtensionSession :=
  match d.session with
  | some s => pure s
  | none => .fail [.note "extension is not installed"]

/-- Starts a browser with the extension of a version. -/
def installing (d : WalletExtension) (version : String) : WebTask Report ExtensionSession := do
  let bundle ← .ofExcept
    (UnpackedExtension.locate d.files d.current d.settings.bundlesDir extensionName version)
  let extensionId ← .ofExcept bundle.id
  let browser ← (Browser.start d.settings.server (capabilities d.settings.headless bundle)).mapError
    fun e => (Report.ofWeb e).during "failed to start browser"
  return { browser, extensionId }

/-- Unlocks the extension, if it has a password. -/
def unlocking (d : WalletExtension) (password : String) : WebTask Report Unlocking := do
  let s ← d.needSession
  let sel := d.settings.selectors
  let limit := d.settings.stepTimeout
  reporting (s.browser.goto (s.page "popup.html"))
  if (← s.awaitAny limit [sel.unlockPassword, sel.registerImport]) = 0 then
    s.fillIn limit sel.unlockPassword password
    s.click limit sel.unlockSubmit
    if (← s.awaitAny limit [sel.homeMarker, sel.unlockError]) = 0 then return .accepted
    else return .rejected
  else return .fresh

/-- The inputs for the words of a phrase, of which there have to be enough. -/
def wordInputs (s : ExtensionSession) (selector : String) (m : Mnemonic) :
    WebTask Report (List (Element × String)) := do
  let inputs ← reporting (s.browser.findAll (.ofSelector selector))
  let words := m.wordCount.words
  if words ≤ inputs.length then return inputs.zip m.words
  else
    .fail [.note ("expected " ++ Text.Decimal.text words ++ " word inputs, found "
      ++ Text.Decimal.text inputs.length)]

/-- Imports the account of a phrase and reads its address off the extension. -/
def importing (d : WalletExtension) (m : Mnemonic) : WebTask Report String := do
  let s ← d.needSession
  let sel := d.settings.selectors
  let limit := d.settings.stepTimeout
  reporting (s.browser.goto (s.page "register.html"))
  s.click limit sel.registerImport
  s.click limit sel.registerRecoveryPhrase
  let _ ← s.wait limit sel.mnemonicWords
  s.typeWords (← wordInputs s sel.mnemonicWords m)
  s.click limit sel.mnemonicSubmit
  match d.password with
  | some password => s.setPassword limit sel password
  | none => pure ()
  s.click limit sel.registerSubmit
  s.click limit sel.registerFinish
  reporting (s.browser.goto (s.page "popup.html"))
  let e ← s.wait limit sel.accountAddress
  match ← reporting (s.browser.execute addressScript [e.json]) with
  | .string address => return Text.trimmed address
  | _ => .fail [.note "extension did not report an address"]

/-- Connects the application to the extension and asks it for the address it got. -/
def connecting (d : WalletExtension) (app : Url) : WebTask Report String := do
  let s ← d.needSession
  let sel := d.settings.selectors
  let limit := d.settings.stepTimeout
  let main ← reporting s.browser.windowHandle
  reporting (s.browser.goto app.text)
  let known ← reporting s.browser.windowHandles
  s.click limit sel.appConnect
  let popup ← reporting (s.browser.awaitNewWindow known limit)
  reporting (s.browser.switchTo popup)
  s.click limit sel.approve
  reporting (s.browser.switchTo main)
  match ← reporting (s.browser.executeAsync accountScript [.string d.settings.chain]) with
  | .string address => return address
  | _ => .fail [.note "application session has no account"]

/-- Runs a task and keeps what became of the network. -/
def work {α : Type} (t : WebTask Report α) (limit : Option Nat) (d : WalletExtension) :
    Outcome Report α × WalletExtension :=
  let (outcome, network) := t.run limit d.network
  (outcome, { d with network })

/-- Starts a browser with the extension of a version, and goes on in that browser. -/
def install (version : String) (limit : Option Nat) (d : WalletExtension) :
    Outcome Report Unit × WalletExtension :=
  match work (d.installing version) limit d with
  | (.done session, d) => (.done (), { d with session := some session })
  | (.failed e, d) => (.failed e, d)
  | (.expired, d) => (.expired, d)

/-- Unlocks the extension; the password of a fresh one is kept for the import. -/
def unlock (password : String) (limit : Option Nat) (d : WalletExtension) :
    Outcome Report Bool × WalletExtension :=
  match work (d.unlocking password) limit d with
  | (.done .accepted, d) => (.done true, d)
  | (.done .rejected, d) => (.done false, d)
  | (.done .fresh, d) => (.done true, { d with password := some password })
  | (.failed e, d) => (.failed e, d)
  | (.expired, d) => (.expired, d)

/-- Imports the account of a phrase. -/
def importAccount (m : Mnemonic) (limit : Option Nat) (d : WalletExtension) :
    Outcome Report String × WalletExtension := work (d.importing m) limit d

/-- Connects the application. -/
def connect (app : Url) (limit : Option Nat) (d : WalletExtension) :
    Outcome Report String × WalletExtension := work (d.connecting app) limit d

/-- Each step of the extension is the automation's, with the limit of the run. -/
instance : WalletAutomation WalletExtension where
  install version limit := install version (some limit)
  unlock password limit := unlock password (some limit)
  importAccount m limit := importAccount m (some limit)
  connect app limit := connect app (some limit)

/-- Ends the browser, if there is one. -/
def close (d : WalletExtension) : Outcome Report Unit × WalletExtension :=
  match d.session with
  | some s => work (reporting s.browser.quit) none { d with session := none }
  | none => (.done (), d)

end WalletExtension

end SeedVault
