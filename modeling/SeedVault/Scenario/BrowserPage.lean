import SeedVault.Browser.Client
import SeedVault.Config.Selectors
import SeedVault.Scenario.Page

/-!
# An application in a browser

The operations of a page, on the application's page for seed phrases in a browser under remote
control. A phrase counts as set once the application has gone to its dashboard.
-/

namespace SeedVault

/-- The application's page in a browser. -/
structure BrowserPage where
  browser : Browser
  baseUrl : Url
  selectors : PhrasePageSelectors := {}
  /-- How long to look for one element or page, in milliseconds. -/
  limit : Nat := 10000
  network : Network

namespace BrowserPage

open WebTask (reporting)

/-- Clicks on the element of a selector, once it is there. -/
def click (app : BrowserPage) (selector : String) : WebTask Report Unit := do
  let e ← reporting (app.browser.await (.ofSelector selector) app.limit)
  reporting (app.browser.click e)

/-- Is the address one of a page? -/
def isAt (route : Route) (address : String) : Bool :=
  match Url.parse address with
  | .ok u => u.path.text == route.path
  | .error _ => false

/-- Says whether the browser is on a page. -/
def onRoute (app : BrowserPage) (route : Route) : WebTask WebError (Option Unit) := do
  return if isAt route (← app.browser.currentUrl) then some () else none

/-- Waits until the browser is on a page. -/
def awaitRoute (app : BrowserPage) (route : Route) : WebTask Report Unit := do
  match ← reporting ((app.onRoute route).poll app.limit) with
  | some () => return ()
  | none => .fail [.note ("application did not navigate to " ++ route.path)]

/-- Accepts the suggested phrase, or enters one. -/
def choosing (app : BrowserPage) : Option String → WebTask Report Unit
  | some phrase => do
    app.click app.selectors.enterOwn
    let input ← reporting (app.browser.await (.ofSelector app.selectors.phraseInput) app.limit)
    reporting (app.browser.sendKeys input phrase)
    app.click app.selectors.phraseSubmit
  | none => app.click app.selectors.acceptFresh

/-- Opens the page for seed phrases and sets one. -/
def setting (app : BrowserPage) (phrase : Option String) : WebTask Report Unit := do
  let page ← .ofExcept ((app.baseUrl.withSegment Route.setSeed.name).mapError fun e => [.url e])
  reporting (app.browser.goto page.text)
  app.choosing phrase
  app.awaitRoute .dashboard

/-- The script that reads a value from the application's storage. -/
def storageScript : String := "return window.localStorage.getItem(arguments[0]);"

/-- Reads a value from the application's storage. -/
def reading (app : BrowserPage) (key : String) : WebTask Report (Option String) := do
  return (← reporting (app.browser.execute storageScript [.string key])).string?

/-- Runs a task without a limit and keeps what became of the network. -/
def work {α : Type} (task : BrowserPage → WebTask Report α) : PageTask BrowserPage α := fun app =>
  let (outcome, network) := (task app).run none app.network
  let result :=
    match outcome with
    | .done a => .ok a
    | .failed e => .error e
    | .expired => .error []
  (result, { app with network })

/-- The page in a browser, as the scenarios use it. -/
instance : SeedPage BrowserPage where
  setPhrase phrase := work (·.setting phrase)
  storedText key := work (·.reading key)
  reload := work fun app => reporting app.browser.refresh

end BrowserPage

end SeedVault
