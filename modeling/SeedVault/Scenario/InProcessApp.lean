import SeedVault.Phrase.Entropy
import SeedVault.Scenario.Page
import SeedVault.Session.Basic

/-!
# An application without a browser

A session on a store in memory, with the operations of a page. Loading the page again opens a new
session on the same store. Two variants do what an application must not do: one tidies a phrase
before it keeps it, the other forgets the phrase when it is loaded again.
-/

namespace SeedVault

/-- A session's store, and where its suggested phrases come from. -/
structure InProcessApp where
  deriver : AccountDeriver
  entropy : EntropySource
  store : MemoryStore := {}

namespace InProcessApp

/-- Runs an operation of a session. -/
def onSession {ε α : Type} (act : StateM (SessionState MemoryStore) (Except ε α))
    (report : ε → Report) : PageTask InProcessApp α := fun app =>
  let (result, s) := act { store := app.store }
  (result.mapError report, { app with store := s.store })

/-- Accepts a phrase that is drawn for it, or enters one. -/
def setPhrase : Option String → PageTask InProcessApp Unit
  | some typed => do
    let _ ← onSession (Session.enter typed) Report.ofSession
  | none => do
    let app ← get
    let (m, entropy) := app.entropy.generate default
    set { app with entropy }
    onSession (Session.acceptFresh m) Report.ofSession

/-- The value of a key in the store. -/
def storedText (key : String) : PageTask InProcessApp (Option String) := fun app =>
  let (result, store) := KeyValueStore.get key app.store
  (result.mapError Report.ofStorage, { app with store })

/-- Opens a new session on the store, which changes nothing that is kept. -/
def reload : PageTask InProcessApp Unit := pure ()

/-- The application in this process, as the scenarios use it. -/
instance : SeedPage InProcessApp where
  setPhrase := setPhrase
  storedText := storedText
  reload := reload

/-- The address of the kept phrase, as a session restores it. -/
def restore (app : InProcessApp) : Option String :=
  ((Session.restore app.deriver : StateM (SessionState MemoryStore) _) { store := app.store }).1

end InProcessApp

/-- An application that tidies a phrase before it keeps it. -/
def TidyingApp : Type := InProcessApp

namespace TidyingApp

/-- A text with one space between its words. -/
def tidy (typed : String) : String := Phrase.join ((Text.words typed.toList).map String.ofList)

/-- What is set is tidied first; all else is as in the application. -/
instance : SeedPage TidyingApp where
  setPhrase phrase := InProcessApp.setPhrase (phrase.map tidy)
  storedText := InProcessApp.storedText
  reload := InProcessApp.reload

end TidyingApp

/-- An application that forgets its phrase when it is loaded again. -/
def ForgettingApp : Type := InProcessApp

namespace ForgettingApp

/-- Logs out and opens a new session. -/
def reload : PageTask InProcessApp Unit := do
  InProcessApp.onSession Session.logout Report.ofSession
  InProcessApp.reload

/-- What is kept is forgotten at each reload; all else is as in the application. -/
instance : SeedPage ForgettingApp where
  setPhrase := InProcessApp.setPhrase
  storedText := InProcessApp.storedText
  reload := reload

end ForgettingApp

end SeedVault
