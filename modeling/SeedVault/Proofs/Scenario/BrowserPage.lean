import SeedVault.Proofs.Browser.Client
import SeedVault.Scenario.Basic
import SeedVault.Scenario.BrowserPage

/-!
# What an application's page is sent

The operations of a page in a browser send commands to that browser (`BrowserPage.sends_setPhrase`,
`sends_storedText`, `sends_reload`), and the scenarios send what the operations of their page send
(`Scenario.sends_autogenerated`, `sends_custom`).
-/

namespace SeedVault

open HasNetwork Browser

/-- A command's failure as a report. -/
lemma Browser.sends_reported {P : Request → Prop} {α : Type} {t : WebTask WebError α}
    (h : WebTask.Sends P AnyError t) : WebTask.Sends P AnyError t.reporting :=
  h.mapError fun _ _ => trivial

namespace BrowserPage

variable (app : BrowserPage)

/-- The network of a page is that of its browser. -/
instance : HasNetwork BrowserPage where
  network app := app.network
  withReply number reply delay app :=
    { app with network := app.network.withReply number reply delay }
  network_withReply _ _ _ _ := rfl

/-- A click is a search for an element and the command to click on it. -/
lemma sends_click (selector : String) :
    WebTask.Sends app.browser.IsCommand AnyError (app.click selector) :=
  (sends_reported (app.browser.sends_await _ _)).bind fun e =>
    sends_reported (app.browser.sends_click e)

/-- Waiting for a page of the application asks for the address again and again. -/
lemma sends_awaitRoute (route : Route) :
    WebTask.Sends app.browser.IsCommand AnyError (app.awaitRoute route) := by
  have attempt : WebTask.Sends app.browser.IsCommand AnyError (app.onRoute route) :=
    app.browser.sends_currentUrl.bind fun _ => .done _
  refine WebTask.Sends.bind (sends_reported (attempt.poll _)) fun found => ?_
  cases found with
  | some _ => exact .done _
  | none => exact .fail trivial

/-- A phrase is chosen by clicks, and by keys if it is typed. -/
lemma sends_choosing (phrase : Option String) :
    WebTask.Sends app.browser.IsCommand AnyError (app.choosing phrase) := by
  cases phrase with
  | none => exact app.sends_click _
  | some phrase =>
    refine (app.sends_click _).bind fun _ => ?_
    refine (sends_reported (app.browser.sends_await _ _)).bind fun input => ?_
    refine (sends_reported (app.browser.sends_sendKeys input phrase)).bind fun _ => ?_
    exact app.sends_click _

/-- Setting a phrase goes to the page for that, and waits for the dashboard. -/
lemma sends_setting (phrase : Option String) :
    WebTask.Sends app.browser.IsCommand AnyError (app.setting phrase) := by
  refine WebTask.Sends.bind (.ofExcept fun _ _ => trivial) fun page => ?_
  refine (sends_reported (app.browser.sends_goto _)).bind fun _ => ?_
  exact (app.sends_choosing phrase).bind fun _ => app.sends_awaitRoute .dashboard

/-- Reading a stored text is one script. -/
lemma sends_reading (key : String) :
    WebTask.Sends app.browser.IsCommand AnyError (app.reading key) :=
  (sends_reported (app.browser.sends_execute _ _)).bind fun _ => .done _

/-- What a page answers, by how its task ended. -/
def result {α : Type} (ended : Outcome Report α) : Except Report α :=
  match ended with
  | .done a => .ok a
  | .failed e => .error e
  | .expired => .error []

/-- Work on a page changes nothing of it but its network. -/
lemma work_apply {α : Type} (task : BrowserPage → WebTask Report α) :
    (work task) app = (result ((task app).on none app.network).1,
      { app with network := ((task app).on none app.network).2 }) := by
  unfold work WebTask.run WebTask.on result
  cases ran : task app none app.network with
  | mk ended n => cases ended <;> simp only [Option.map_none, ran]

/-- Work on a page sends what its task sends, if the task does not look at the network. -/
lemma sends_work {α : Type} {P : Request → Prop} {task : BrowserPage → WebTask Report α}
    (blind : ∀ number reply delay app, task (withReply number reply delay app) = task app)
    (h : ∀ app, WebTask.Sends P AnyError (task app)) :
    Sends P (work task : BrowserPage → Except Report α × BrowserPage) where
  listens app := ((h app).acts none).listens app.network
  sends app := ((h app).acts none).sends app.network
  foresees app number reply delay before := by
    have same := ((h app).acts none).foresees app.network number reply delay before
    rw [work_apply, work_apply, blind]
    change (result ((task app).on none (withReply number reply delay app.network)).1,
      { app with network := ((task app).on none (withReply number reply delay app.network)).2 }) = _
    rw [same]
    rfl

/-- Setting a phrase ends no browser. -/
lemma sends_setPhrase (phrase : Option String) :
    Sends Request.KeepsBrowser
      (SeedPage.setPhrase phrase : BrowserPage → Except Report Unit × BrowserPage) :=
  sends_work (fun _ _ _ _ => rfl) fun app =>
    (app.sends_setting phrase).mono (fun _ command => command.method) fun _ any => any

/-- Reading a stored text ends no browser. -/
lemma sends_storedText (key : String) :
    Sends Request.KeepsBrowser
      (SeedPage.storedText key : BrowserPage → Except Report (Option String) × BrowserPage) :=
  sends_work (fun _ _ _ _ => rfl) fun app =>
    (app.sends_reading key).mono (fun _ command => command.method) fun _ any => any

/-- Loading the page again ends no browser. -/
lemma sends_reload :
    Sends Request.KeepsBrowser
      (SeedPage.reload : BrowserPage → Except Report Unit × BrowserPage) :=
  sends_work (fun _ _ _ _ => rfl) fun app =>
    (sends_reported app.browser.sends_refresh).mono (fun _ command => command.method)
      fun _ any => any

end BrowserPage

namespace Scenario

variable {π α β : Type} [HasNetwork π] {P : Request → Prop}

/-- A note changes nothing of what is sent. -/
lemma sends_during (note : String) {task : PageTask π α}
    (h : Sends P (task : π → Except Report α × π)) :
    Sends P (during note task : π → Except Report α × π) :=
  h.map (·.mapError (Report.during note))

/-- The pages whose operations send requests that satisfy `P`. -/
structure PageSends (P : Request → Prop) (π : Type) [HasNetwork π] [SeedPage π] : Prop where
  setPhrase : ∀ phrase, Sends P (SeedPage.setPhrase phrase : π → Except Report Unit × π)
  storedText : ∀ key, Sends P (SeedPage.storedText key : π → Except Report (Option String) × π)
  reload : Sends P (SeedPage.reload : π → Except Report Unit × π)

variable [SeedPage π] (d : AccountDeriver) (page : PageSends P π)

include page

/-- For the address that is kept, a text is read. -/
lemma sends_keptAddress : Sends P (keptAddress d : π → Except Report String × π) :=
  Sends.andThen (page.storedText _) fun _ => .value _

/-- The scenario with a suggested phrase sends what its page sends. -/
lemma sends_autogenerated : Sends P (autogenerated d : π → Except Report ScenarioResult × π) := by
  refine Sends.andThen (page.setPhrase none) fun _ => ?_
  refine Sends.andThen (sends_during _ (sends_keptAddress d page)) fun address => ?_
  refine Sends.andThen page.reload fun _ => ?_
  refine Sends.andThen (sends_during _ (sends_keptAddress d page)) fun again => ?_
  split
  · exact .value _
  · exact .value _

/-- The scenario with an entered phrase sends what its page sends. -/
lemma sends_custom (phrase : String) :
    Sends P (custom d phrase : π → Except Report ScenarioResult × π) := by
  refine Sends.andThen (page.setPhrase (some phrase)) fun _ => ?_
  refine Sends.andThen (page.storedText _) fun stored => ?_
  split
  · exact Sends.andThen (sends_keptAddress d page) fun _ => .value _
  · exact .value _

end Scenario

end SeedVault
