import SeedVault.Report.Basic

/-!
# Pages of an application that keeps a seed phrase

What is done on an application's page: a phrase is set, a stored value is read, the page is loaded
again. Each may fail, and each may change the page. Any page can be recorded, so that the calls it
got can be read off.
-/

namespace SeedVault

/-- Something to do on a page in the state `π`, which gives an `α` or fails. -/
abbrev PageTask (π α : Type) : Type := ExceptT Report (StateM π) α

/-- Operations of a page in the state `π`. -/
class SeedPage (π : Type) where
  /-- Accepts the phrase that the page suggests, or enters one instead. -/
  setPhrase (phrase : Option String) : PageTask π Unit
  /-- The value of a key in the application's storage. -/
  storedText (key : String) : PageTask π (Option String)
  /-- Loads the page again. -/
  reload : PageTask π Unit

/-- A call of one of the operations. -/
inductive PageCall where
  | setPhrase (phrase : Option String)
  | storedText (key : String)
  | reload
  deriving DecidableEq, Repr

/-- A page with the calls it got, in their order. -/
structure RecordedPage (π : Type) where
  page : π
  calls : List PageCall := []

namespace RecordedPage

variable {π : Type} [SeedPage π]

/-- Records a call and passes it on. -/
def pass {α : Type} (call : PageCall) (task : PageTask π α) : PageTask (RecordedPage π) α :=
  fun r =>
    let (a, page) := task r.page
    (a, { page, calls := r.calls ++ [call] })

/-- The calls to the page are passed on and recorded. -/
instance : SeedPage (RecordedPage π) where
  setPhrase phrase := pass (.setPhrase phrase) (SeedPage.setPhrase phrase)
  storedText key := pass (.storedText key) (SeedPage.storedText key)
  reload := pass .reload SeedPage.reload

end RecordedPage

end SeedVault
