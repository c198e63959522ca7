import SeedVault.Browser.Error
import SeedVault.Browser.Task

/-!
# Remote control of a browser

A browser is started and told what to do by HTTP requests with JSON bodies. A successful answer is
an object whose field `value` holds what was asked for; in any other answer it holds an error with
a code and a message. Elements that do not exist yet are asked for again and again, up to a limit.
-/

namespace SeedVault

/-- How an element of a page is found. -/
inductive Locator where
  | css (selector : String)
  | xpath (path : String)
  deriving DecidableEq, Repr

namespace Locator

/-- A selector that starts with a slash or a parenthesis is a path, any other one is a CSS
selector. -/
def ofSelector (selector : String) : Locator :=
  match selector.toList with
  | '/' :: _ => .xpath selector
  | '(' :: _ => .xpath selector
  | _ => .css selector

/-- The locator in the body of a request. -/
def json : Locator → Json
  | css selector => .ofFields [("using", .string "css selector"), ("value", .string selector)]
  | xpath path => .ofFields [("using", .string "xpath"), ("value", .string path)]

/-- The locator in an error. -/
def text : Locator → String
  | css selector => "Css(" ++ Text.quoted selector ++ ")"
  | xpath path => "XPath(" ++ Text.quoted path ++ ")"

end Locator

/-- An element that the browser has found. -/
structure Element where
  id : String
  deriving DecidableEq, Repr

namespace Element

/-- The field that holds an element's id. -/
def key : String := "element-6066-11e4-a52e-4f735466cecf"

/-- The element as a value in a request or an answer. -/
def json (e : Element) : Json := .ofFields [(key, .string e.id)]

/-- The element that a value in an answer stands for. -/
def ofJson? (v : Json) : Option Element := ((v.field? key).bind Json.string?).map (⟨·⟩)

end Element

/-- A browser under remote control. -/
structure Browser where
  /-- The address under which its commands are sent. -/
  address : String
  deriving DecidableEq, Repr

namespace Browser

/-- What is wanted of a successful answer. -/
def valueShape (s : Json.Shape) : Json.Shape := .record "Response" [("value", s, true)]

/-- What is wanted of an error. -/
def errorShape : Json.Shape :=
  .record "ErrorValue" [("error", .text, true), ("message", .text, false)]

/-- The text in a field of a value, if there is one. -/
def textField? (v : Json) (name : String) : Option String := (v.field? name).bind Json.string?

/-- The error in an answer that is no success. -/
def errorIn (status : Nat) (body : String) : WebError :=
  match (valueShape errorShape).parse body.toList with
  | .error _ => .status status
  | .ok v =>
    let e := (v.field? "value").getD .null
    .command ((textField? e "error").getD "") ((textField? e "message").getD "")

/-- Answers with these codes have no body. -/
def bodyless (status : Nat) : Bool := status = 204 || status = 304

/-- What an answer says. -/
def readAnswer (s : Json.Shape) (status : Nat) (body : String) : Except WebError Json :=
  let body := if bodyless status then "" else body
  if 200 ≤ status ∧ status < 300 then
    match (valueShape s).parse body.toList with
    | .ok v => .ok ((v.field? "value").getD .null)
    | .error e => .error (.malformed e body)
  else .error (errorIn status body)

/-- The path of an address, with its query. -/
def pathAndQuery (u : Url) : String :=
  u.path.text ++ ((u.query.map ("?" ++ ·)).getD "")

/-- The address that a request goes to. Only the web's schemes can be asked. -/
def target (address : String) : Except TransmissionFault Url :=
  match Url.parse address with
  | .error e => .error (.malformed e)
  | .ok u => if u.scheme = "http" ∨ u.scheme = "https" then .ok u else .error (.scheme u.text)

/-- The text of an address without a user's name and password. -/
def anonymous (u : Url) : String :=
  let authority := u.authority.map fun a => { a with username := "", password := "" }
  Url.text { u with authority }

/-- Sends a request and reads the value in the answer. -/
def exchange (s : Json.Shape) (method : HttpMethod) (address : String) (body : Option Json) :
    WebTask WebError Json :=
  match target address with
  | .error fault => .fail (.request fault)
  | .ok u => do
    if ← .listens u then
      match ← .request ⟨method, pathAndQuery u, body⟩ with
      | .lost => .fail (.request (.lost (anonymous u)))
      | .answer status text => .ofExcept (readAnswer s status text)
    else .fail (.request (.refused (anonymous u)))

/-- The address of a server without the slashes at its end. -/
def serverAddress (server : Url) : String :=
  String.ofList (server.text.toList.reverse.dropWhile (· = '/')).reverse

/-- Starts a browser with given capabilities. -/
def start (server : Url) (capabilities : Json) : WebTask WebError Browser := do
  let base := serverAddress server
  let wanted := Json.ofFields [("alwaysMatch", capabilities)]
  let v ← exchange (.record "NewSession" [("sessionId", .text, true)]) .post (base ++ "/session")
    (some (.ofFields [("capabilities", wanted)]))
  return ⟨base ++ "/session/" ++ (textField? v "sessionId").getD ""⟩

/-- Asks the browser for a value. -/
def query (b : Browser) (s : Json.Shape) (method : HttpMethod) (path : String)
    (body : Option Json) : WebTask WebError Json :=
  exchange s method (b.address ++ "/" ++ path) body

/-- Gives the browser an order; what it answers does not matter. -/
def command (b : Browser) (path : String) (body : Json) : WebTask WebError Unit := do
  let _ ← b.query .any .post path (some body)

/-- Asks the browser for a text. -/
def queryText (b : Browser) (path : String) : WebTask WebError String := do
  return (← b.query .text .get path none).string?.getD ""

/-- Opens a page. -/
def goto (b : Browser) (url : String) : WebTask WebError Unit :=
  b.command "url" (.ofFields [("url", .string url)])

/-- The address of the page that is open. -/
def currentUrl (b : Browser) : WebTask WebError String := b.queryText "url"

/-- Loads the page again. -/
def refresh (b : Browser) : WebTask WebError Unit := b.command "refresh" (.ofFields [])

/-- An element that an answer has to stand for. -/
def elementIn (v : Json) : Except WebError Element :=
  match Element.ofJson? v with
  | some e => .ok e
  | none => .error .invalidResponse

/-- The first element at a locator. -/
def find (b : Browser) (l : Locator) : WebTask WebError Element := do
  .ofExcept (elementIn (← b.query .any .post "element" (some l.json)))

/-- All elements at a locator. -/
def findAll (b : Browser) (l : Locator) : WebTask WebError (List Element) := do
  let found ← b.query (.list .any) .post "elements" (some l.json)
  .ofExcept ((found.items?.getD []).mapM elementIn)

/-- The first element at a locator, or nothing if there is none yet. -/
def find? (b : Browser) (l : Locator) : WebTask WebError (Option Element) := do
  match ← (b.find l).attempt with
  | .ok e => return some e
  | .error e => if e.isNoSuchElement then return none else .fail e

/-- What a task gives within a limit, named for the error if it gives nothing. -/
def awaiting {α : Type} (what : String) (limit : Nat) (t : WebTask WebError (Option α)) :
    WebTask WebError α := do
  match ← t.poll limit with
  | some a => return a
  | none => .fail (.timeout what)

/-- Waits for an element. -/
def await (b : Browser) (l : Locator) (limit : Nat) : WebTask WebError Element :=
  awaiting l.text limit (b.find? l)

/-- Clicks on an element. -/
def click (b : Browser) (e : Element) : WebTask WebError Unit :=
  b.command ("element/" ++ e.id ++ "/click") (.ofFields [])

/-- Types a text into an element. -/
def sendKeys (b : Browser) (e : Element) (text : String) : WebTask WebError Unit :=
  b.command ("element/" ++ e.id ++ "/value") (.ofFields [("text", .string text)])

/-- The text that an element shows. -/
def text (b : Browser) (e : Element) : WebTask WebError String :=
  b.queryText ("element/" ++ e.id ++ "/text")

/-- A script with its arguments, in the body of a request. -/
def scriptJson (script : String) (args : List Json) : Json :=
  .ofFields [("script", .string script), ("args", .array args)]

/-- What a script returns. -/
def execute (b : Browser) (script : String) (args : List Json) : WebTask WebError Json :=
  b.query .any .post "execute/sync" (some (scriptJson script args))

/-- What a script hands to the function that it gets as its last argument. -/
def executeAsync (b : Browser) (script : String) (args : List Json) : WebTask WebError Json :=
  b.query .any .post "execute/async" (some (scriptJson script args))

/-- The window that is in front. -/
def windowHandle (b : Browser) : WebTask WebError String := b.queryText "window"

/-- All windows. -/
def windowHandles (b : Browser) : WebTask WebError (List String) := do
  let v ← b.query (.list .text) .get "window/handles" none
  return (v.items?.getD []).filterMap Json.string?

/-- Brings a window to the front. -/
def switchTo (b : Browser) (handle : String) : WebTask WebError Unit :=
  b.command "window" (.ofFields [("handle", .string handle)])

/-- Waits for a window that is none of those known. -/
def awaitNewWindow (b : Browser) (known : List String) (limit : Nat) :
    WebTask WebError String :=
  awaiting "new window" limit do
    return (← b.windowHandles).find? (!known.contains ·)

/-- Ends the browser. -/
def quit (b : Browser) : WebTask WebError Unit := do
  let _ ← exchange .any .delete b.address none

end Browser

end SeedVault
