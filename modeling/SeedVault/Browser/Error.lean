import SeedVault.Json.Shape
import SeedVault.Url.Host

/-!
# Errors of a browser's remote control
-/

namespace SeedVault

/-- Why no answer came to a request. -/
inductive TransmissionFault where
  | malformed (cause : UrlError)
  /-- The address is not one that can be asked. -/
  | scheme (address : String)
  | refused (address : String)
  /-- The connection ended too early. -/
  | lost (address : String)
  deriving DecidableEq, Repr

namespace TransmissionFault

/-- Causes, outermost first, each followed in its text by those behind it. -/
def nested (causes : List String) : List String :=
  causes.foldr (fun cause behind => ": ".intercalate (cause :: behind.take 1) :: behind) []

/-- What failed at an address. -/
def located (what address : String) : String := what ++ " for url (" ++ address ++ ")"

/-- The wording of a fault and of its causes, outermost first. -/
def texts : TransmissionFault → List String
  | malformed cause => nested ["builder error", cause.message]
  | scheme address =>
    nested [located "builder error" address, "URL scheme is not allowed"]
  | refused address =>
    nested [located "error sending request" address, "error trying to connect",
      "tcp connect error", "Connection refused (os error 111)"]
  | lost address =>
    nested [located "error sending request" address, "connection closed before message completed"]

end TransmissionFault

/-- Why a command to the browser failed. -/
inductive WebError where
  /-- No answer came. -/
  | request (fault : TransmissionFault)
  /-- The answer is no success and says no more. -/
  | status (code : Nat)
  /-- The browser names the error. -/
  | command (error message : String)
  /-- The answer is well-formed but not what was asked for. -/
  | invalidResponse
  | malformed (cause : Json.Misfit) (text : String)
  /-- What was waited for did not come. -/
  | timeout (what : String)
  deriving DecidableEq, Repr

namespace WebError

/-- The wording of an error. -/
def message : WebError → String
  | request _ => "webdriver request failed"
  | status code => "webdriver returned status " ++ Text.Decimal.text code
  | command error message => error ++ ": " ++ message
  | invalidResponse => "invalid webdriver response"
  | malformed _ _ => "failed to parse webdriver response"
  | timeout what => "timed out waiting for " ++ what

/-- Does the error say that there is no such element? -/
def isNoSuchElement : WebError → Bool
  | command error _ => error == "no such element"
  | _ => false

end WebError

end SeedVault
