import SeedVault.Browser.Error
import SeedVault.Browser.Task
import SeedVault.Bytes.Base64
import SeedVault.Config.Basic
import SeedVault.Session.Basic
import SeedVault.Text.Span
import SeedVault.Wallet.State

/-!
# Reports of failures

A report is what failed and what brought that about, outermost first. Each cause is an error of one
of the library's parts, or a note on what was being done.
-/

namespace SeedVault

/-- Why a step of the wallet failed, if it is not the extension's driver that failed. -/
inductive StepFault where
  | rejectedPassword
  | addressMismatch (expected actual : String)
  /-- The step took longer than this many milliseconds. -/
  | timeout (limit : Nat)
  | invalidTransition
  | derivation
  /-- The driver failed; its own report follows. -/
  | driver
  deriving DecidableEq, Repr

/-- The wording of a fault; a failure of the driver has none of its own. -/
def StepFault.message? : StepFault → Option String
  | rejectedPassword => some "extension rejected the unlock password"
  | addressMismatch expected actual =>
    some ("address mismatch: expected " ++ expected ++ ", got " ++ actual)
  | timeout limit => some ("timed out after " ++ Text.spanText limit)
  | invalidTransition => some "transition is not allowed in the current state"
  | derivation => some "failed to derive the expected address"
  | driver => none

/-- One cause of a failure. -/
inductive Cause where
  | note (text : String)
  | phrase (e : PhraseError)
  | entropy (e : EntropyLengthError)
  | path (e : InvalidPath)
  | derivation (e : DeriveError)
  | address (e : AddressError)
  | storage (e : StorageError)
  | io (e : IoError)
  | url (e : UrlError)
  | number (e : Text.Decimal.Fault)
  | base64 (e : Base64.Fault)
  | config (e : Toml.Misfit) (document : String)
  | manifest (e : Json.Misfit) (document : String)
  | web (e : WebError)
  | reply (e : Json.Misfit) (text : String)
  /-- What kept a request from being answered. -/
  | transmission (text : String)
  | step (step : WalletStep) (lastState : WalletState) (fault : StepFault)
  /-- The fault of the step named before. -/
  | stepFault (fault : StepFault)
  deriving DecidableEq, Repr

/-- The wording of a cause. -/
def Cause.message : Cause → String
  | note text => text
  | phrase e => e.message
  | entropy e => e.message
  | path e => e.message
  | derivation e => e.message
  | address e => e.message
  | storage e => e.message
  | io e => e.message
  | url e => e.message
  | number e => e.message
  | base64 e => e.message
  | config e document => e.message document
  | manifest e document => e.message document.toList
  | web e => e.message
  | reply e text => e.message text.toList
  | transmission text => text
  | step s lastState _ =>
    s.text ++ " failed, last successful state is \x60" ++ lastState.text ++ "\x60"
  | stepFault fault => fault.message?.getD ""

/-- A failure with its causes, outermost first. -/
abbrev Report := List Cause

namespace Report

/-- The report of a failing derivation. -/
def ofDerive : DeriveError → Report
  | .invalidAddress e => [.derivation (.invalidAddress e), .address e]
  | e => [.derivation e]

/-- The report of a failing store. -/
def ofStorage : StorageError → Report
  | .io e => [.storage (.io e), .io e]
  | e => [.storage e]

/-- The report of a failing session. -/
def ofSession : SessionError → Report
  | .phrase e => [.phrase e]
  | .storage e => .note "failed to store the seed phrase" :: ofStorage e

/-- The report of a failing command to the browser. -/
def ofWeb : WebError → Report
  | .malformed e text => [.web (.malformed e text), .reply e text]
  | .request fault => .web (.request fault) :: fault.texts.map .transmission
  | e => [.web e]

/-- The report of a failing configuration. -/
def ofConfig : ConfigError → Report
  | .unreadable e => [.note "failed to read app config", .io e]
  | .malformed e document => [.note "failed to parse app config", .config e document]

/-- The report with a note on what was being done. -/
def during (note : String) (r : Report) : Report := .note note :: r

/-- A cause on lines of its own, with its number if there are several. -/
def causeLines (number? : Option Nat) (cause : String) : String :=
  match number? with
  | none => "\n    " ++ "\n    ".intercalate (cause.splitOn "\n")
  | some n =>
    let number := Text.Decimal.text n
    "\n" ++ "".pushn ' ' (5 - number.length) ++ number ++ ": "
      ++ "\n       ".intercalate (cause.splitOn "\n")

/-- The report as it is shown: the failure, and what caused it. -/
def text (r : Report) : String :=
  match r.map Cause.message with
  | [] => ""
  | [failure] => failure
  | [failure, cause] => failure ++ "\n\nCaused by:" ++ causeLines none cause
  | failure :: causes =>
    failure ++ "\n\nCaused by:"
      ++ String.join (causes.zipIdx.map fun (cause, n) => causeLines (some n) cause)

end Report

/-- A task of the browser, with its error as a report. -/
def WebTask.reporting {α : Type} (t : WebTask WebError α) : WebTask Report α := t.mapError .ofWeb

/-- A result, with a note on what was being done if it is a failure. -/
def noting {ε α : Type} (note : String) (report : ε → Report) (x : Except ε α) :
    Except Report α :=
  x.mapError fun e => (report e).during note

end SeedVault
