import SeedVault.Key.Deriver
import SeedVault.Storage.Secret

/-!
# Sessions

A session accepts a phrase, restores the account of the phrase that is kept, and logs out. It tells
the user interface what to show: that it is loading, and which page to go to. Nothing is kept and
no page is left unless the phrase is sound and the store has taken it.
-/

namespace SeedVault

/-- The pages of the application. -/
inductive Route where
  | setSeed
  | dashboard
  deriving DecidableEq, Repr

/-- The name of a page. -/
def Route.name : Route → String
  | .setSeed => "set-seed"
  | .dashboard => "dashboard"

/-- The path of a page. -/
def Route.path (r : Route) : String := "/" ++ r.name

/-- What a session tells the user interface. -/
inductive SessionEvent where
  | loading (on : Bool)
  | navigate (route : Route)
  deriving DecidableEq, Repr

/-- Why a session's operation failed. -/
inductive SessionError where
  | phrase (cause : PhraseError)
  | storage (cause : StorageError)
  deriving DecidableEq, Repr

/-- The state a session works on: its store and what it has told the user interface so far. -/
structure SessionState (σ : Type) where
  store : σ
  events : List SessionEvent := []

namespace Session

variable {σ : Type} [KeyValueStore σ]

/-- Tells the user interface something. -/
def tell (e : SessionEvent) : StateM (SessionState σ) Unit :=
  modify fun s => { s with events := s.events ++ [e] }

/-- Runs an operation of the store. -/
def onStore {α : Type} (op : σ → α × σ) : StateM (SessionState σ) α :=
  modifyGet fun s =>
    let (a, store) := op s.store
    (a, { s with store })

/-- Keeps the text of a sound phrase and goes to the dashboard. -/
def accept (entered : String) : StateM (SessionState σ) (Except SessionError Unit) := do
  tell (.loading true)
  match ← onStore (Secret.keepText entered) with
  | .error e =>
    tell (.loading false)
    return .error (.storage e)
  | .ok () =>
    tell (.navigate .dashboard)
    return .ok ()

/-- Accepts a phrase in its normal spelling. -/
def acceptFresh (m : Mnemonic) : StateM (SessionState σ) (Except SessionError Unit) :=
  accept m.phrase

/-- Accepts a typed phrase and keeps it as typed. -/
def enter (typed : String) : StateM (SessionState σ) (Except SessionError Mnemonic) :=
  match Mnemonic.parse typed with
  | .error e => return .error (.phrase e)
  | .ok m => do
    match ← accept typed with
    | .error e => return .error e
    | .ok () => return .ok m

/-- The kept phrase. -/
def load : StateM (SessionState σ) (Option Mnemonic) := onStore Secret.load

/-- The keys of the kept phrase, or why they cannot be derived. -/
def keys (d : AccountDeriver) : StateM (SessionState σ) (Except DeriveError (Option KeyPair)) := do
  match ← load with
  | none => return .ok none
  | some m => return (d.derive m).map some

/-- The address of the kept phrase. -/
def restore (d : AccountDeriver) : StateM (SessionState σ) (Option String) := do
  match ← keys d with
  | .ok (some k) => return some k.address
  | _ => return none

/-- Forgets the kept phrase and goes to the page that asks for one. -/
def logout : StateM (SessionState σ) (Except SessionError Unit) := do
  match ← onStore Secret.clear with
  | .error e => return .error (.storage e)
  | .ok () =>
    tell (.navigate .setSeed)
    return .ok ()

end Session

end SeedVault
