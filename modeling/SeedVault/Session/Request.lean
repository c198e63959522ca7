import SeedVault.Session.Basic

/-!
# Requests to sessions

What can be asked of the sessions on one store: to accept a phrase, to restore the account of the
phrase that is kept or to work with its keys, to log out, or to make way for a new session. Requests
are served one after the other, whatever became of those before; the log tells what each one gave,
and from it which text is kept.
-/

namespace SeedVault

/-- What can be asked of a session; a deriver is that of the session. -/
inductive SessionRequest where
  | accept (m : Mnemonic)
  | enter (typed : String)
  | restore (d : AccountDeriver)
  | keys (d : AccountDeriver)
  | logout
  | reload

/-- What a request gives. -/
inductive SessionAnswer where
  | accepted (result : Except SessionError Unit)
  | entered (result : Except SessionError Mnemonic)
  | restored (address : Option String)
  | keys (result : Except DeriveError (Option KeyPair))
  | loggedOut (result : Except SessionError Unit)
  | reloaded

namespace Session

variable {σ : Type}

/-- A new session on the same store; it has told nothing yet. -/
def reload : StateM (SessionState σ) Unit := modify fun s => { store := s.store }

variable [KeyValueStore σ]

/-- Serves a request. -/
def serve : SessionRequest → StateM (SessionState σ) SessionAnswer
  | .accept m => do
    return .accepted (← acceptFresh m)
  | .enter typed => do
    return .entered (← enter typed)
  | .restore d => do
    return .restored (← restore d)
  | .keys d => do
    return .keys (← keys d)
  | .logout => do
    return .loggedOut (← logout)
  | .reload => do
    reload
    return .reloaded

/-- Serves requests in their order. -/
def serveAll (qs : List SessionRequest) (s : SessionState σ) :
    List (SessionRequest × SessionAnswer) × SessionState σ :=
  match qs with
  | [] => ([], s)
  | q :: qs =>
    let first := serve q s
    let others := serveAll qs first.2
    ((q, first.1) :: others.1, others.2)

/-- What a served request makes of the kept text: a new text, or none; nothing if it is not about
the text or has failed. -/
def change? : SessionRequest × SessionAnswer → Option (Option String)
  | (.accept m, .accepted (.ok ())) => some (some m.phrase)
  | (.enter typed, .entered (.ok _)) => some (some typed)
  | (.logout, .loggedOut (.ok ())) => some none
  | _ => none

/-- The text that is kept behind some requests: what the last change has made of it, or the text
from before if there was none. -/
def keptText (before : Option String) (log : List (SessionRequest × SessionAnswer)) :
    Option String :=
  (log.filterMap change?).getLast?.getD before

end Session

end SeedVault
