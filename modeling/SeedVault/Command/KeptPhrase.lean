import SeedVault.Command.Machine
import SeedVault.Session.Basic

/-!
# Work on the phrase that is kept

The phrase is kept in the store of the application's origin, below the root.
-/

namespace SeedVault

/-- The session of the configured application, and where its store is. -/
structure KeptSession where
  deriver : AccountDeriver
  path : List String
  store : FolderStore

namespace Job

/-- Opens the store of the application's origin. -/
def openKept (l : Layout) : Job KeptSession := do
  let config ← configuration l
  let deriver ← deriver l config
  let note := "failed to open origin storage"
  let name ← ofExcept (noting note Report.ofStorage (FolderStore.originName config.appUrl))
  let m ← get
  let path := pathFrom m.current (joinPath l.storageDir name)
  let (store, files) := FolderStore.openAt m.files path
  set { m with files }
  let store ← ofExcept (noting note Report.ofStorage store)
  return { deriver, path, store }

/-- Runs an operation of a session and keeps what became of its store. -/
def inSession {α : Type} (s : KeptSession) (act : StateM (SessionState FolderStore) α) :
    StateM Machine (α × KeptSession) := do
  let (a, after) := act { store := s.store }
  modify fun m => { m with files := after.store.saveAt m.files s.path }
  return (a, { s with store := after.store })

/-- Writes the account of the kept phrase. -/
def writeAccount (s : KeptSession) : Job Unit := do
  match ← inSession s (Session.restore s.deriver) with
  | (some address, s) =>
    printJson (.ofFields
      [("active", .bool true), ("address", .string address),
       ("chain_id", .string s.deriver.chain), ("path", .string s.deriver.path.text)])
  | (none, _) => throw [.note "no active seed phrase, run \x60session set\x60 first"]

/-- Keeps a phrase, or a fresh one. -/
def keep (l : Layout) (phrase : Option String) : Job Unit := do
  let s ← openKept l
  let (result, s) ←
    match phrase with
    | some typed => do
      let (result, s) ← inSession s (Session.enter typed)
      pure (result.map fun _ => (), s)
    | none => do
      let m ← drawPhrase default
      inSession s (Session.acceptFresh m)
  ofExcept (result.mapError Report.ofSession)
  writeAccount s

/-- Writes the account of the phrase that is kept. -/
def showKept (l : Layout) : Job Unit := do
  writeAccount (← openKept l)

/-- Forgets the phrase that is kept. -/
def forget (l : Layout) : Job Unit := do
  let s ← openKept l
  let (result, _) ← inSession s Session.logout
  ofExcept (result.mapError Report.ofSession)
  printJson (.ofFields [("active", .bool false)])

end Job

end SeedVault
