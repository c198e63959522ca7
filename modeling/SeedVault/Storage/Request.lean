import SeedVault.Storage.FolderStore

/-!
# Requests to a store

What can be asked of a store: to read, replace or remove the text of a key, or to be opened once
more. Requests are served one after the other. A store in memory cannot be closed, so opening it
changes nothing; a store in a directory is opened again at its path of the tree.
-/

namespace SeedVault

/-- What can be asked of a store. -/
inductive StoreRequest where
  | get (key : String)
  | set (key value : String)
  | remove (key : String)
  | reopen

/-- The key that a request is about, if it is about one. -/
def StoreRequest.key? : StoreRequest → Option String
  | get key => some key
  | set key _ => some key
  | remove key => some key
  | reopen => none

/-- What a request gives. -/
inductive StoreAnswer where
  | text (result : Except StorageError (Option String))
  | done (result : Except StorageError Unit)

/-- Stores that can be opened again. -/
class ReopenableStore (σ : Type) extends KeyValueStore σ where
  /-- Opens the store again on what it keeps. -/
  reopen (s : σ) : Except StorageError Unit × σ

namespace ReopenableStore

variable {σ : Type} [ReopenableStore σ]

/-- Serves a request. -/
def serve (q : StoreRequest) (s : σ) : StoreAnswer × σ :=
  match q with
  | .get key => let (result, s) := KeyValueStore.get key s; (.text result, s)
  | .set key value => let (result, s) := KeyValueStore.set key value s; (.done result, s)
  | .remove key => let (result, s) := KeyValueStore.remove key s; (.done result, s)
  | .reopen => let (result, s) := reopen s; (.done result, s)

/-- Serves requests in their order. -/
def serveAll (qs : List StoreRequest) (s : σ) : List StoreAnswer × σ :=
  match qs with
  | [] => ([], s)
  | q :: qs =>
    let first := serve q s
    let others := serveAll qs first.2
    (first.1 :: others.1, others.2)

end ReopenableStore

/-- What is in memory is still there when the store is opened again. -/
instance : ReopenableStore MemoryStore where
  reopen s := (.ok (), s)

/-- A store that was opened at a path of a tree. The tree is as it was then; what the store does is
put there before it is opened again. -/
structure PlacedStore where
  tree : Directory
  path : List String
  store : FolderStore

namespace PlacedStore

/-- Opens a store at a path of a tree. -/
def openAt (tree : Directory) (path : List String) : Except StorageError PlacedStore :=
  match FolderStore.openAt tree path with
  | (.ok store, tree) => .ok { tree, path, store }
  | (.error e, _) => .error e

/-- Runs an operation of the store. -/
def onStore {α : Type} (op : FolderStore → α × FolderStore) (p : PlacedStore) : α × PlacedStore :=
  let (a, store) := op p.store
  (a, { p with store })

/-- Opens the store again at its path. -/
def reopen (p : PlacedStore) : Except StorageError Unit × PlacedStore :=
  match FolderStore.openAt (p.store.saveAt p.tree p.path) p.path with
  | (.ok store, tree) => (.ok (), { p with tree, store })
  | (.error e, tree) => (.error e, { p with tree })

/-- The store is opened at its path again, in a tree that has what it did. -/
instance : ReopenableStore PlacedStore where
  get key := onStore (KeyValueStore.get key)
  set key value := onStore (KeyValueStore.set key value)
  remove key := onStore (KeyValueStore.remove key)
  reopen := reopen

end PlacedStore

end SeedVault
