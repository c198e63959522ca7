import SeedVault.Storage.Directory

/-!
# Stores of texts by key

A store reads, writes and removes one text for each key; every operation may fail, and each gives
the store as it is afterwards. The store in memory never fails. The faulty one fails on a schedule
and changes nothing when it does. Any store can be watched, so that the calls it got can be read
off.
-/

namespace SeedVault

/-- Why a store's operation failed. -/
inductive StorageError where
  | io (cause : IoError)
  | invalidKey (key : String)
  | opaqueOrigin
  deriving DecidableEq, Repr

/-- The wording of an error. -/
def StorageError.message : StorageError → String
  | .io _ => "storage io error"
  | .invalidKey key => "invalid storage key `" ++ key ++ "`"
  | .opaqueOrigin => "opaque origins have no persistent storage"

/-- Operations of a store in the state `σ`. -/
class KeyValueStore (σ : Type) where
  /-- The text of a key, if there is one. -/
  get (key : String) (s : σ) : Except StorageError (Option String) × σ
  /-- Replaces the text of a key. -/
  set (key value : String) (s : σ) : Except StorageError Unit × σ
  /-- Removes the text of a key; it need not have one. -/
  remove (key : String) (s : σ) : Except StorageError Unit × σ

/-- A store in memory: the text of each key. -/
structure MemoryStore where
  value? : String → Option String := fun _ => none

namespace MemoryStore

/-- The store with a text, or none, for a key. -/
def update (s : MemoryStore) (key : String) (value? : Option String) : MemoryStore :=
  ⟨fun k => if k = key then value? else s.value? k⟩

/-- Texts in memory are a store none of whose operations fails. -/
instance : KeyValueStore MemoryStore where
  get key s := (.ok (s.value? key), s)
  set key value s := (.ok (), s.update key (some value))
  remove key s := (.ok (), s.update key none)

end MemoryStore

/-- The kinds of operations. -/
inductive StoreOperation where
  | get
  | set
  | remove
  deriving DecidableEq, Repr

/-- A store in memory whose operations fail as scheduled by their number and kind. -/
structure FaultyStore where
  memory : MemoryStore := {}
  fails : Nat → StoreOperation → Bool := fun _ _ => false
  operations : Nat := 0

namespace FaultyStore

/-- Runs an operation, or fails and leaves the memory as it is. -/
def attempt {α : Type} (op : StoreOperation)
    (run : MemoryStore → Except StorageError α × MemoryStore) (s : FaultyStore) :
    Except StorageError α × FaultyStore :=
  let next := { s with operations := s.operations + 1 }
  if s.fails s.operations op then (.error (.io .brokenPipe), next)
  else
    let (result, memory) := run s.memory
    (result, { next with memory })

/-- The operations are those of the memory, unless they fail. -/
instance : KeyValueStore FaultyStore where
  get key := attempt .get (KeyValueStore.get key)
  set key value := attempt .set (KeyValueStore.set key value)
  remove key := attempt .remove (KeyValueStore.remove key)

end FaultyStore

/-- A store with the calls it got, the kind and the key of each, in their order. -/
structure WatchedStore (σ : Type) where
  store : σ
  calls : List (StoreOperation × String) := []

namespace WatchedStore

variable {σ : Type} [KeyValueStore σ]

/-- Passes a call on and notes it. -/
def pass {α : Type} (op : StoreOperation) (key : String) (run : σ → α × σ) (s : WatchedStore σ) :
    α × WatchedStore σ :=
  let (result, store) := run s.store
  (result, { store, calls := s.calls ++ [(op, key)] })

/-- The operations are those of the store, and each is recorded. -/
instance : KeyValueStore (WatchedStore σ) where
  get key := pass .get key (KeyValueStore.get key)
  set key value := pass .set key (KeyValueStore.set key value)
  remove key := pass .remove key (KeyValueStore.remove key)

end WatchedStore

end SeedVault
