import SeedVault.Storage.Store

/-!
# A store in a directory

Each key has a file of its name. A text is written to a temporary file beside it, which then takes
the place of the key's file, so that a reader finds the old text or the new one and nothing in
between. Keys are names of ASCII letters, digits, `-`, `_` and `.` that do not start with a dot;
temporary files do start with one.
-/

namespace SeedVault

/-- May a text be a key? -/
def isKey (key : String) : Bool :=
  match key.toList with
  | [] => false
  | c :: cs =>
    c ≠ '.' && (c :: cs).all fun c => c.isAlphanum || c == '-' || c == '_' || c == '.'

/-- The name of the temporary file of a key. -/
def temporaryName (key : String) : String := "." ++ key ++ ".temp"

/-- One action on the entries of a directory. -/
inductive FileAction where
  /-- Opens a file for writing: a new one for the owner alone, or an old one emptied. -/
  | create (name : String)
  /-- Writes at the end of a file. -/
  | append (name : String) (bytes : Bytes)
  /-- Waits until what was written to a file is kept. -/
  | sync (name : String)
  /-- Gives a file another name, in place of the file that had it. -/
  | rename (old new : String)
  /-- Removes a file. -/
  | unlink (name : String)

namespace FileAction

/-- The directory after an action, or why the action failed. A new file gets the owner's permission
bits, and no bits are consulted. -/
def run (a : FileAction) (d : Directory) : Except IoError Directory :=
  match a with
  | create name =>
    match d.lookup name with
    | .ok (.file mode _) => .ok (d.put name (.file mode []))
    | .ok (.folder _ _) => .error .isADirectory
    | .error .notFound => .ok (d.put name (.file ownerFile []))
    | .error e => .error e
  | append name bytes =>
    match d.lookup name with
    | .ok (.file mode content) => .ok (d.put name (.file mode (content ++ bytes)))
    | .ok (.folder _ _) => .error .isADirectory
    | .error e => .error e
  | sync _ => .ok d
  | rename old new =>
    match d.lookup old, d.lookup new with
    | .error e, _ => .error e
    | .ok _, .ok (.folder _ _) => .error .isADirectory
    | .ok _, .error .invalidFilename => .error .invalidFilename
    | .ok n, _ => .ok ((d.erase old).put new n)
  | unlink name =>
    match d.lookup name with
    | .ok (.file _ _) => .ok (d.erase name)
    | .ok (.folder _ _) => .error .isADirectory
    | .error e => .error e

/-- Runs actions up to the first that fails. -/
def runAll (actions : List FileAction) (d : Directory) : Except IoError Unit × Directory :=
  match actions with
  | [] => (.ok (), d)
  | a :: rest =>
    match a.run d with
    | .ok d => runAll rest d
    | .error e => (.error e, d)

end FileAction

/-- A store in a directory: the directory, or why there is none at its path. -/
structure FolderStore where
  place : Except IoError Directory

namespace FolderStore

/-- The actions that write a text, given in chunks, for a key. -/
def writing (key : String) (chunks : List Bytes) : List FileAction :=
  .create (temporaryName key) ::
    (chunks.map (.append (temporaryName key)) ++
      [.sync (temporaryName key), .rename (temporaryName key) key])

/-- Runs actions in the store's directory. -/
def runAll (actions : List FileAction) (s : FolderStore) : Except IoError Unit × FolderStore :=
  match s.place with
  | .error e => (.error e, s)
  | .ok d =>
    let (result, d) := FileAction.runAll actions d
    (result, ⟨.ok d⟩)

/-- The text in the file of a key. -/
def read (s : FolderStore) (key : String) : Except IoError String := do
  let content ← (← s.place).read key
  match Bytes.toString? content with
  | some text => .ok text
  | none => .error .invalidData

/-- The text of a key; a missing file has none. -/
def get (key : String) (s : FolderStore) : Except StorageError (Option String) :=
  if isKey key then
    match s.read key with
    | .ok text => .ok (some text)
    | .error .notFound => .ok none
    | .error e => .error (.io e)
  else .error (.invalidKey key)

/-- Replaces the text of a key. -/
def set (key value : String) (s : FolderStore) : Except StorageError Unit × FolderStore :=
  if isKey key then
    match s.runAll (writing key [Bytes.ofString value]) with
    | (.ok (), s) => (.ok (), s)
    | (.error e, s) => (.error (.io e), s)
  else (.error (.invalidKey key), s)

/-- Removes the file of a key; a missing one is no error. -/
def remove (key : String) (s : FolderStore) : Except StorageError Unit × FolderStore :=
  if isKey key then
    match s.runAll [.unlink key] with
    | (.ok (), s) => (.ok (), s)
    | (.error .notFound, s) => (.ok (), s)
    | (.error e, s) => (.error (.io e), s)
  else (.error (.invalidKey key), s)

/-- The store in a directory is a store. -/
instance : KeyValueStore FolderStore where
  get key s := (get key s, s)
  set := set
  remove := remove

/-- The store at a path of a tree; the directories along the path are made unless something stands
at its end. -/
def openAt (tree : Directory) (path : List String) :
    Except StorageError FolderStore × Directory :=
  match tree.find path with
  | .ok _ => (.ok ⟨tree.findFolder path⟩, tree)
  | .error _ =>
    match tree.makeAll path with
    | (.ok (), tree) => (.ok ⟨tree.findFolder path⟩, tree)
    | (.error e, tree) => (.error (.io e), tree)

/-- Puts the store's directory back at its path in a tree. -/
def saveAt (s : FolderStore) (tree : Directory) (path : List String) : Directory :=
  match s.place with
  | .ok d => tree.update path fun _ => d
  | .error _ => tree

/-- The text of a key in the store at a path of a tree. -/
def getAt (tree : Directory) (path : List String) (key : String) :
    Except StorageError (Option String) :=
  match openAt tree path with
  | (.ok s, _) => get key s
  | (.error e, _) => .error e

/-- Replaces the text of a key in the store at a path of a tree. -/
def setAt (tree : Directory) (path : List String) (key value : String) :
    Except StorageError Unit × Directory :=
  match openAt tree path with
  | (.ok s, tree) =>
    let (result, s) := set key value s
    (result, s.saveAt tree path)
  | (.error e, tree) => (.error e, tree)

end FolderStore

end SeedVault
