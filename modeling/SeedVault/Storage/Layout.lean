import SeedVault.Storage.FolderStore
import SeedVault.Text.Split
import SeedVault.Url.Origin

/-!
# Where things are kept

Everything is kept below one root: the configuration, the browser extensions, and a directory of
stores with one directory for each origin. The name of an origin's directory is made of the letters,
digits, points and hyphens of the origin's text, with an underscore between the parts that other
characters separate.
-/

namespace SeedVault

/-- The paths below a root. -/
structure Layout where
  root : String
  appConfig : String
  storageDir : String
  extensionsDir : String
  deriving DecidableEq, Repr

namespace Layout

/-- The paths below `root`. -/
def ofRoot (root : String) : Layout :=
  { root
    appConfig := joinPath root "config.toml"
    storageDir := joinPath root "storage"
    extensionsDir := joinPath root "extensions" }

/-- The root, if none is named on the command line: the one that the environment names, or else a
hidden directory of the user. -/
def defaultRoot (fromEnvironment home : Option String) : String :=
  match fromEnvironment, home with
  | some root, _ => root
  | none, some home => joinPath home ".seedkeeper"
  | none, none => ".seedkeeper"

end Layout

namespace Origin

/-- May the character stand in the name of a directory as it is? -/
def isNameChar (c : Char) : Bool := c.isAlphanum || c == '.' || c == '-'

/-- The name of the directory of an origin with a text. -/
def nameOf (text : List Char) : List Char :=
  Text.joinWith ['_'] ((Text.splitBy (!isNameChar ·) text).filter (· ≠ []))

/-- The name of the directory of an origin. -/
def directoryName (o : Origin) : String := String.ofList (nameOf o.text.toList)

end Origin

namespace FolderStore

/-- The name of the directory for an address. -/
def originName (u : Url) : Except StorageError String :=
  match u.origin? with
  | some o => .ok o.directoryName
  | none => .error .opaqueOrigin

/-- The store of an address's origin below a directory of a tree. -/
def openOrigin (tree : Directory) (storage : List String) (u : Url) :
    Except StorageError FolderStore × Directory :=
  match originName u with
  | .ok name => openAt tree (storage ++ [name])
  | .error e => (.error e, tree)

/-- The text of a key in the store of an address's origin. -/
def getIn (tree : Directory) (storage : List String) (u : Url) (key : String) :
    Except StorageError (Option String) :=
  match originName u with
  | .ok name => getAt tree (storage ++ [name]) key
  | .error e => .error e

/-- Replaces the text of a key in the store of an address's origin. -/
def setIn (tree : Directory) (storage : List String) (u : Url) (key value : String) :
    Except StorageError Unit × Directory :=
  match originName u with
  | .ok name => setAt tree (storage ++ [name]) key value
  | .error e => (.error e, tree)

end FolderStore

end SeedVault
