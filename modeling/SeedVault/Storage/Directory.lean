import SeedVault.Bytes.Basic
import SeedVault.Text.Split

/-!
# Directories

A directory has permission bits and named entries, each a file with its contents and permission
bits or another directory. Operations on one directory name an entry directly (`lookup`, `put`,
`erase`). In a tree of directories names lead straight from one to the next below (`folder?`,
`modify`); a path may also stay where it is or go up (`trace`, `makeAll`, `update`). Names are at
most 255 bytes long.

Permission bits are kept and never consulted: every operation is permitted, as it is to a user who
has the rights. There are no links, and no operation fails for want of room.
-/

namespace SeedVault

/-- Why an operation on files failed. That it is not permitted is none of the reasons, since nobody
asks for the permission bits. -/
inductive IoError where
  | notFound
  | alreadyExists
  | isADirectory
  | notADirectory
  | invalidFilename
  | invalidData
  | brokenPipe
  deriving DecidableEq, Repr

/-- The wording of an error. -/
def IoError.message : IoError → String
  | .notFound => "No such file or directory (os error 2)"
  | .alreadyExists => "File exists (os error 17)"
  | .isADirectory => "Is a directory (os error 21)"
  | .notADirectory => "Not a directory (os error 20)"
  | .invalidFilename => "File name too long (os error 36)"
  | .invalidData => "stream did not contain valid UTF-8"
  | .brokenPipe => "broken pipe"

/-- A file or a directory. -/
inductive Node where
  | file (mode : Nat) (content : Bytes)
  | folder (mode : Nat) (entries : List (String × Node))

/-- A directory: its permission bits and its entries. -/
structure Directory where
  mode : Nat
  entries : List (String × Node)

/-- Read and write for the owner alone. -/
def ownerFile : Nat := 0o600

/-- All rights for the owner alone. -/
def ownerFolder : Nat := 0o700

/-- The bytes a name may have. -/
def nameLimit : Nat := 255

namespace Directory

/-- A new directory of the owner. -/
def empty : Directory := ⟨ownerFolder, []⟩

/-- The directory as an entry of another. -/
def node (d : Directory) : Node := .folder d.mode d.entries

/-- The entry of a name, if there is one. -/
def get? (d : Directory) (name : String) : Option Node := d.entries.lookup name

/-- The entry of a name. -/
def lookup (d : Directory) (name : String) : Except IoError Node :=
  if name.utf8ByteSize > nameLimit then .error .invalidFilename
  else
    match d.get? name with
    | some n => .ok n
    | none => .error .notFound

/-- The directory without the entry of a name. -/
def erase (d : Directory) (name : String) : Directory :=
  { d with entries := d.entries.filter fun e => e.1 ≠ name }

/-- The directory with an entry for a name in place of any former one. -/
def put (d : Directory) (name : String) (n : Node) : Directory :=
  { d with entries := (name, n) :: (d.erase name).entries }

/-- The contents of a file. -/
def read (d : Directory) (name : String) : Except IoError Bytes :=
  match d.lookup name with
  | .ok (.file _ content) => .ok content
  | .ok (.folder _ _) => .error .isADirectory
  | .error e => .error e

/-- The entries in the order of their names. -/
def sorted (d : Directory) : List (String × Node) :=
  d.entries.mergeSort fun a b => !(b.1 < a.1)

/-- The directory that names lead to, each in the one before. -/
def folder? (d : Directory) (names : List String) : Option Directory :=
  match names with
  | [] => some d
  | name :: rest =>
    match d.get? name with
    | some (.folder mode entries) => folder? ⟨mode, entries⟩ rest
    | _ => none

/-- The directory that names lead to, or an empty one. -/
def folderAt (d : Directory) (names : List String) : Directory := (d.folder? names).getD empty

/-- Changes the directory that names lead to; nothing if they lead to none. -/
def modify (d : Directory) (names : List String) (f : Directory → Directory) : Directory :=
  match names with
  | [] => f d
  | name :: rest =>
    match d.get? name with
    | some (.folder mode entries) => d.put name (modify ⟨mode, entries⟩ rest f).node
    | _ => d

/-- Where a path from the directory at `names` ends: the names that lead there straight, and what
stands there. The topmost directory is its own parent. -/
def trace (d : Directory) (path : List String) (names : List String := []) :
    Except IoError (List String × Node) :=
  match path with
  | [] => .ok (names, (d.folderAt names).node)
  | "." :: rest => d.trace rest names
  | ".." :: rest => d.trace rest names.dropLast
  | name :: rest =>
    match (d.folderAt names).lookup name with
    | .error e => .error e
    | .ok (.folder _ _) => d.trace rest (names ++ [name])
    | .ok (.file mode content) =>
      if rest = [] then .ok (names ++ [name], .file mode content) else .error .notADirectory

/-- What a path names. -/
def find (d : Directory) (path : List String) : Except IoError Node :=
  (d.trace path).map (·.2)

/-- The directory a path names. -/
def findFolder (d : Directory) (path : List String) : Except IoError Directory :=
  match d.find path with
  | .ok (.folder mode entries) => .ok ⟨mode, entries⟩
  | .ok (.file _ _) => .error .notADirectory
  | .error e => .error e

/-- The contents of the file a path names. -/
def readFile (d : Directory) (path : List String) : Except IoError Bytes :=
  match d.find path with
  | .ok (.file _ content) => .ok content
  | .ok (.folder _ _) => .error .isADirectory
  | .error e => .error e

/-- The tree with a new directory of the owner for a name in the directory at `names`. -/
def withFolder (d : Directory) (names : List String) (name : String) : Directory :=
  d.modify names (·.put name empty.node)

/-- Goes along a path from the directory at `names` and makes the directories that are missing, each
for the owner alone; gives the names that lead straight to its end. Those made before a failure
stay. -/
def enter (d : Directory) (path : List String) (names : List String := []) :
    Except IoError (List String) × Directory :=
  match path with
  | [] => (.ok names, d)
  | "." :: rest => d.enter rest names
  | ".." :: rest => d.enter rest names.dropLast
  | name :: rest =>
    match (d.folderAt names).lookup name with
    | .ok (.folder _ _) => d.enter rest (names ++ [name])
    | .ok (.file _ _) => (.error .notADirectory, d)
    | .error .notFound => (d.withFolder names name).enter rest (names ++ [name])
    | .error e => (.error e, d)

/-- Makes the directories along a path that are missing. A file at its end is in the way as one
that exists already, a file before as one that is no directory. -/
def makeAll (d : Directory) (path : List String) : Except IoError Unit × Directory :=
  match d.enter path with
  | (.ok _, d) => (.ok (), d)
  | (.error e, d) =>
    match d.find path with
    | .ok (.file _ _) => (.error .alreadyExists, d)
    | _ => (.error e, d)

/-- Changes the directory a path names; nothing if it names none. -/
def update (d : Directory) (path : List String) (f : Directory → Directory) : Directory :=
  match d.trace path with
  | .ok (names, .folder _ _) => d.modify names f
  | _ => d

/-- Writes a file, making the directories above it; permission bits are those of a plain file. -/
def writeFile (d : Directory) (path : List String) (content : Bytes) : Directory :=
  match path.getLast? with
  | none => d
  | some name =>
    (d.makeAll path.dropLast).2.update path.dropLast (·.put name (.file 0o644 content))

end Directory

/-- The names along a path text, empty ones left out. -/
def pathNames (path : String) : List String :=
  ((Text.splitAtChar '/' path.toList).filter (· ≠ [])).map String.ofList

/-- The names along a path text that starts at the top or, if it is relative, at a directory. -/
def pathFrom (current : List String) (path : String) : List String :=
  if path.startsWith "/" then pathNames path else current ++ pathNames path

/-- The text of a path below another; an absolute one stands for itself. -/
def joinPath (base path : String) : String :=
  if path.startsWith "/" then path
  else if base = "" ∨ base.endsWith "/" then base ++ path
  else base ++ "/" ++ path

end SeedVault
